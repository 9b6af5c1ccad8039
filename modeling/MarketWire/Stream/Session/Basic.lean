import MarketWire.Auth.Signer
import MarketWire.Stream.Config
import MarketWire.Stream.Link
import MarketWire.Stream.Registry

/-!
# Sessions

A session is one connection from its start to its end, with everybody who takes part in it: the loop
that drives the link, and the owner who subscribes, takes messages, and closes. The loop's place is
part of the session, so the owner's acts may fall between any two of its steps. What the owner asks
of the loop waits in a queue.
-/
namespace MarketWire

/-- What the owner asks of the loop. -/
inductive Command where
  /-- There are new subscriptions. -/
  | flush
  | unsubscribe (chanId : Int64)
  | close
deriving DecidableEq

/-- What the loop sends; a subscription is named by its number. -/
inductive Outbound where
  | auth (r : AuthRequest)
  | subscribe (id : Nat) (r : SubscribeRequest)
  | unsubscribe (chanId : Int64)
deriving DecidableEq

def Outbound.wire : Outbound → String
  | .auth r => r.wire
  | .subscribe _ r => r.wire
  | .unsubscribe chanId => unsubscribeWire chanId

/-- What the loop is about: to open the session, or to serve subscriptions that came later. -/
inductive Purpose where
  | opening
  | later
deriving DecidableEq

/-- An instant at which patience ends, and the span that led to it. -/
structure Deadline where
  limit : Span
  instant : Nat
deriving DecidableEq

/-- Where the loop reads frames: before or after its authentication is answered. -/
inductive Listening where
  | handshake (p : Purpose) (deadline : Option Deadline)
  | serving
deriving DecidableEq

/-- The rows of a data frame that are still to be delivered. -/
structure Batch where
  chanId : Int64
  /-- The subscription that owned the channel when the frame came. -/
  id : Nat
  schema : Schema
  kind : UpdateKind
  rows : List (List Json.Value)

/-- The loop's place. -/
inductive Phase where
  | idle
  | connecting
  | connected
  | authenticating (p : Purpose)
  | listening (l : Listening)
  | delivering (b : Batch) (l : Listening)
  | requesting (p : Purpose)
  /-- Requests that have been taken are sent. -/
  | sending (p : Purpose) (feeds : List (Nat × Feed))
  | ended (result : Except ConnectionError Unit)

structure Session where
  config : ConnectionConfig
  signer : Signer
  /-- Where nonces are drawn from. -/
  counter : Counter
  registry : Registry
  state : ConnectionState
  commands : List Command
  /-- Subscriptions that are registered and not announced to the loop yet. -/
  unannounced : Nat
  link : Link
  /-- The time, in milliseconds. -/
  now : Nat
  /-- The account channel, once authenticated. -/
  accountChan : Option Int64
  phase : Phase
  /-- What has happened, in its order. -/
  events : List ConnectionEvent
  /-- What has been sent, in its order. -/
  sent : List Outbound

namespace Session

def create (config : ConnectionConfig) (signer : Signer) (counter : Counter) (link : Link) :
    Session where
  config := config
  signer := signer
  counter := counter
  registry := .empty
  state := .disconnected
  commands := []
  unannounced := 0
  link := link
  now := 0
  accountChan := none
  phase := .idle
  events := []
  sent := []

def emit (s : Session) (e : ConnectionEvent) : Session := { s with events := s.events ++ [e] }

/-- Enters a state; staying in one is no event. -/
def setState (s : Session) (after : ConnectionState) : Session :=
  if s.state = after then s else { s with state := after }.emit (.stateChanged s.state after)

/-! ## The owner -/

/-- Registers a subscription. An account feed needs credentials, and nothing is taken after the
end. -/
def register (s : Session) (feed : Feed) : Except ConnectionError (Nat × Session) :=
  if feed.isPrivate && s.signer.credentials.isNone then .error (.auth .credentialsNotSet)
  else if s.state = .terminated then .error .terminated
  else
    let (id, registry) := s.registry.subscribe feed s.config.sinkCapacity s.config.overflow
    .ok (id, { s with registry := registry, unannounced := s.unannounced + 1 })

def enqueue (s : Session) (c : Command) : Session := { s with commands := s.commands ++ [c] }

/-- Tells the loop of a registered subscription. -/
def announce (s : Session) : Session :=
  { s with unannounced := s.unannounced - 1 }.enqueue .flush

def subscribe (s : Session) (feed : Feed) : Except ConnectionError (Nat × Session) :=
  (s.register feed).map fun (id, s) => (id, s.announce)

def command (s : Session) (c : Command) : Except ConnectionError Session :=
  if s.state = .terminated then .error .terminated else .ok (s.enqueue c)

/-- Asks for the end of a channel; its messages end when the other side confirms. -/
def unsubscribe (s : Session) (chanId : Int64) : Except ConnectionError Session :=
  s.command (.unsubscribe chanId)

def close (s : Session) : Except ConnectionError Session := s.command .close

def receive (s : Session) (id : Nat) : Option (Receipt StreamMessage) × Session :=
  ((s.registry.receive id).1, { s with registry := (s.registry.receive id).2 })

def receiveAll (s : Session) (id : Nat) : List (Receipt StreamMessage) × Session :=
  ((s.registry.receiveAll id).1, { s with registry := (s.registry.receiveAll id).2 })

/-- The owner gives up a subscription's messages. -/
def leave (s : Session) (id : Nat) : Session := { s with registry := s.registry.detach id }

/-- Starts the loop, which runs once. -/
def start (s : Session) : Except ConnectionError Session :=
  match s.phase with
  | .idle =>
    if s.state = .terminated then .error .terminated else .ok { s with phase := .connecting }
  | _ => .error (if s.state = .terminated then .terminated else .alreadyRunning)

/-! ## Surroundings -/

def push (s : Session) (i : Inbound) : Session := { s with link := s.link.push i }

def advance (s : Session) (t : Span) : Session := { s with now := s.now + t.millis }

/-! ## Diagnostics -/

def handleShown (s : Session) : String := Text.named "ConnectionHandle" [("state", s.state.name)]

def shown (s : Session) : String :=
  Text.named "Connection" [("config", s.config.shown), ("state", s.state.name)]

end Session
end MarketWire
