import MarketWire.Stream.Session.Basic

/-!
# The loop of a session

The loop connects, authenticates if an account feed waits, sends the requests that are due, and then
obeys commands and reads frames, commands first. It authenticates later if the first account feed
comes later. Frames that come before the answer to an authentication are handled as ever. A step
ends where the loop may have to wait: each row of a frame and each request is a step.
-/
namespace MarketWire

/-- The account channel of an authentication whose answer names none. -/
def accountChanId : Int64 := 0

/-- What further account subscriptions are told. -/
def accountTaken : StreamMessage := .rejected none "account channel already subscribed"

/-- What is delivered for a row, and whether the rest of its batch follows. -/
def Batch.message (b : Batch) (policy : BatchPolicy) (row : List Json.Value) :
    StreamMessage × Bool :=
  match b.schema.decode row with
  | .ok e => (.update b.chanId b.kind e, true)
  | .error e => (.decodeFailed b.chanId e, policy = .isolate)

namespace Session

/-! ## The end -/

/-- Tells every subscription how the session ended, and lets the link go. -/
def terminate (s : Session) (e : Ending) : Session :=
  let s := s.setState .terminated
  let (ids, registry) := s.registry.drain
  let (_, registry) := registry.finishAll ids (.terminated e)
  let s := { s with registry := registry }.emit (.terminated e)
  { s with link := s.link.close }

def endingOf : Except ConnectionError Unit → Ending
  | .ok () => .closed
  | .error e => e.ending

def conclude (s : Session) (result : Except ConnectionError Unit) : Session :=
  { s.terminate (endingOf result) with phase := .ended result }

def fail (s : Session) (e : ConnectionError) : Session := s.conclude (.error e)

/-- Sends and goes on elsewhere, or fails. -/
def send (s : Session) (o : Outbound) (next : Phase) : Session :=
  match s.link.send with
  | .error e => s.fail (.link e)
  | .ok () => { s with sent := s.sent ++ [o], phase := next }

/-! ## The beginning -/

def connect (s : Session) : Session :=
  let s := s.setState .connecting
  match s.link.connect with
  | .error e => s.fail (.link e)
  | .ok link => { s with link := link, phase := .connected }

/-- Whether requests can be sent at once depends on the feeds that wait. -/
def proceed (s : Session) : Session :=
  if s.registry.hasPendingPrivate then { s with phase := .authenticating .opening }
  else { s.setState .subscribing with phase := .requesting .opening }

def authRequest (c : ConnectionConfig) (a : WsAuth) : AuthRequest :=
  ⟨a.apiKey, a.authSig, a.authPayload, a.authNonce, c.deadManSwitch, c.authFilter⟩

def deadline? (s : Session) : Option Deadline :=
  s.config.authTimeout.map fun limit => ⟨limit, s.now + limit.millis⟩

def authenticate (s : Session) (p : Purpose) : Session :=
  let s := s.setState .authenticating
  match s.signer.wsAuth Counter.draw s.counter with
  | (.error e, _) => s.fail (.auth e)
  | (.ok a, counter) =>
    { s with counter := counter }.send (.auth (authRequest s.config a))
      (.listening (.handshake p s.deadline?))

/-- Takes the requests that are due. -/
def takeRequests (s : Session) (p : Purpose) : Session :=
  let (feeds, registry) := s.registry.takeUnsent
  { s with registry := registry, phase := .sending p feeds }

/-- Sends the next request; after the last one, frames are read. -/
def sendNext (s : Session) (p : Purpose) : List (Nat × Feed) → Session
  | [] =>
    let s := match p with
      | .opening => s.setState .streaming
      | .later => s
    { s with phase := .listening .serving }
  | (id, feed) :: feeds =>
    match feed.request? with
    | none => { s with phase := .sending p feeds }
    | some r => s.send (.subscribe id r) (.sending p feeds)

/-! ## Events -/

/-- Gives the account channel to a subscription that waits for it; the others are refused. -/
def bindAccount (s : Session) (chanId : Int64) : Session :=
  let (bound, extras, registry) := s.registry.bindAccount chanId
  let (_, registry) := registry.finishAll extras accountTaken
  let s := { s with registry := registry }
  match bound with
  | none => s
  | some id => s.emit (.subscribed id chanId .account none)

def acknowledge (s : Session) (a : Subscribed) : Session :=
  match s.registry.bind (.ofSubscribed a) a.chanId with
  | (none, registry) => { s with registry := registry }
  | (some p, registry) =>
    { s with registry := registry }.emit (.subscribed p.id a.chanId p.feed.channel p.feed.symbol)

/-- Takes a channel from its owner, whose messages end. -/
def closeChannel (s : Session) (chanId : Int64) : Session :=
  match s.registry.unbind chanId with
  | (none, registry) => { s with registry := registry }
  | (some id, registry) => { s with registry := registry.updateSink id Sink.close }

/-- A refusal ends the subscription that it agrees with, or is passed on as a notice. -/
def refuse (s : Session) (r : Refusal) : Session :=
  match (Ack.ofRefusal? r).map s.registry.reject with
  | some (some id, registry) =>
    { s with registry := (registry.finish id (.rejected r.code r.msg)).2 }
  | _ => s.emit (.notice r.code r.msg)

/-- Handles an event that does not answer an authentication. -/
def handleControl (s : Session) : Control → Session
  | .info i => s.emit (.info i.version i.code i.msg)
  | .subscribed a => s.acknowledge a
  | .unsubscribed _ chanId => (s.closeChannel chanId).emit (.unsubscribed chanId)
  | .error r => s.refuse r
  | .auth _ | .pong .. | .conf .. | .unknown => s

/-! ## Data -/

/-- The rows of a frame, if a subscription owns its channel and their schema is known. -/
def batch? (s : Session) (d : DataFrame) : Option Batch := do
  let owner ← s.registry.owner? d.chanId
  let schema ← owner.schema?.or (d.tag.bind Schema.ofAccountTag?)
  pure ⟨d.chanId, owner.id, schema, UpdateKind.of d.tag d.payload, d.payload.rows⟩

/-- Goes on with the rows, or where frames are read if there are none. -/
def deliverRows (s : Session) (b : Batch) (l : Listening) : Session :=
  { s with phase := if b.rows.isEmpty then .listening l else .delivering b l }

def handleData (s : Session) (d : DataFrame) (l : Listening) : Session :=
  if d.payload.isHeartbeat then s
  else match s.batch? d with
    | none => s
    | some b => s.deliverRows b l

/-- Takes the channel from a subscriber that left, and asks for the channel's end. The account
channel goes on as long as the session. -/
def release (s : Session) (chanId : Int64) (l : Listening) : Session :=
  match s.registry.unbind chanId with
  | (none, registry) => { s with registry := registry, phase := .listening l }
  | (some id, registry) =>
    let s := { s with registry := registry.updateSink id Sink.close }
    if some chanId = s.accountChan then { s with phase := .listening l }
    else s.send (.unsubscribe chanId) (.listening l)

/-- Delivers the next row; `none` if there is no room for it. -/
def deliver? (s : Session) (b : Batch) (l : Listening) : Option Session :=
  match b.rows with
  | [] => some { s with phase := .listening l }
  | row :: rows =>
    let (m, goesOn) := b.message s.config.batch row
    match s.registry.offer b.id m with
    | (none, _) => none
    | (some .closed, registry) =>
      let s := { s with registry := registry }
      if (registry.sink? b.id).any (·.detached) then some (s.release b.chanId l)
      else some { s with phase := .listening l }
    | (some _, registry) =>
      some ({ s with registry := registry }.deliverRows
        { b with rows := if goesOn then rows else [] } l)

/-! ## Frames and commands -/

/-- The session goes on once its authentication is acknowledged, and fails if it is refused. -/
def concludeHandshake (s : Session) (p : Purpose) (r : AuthReply) : Session :=
  if r.isOk then
    let chanId := r.chanId.getD accountChanId
    let s := { s.emit (.authenticated r.userId) with accountChan := some chanId }.bindAccount chanId
    let s := s.setState <| match p with
      | .opening => .subscribing
      | .later => .streaming
    { s with phase := .requesting p }
  else s.fail (.auth (.rejected r.code (r.msg.getD r.status)))

def handleFrame (s : Session) (l : Listening) (f : Frame) : Session :=
  match l, f with
  | .handshake p _, .event (.auth r) => s.concludeHandshake p r
  | _, .event c => s.handleControl c
  | _, .data d => s.handleData d l

/-- A text that is no frame is dropped. -/
def handleInbound (s : Session) (l : Listening) : Inbound → Session
  | .fault e => s.fail (.link e)
  | .close => s.fail (.link .connectionClosed)
  | .text t =>
    match Frame.parse t with
    | .error _ => s
    | .ok f => s.handleFrame l f

/-- The span that has run out, if there is one. -/
def overdue? (s : Session) : Listening → Option Span
  | .handshake _ (some d) => if d.instant ≤ s.now then some d.limit else none
  | _ => none

/-- Reads the next frame. One that is there is read even when the time is over. -/
def readFrame? (s : Session) (l : Listening) : Option Session :=
  match s.link.receive with
  | (some i, link) => some ({ s with link := link }.handleInbound l i)
  | (none, _) => (s.overdue? l).map fun limit => s.fail (.authTimeout limit)

/-- New subscriptions: account feeds share the session's authentication or start it. -/
def flush (s : Session) : Session :=
  if s.registry.hasPendingPrivate then
    match s.accountChan with
    | some chanId => { s.bindAccount chanId with phase := .requesting .later }
    | none => { s with phase := .authenticating .later }
  else { s with phase := .requesting .later }

def obey (s : Session) : Command → Session
  | .flush => s.flush
  | .unsubscribe chanId => s.send (.unsubscribe chanId) (.listening .serving)
  | .close => s.conclude (.ok ())

/-- Commands wait while an authentication is under way. -/
def listen? (s : Session) (l : Listening) : Option Session :=
  match l, s.commands with
  | .serving, c :: cs => some ({ s with commands := cs }.obey c)
  | _, _ => s.readFrame? l

/-! ## Steps -/

/-- The loop's next step; `none` if it waits, has not started, or is over. -/
def step? (s : Session) : Option Session :=
  match s.phase with
  | .idle | .ended _ => none
  | .connecting => some s.connect
  | .connected => some s.proceed
  | .authenticating p => some (s.authenticate p)
  | .listening l => s.listen? l
  | .delivering b l => s.deliver? b l
  | .requesting p => some (s.takeRequests p)
  | .sending p feeds => some (s.sendNext p feeds)

end Session
end MarketWire
