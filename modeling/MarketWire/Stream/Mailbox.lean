import MarketWire.Stream.Sink

/-!
# Mailboxes

A mailbox is a sink with the signals between its two sides. The side that fills it sleeps until
there is room, and the side that empties it until there is a message. Each looks at the sink under a
lock, then asks for the signal, and then sleeps; a signal that meets no sleeper is kept for the next
who asks. What is done under the lock and each signal are moves of their own, so other moves may
come between them.
-/
namespace MarketWire

/-- Whether somebody sleeps on a signal, and whether it has come. -/
inductive Sleeper where
  | nobody
  | asleep
  | woken
deriving DecidableEq

structure Signal where
  kept : Bool
  sleeper : Sleeper
deriving DecidableEq

namespace Signal

def quiet : Signal := ⟨false, .nobody⟩

/-- Wakes the sleeper, or is kept. -/
def notify (s : Signal) : Signal :=
  match s.sleeper with
  | .asleep => { s with sleeper := .woken }
  | _ => { s with kept := true }

/-- Uses a kept signal up, or falls asleep. -/
def ask (s : Signal) : Bool × Signal :=
  if s.kept then (true, { s with kept := false }) else (false, { s with sleeper := .asleep })

/-- Gets up if the signal has come. -/
def rise (s : Signal) : Bool × Signal :=
  match s.sleeper with
  | .woken => (true, { s with sleeper := .nobody })
  | _ => (false, s)

/-- Stops sleeping before the end; a signal that had come is kept for the next. -/
def abandon (s : Signal) : Signal :=
  match s.sleeper with
  | .woken => ⟨true, .nobody⟩
  | _ => { s with sleeper := .nobody }

end Signal

/-- How far a delivery is. -/
inductive Producer (α : Type) where
  | idle
  | looking (m : α)
  /-- There was no room. -/
  | asking (m : α)
  | sleeping (m : α)
  /-- The message is in; the other side is still to be told. -/
  | announcing
deriving DecidableEq

/-- How far a receipt is. -/
inductive Consumer (α : Type) where
  | idle
  | looking
  /-- There was nothing. -/
  | asking
  | sleeping
  /-- The message is out; the other side is still to be told. -/
  | announcing (m : α)
  /-- The subscriber has left; the other side is still to be told. -/
  | leaving
  | gone
deriving DecidableEq

structure Mailbox (α : Type) where
  sink : Sink α
  /-- Tells that there is a message or the end. -/
  readable : Signal
  /-- Tells that there is room or nobody to wait for. -/
  writable : Signal
  producer : Producer α
  /-- The sink has been closed; the other side is still to be told. -/
  closing : Bool
  consumer : Consumer α
deriving DecidableEq

namespace Mailbox

def create (capacity : Nat) (overflow : Overflow) : Mailbox α :=
  ⟨.create capacity overflow, .quiet, .quiet, .idle, false, .idle⟩

/-! ## The side that fills -/

/-- The next move of a delivery, and what it comes to if it is over. -/
def produce (b : Mailbox α) : Option Delivery × Mailbox α :=
  match b.producer with
  | .idle => (none, b)
  | .looking m =>
    match b.sink.offer m with
    | (none, sink) => (none, { b with sink := sink, producer := .asking m })
    | (some .delivered, sink) => (none, { b with sink := sink, producer := .announcing })
    | (some d, sink) => (some d, { b with sink := sink, producer := .idle })
  | .asking m =>
    match b.writable.ask with
    | (true, signal) => (none, { b with writable := signal, producer := .looking m })
    | (false, signal) => (none, { b with writable := signal, producer := .sleeping m })
  | .sleeping m =>
    match b.writable.rise with
    | (true, signal) => (none, { b with writable := signal, producer := .looking m })
    | (false, _) => (none, b)
  | .announcing =>
    (some .delivered, { b with readable := b.readable.notify, producer := .idle })

/-- Goes on with a delivery for as many moves; `none` if it is not over then. -/
def produceFor : Nat → Mailbox α → Option Delivery × Mailbox α
  | 0, b => (none, b)
  | n + 1, b =>
    match b.produce with
    | (some d, b) => (some d, b)
    | (none, b) => produceFor n b

/-- A delivery is over or asleep after this many moves: it looks at most three times, once for each
signal that has been stored and once more. -/
def movesToRest : Nat := 8

def resume (b : Mailbox α) : Option Delivery × Mailbox α := b.produceFor movesToRest

/-- Starts a delivery and goes on until it is over or asleep. -/
def deliver (b : Mailbox α) (m : α) : Option Delivery × Mailbox α :=
  { b with producer := .looking m }.resume

def announceClosing (b : Mailbox α) : Mailbox α :=
  { b with closing := false, readable := b.readable.notify }

def startFinish (b : Mailbox α) (m : α) : Bool × Mailbox α :=
  let (queued, sink) := b.sink.finish m
  (queued, { b with sink := sink, closing := b.closing || !b.sink.closed })

def startClose (b : Mailbox α) : Mailbox α := { b with sink := b.sink.close, closing := true }

def finish (b : Mailbox α) (m : α) : Bool × Mailbox α :=
  let (queued, b) := b.startFinish m
  (queued, if b.closing then b.announceClosing else b)

def close (b : Mailbox α) : Mailbox α := b.startClose.announceClosing

/-! ## The side that empties -/

/-- The next move of a receipt, and what it comes to if it is over. -/
def consume (b : Mailbox α) : Receipt α × Mailbox α :=
  match b.consumer with
  | .idle | .gone => (.waiting, b)
  | .looking =>
    match b.sink.take with
    | (some m, sink) => (.waiting, { b with sink := sink, consumer := .announcing m })
    | (none, _) =>
      if b.sink.closed then (.ended, { b with consumer := .idle })
      else (.waiting, { b with consumer := .asking })
  | .asking =>
    match b.readable.ask with
    | (true, signal) => (.waiting, { b with readable := signal, consumer := .looking })
    | (false, signal) => (.waiting, { b with readable := signal, consumer := .sleeping })
  | .sleeping =>
    match b.readable.rise with
    | (true, signal) => (.waiting, { b with readable := signal, consumer := .looking })
    | (false, _) => (.waiting, b)
  | .announcing m => (.message m, { b with writable := b.writable.notify, consumer := .idle })
  | .leaving => (.waiting, { b with writable := b.writable.notify, consumer := .gone })

/-- Gives a receipt up that has taken nothing yet. -/
def cancel (b : Mailbox α) : Mailbox α :=
  match b.consumer with
  | .looking | .asking => { b with consumer := .idle }
  | .sleeping => { b with readable := b.readable.abandon, consumer := .idle }
  | _ => b

def consumeFor : Nat → Mailbox α → Receipt α × Mailbox α
  | 0, b => (.waiting, b)
  | n + 1, b =>
    match b.consume with
    | (.waiting, b) => consumeFor n b
    | r => r

/-- Starts a receipt, and gives it up if it would have to sleep. -/
def receive (b : Mailbox α) : Receipt α × Mailbox α :=
  match { b with consumer := .looking }.consumeFor movesToRest with
  | (.waiting, b) => (.waiting, b.cancel)
  | r => r

/-- Takes a message if there is one, without asking for the signal. -/
def startTryReceive (b : Mailbox α) : Mailbox α :=
  match b.sink.take with
  | (some m, sink) => { b with sink := sink, consumer := .announcing m }
  | (none, _) => b

def tryReceive (b : Mailbox α) : Option α × Mailbox α :=
  match b.startTryReceive.consume with
  | (.message m, b) => (some m, b)
  | (_, b) => (none, b)

def startLeave (b : Mailbox α) : Mailbox α :=
  { b.cancel with sink := b.sink.detach, consumer := .leaving }

/-- The subscriber leaves. -/
def leave (b : Mailbox α) : Mailbox α := b.startLeave.consume.2

end Mailbox

/-! ## Interleavings -/

/-- The moves of the two sides of a mailbox, and of those who start them. -/
inductive Mailbox.Move (α : Type) where
  | deliver (m : α)
  | produce
  | finish (m : α)
  | close
  | announceClosing
  | receive
  | consume
  | cancel
  | tryReceive
  | leave
deriving DecidableEq

namespace Mailbox

/-- Whether the side that fills has nothing under way. -/
def isFillerFree (b : Mailbox α) : Bool :=
  match b.producer with
  | .idle => !b.closing
  | _ => false

/-- Whether the side that empties has nothing under way. -/
def isEmptierFree (b : Mailbox α) : Bool :=
  match b.consumer with
  | .idle => true
  | _ => false

def isReceiving (b : Mailbox α) : Bool :=
  match b.consumer with
  | .looking | .asking | .sleeping => true
  | _ => false

/-- A move, if it may be made. Each side does one thing at a time; a receipt may be given up. -/
def move? (b : Mailbox α) : Move α → Option (Mailbox α)
  | .deliver m => if b.isFillerFree then some { b with producer := .looking m } else none
  | .produce => some b.produce.2
  | .finish m => if b.isFillerFree then some (b.startFinish m).2 else none
  | .close => if b.isFillerFree then some b.startClose else none
  | .announceClosing => if b.closing then some b.announceClosing else none
  | .receive => if b.isEmptierFree then some { b with consumer := .looking } else none
  | .consume => some b.consume.2
  | .cancel => if b.isReceiving then some b.cancel else none
  | .tryReceive => if b.isEmptierFree then some b.startTryReceive else none
  | .leave => if b.isEmptierFree || b.isReceiving then some b.startLeave else none

inductive Reachable : Mailbox α → Prop where
  | create (capacity : Nat) (overflow : Overflow) : Reachable (create capacity overflow)
  | move {b b' : Mailbox α} {m : Move α} : Reachable b → b.move? m = some b' → Reachable b'

end Mailbox
end MarketWire
