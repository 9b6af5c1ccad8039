import MarketWire.Stream.Feed
import MarketWire.Stream.Message
import MarketWire.Stream.Sink
import MarketWire.Text.Phrase

/-!
# The registry of subscriptions

Subscriptions are numbered in the order in which they are made. Each waits for an answer at first,
then owns the channel that the answer named, and is over when it leaves the registry. Its sink
stays: the subscriber may have messages left to take. An answer belongs to the oldest subscription
that it agrees with, so equal requests are answered in their order.
-/
namespace MarketWire

/-- Sinks by the number of their subscription. -/
abbrev Sinks := List (Nat × Sink StreamMessage)

namespace Sinks

def get? (t : Sinks) (id : Nat) : Option (Sink StreamMessage) := t.lookup id

def update (t : Sinks) (id : Nat) (f : Sink StreamMessage → Sink StreamMessage) : Sinks :=
  t.map fun (k, s) => (k, if k = id then f s else s)

theorem get?_update (t : Sinks) (id k : Nat) (f : Sink StreamMessage → Sink StreamMessage) :
    (t.update id f).get? k = if k = id then (t.get? k).map f else t.get? k := by
  induction t with
  | nil => simp [update, get?]
  | cons a t ih =>
    obtain ⟨n, s⟩ := a
    simp only [update, get?, List.map_cons, List.lookup_cons] at ih ⊢
    by_cases h : k = n
    · subst h; by_cases hk : k = id <;> simp [hk]
    · have hb : (k == n) = false := by simpa using h
      rw [hb]; exact ih

end Sinks

/-- A subscription that waits for its answer. -/
structure Pending where
  id : Nat
  feed : Feed
  /-- Its request has been taken to be sent. -/
  sent : Bool
deriving DecidableEq

/-- Whether the request is to be sent; account feeds open by authentication. -/
def Pending.isUnsent (p : Pending) : Bool := !p.sent && !p.feed.isPrivate

/-- A subscription that owns a channel. -/
structure Active where
  chanId : Int64
  id : Nat
  feed : Feed
deriving DecidableEq

/-- The schema of the channel's rows; the account channel tells it by the tag instead. -/
def Active.schema? (a : Active) : Option Schema := a.feed.schema?

inductive SubscriptionState where
  | pending
  | active
  | closed
deriving DecidableEq

def SubscriptionState.name : SubscriptionState → String
  | .pending => "Pending"
  | .active => "Active"
  | .closed => "Closed"

structure Registry where
  /-- In the order of registration. -/
  pending : List Pending
  /-- At most one for a channel. -/
  active : List Active
  nextId : Nat
  sinks : Sinks

namespace Registry

def empty : Registry := ⟨[], [], 0, []⟩

/-! ## Sinks -/

def sink? (r : Registry) (id : Nat) : Option (Sink StreamMessage) := r.sinks.get? id

def updateSink (r : Registry) (id : Nat) (f : Sink StreamMessage → Sink StreamMessage) : Registry :=
  { r with sinks := r.sinks.update id f }

/-- Hands a message to a sink; `none` if that has to wait for room. -/
def offer (r : Registry) (id : Nat) (m : StreamMessage) : Option Delivery × Registry :=
  match r.sink? id with
  | none => (some .closed, r)
  | some s => ((s.offer m).1, r.updateSink id fun _ => (s.offer m).2)

/-- Closes a sink with a last message, and whether a subscriber will get it. -/
def finish (r : Registry) (id : Nat) (m : StreamMessage) : Bool × Registry :=
  match r.sink? id with
  | none => (false, r)
  | some s => ((s.finish m).1, r.updateSink id fun _ => (s.finish m).2)

/-- Finishes several sinks, and how many subscribers will get the message. -/
def finishAll (r : Registry) (ids : List Nat) (m : StreamMessage) : Nat × Registry :=
  match ids with
  | [] => (0, r)
  | id :: ids =>
    let (reached, r) := r.finish id m
    let (n, r) := r.finishAll ids m
    (reached.toNat + n, r)

def receive (r : Registry) (id : Nat) : Option (Receipt StreamMessage) × Registry :=
  match r.sink? id with
  | none => (none, r)
  | some s => (some s.receive.1, r.updateSink id fun _ => s.receive.2)

def receiveAll (r : Registry) (id : Nat) : List (Receipt StreamMessage) × Registry :=
  match r.sink? id with
  | none => ([], r)
  | some s => (s.receiveAll.1, r.updateSink id fun _ => s.receiveAll.2)

/-- The subscriber leaves. -/
def detach (r : Registry) (id : Nat) : Registry := r.updateSink id Sink.detach

/-! ## Registration -/

/-- Gives the next number out. -/
def allocate (r : Registry) : Nat × Registry := (r.nextId, { r with nextId := r.nextId + 1 })

/-- Enters a subscription with an empty sink under a number that was given out. -/
def register (r : Registry) (id : Nat) (feed : Feed) (capacity : Nat) (overflow : Overflow) :
    Registry :=
  { r with
    pending := r.pending ++ [⟨id, feed, false⟩]
    sinks := r.sinks ++ [(id, .create capacity overflow)] }

/-- Gives a number out and enters a subscription under it. -/
def subscribe (r : Registry) (feed : Feed) (capacity : Nat) (overflow : Overflow) :
    Nat × Registry :=
  let (id, r) := r.allocate
  (id, r.register id feed capacity overflow)

/-- Takes the subscriptions whose requests are to be sent, and marks them. -/
def takeUnsent (r : Registry) : List (Nat × Feed) × Registry :=
  ((r.pending.filter Pending.isUnsent).map fun p => (p.id, p.feed),
    { r with pending := r.pending.map fun p => { p with sent := p.sent || p.isUnsent } })

/-! ## Answers -/

/-- What the owner of a channel is told when the channel goes to another subscription. -/
def reassigned (chanId : Int64) : StreamMessage :=
  .rejected none <| Text.phrase [
    "channel ", toString chanId.toInt, " was assigned to another subscription"]

def owner? (r : Registry) (chanId : Int64) : Option Active := r.active.find? (·.chanId == chanId)

/-- Gives a channel to a subscription that is no longer pending, and ends the owner it had. -/
def activate (r : Registry) (chanId : Int64) (p : Pending) : Registry :=
  let r' := r.updateSink p.id (·.setChanId chanId)
  let r' := match r.owner? chanId with
    | none => r'
    | some old => (r'.finish old.id (reassigned chanId)).2
  { r' with active := ⟨chanId, p.id, p.feed⟩ :: r'.active.filter (·.chanId != chanId) }

/-- Takes the oldest pending subscription that an answer agrees with. -/
def takeAgreeing (r : Registry) (a : Ack) : Option Pending × Registry :=
  (r.pending.find? (·.feed.agrees a), { r with pending := r.pending.eraseP (·.feed.agrees a) })

/-- Gives a channel to the subscription whose request was acknowledged. -/
def bind (r : Registry) (a : Ack) (chanId : Int64) : Option Pending × Registry :=
  match r.takeAgreeing a with
  | (none, r) => (none, r)
  | (some p, r) => (some p, r.activate chanId p)

/-- Takes the subscription whose request was refused. -/
def reject (r : Registry) (a : Ack) : Option Nat × Registry :=
  let (p, r) := r.takeAgreeing a
  (p.map (·.id), r)

theorem pending_activate (r : Registry) (chanId : Int64) (p : Pending) :
    (r.activate chanId p).pending = r.pending := by
  unfold activate
  cases r.owner? chanId with
  | none => rfl
  | some old =>
    simp only [finish]
    split <;> rfl

/-- Gives the account channel to the oldest account subscription, unless it has an owner, and takes
the other ones, which cannot share it. -/
def bindAccount (r : Registry) (chanId : Int64) : Option Nat × List Nat × Registry :=
  let mine := r.pending.filter (·.feed.isPrivate)
  let r' := { r with pending := r.pending.filter (!·.feed.isPrivate) }
  match r.owner? chanId, mine with
  | none, p :: ps => (some p.id, ps.map (·.id), r'.activate chanId p)
  | _, ps => (none, ps.map (·.id), r')

theorem pending_bindAccount (r : Registry) (chanId : Int64) :
    (r.bindAccount chanId).2.2.pending = r.pending.filter (!·.feed.isPrivate) := by
  unfold bindAccount
  dsimp only
  split
  · rw [pending_activate]
  · rfl

/-- Takes the owner of a channel. -/
def unbind (r : Registry) (chanId : Int64) : Option Nat × Registry :=
  ((r.owner? chanId).map (·.id), { r with active := r.active.filter (·.chanId != chanId) })

/-- Takes all subscriptions. -/
def drain (r : Registry) : List Nat × Registry :=
  (r.pending.map (·.id) ++ r.active.map (·.id), { r with pending := [], active := [] })

/-! ## Questions -/

def hasPendingPrivate (r : Registry) : Bool := r.pending.any (·.feed.isPrivate)

/-- No account subscription waits any more once the account channel is there. -/
theorem hasPendingPrivate_bindAccount (r : Registry) (chanId : Int64) :
    (r.bindAccount chanId).2.2.hasPendingPrivate = false := by
  simp [hasPendingPrivate, pending_bindAccount]

/-- There is none for a number that has not been given out. -/
def state? (r : Registry) (id : Nat) : Option SubscriptionState :=
  if r.pending.any (·.id == id) then some .pending
  else if r.active.any (·.id == id) then some .active
  else if id < r.nextId then some .closed
  else none

def chanIdOf? (r : Registry) (id : Nat) : Option Int64 :=
  (r.active.find? (·.id == id)).map (·.chanId)

end Registry
end MarketWire
