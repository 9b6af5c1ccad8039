/-!
# Sinks

A sink is the queue between the receive loop and one subscriber. It holds at most as many messages
as its capacity says; a full one makes the loop wait, gives up its oldest message, or refuses the
new one. A final message always fits and closes the sink. A subscriber that leaves empties it for
good.
-/
namespace MarketWire

inductive Overflow where
  | block
  | dropOldest
  | dropNewest
deriving DecidableEq

inductive Delivery where
  | delivered
  | dropped
  | closed
deriving DecidableEq

def Delivery.name : Delivery → String
  | .delivered => "Delivered"
  | .dropped => "Dropped"
  | .closed => "Closed"

structure Sink (α : Type) where
  capacity : Nat
  overflow : Overflow
  queue : List α
  closed : Bool
  /-- The subscriber has left. -/
  detached : Bool
  dropped : Nat
  chanId : Option Int64
  capacity_pos : 0 < capacity
deriving DecidableEq

namespace Sink

/-- An empty sink; it holds at least one message. -/
def create (capacity : Nat) (overflow : Overflow) : Sink α :=
  ⟨max capacity 1, overflow, [], false, false, 0, none, by omega⟩

def isFull (s : Sink α) : Bool := s.capacity ≤ s.queue.length

/-- Whether no more messages are taken. -/
def isClosed (s : Sink α) : Bool := s.closed || s.detached

/-- Hands a message over; `none` if that has to wait for room. -/
def offer (s : Sink α) (m : α) : Option Delivery × Sink α :=
  if s.isClosed then (some .closed, s)
  else if s.isFull then
    match s.overflow with
    | .block => (none, s)
    | .dropOldest =>
      (some .delivered, { s with queue := s.queue.tail ++ [m], dropped := s.dropped + 1 })
    | .dropNewest => (some .dropped, { s with dropped := s.dropped + 1 })
  else (some .delivered, { s with queue := s.queue ++ [m] })

/-- What an offer comes to. Only a full sink that blocks makes the loop wait. -/
inductive Offered (s : Sink α) (m : α) : Option Delivery × Sink α → Prop where
  | closed (h : s.isClosed = true) : Offered s m (some .closed, s)
  | taken (h : s.isClosed = false) (hroom : s.queue.length < s.capacity) :
    Offered s m (some .delivered, { s with queue := s.queue ++ [m] })
  | waits (h : s.isClosed = false) (hfull : s.capacity ≤ s.queue.length)
    (ho : s.overflow = .block) : Offered s m (none, s)
  | evicted (h : s.isClosed = false) (hfull : s.capacity ≤ s.queue.length)
    (ho : s.overflow = .dropOldest) : Offered s m
      (some .delivered, { s with queue := s.queue.tail ++ [m], dropped := s.dropped + 1 })
  | refused (h : s.isClosed = false) (hfull : s.capacity ≤ s.queue.length)
    (ho : s.overflow = .dropNewest) :
    Offered s m (some .dropped, { s with dropped := s.dropped + 1 })

theorem offer_of_isClosed {s : Sink α} (h : s.isClosed = true) (m : α) :
    s.offer m = (some .closed, s) := by simp [offer, h]

theorem offered (s : Sink α) (m : α) : s.Offered m (s.offer m) := by
  cases hc : s.isClosed with
  | true =>
    rw [offer_of_isClosed hc]
    exact .closed hc
  | false =>
    by_cases hroom : s.queue.length < s.capacity
    · have hfull : s.isFull = false := by simpa [isFull] using hroom
      simpa [offer, hc, hfull] using Offered.taken (m := m) hc hroom
    · have hle : s.capacity ≤ s.queue.length := by omega
      have hfull : s.isFull = true := by simpa [isFull] using hle
      cases ho : s.overflow with
      | block => simpa [offer, hc, hfull, ho] using Offered.waits (m := m) hc hle ho
      | dropOldest => simpa [offer, hc, hfull, ho] using Offered.evicted (m := m) hc hle ho
      | dropNewest => simpa [offer, hc, hfull, ho] using Offered.refused (m := m) hc hle ho

theorem isClosed_of_offer {s : Sink α} {m : α} (h : (s.offer m).1 = some .closed) :
    s.isClosed = true := by
  have ho := s.offered m
  generalize s.offer m = r at ho h
  cases ho with
  | closed hc => exact hc
  | _ => cases h

/-- An offer changes nothing but the queue and the count of dropped messages. -/
theorem fields_offer (s : Sink α) (m : α) :
    (s.offer m).2.closed = s.closed ∧ (s.offer m).2.detached = s.detached ∧
      (s.offer m).2.chanId = s.chanId ∧ (s.offer m).2.overflow = s.overflow := by
  have ho := s.offered m
  generalize s.offer m = r at ho ⊢
  cases ho <;> exact ⟨rfl, rfl, rfl, rfl⟩

theorem dropped_offer (s : Sink α) (m : α) : s.dropped ≤ (s.offer m).2.dropped := by
  have ho := s.offered m
  generalize s.offer m = r at ho ⊢
  cases ho with
  | evicted _ _ _ => exact Nat.le_succ _
  | refused _ _ _ => exact Nat.le_succ _
  | _ => exact Nat.le_refl _

/-- A message that is taken comes behind the others, unless one is given up for it. -/
theorem queue_offer_of_flow {s : Sink α} {m : α} (ho : s.isClosed = false)
    (hd : (s.offer m).1 ≠ none)
    (hf : s.overflow = .block ∨ (s.offer m).2.dropped = 0) :
    (s.offer m).2.queue = s.queue ++ [m] := by
  have hoffered := s.offered m
  generalize s.offer m = r at hoffered hd hf ⊢
  cases hoffered with
  | closed hc => cases hc.symm.trans ho
  | taken _ _ => rfl
  | waits _ _ _ => exact absurd rfl hd
  | evicted _ _ hover => simp [hover] at hf
  | refused _ _ hover => simp [hover] at hf

theorem mem_queue_offer {s : Sink α} {m m' : α} (h : m' ∈ (s.offer m).2.queue) :
    m' ∈ s.queue ∨ m' = m := by
  have ho := s.offered m
  generalize s.offer m = r at ho h
  cases ho with
  | taken _ _ => exact (List.mem_append.mp h).imp_right List.mem_singleton.mp
  | evicted _ _ _ =>
    exact (List.mem_append.mp h).imp List.mem_of_mem_tail List.mem_singleton.mp
  | _ => exact .inl h

/-- Closes with a last message, and whether a subscriber will get it. -/
def finish (s : Sink α) (m : α) : Bool × Sink α :=
  if s.closed then (false, s)
  else if s.detached then (false, { s with closed := true })
  else (true, { s with closed := true, queue := s.queue ++ [m] })

def close (s : Sink α) : Sink α := { s with closed := true }

/-- A sink can be finished once. -/
theorem finish_of_closed {s : Sink α} (h : s.closed = true) (m : α) : s.finish m = (false, s) := by
  simp [finish, h]

/-- What an end comes to. Only the first one is heard, and only where the subscriber has not left. -/
inductive Finished (s : Sink α) (m : α) : Bool × Sink α → Prop where
  | again (h : s.closed = true) : Finished s m (false, s)
  | unheard (h : s.closed = false) (hd : s.detached = true) :
    Finished s m (false, { s with closed := true })
  | queued (h : s.closed = false) (hd : s.detached = false) :
    Finished s m (true, { s with closed := true, queue := s.queue ++ [m] })

theorem finished (s : Sink α) (m : α) : s.Finished m (s.finish m) := by
  cases hc : s.closed with
  | true =>
    rw [finish_of_closed hc]
    exact .again hc
  | false =>
    cases hd : s.detached with
    | true => simpa [finish, hc, hd] using Finished.unheard (m := m) hc hd
    | false => simpa [finish, hc, hd] using Finished.queued (m := m) hc hd

theorem closed_finish (s : Sink α) (m : α) : (s.finish m).2.closed = true := by
  have hf := s.finished m
  generalize s.finish m = r at hf ⊢
  cases hf with
  | again h => exact h
  | _ => rfl

theorem fields_finish (s : Sink α) (m : α) :
    (s.finish m).2.detached = s.detached ∧ (s.finish m).2.chanId = s.chanId ∧
      (s.finish m).2.dropped = s.dropped ∧ (s.finish m).2.overflow = s.overflow := by
  have hf := s.finished m
  generalize s.finish m = r at hf ⊢
  cases hf <;> exact ⟨rfl, rfl, rfl, rfl⟩

/-- The last message comes behind the others, if anybody will take them. -/
theorem queue_finish_of_open {s : Sink α} (h : s.closed = false) (m : α) :
    (s.finish m).2.queue = if s.detached then s.queue else s.queue ++ [m] := by
  have hf := s.finished m
  generalize s.finish m = r at hf ⊢
  cases hf with
  | again hc => cases hc.symm.trans h
  | unheard _ hd => rw [if_pos hd]
  | queued _ hd => simp [hd]

theorem mem_queue_finish {s : Sink α} {m m' : α} (h : m' ∈ (s.finish m).2.queue) :
    m' ∈ s.queue ∨ m' = m := by
  have hf := s.finished m
  generalize s.finish m = r at hf h
  cases hf with
  | queued _ _ => exact (List.mem_append.mp h).imp_right List.mem_singleton.mp
  | _ => exact .inl h

def setChanId (s : Sink α) (chanId : Int64) : Sink α := { s with chanId := some chanId }

/-- Takes the oldest message. -/
def take (s : Sink α) : Option α × Sink α :=
  match s.queue with
  | [] => (none, s)
  | m :: ms => (some m, { s with queue := ms })

/-- The subscriber leaves. -/
def detach (s : Sink α) : Sink α := { s with detached := true, queue := [] }

end Sink

/-- What a subscriber that asks for a message gets. -/
inductive Receipt (α : Type) where
  | message (m : α)
  | waiting
  | ended
deriving DecidableEq

namespace Sink

def receive (s : Sink α) : Receipt α × Sink α :=
  match s.take with
  | (some m, s) => (.message m, s)
  | (none, s) => (if s.closed then .ended else .waiting, s)

theorem fields_receive (s : Sink α) :
    s.receive.2.closed = s.closed ∧ s.receive.2.detached = s.detached ∧
      s.receive.2.chanId = s.chanId ∧ s.receive.2.dropped = s.dropped ∧
      s.receive.2.overflow = s.overflow := by
  unfold receive take
  cases s.queue <;> exact ⟨rfl, rfl, rfl, rfl, rfl⟩

/-- All messages up to where the subscriber would have to wait or the end is reached. -/
def receiveAll (s : Sink α) : List (Receipt α) × Sink α :=
  (s.queue.map .message ++ [if s.closed then .ended else .waiting], { s with queue := [] })

end Sink
end MarketWire
