import MarketWire.Proofs.Registry.Channel
import MarketWire.Proofs.Session.History

/-!
# Owners of channels by the events

The events of a session say which subscription a channel was given to last, and whether it was
taken away since. As long as its subscriber stays, this is the subscription that the registry has as
the owner, so what is routed to a subscription can be read off the events.
-/
namespace MarketWire

/-- The subscription that a channel belongs to after an event. -/
def ConnectionEvent.owner (chanId : Int64) (before : Option Nat) : ConnectionEvent → Option Nat
  | .subscribed id c _ _ => if c = chanId then some id else before
  | .unsubscribed c => if c = chanId then none else before
  | .terminated _ => none
  | _ => before

namespace Session

open Registry (Op)

def ownerIn (events : List ConnectionEvent) (chanId : Int64) : Option Nat :=
  events.foldl (ConnectionEvent.owner chanId) none

/-- Events and registry agree on the channels of a subscription. -/
def Agrees (s : Session) (id : Nat) : Prop :=
  ∀ chanId, ownerIn s.events chanId = some id ↔
    ∃ a, s.registry.owner? chanId = some a ∧ a.id = id

theorem ownerIn_append (events : List ConnectionEvent) (e : ConnectionEvent) (chanId : Int64) :
    ownerIn (events ++ [e]) chanId = e.owner chanId (ownerIn events chanId) := by
  simp [ownerIn]

theorem ownerIn_setState (s : Session) (after : ConnectionState) (chanId : Int64) :
    ownerIn (s.setState after).events chanId = ownerIn s.events chanId := by
  rw [setState_eq]
  dsimp only
  split
  · rw [List.append_nil]
  · exact ownerIn_append ..

namespace Agrees

variable {s s' : Session} {id : Nat}

theorem of_eq (h : s.Agrees id) (hr : s'.registry.active = s.registry.active)
    (he : ∀ chanId, ownerIn s'.events chanId = ownerIn s.events chanId) : s'.Agrees id := by
  intro chanId
  rw [he, Registry.owner?_congr hr]
  exact h chanId

theorem setState (h : s.Agrees id) (after : ConnectionState) : (s.setState after).Agrees id :=
  h.of_eq (by rw [setState_eq]) (s.ownerIn_setState after)

/-- Other events say nothing about channels. -/
theorem emit (h : s.Agrees id) {e : ConnectionEvent} (he : ∀ c o, e.owner c o = o) :
    (s.emit e).Agrees id :=
  h.of_eq rfl fun c => (ownerIn_append ..).trans (he c _)

/-- A channel that is given to a subscription belongs to it, whoever had it before. -/
theorem give (h : s.Agrees id) {chanId : Int64} {n : Nat} {c : Channel} {symbol : Option String}
    {o : Active} (ho : o.id = n)
    (hr : ∀ c, s'.registry.owner? c = if c = chanId then some o else s.registry.owner? c)
    (he : s'.events = s.events ++ [.subscribed n chanId c symbol]) : s'.Agrees id := by
  intro c
  rw [he, ownerIn_append, hr]
  by_cases hc : c = chanId
  · simp [ConnectionEvent.owner, hc, ho]
  · rw [if_neg hc]
    simpa [ConnectionEvent.owner, Ne.symm hc] using h c

theorem acknowledge (h : s.Agrees id) (a : Subscribed) : (s.acknowledge a).Agrees id := by
  rw [acknowledge_eq]
  have ho := s.registry.owner?_bind (.ofSubscribed a) a.chanId
  cases hb : (s.registry.bind (.ofSubscribed a) a.chanId).1 with
  | none =>
    intro c
    simp only [hb] at ho
    simp only [Registry.perform, ho, Option.map_none, Option.toList_none, List.append_nil]
    exact h c
  | some p =>
    simp only [hb] at ho
    exact h.give (o := ⟨a.chanId, p.id, p.feed⟩) rfl ho rfl

theorem bindAccount (h : s.Agrees id) (chanId : Int64) : (s.bindAccount chanId).Agrees id := by
  rw [bindAccount_eq]
  rcases s.registry.owner?_bindAccount chanId with ⟨hnone, ho⟩ | ⟨p, -, hsome, ho⟩
  · intro c
    simp only [hnone, ho, Option.map_none, Option.toList_none, List.append_nil]
    exact h c
  · exact h.give (o := ⟨chanId, p.id, p.feed⟩) rfl ho (by rw [hsome]; rfl)

theorem unsubscribed (h : s.Agrees id) (chanId : Int64) :
    ((s.closeChannel chanId).emit (.unsubscribed chanId)).Agrees id := by
  rw [closeChannel_eq]
  intro c
  have ho : (s.registry.perform (.close chanId)).owner? c = _ :=
    s.registry.owner?_closeOwner chanId c
  simp only [Session.emit, ho, ownerIn_append]
  by_cases hc : c = chanId
  · simp [ConnectionEvent.owner, hc]
  · rw [if_neg hc]
    simpa [ConnectionEvent.owner, Ne.symm hc] using h c

/-- A channel that another subscription loses was not this one's. -/
theorem closeChannel (h : s.Agrees id) {chanId : Int64}
    (hne : ∀ a, s.registry.owner? chanId = some a → a.id ≠ id) :
    (s.closeChannel chanId).Agrees id := by
  rw [closeChannel_eq]
  intro c
  have ho : (s.registry.perform (.close chanId)).owner? c = _ :=
    s.registry.owner?_closeOwner chanId c
  simp only [ho]
  by_cases hc : c = chanId
  · subst hc
    rw [if_pos rfl, h c]
    constructor
    · rintro ⟨a, ha, hid⟩
      exact absurd hid (hne a ha)
    · rintro ⟨a, ha, -⟩
      cases ha
  · rw [if_neg hc]
    exact h c

theorem conclude (s : Session) (result : Except ConnectionError Unit) (id : Nat) :
    (s.conclude result).Agrees id := by
  rw [conclude_eq]
  intro c
  have hnone : (s.registry.perform (.drain (.terminated (endingOf result)))).owner? c = none := by
    rw [Registry.owner?_eq_none]
    simp [Registry.perform, Registry.drain]
  simp [ownerIn_append, ConnectionEvent.owner, hnone]

end Agrees

theorem agrees_turn {s s' : Session} {id : Nat} (h : s.Agrees id) (hs : s.Sound)
    (hid : ¬s.registry.Left id) (ht : s.Turn s') : s'.Agrees id := by
  -- the channel that the loop takes from a subscriber that has left is not this one's
  have hrelease : ∀ {b l m}, s.phase = .delivering b l →
      (s.registry.sink? b.id).any (·.detached) = true →
      ((s.offering b.id m).closeChannel b.chanId).Agrees id := by
    intro b l m hp hd
    have hoff : (s.offering b.id m).Agrees id :=
      h.of_eq (Registry.entries_offer ..).2.1 fun _ => rfl
    refine hoff.closeChannel fun a ha he => ?_
    rw [owner?_offering] at ha
    obtain ⟨a', ha', hb⟩ := hs.delivering b l hp
    rw [ha] at ha'
    cases ha'
    exact hid (Registry.left_of_any (he ▸ hb ▸ hd))
  cases ht with
  | @halt s₁ result hh => exact Agrees.conclude s₁ result id
  | connected hp hl => exact (h.setState _).of_eq rfl fun _ => rfl
  | publicly hp hr => exact (h.setState _).of_eq rfl fun _ => rfl
  | authenticating hp ha hl => exact (h.setState _).of_eq rfl fun _ => rfl
  | opened hp => exact (h.setState _).of_eq rfl fun _ => rfl
  | @joined chanId cs hp hc hr ha =>
    have hread : { s with commands := cs }.Agrees id := h
    exact (hread.bindAccount chanId).of_eq rfl fun _ => rfl
  | @authenticated p d r hp hf hr =>
    simp only [concludeHandshake, hr, if_true]
    have hread : s.read.Agrees id := h
    have hemit : (s.read.emit (.authenticated r.userId)).Agrees id := hread.emit fun _ _ => rfl
    have hchan : { s.read.emit (.authenticated r.userId) with
        accountChan := some (r.chanId.getD accountChanId) }.Agrees id := hemit
    exact ((hchan.bindAccount _).setState _).of_eq rfl fun _ => rfl
  | informed hp hf => exact Agrees.emit (s := s.read) h fun _ _ => rfl
  | acknowledged hp hf => exact Agrees.acknowledge (s := s.read) h _
  | unsubscribed hp hf => exact Agrees.unsubscribed (s := s.read) h _
  | @refused l r hp hf =>
    rcases refuse_eq s.read r with ⟨a, p, -, -, he⟩ | ⟨-, he⟩
    · rw [he]
      exact h.of_eq (s.registry.active_refuse a _) fun _ => rfl
    · rw [he]
      exact Agrees.emit (s := s.read) h fun _ _ => rfl
  | delivered hp hr hm ho => exact h.of_eq (Registry.entries_offer ..).2.1 fun _ => rfl
  | abandoned hp hm ho hd => exact h.of_eq (Registry.entries_offer ..).2.1 fun _ => rfl
  | released hp hm ho hd hc => exact (hrelease hp hd).of_eq rfl fun _ => rfl
  | releasing hp hm ho hd hc hl => exact (hrelease hp hd).of_eq rfl fun _ => rfl
  | _ => exact h.of_eq rfl fun _ => rfl

theorem agrees_act {s : Session} {id : Nat} (h : s.Agrees id) (hs : s.Sound)
    (hid : ¬s.registry.Left id) (a : Act) : (s.act a).Agrees id := by
  by_cases ha : a = .step
  · subst ha
    rcases s.act_step_cases with he | ⟨-, ht⟩
    · rw [he]
      exact h
    · exact agrees_turn h hs hid ht
  · obtain ⟨-, -, hevents, -⟩ := s.fields_act ha
    exact h.of_eq (s.entries_act ha).1 fun c => by rw [hevents]

/-- At every point of a run, events and registry agree on the channels of a subscription whose
subscriber has not left. -/
theorem agrees_run {s : Session} (hs : s.Sound) (h : ∀ id, s.Agrees id) (acts : List Act) {id : Nat}
    (hid : ¬(s.run acts).registry.Left id) : (s.run acts).Agrees id := by
  induction acts using List.reverseRecOn with
  | nil => exact h id
  | append_singleton acts a ih =>
    rw [run_concat] at hid ⊢
    have hid' : ¬(s.run acts).registry.Left id :=
      fun hleft => hid (left_performs (performs_act _ a) (hs.run acts) hleft)
    exact agrees_act (ih hid') (hs.run acts) hid' a

theorem agrees_create (config : ConnectionConfig) (signer : Signer) (counter : Counter)
    (link : Link) (id : Nat) : (create config signer counter link).Agrees id := by
  intro c
  simp [create, ownerIn, Registry.owner?, Registry.empty]

end Session
end MarketWire
