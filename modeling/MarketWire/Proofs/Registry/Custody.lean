import Mathlib.Data.List.Range
import MarketWire.Proofs.Registry.Channel
import MarketWire.Proofs.Registry.Passage

/-!
# Custody of sinks

A subscription that leaves the registry is handed back to the caller, who says why and closes its
sink, or it has lost its channel to another one and has been told so. A caller closes no other
sinks. So a number that is given out is at every moment in one place and in one alone: it is in the
registry with an open sink, or it has been handed back, or its channel has gone to another.
-/
namespace MarketWire

/-- What may become of a subscription at once; `none` is a number that is not given out yet. -/
inductive SubscriptionState.Next : Option SubscriptionState → Option SubscriptionState → Prop where
  | stay (s : Option SubscriptionState) : Next s s
  | issued : Next none (some .pending)
  | bound : Next (some .pending) (some .active)
  | refused : Next (some .pending) (some .closed)
  | ended : Next (some .active) (some .closed)

namespace Registry

/-- The owner that an answer takes the channel from. -/
def oustedBy (r : Registry) (a : Ack) (chanId : Int64) : List Nat :=
  ((r.bind a chanId).1.bind fun _ => r.owner? chanId).toList.map (·.id)

def Settled (r : Registry) (id : Nat) : Prop := ∃ k, r.sink? id = some k ∧ k.closed = true

/-- From `r` to `r'` no subscription comes, and those in `out` leave, each once. -/
structure Parts (r r' : Registry) (out : List Nat) : Prop where
  sound : r'.Sound
  nextId : r'.nextId = r.nextId
  pending : ∀ p ∈ r'.pending, ∃ q ∈ r.pending, q.id = p.id
  placed : (r'.ids ++ out).Perm r.ids
  settled : ∀ id, r.Settled id → r'.Settled id

variable {r r' : Registry}

theorem Parts.of_sinks (hsound : r'.Sound)
    (he : r'.pending = r.pending ∧ r'.active = r.active ∧ r'.nextId = r.nextId)
    {P : Nat → Prop} [DecidablePred P] {f : Sink StreamMessage → Sink StreamMessage}
    (hs : ∀ id, r'.sink? id = if P id then (r.sink? id).map f else r.sink? id)
    (hf : ∀ k, k.closed = true → (f k).closed = true) : r.Parts r' [] where
  sound := hsound
  nextId := he.2.2
  pending := fun p hp => ⟨p, he.1 ▸ hp, rfl⟩
  placed := by
    rw [List.append_nil, ids_eq_of_entries he]
  settled := by
    rintro id ⟨k, hk, hc⟩
    by_cases hid : P id
    · exact ⟨f k, by rw [hs, if_pos hid, hk]; rfl, hf k hc⟩
    · exact ⟨k, by rw [hs, if_neg hid, hk], hc⟩

theorem Settled.activate {id : Nat} (h : r.Settled id) (chanId : Int64) (p : Pending) :
    (r.activate chanId p).Settled id := by
  obtain ⟨k, hk, hc⟩ := h
  have hs := r.sink?_activate chanId p id
  rw [hk] at hs
  -- a channel leaves a sink closed, and so does a second end
  have hbound : ∃ k', (if id = p.id then (some k).map (·.setChanId chanId) else some k) = some k' ∧
      k'.closed = true := by
    split
    · exact ⟨_, rfl, hc⟩
    · exact ⟨k, rfl, hc⟩
  obtain ⟨k', hk', hc'⟩ := hbound
  rw [hk'] at hs
  dsimp only at hs
  split at hs
  · exact ⟨_, hs, Sink.closed_finish k' _⟩
  · exact ⟨k', hs, hc'⟩

theorem perm_takeAgreeing {a : Ack} {p : Pending} (hp : (r.takeAgreeing a).1 = some p) :
    (p.id :: (r.takeAgreeing a).2.ids).Perm r.ids := by
  obtain ⟨-, before, after, hs, -, he⟩ := takeAgreeing_eq_some hp
  unfold ids
  rw [he, hs]
  simp only [List.map_append, List.map_cons, List.append_assoc, List.cons_append]
  exact List.perm_middle.symm

theorem perm_withoutPrivates (r : Registry) :
    (r.withoutPrivates.ids ++ r.privates.map (·.id)).Perm r.ids := by
  have hpending : (r.privates ++ r.withoutPrivates.pending).Perm r.pending :=
    List.filter_append_perm _ _
  have hids : (r.privates.map (·.id) ++ r.withoutPrivates.pending.map (·.id)).Perm
      (r.pending.map (·.id)) := by
    rw [← List.map_append]
    exact hpending.map _
  apply List.perm_append_comm.trans
  unfold ids
  rw [← List.append_assoc]
  exact hids.append_right _

namespace Sound

theorem nodup_ids (h : r.Sound) : r.ids.Nodup := by
  have hpending : (r.pending.map (·.id)).Nodup :=
    List.pairwise_map.mpr (h.ordered.imp Nat.ne_of_lt)
  have hactive : (r.active.map (·.id)).Nodup := List.pairwise_map.mpr (h.distinct.imp And.left)
  apply hpending.append hactive
  intro id hp ha
  obtain ⟨p, hpm, rfl⟩ := List.mem_map.mp hp
  obtain ⟨a, ham, he⟩ := List.mem_map.mp ha
  exact h.apart p hpm a ham he.symm

theorem placed_of_mem (h : r.Sound) (h' : r'.Sound) {out : List Nat} (hout : out.Nodup)
    (hleft : ∀ id ∈ out, id ∉ r'.ids) (hmem : ∀ id, id ∈ r.ids ↔ id ∈ r'.ids ∨ id ∈ out) :
    (r'.ids ++ out).Perm r.ids := by
  have hnodup : (r'.ids ++ out).Nodup :=
    h'.nodup_ids.append hout fun id hin hid => hleft id hid hin
  apply (List.perm_ext_iff_of_nodup hnodup h.nodup_ids).mpr
  intro id
  rw [List.mem_append, hmem]

/-! ## Each operation -/

theorem parts_unbind (h : r.Sound) (chanId : Int64) :
    r.Parts (r.unbind chanId).2 (r.unbind chanId).1.toList := by
  have hsound : (r.unbind chanId).2.Sound := h.withoutOwner chanId
  have hids : ∀ id, id ∈ (r.unbind chanId).2.ids ↔ id ∈ r.ids ∧
      ∀ old, r.owner? chanId = some old → old.id ≠ id := fun id => h.mem_ids_withoutOwner
  constructor
  · exact hsound
  · rfl
  · exact fun p hp => ⟨p, hp, rfl⟩
  · change ((r.unbind chanId).2.ids ++ ((r.owner? chanId).map (·.id)).toList).Perm r.ids
    cases ho : r.owner? chanId with
    | none =>
      rw [ho] at hids
      apply h.placed_of_mem hsound List.nodup_nil (by simp)
      intro id
      simp [hids]
    | some old =>
      have hold : old.id ∈ r.ids := mem_ids_of_active (owner?_eq_some ho).1
      rw [ho] at hids
      apply h.placed_of_mem hsound
      · simp
      · simp [hids]
      · intro id
        by_cases hid : old.id = id
        · simp [hids, ← hid, hold]
        · simp [hids, hid, Ne.symm hid]
  · exact fun _ hc => hc

/-- A subscription that gets a channel comes in, and the channel's owner leaves. -/
theorem perm_activate (h : r.Sound) (chanId : Int64) (p : Pending) :
    ((r.activate chanId p).ids ++ ((r.owner? chanId).map (·.id)).toList).Perm (p.id :: r.ids) := by
  have hids : (r.activate chanId p).ids.Perm (p.id :: (r.withoutOwner chanId).ids) := by
    unfold ids
    rw [pending_activate, active_activate]
    exact List.perm_middle
  exact (hids.append_right _).trans ((h.parts_unbind chanId).placed.cons p.id)

theorem parts_bind (h : r.Sound) (a : Ack) (chanId : Int64) :
    r.Parts (r.bind a chanId).2 (r.oustedBy a chanId) := by
  have hsound := h.bind a chanId
  unfold oustedBy
  cases hp : (r.takeAgreeing a).1 with
  | none =>
    rw [bind_of_none hp] at hsound ⊢
    exact ⟨hsound, rfl, fun p hp => ⟨p, hp, rfl⟩, by simp, fun _ hc => hc⟩
  | some p =>
    rw [bind_of_some hp] at hsound ⊢
    constructor
    · exact hsound
    · exact nextId_activate ..
    · rw [pending_activate]
      exact fun q hq => ⟨q, (sublist_takeAgreeing hp).subset hq, rfl⟩
    · have howner : (r.takeAgreeing a).2.owner? chanId = r.owner? chanId := rfl
      have hcome := (h.takeAgreeing hp).1.perm_activate chanId p
      rw [howner, Option.toList_map] at hcome
      exact hcome.trans (perm_takeAgreeing hp)
    · intro id hc
      exact Settled.activate (r := (r.takeAgreeing a).2) hc chanId p

theorem parts_bindAccount (h : r.Sound) (chanId : Int64) :
    r.Parts (r.bindAccount chanId).2.2 (r.bindAccount chanId).2.1 := by
  have hsound := (h.handed_bindAccount chanId).1
  have hsub : ∀ p ∈ r.withoutPrivates.pending, ∃ q ∈ r.pending, q.id = p.id :=
    fun p hp => ⟨p, (List.mem_filter.mp hp).1, rfl⟩
  have hplaced := r.perm_withoutPrivates
  cases ho : r.owner? chanId with
  | some a =>
    rw [bindAccount_of_owner ho] at hsound ⊢
    exact ⟨hsound, rfl, hsub, hplaced, fun _ hc => hc⟩
  | none =>
    cases hps : r.privates with
    | nil =>
      rw [hps] at hplaced
      rw [bindAccount_of_nil hps] at hsound ⊢
      exact ⟨hsound, rfl, hsub, hplaced, fun _ hc => hc⟩
    | cons p ps =>
      rw [hps] at hplaced
      rw [bindAccount_of_cons ho hps] at hsound ⊢
      have hcome := h.withoutPrivates.perm_activate chanId p
      have hfree : r.withoutPrivates.owner? chanId = none := ho
      rw [hfree, Option.map_none, Option.toList_none, List.append_nil] at hcome
      constructor
      · exact hsound
      · exact nextId_activate ..
      · rw [pending_activate]
        exact hsub
      · exact (hcome.append_right _).trans (List.perm_middle.symm.trans hplaced)
      · intro id hc
        exact Settled.activate (r := r.withoutPrivates) hc chanId p

theorem parts_reject (h : r.Sound) (a : Ack) :
    r.Parts (r.reject a).2 (r.reject a).1.toList := by
  have heq : r.reject a = ((r.takeAgreeing a).1.map (·.id), (r.takeAgreeing a).2) := rfl
  rw [heq]
  cases hp : (r.takeAgreeing a).1 with
  | none =>
    rw [(takeAgreeing_eq_none hp).2]
    exact ⟨h, rfl, fun p hp => ⟨p, hp, rfl⟩, by simp, fun _ hc => hc⟩
  | some p =>
    constructor
    · exact (h.takeAgreeing hp).1
    · rfl
    · exact fun q hq => ⟨q, (sublist_takeAgreeing hp).subset hq, rfl⟩
    · exact (List.perm_append_singleton _ _).trans (perm_takeAgreeing hp)
    · exact fun _ hc => hc

theorem parts_drain (h : r.Sound) : r.Parts r.drain.2 r.drain.1 where
  sound := h.sublist (List.nil_sublist r.pending) (List.nil_sublist r.active)
  nextId := rfl
  pending := fun _ hp => absurd hp List.not_mem_nil
  placed := List.Perm.refl r.ids
  settled := fun _ hc => hc

theorem parts_takeUnsent (h : r.Sound) : r.Parts r.takeUnsent.2 [] where
  sound := h.takeUnsent
  nextId := rfl
  pending := by
    intro p hp
    obtain ⟨q, hq, rfl⟩ := List.mem_map.mp hp
    exact ⟨q, hq, rfl⟩
  placed := by
    rw [List.append_nil, ids_takeUnsent]
  settled := fun _ hc => hc

/-! ## States -/

end Sound

/-- Where a number stands in a registry. -/
inductive Stands (r : Registry) (id : Nat) : Option SubscriptionState → Prop where
  | pending {p : Pending} (hp : p ∈ r.pending) (he : p.id = id) : Stands r id (some .pending)
  | active (hp : ∀ p ∈ r.pending, p.id ≠ id) {a : Active} (ha : a ∈ r.active) (he : a.id = id) :
      Stands r id (some .active)
  | closed (hid : id ∉ r.ids) (hlt : id < r.nextId) : Stands r id (some .closed)
  | unknown (hid : id ∉ r.ids) (hle : r.nextId ≤ id) : Stands r id none

theorem stands (r : Registry) (id : Nat) : r.Stands id (r.state? id) := by
  unfold state?
  split
  · rename_i hp
    obtain ⟨p, hp, he⟩ := List.any_eq_true.mp hp
    exact .pending hp (by simpa using he)
  · rename_i hp
    have hp' : ∀ p ∈ r.pending, p.id ≠ id := by simpa using hp
    split
    · rename_i ha
      obtain ⟨a, ha, he⟩ := List.any_eq_true.mp ha
      exact .active hp' ha (by simpa using he)
    · rename_i ha
      have hid : id ∉ r.ids := by
        rintro hin
        rcases mem_ids.mp hin with ⟨p, hpm, he⟩ | ⟨a, ham, he⟩
        · exact hp' p hpm he
        · exact ha (List.any_eq_true.mpr ⟨a, ham, by simpa using he⟩)
      split
      · exact .closed hid ‹_›
      · exact .unknown hid (Nat.le_of_not_lt ‹_›)

theorem state?_of_pending {p : Pending} (hp : p ∈ r.pending) : r.state? p.id = some .pending := by
  have hany : r.pending.any (·.id == p.id) = true := List.any_eq_true.mpr ⟨p, hp, by simp⟩
  simp [state?, hany]

theorem state?_of_left {id : Nat} (hid : id ∉ r.ids) (hlt : id < r.nextId) :
    r.state? id = some .closed := by
  have hs := r.stands id
  generalize r.state? id = s at hs ⊢
  cases hs with
  | pending hp he => exact absurd (mem_ids.mpr (Or.inl ⟨_, hp, he⟩)) hid
  | active _ ha he => exact absurd (mem_ids.mpr (Or.inr ⟨_, ha, he⟩)) hid
  | closed => rfl
  | unknown _ hle => omega

theorem Sound.state?_eq_none_iff (h : r.Sound) (id : Nat) :
    r.state? id = none ↔ r.nextId ≤ id := by
  have hlt : id ∈ r.ids → id < r.nextId := h.issued id
  have hs := r.stands id
  generalize r.state? id = s at hs ⊢
  cases hs with
  | pending hp he =>
    have hid := hlt (mem_ids.mpr (Or.inl ⟨_, hp, he⟩))
    simp [hid]
  | active hp ha he =>
    have hid := hlt (mem_ids.mpr (Or.inr ⟨_, ha, he⟩))
    simp [hid]
  | closed hid hlt => simp [hlt]
  | unknown hid hle => simp [hle]

/-- Who leaves is closed, and who is not pending any more owns a channel or has left. -/
theorem Parts.next {out : List Nat} (h : r.Sound) (hr : r.Parts r' out) (id : Nat) :
    SubscriptionState.Next (r.state? id) (r'.state? id) := by
  have hback : id ∈ r'.ids → id ∈ r.ids :=
    fun hid => hr.placed.subset (List.mem_append_left out hid)
  have hin : id ∈ r.ids → id < r.nextId := h.issued id
  have hin' : id ∈ r'.ids → id < r'.nextId := hr.sound.issued id
  have hpending : ∀ {p : Pending}, p ∈ r'.pending → p.id = id → ∃ q ∈ r.pending, q.id = id :=
    fun hp he => he ▸ hr.pending _ hp
  have hnext := hr.nextId
  have hs := r.stands id
  have hs' := r'.stands id
  generalize r.state? id = s at hs ⊢
  generalize r'.state? id = s' at hs' ⊢
  cases hs with
  | pending hp he =>
    have hlt := hin (mem_ids.mpr (Or.inl ⟨_, hp, he⟩))
    cases hs' with
    | pending => exact .stay _
    | active => exact .bound
    | closed => exact .refused
    | unknown hid hle => omega
  | active hp ha he =>
    have hlt := hin (mem_ids.mpr (Or.inr ⟨_, ha, he⟩))
    cases hs' with
    | pending hp' he' =>
      obtain ⟨q, hq, hqe⟩ := hpending hp' he'
      exact absurd hqe (hp q hq)
    | active => exact .stay _
    | closed => exact .ended
    | unknown hid hle => omega
  | closed hid hlt =>
    cases hs' with
    | pending hp' he' => exact absurd (hback (mem_ids.mpr (Or.inl ⟨_, hp', he'⟩))) hid
    | active _ ha' he' => exact absurd (hback (mem_ids.mpr (Or.inr ⟨_, ha', he'⟩))) hid
    | closed => exact .stay _
    | unknown hid hle => omega
  | unknown hid hle =>
    cases hs' with
    | pending hp' he' => exact absurd (hback (mem_ids.mpr (Or.inl ⟨_, hp', he'⟩))) hid
    | active _ ha' he' => exact absurd (hback (mem_ids.mpr (Or.inr ⟨_, ha', he'⟩))) hid
    | closed _ hlt' => omega
    | unknown => exact .stay _

theorem Sound.next_subscribe (h : r.Sound) (feed : Feed) (capacity : Nat) (overflow : Overflow)
    (id : Nat) :
    SubscriptionState.Next (r.state? id) ((r.subscribe feed capacity overflow).2.state? id) := by
  have hp : (r.subscribe feed capacity overflow).2.pending = r.pending ++ [⟨r.nextId, feed, false⟩] :=
    rfl
  have ha : (r.subscribe feed capacity overflow).2.active = r.active := rfl
  have hn : (r.subscribe feed capacity overflow).2.nextId = r.nextId + 1 := rfl
  by_cases hid : id = r.nextId
  · have hnone := (h.state?_eq_none_iff id).mpr (Nat.le_of_eq hid.symm)
    have hsome : (r.subscribe feed capacity overflow).2.state? id = some .pending := by
      simp [state?, hp, hid]
    rw [hnone, hsome]
    exact .issued
  · have hlt : id < r.nextId + 1 ↔ id < r.nextId := by omega
    have hsame : (r.subscribe feed capacity overflow).2.state? id = r.state? id := by
      simp [state?, hp, ha, hn, hlt, Ne.symm hid]
    rw [hsame]
    exact .stay _

theorem Sound.chanIdOf?_eq_some_iff (h : r.Sound) (id : Nat) (chanId : Int64) :
    r.chanIdOf? id = some chanId ↔ ∃ a, r.owner? chanId = some a ∧ a.id = id := by
  unfold chanIdOf?
  rw [Option.map_eq_some_iff]
  constructor
  · rintro ⟨a, ha, rfl⟩
    have hmem : a ∈ r.active := List.mem_of_find?_eq_some ha
    have he : a.id = id := by simpa using List.find?_some ha
    exact ⟨a, h.owner?_of_mem hmem, he⟩
  · rintro ⟨a, ho, rfl⟩
    obtain ⟨hmem, rfl⟩ := owner?_eq_some ho
    cases hf : r.active.find? (·.id == a.id) with
    | none =>
      have hne := List.find?_eq_none.mp hf a hmem
      simp at hne
    | some b =>
      have hb : b.id = a.id := by simpa using List.find?_some hf
      exact ⟨b, rfl, by rw [h.active_eq_of_id_eq (List.mem_of_find?_eq_some hf) hmem hb]⟩

end Registry

/-! ## Calls -/

/-- A registry and what its caller has got from it. -/
structure Custody where
  registry : Registry
  /-- The numbers that were given out. -/
  issued : List Nat
  /-- The subscriptions that were handed back. -/
  returned : List Nat
  /-- The subscriptions whose channels went to others. -/
  ousted : List Nat

namespace Custody

def empty : Custody := ⟨.empty, [], [], []⟩

inductive Call where
  | subscribe (feed : Feed) (capacity : Nat) (overflow : Overflow)
  | takeUnsent
  | bind (a : Ack) (chanId : Int64)
  | bindAccount (chanId : Int64)
  | reject (a : Ack)
  | unbind (chanId : Int64)
  | drain
  | offer (id : Nat) (m : StreamMessage)
  | receive (id : Nat)
  | detach (id : Nat)
  | finish (id : Nat) (m : StreamMessage)
  | close (id : Nat)

namespace Call

def registry (r : Registry) : Call → Registry
  | .subscribe feed capacity overflow => (r.subscribe feed capacity overflow).2
  | .takeUnsent => r.takeUnsent.2
  | .bind a chanId => (r.bind a chanId).2
  | .bindAccount chanId => (r.bindAccount chanId).2.2
  | .reject a => (r.reject a).2
  | .unbind chanId => (r.unbind chanId).2
  | .drain => r.drain.2
  | .offer id m => (r.offer id m).2
  | .receive id => (r.receive id).2
  | .detach id => r.detach id
  | .finish id m => (r.finish id m).2
  | .close id => r.updateSink id Sink.close

def issued (r : Registry) : Call → List Nat
  | .subscribe feed capacity overflow => [(r.subscribe feed capacity overflow).1]
  | _ => []

def returned (r : Registry) : Call → List Nat
  | .bindAccount chanId => (r.bindAccount chanId).2.1
  | .reject a => (r.reject a).1.toList
  | .unbind chanId => (r.unbind chanId).1.toList
  | .drain => r.drain.1
  | _ => []

def ousted (r : Registry) : Call → List Nat
  | .bind a chanId => r.oustedBy a chanId
  | _ => []

theorem issued_eq_nil (r : Registry) {c : Call}
    (hs : ∀ feed capacity overflow, c ≠ .subscribe feed capacity overflow) : c.issued r = [] := by
  cases c with
  | subscribe feed capacity overflow => exact absurd rfl (hs feed capacity overflow)
  | _ => rfl

end Call

/-- A caller ends what was handed back to it, and nothing else. -/
def Permits (d : Custody) : Call → Prop
  | .finish id _ | .close id => id ∈ d.returned
  | _ => True

def make (d : Custody) (c : Call) : Custody where
  registry := c.registry d.registry
  issued := d.issued ++ c.issued d.registry
  returned := d.returned ++ c.returned d.registry
  ousted := d.ousted ++ c.ousted d.registry

inductive Reachable : Custody → Prop where
  | empty : Reachable empty
  | make {d : Custody} {c : Call} (h : Reachable d) (hc : d.Permits c) : Reachable (d.make c)

structure Sound (d : Custody) : Prop where
  registry : d.registry.Sound
  issued : d.issued = List.range d.registry.nextId
  /-- Every number is in one place. -/
  placed : (d.registry.ids ++ (d.returned ++ d.ousted)).Perm d.issued
  settled : ∀ id ∈ d.ousted, d.registry.Settled id

theorem sound_empty : empty.Sound where
  registry := Registry.sound_empty
  issued := rfl
  placed := List.Perm.refl _
  settled := by simp [empty]

variable {d : Custody}

namespace Sound

theorem nodup_places (h : d.Sound) : (d.registry.ids ++ (d.returned ++ d.ousted)).Nodup := by
  rw [h.placed.nodup_iff, h.issued]
  exact List.nodup_range

theorem not_mem_ids_of_returned (h : d.Sound) {id : Nat} (hid : id ∈ d.returned) :
    id ∉ d.registry.ids := by
  have hdisjoint := (List.nodup_append'.mp h.nodup_places).2.2
  exact fun hin => hdisjoint hin (List.mem_append_left _ hid)

theorem parts (h : d.Sound) {c : Call} (hc : d.Permits c)
    (hs : ∀ feed capacity overflow, c ≠ .subscribe feed capacity overflow) :
    d.registry.Parts (c.registry d.registry) (c.returned d.registry ++ c.ousted d.registry) := by
  have hr := h.registry
  cases c with
  | subscribe feed capacity overflow => exact absurd rfl (hs feed capacity overflow)
  | takeUnsent => exact hr.parts_takeUnsent
  | bind a chanId => exact hr.parts_bind a chanId
  | bindAccount chanId => exact (List.append_nil _).symm ▸ hr.parts_bindAccount chanId
  | reject a => exact (List.append_nil _).symm ▸ hr.parts_reject a
  | unbind chanId => exact (List.append_nil _).symm ▸ hr.parts_unbind chanId
  | drain => exact (List.append_nil _).symm ▸ hr.parts_drain
  | offer id m =>
    exact .of_sinks (hr.perform (.offer id m)) (Registry.entries_offer ..)
      (Registry.sink?_offer d.registry id m) fun k => (Sink.fields_offer k m).1.trans
  | receive id =>
    exact .of_sinks (hr.perform (.receive id)) (Registry.entries_receive ..)
      (Registry.sink?_receive d.registry id) fun k => k.fields_receive.1.trans
  | detach id =>
    exact .of_sinks (hr.perform (.detach id)) ⟨rfl, rfl, rfl⟩
      (fun k => Registry.sink?_updateSink d.registry id k Sink.detach) fun _ hk => hk
  | finish id m =>
    have hout : ∀ k ∈ [id], k ∉ d.registry.ids := by
      simpa using h.not_mem_ids_of_returned hc
    exact .of_sinks (hr.finishAll hout m) (Registry.entries_finish ..)
      (Registry.sink?_finish d.registry id m) fun k _ => Sink.closed_finish k m
  | close id =>
    have hout := h.not_mem_ids_of_returned hc
    have hsound := hr.updateSink id (f := Sink.close) (fun _ => rfl) fun hin => absurd hin hout
    exact .of_sinks hsound ⟨rfl, rfl, rfl⟩
      (fun k => Registry.sink?_updateSink d.registry id k Sink.close) fun _ _ => rfl

theorem finish_ousted (h : d.Sound) {a : Ack} {chanId : Int64} {id : Nat}
    (hid : id ∈ d.registry.oustedBy a chanId) :
    ∃ k, d.registry.sink? id = some k ∧ k.closed = false ∧
      (d.registry.bind a chanId).2.sink? id =
        some (k.finish (Registry.reassigned chanId)).2 := by
  have hr := h.registry
  unfold Registry.oustedBy at hid
  cases hp : (d.registry.takeAgreeing a).1 with
  | none =>
    rw [Registry.bind_of_none hp] at hid
    simp at hid
  | some p =>
    rw [Registry.bind_of_some hp] at hid ⊢
    obtain ⟨old, ho, rfl⟩ := List.mem_map.mp hid
    have ho : d.registry.owner? chanId = some old := by simpa using ho
    have hin : old.id ∈ d.registry.ids :=
      Registry.mem_ids_of_active (Registry.owner?_eq_some ho).1
    obtain ⟨k, hk⟩ := Option.isSome_iff_exists.mp ((hr.known old.id).mpr (hr.issued old.id hin))
    obtain ⟨h₁, -, hout⟩ := hr.takeAgreeing hp
    have howner : (d.registry.takeAgreeing a).2.owner? chanId = some old := ho
    have hsink : (d.registry.takeAgreeing a).2.sink? old.id = some k := hk
    refine ⟨k, hk, hr.opened old.id hin k hk, ?_⟩
    rw [h₁.sink?_activate_owner hout howner, hsink]
    rfl

theorem subscribe (h : d.Sound) (feed : Feed) (capacity : Nat) (overflow : Overflow) :
    (d.make (.subscribe feed capacity overflow)).Sound := by
  have hr := h.registry
  have hnew : (d.registry.subscribe feed capacity overflow).2.ids.Perm
      (d.registry.nextId :: d.registry.ids) := by
    simp only [Registry.ids, Registry.subscribe, Registry.allocate, Registry.register,
      List.map_append, List.map_cons, List.map_nil, List.append_assoc, List.singleton_append]
    exact List.perm_middle
  constructor
  · exact hr.subscribe feed capacity overflow
  · change d.issued ++ [d.registry.nextId] = List.range (d.registry.nextId + 1)
    rw [h.issued, List.range_succ]
  · change ((d.registry.subscribe feed capacity overflow).2.ids ++
      ((d.returned ++ []) ++ (d.ousted ++ []))).Perm (d.issued ++ [d.registry.nextId])
    rw [List.append_nil, List.append_nil]
    calc List.Perm
          ((d.registry.subscribe feed capacity overflow).2.ids ++ (d.returned ++ d.ousted))
          (d.registry.nextId :: (d.registry.ids ++ (d.returned ++ d.ousted))) :=
        hnew.append_right _
      List.Perm _ (d.registry.nextId :: d.issued) := h.placed.cons _
      List.Perm _ (d.issued ++ [d.registry.nextId]) := (List.perm_append_singleton _ _).symm
  · intro id hid
    have hid : id ∈ d.ousted := by simpa [make, Call.ousted] using hid
    obtain ⟨k, hk, hc⟩ := h.settled id hid
    have hne : id ≠ d.registry.nextId := by
      rintro rfl
      rw [hr.sink?_nextId] at hk
      cases hk
    exact ⟨k, by rw [make, Call.registry, hr.sink?_subscribe, if_neg hne, hk], hc⟩

theorem make (h : d.Sound) {c : Call} (hc : d.Permits c) : (d.make c).Sound := by
  by_cases hs : ∃ feed capacity overflow, c = .subscribe feed capacity overflow
  · obtain ⟨feed, capacity, overflow, rfl⟩ := hs
    exact h.subscribe feed capacity overflow
  · have hs' : ∀ feed capacity overflow, c ≠ .subscribe feed capacity overflow :=
      fun feed capacity overflow he => hs ⟨feed, capacity, overflow, he⟩
    have hparts := h.parts hc hs'
    have hnone : c.issued d.registry = [] := Call.issued_eq_nil d.registry hs'
    constructor
    · exact hparts.sound
    · change d.issued ++ c.issued d.registry = List.range (c.registry d.registry).nextId
      rw [hnone, hparts.nextId, List.append_nil, h.issued]
    · -- what leaves the registry joins those that left it before
      change ((c.registry d.registry).ids ++ ((d.returned ++ c.returned d.registry) ++
        (d.ousted ++ c.ousted d.registry))).Perm (d.issued ++ c.issued d.registry)
      rw [hnone, List.append_nil]
      refine List.Perm.trans ?_ ((hparts.placed.append_right _).trans h.placed)
      rw [List.perm_iff_count]
      intro id
      simp only [List.count_append]
      omega
    · intro id hid
      rcases List.mem_append.mp hid with hid | hid
      · exact hparts.settled id (h.settled id hid)
      · cases c with
        | bind a chanId =>
          obtain ⟨k, -, -, hk'⟩ := h.finish_ousted hid
          exact ⟨_, hk', Sink.closed_finish k _⟩
        | _ => cases hid

end Sound

theorem Reachable.sound (h : d.Reachable) : d.Sound := by
  induction h with
  | empty => exact sound_empty
  | make _ hc ih => exact ih.make hc

/-! ## Every sequence of calls -/

/-- What holds of a registry whatever it has been asked. -/
structure Represented (d : Custody) : Prop where
  nodup : d.registry.ids.Nodup
  bounded : ∀ id ∈ d.registry.ids, id < d.registry.nextId
  increasing : d.registry.pending.Pairwise fun p q => p.id < q.id
  owned : ∀ id chanId, d.registry.chanIdOf? id = some chanId ↔
    ∃ a, d.registry.owner? chanId = some a ∧ a.id = id
  named : ∀ id chanId, d.registry.chanIdOf? id = some chanId →
    ∃ k, d.registry.sink? id = some k ∧ k.chanId = some chanId
  opened : ∀ id ∈ d.registry.ids, ∃ k, d.registry.sink? id = some k ∧ k.closed = false
  unknown : ∀ id, d.registry.state? id = none ↔ id ∉ d.issued
  next : ∀ c, d.Permits c → ∀ id,
    SubscriptionState.Next (d.registry.state? id) ((d.make c).registry.state? id)
  once : d.issued.Nodup
  /-- What was given out is in the registry, or was handed back once, or lost its channel. -/
  placed : (d.registry.ids ++ (d.returned ++ d.ousted)).Perm d.issued
  told : ∀ a chanId p old, (d.registry.bind a chanId).1 = some p →
    d.registry.owner? chanId = some old → old.id ∈ (d.make (.bind a chanId)).ousted ∧
      ∃ k, d.registry.sink? old.id = some k ∧ k.closed = false ∧
        (d.make (.bind a chanId)).registry.sink? old.id =
          some (k.finish (Registry.reassigned chanId)).2
  settled : ∀ id ∈ d.ousted, ∃ k, d.registry.sink? id = some k ∧ k.closed = true

theorem Sound.next (h : d.Sound) {c : Call} (hc : d.Permits c) (id : Nat) :
    SubscriptionState.Next (d.registry.state? id) ((d.make c).registry.state? id) := by
  by_cases hs : ∃ feed capacity overflow, c = .subscribe feed capacity overflow
  · obtain ⟨feed, capacity, overflow, rfl⟩ := hs
    exact h.registry.next_subscribe feed capacity overflow id
  · have hparts := h.parts hc fun feed capacity overflow he => hs ⟨feed, capacity, overflow, he⟩
    exact hparts.next h.registry id

theorem represented (h : d.Reachable) : d.Represented := by
  have hs := h.sound
  have hr := hs.registry
  have hsink : ∀ id ∈ d.registry.ids, ∃ k, d.registry.sink? id = some k := fun id hid =>
    Option.isSome_iff_exists.mp ((hr.known id).mpr (hr.issued id hid))
  constructor
  · exact hr.nodup_ids
  · exact hr.issued
  · exact hr.ordered
  · exact hr.chanIdOf?_eq_some_iff
  · intro id chanId hc
    obtain ⟨a, ho, rfl⟩ := (hr.chanIdOf?_eq_some_iff id chanId).mp hc
    obtain ⟨ha, rfl⟩ := Registry.owner?_eq_some ho
    obtain ⟨k, hk⟩ := hsink a.id (Registry.mem_ids_of_active ha)
    exact ⟨k, hk, hr.named a ha k hk⟩
  · intro id hid
    obtain ⟨k, hk⟩ := hsink id hid
    exact ⟨k, hk, hr.opened id hid k hk⟩
  · intro id
    rw [hr.state?_eq_none_iff, hs.issued, List.mem_range, Nat.not_lt]
  · exact fun c hc => hs.next hc
  · rw [hs.issued]
    exact List.nodup_range
  · exact hs.placed
  · intro a chanId p old hp ho
    have hid : old.id ∈ d.registry.oustedBy a chanId := by
      simp [Registry.oustedBy, hp, ho]
    exact ⟨List.mem_append_right _ hid, hs.finish_ousted hid⟩
  · exact hs.settled

/-- The first of two subscriptions loses its channel to the second one, which is handed back when
the channel ends. -/
theorem represented_rebound :
    let feed := Feed.candles "trade:1m:tBTCUSD"
    let a : Ack := ⟨"candles", none, some "trade:1m:tBTCUSD", none, none⟩
    let calls : List Call := [.subscribe feed 1 .block, .subscribe feed 1 .block, .bind a 7,
      .bind a 7, .unbind 7, .close 1]
    let d := calls.foldl make empty
    d.Reachable ∧ d.ousted = [0] ∧ d.returned = [1] ∧ d.Represented := by
  intro feed a calls d
  have htwo := (Reachable.empty.make (c := .subscribe feed 1 .block) trivial).make
    (c := .subscribe feed 1 .block) trivial
  have hbound := (htwo.make (c := .bind a 7) trivial).make (c := .bind a 7) trivial
  have hreturned := hbound.make (c := .unbind 7) trivial
  have hone : 1 ∈ ((calls.take 5).foldl make empty).returned := by decide
  have hreach : d.Reachable := hreturned.make (c := .close 1) hone
  exact ⟨hreach, by decide, by decide, represented hreach⟩

end Custody
end MarketWire
