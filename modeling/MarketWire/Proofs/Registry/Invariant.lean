import Mathlib.Data.List.Nodup
import MarketWire.Proofs.Registry.Operation

/-!
# The order of a registry

Subscriptions are numbered once, wait in the order of their numbers, and own one channel each; a
subscription is in the registry exactly as long as its sink is open. Every operation keeps this.
-/
namespace MarketWire
namespace Registry

structure Sound (r : Registry) : Prop where
  /-- A number has a sink from the moment it is given out. -/
  known : ∀ id, (r.sink? id).isSome ↔ id < r.nextId
  issued : ∀ id ∈ r.ids, id < r.nextId
  ordered : r.pending.Pairwise fun p q => p.id < q.id
  distinct : r.active.Pairwise fun a b => a.id ≠ b.id ∧ a.chanId ≠ b.chanId
  apart : ∀ p ∈ r.pending, ∀ a ∈ r.active, p.id ≠ a.id
  opened : ∀ id ∈ r.ids, ∀ s, r.sink? id = some s → s.closed = false
  named : ∀ a ∈ r.active, ∀ s, r.sink? a.id = some s → s.chanId = some a.chanId

theorem sound_empty : empty.Sound := by
  constructor <;> simp [empty, ids, sink?, Sinks.get?]

namespace Sound

variable {r r' : Registry}

theorem sink?_nextId (h : r.Sound) : r.sink? r.nextId = none := by
  have hk := h.known r.nextId
  simpa using hk

theorem pending_eq_of_id_eq (h : r.Sound) {p q : Pending} (hp : p ∈ r.pending) (hq : q ∈ r.pending)
    (hid : p.id = q.id) : p = q := by
  refine List.Pairwise.forall_of_forall_of_flip (R := fun p q : Pending => p.id = q.id → p = q)
    (fun _ _ _ => rfl) (h.ordered.imp fun hlt he => ?_) (h.ordered.imp fun hlt he => ?_) hp hq hid
  · omega
  · omega

theorem active_eq_of_id_eq (h : r.Sound) {a b : Active} (ha : a ∈ r.active) (hb : b ∈ r.active)
    (hid : a.id = b.id) : a = b := by
  refine List.Pairwise.forall_of_forall_of_flip (R := fun a b : Active => a.id = b.id → a = b)
    (fun _ _ _ => rfl) (h.distinct.imp fun hne he => ?_) (h.distinct.imp fun hne he => ?_) ha hb hid
  · exact absurd he hne.1
  · exact absurd he.symm hne.1

theorem owner?_of_mem (h : r.Sound) {a : Active} (ha : a ∈ r.active) :
    r.owner? a.chanId = some a :=
  Registry.owner?_of_mem (h.distinct.imp And.right) ha

/-! ## Entries leave -/

theorem sublist (h : r.Sound) {pending : List Pending} {active : List Active}
    (hp : pending.Sublist r.pending) (ha : active.Sublist r.active) :
    Sound { r with pending := pending, active := active } := by
  have hids : ∀ id, id ∈ ids { r with pending := pending, active := active } → id ∈ r.ids := by
    intro id hid
    rcases mem_ids.mp hid with ⟨p, hp', rfl⟩ | ⟨a, ha', rfl⟩
    · exact mem_ids_of_pending (hp.subset hp')
    · exact mem_ids_of_active (ha.subset ha')
  exact {
    known := h.known
    issued := fun id hid => h.issued id (hids id hid)
    ordered := h.ordered.sublist hp
    distinct := h.distinct.sublist ha
    apart := fun p hp' a ha' => h.apart p (hp.subset hp') a (ha.subset ha')
    opened := fun id hid => h.opened id (hids id hid)
    named := fun a ha' => h.named a (ha.subset ha') }

/-- Sinks may change behind the same entries as long as those that are in use stay open and keep
their channel. -/
theorem of_sinks (h : r.Sound)
    (he : r'.pending = r.pending ∧ r'.active = r.active ∧ r'.nextId = r.nextId)
    {P : Nat → Prop} [DecidablePred P] {f : Sink StreamMessage → Sink StreamMessage}
    (hs : ∀ id, r'.sink? id = if P id then (r.sink? id).map f else r.sink? id)
    (hchan : ∀ s, (f s).chanId = s.chanId)
    (hopen : ∀ id, P id → id ∈ r.ids → ∀ s, s.closed = false → (f s).closed = false) :
    r'.Sound := by
  obtain ⟨hp, ha, hn⟩ := he
  have hids : r'.ids = r.ids := by simp [ids, hp, ha]
  have hback : ∀ id s, r'.sink? id = some s → ∃ t, r.sink? id = some t ∧
      s.chanId = t.chanId ∧ (id ∈ r.ids → t.closed = false → s.closed = false) := by
    intro id s hs'
    rw [hs] at hs'
    split at hs'
    · obtain ⟨t, ht, rfl⟩ := Option.map_eq_some_iff.mp hs'
      exact ⟨t, ht, hchan t, fun hin => hopen id ‹P id› hin t⟩
    · exact ⟨s, hs', rfl, fun _ hc => hc⟩
  constructor
  · intro id
    rw [hn, ← h.known id, hs]
    split
    · rw [Option.isSome_map]
    · rfl
  · intro id hid
    rw [hn]
    exact h.issued id (hids ▸ hid)
  · rw [hp]
    exact h.ordered
  · rw [ha]
    exact h.distinct
  · rw [hp, ha]
    exact h.apart
  · intro id hid s hs'
    rw [hids] at hid
    obtain ⟨t, ht, -, hc⟩ := hback id s hs'
    exact hc hid (h.opened id hid t ht)
  · intro a ha' s hs'
    obtain ⟨t, ht, hc, -⟩ := hback a.id s hs'
    exact hc.trans (h.named a (ha ▸ ha') t ht)

theorem finishAll (h : r.Sound) {out : List Nat} (hout : ∀ id ∈ out, id ∉ r.ids)
    (m : StreamMessage) : (r.finishAll out m).2.Sound :=
  h.of_sinks (entries_finishAll r out m) (sink?_finishAll r out m)
    (fun s => (Sink.fields_finish s m).2.1) fun id hid hin => absurd hin (hout id hid)

theorem updateSink (h : r.Sound) (id : Nat) {f : Sink StreamMessage → Sink StreamMessage}
    (hchan : ∀ s, (f s).chanId = s.chanId)
    (hopen : id ∈ r.ids → ∀ s, s.closed = false → (f s).closed = false) :
    (r.updateSink id f).Sound :=
  h.of_sinks ⟨rfl, rfl, rfl⟩ (fun k => sink?_updateSink r id k f) hchan fun _ hk => hk ▸ hopen

theorem mem_ids_withoutOwner (h : r.Sound) {chanId : Int64} {id : Nat} :
    id ∈ (r.withoutOwner chanId).ids ↔
      id ∈ r.ids ∧ ∀ old, r.owner? chanId = some old → old.id ≠ id := by
  rw [mem_ids, mem_ids]
  constructor
  · rintro (⟨q, hq, rfl⟩ | ⟨a, ha, rfl⟩)
    · exact ⟨Or.inl ⟨q, hq, rfl⟩, fun old ho => (h.apart q hq old (owner?_eq_some ho).1).symm⟩
    · obtain ⟨ha, hne⟩ := List.mem_filter.mp ha
      refine ⟨Or.inr ⟨a, ha, rfl⟩, fun old ho he => ?_⟩
      obtain ⟨hold, hc⟩ := owner?_eq_some ho
      rw [h.active_eq_of_id_eq hold ha he] at hc
      simp [hc] at hne
  · rintro ⟨⟨q, hq, rfl⟩ | ⟨a, ha, rfl⟩, hne⟩
    · exact Or.inl ⟨q, hq, rfl⟩
    · refine Or.inr ⟨a, List.mem_filter.mpr ⟨ha, ?_⟩, rfl⟩
      have hc : a.chanId ≠ chanId := by
        intro hc
        exact hne a (hc ▸ h.owner?_of_mem ha) rfl
      simpa using hc

theorem withoutOwner (h : r.Sound) (chanId : Int64) : (r.withoutOwner chanId).Sound :=
  h.sublist (List.Sublist.refl _) List.filter_sublist

/-! ## Entries come -/

theorem owner?_ne (_ : r.Sound) {p : Pending} (hp : p.id ∉ r.ids) {chanId : Int64} {old : Active}
    (hold : r.owner? chanId = some old) : old.id ≠ p.id := by
  intro he
  exact hp (mem_ids.mpr (Or.inr ⟨old, (owner?_eq_some hold).1, he⟩))

theorem sink?_activate_self (h : r.Sound) {p : Pending} (hp : p.id ∉ r.ids) (chanId : Int64) :
    (r.activate chanId p).sink? p.id = (r.sink? p.id).map (·.setChanId chanId) := by
  rw [sink?_activate]
  cases ho : r.owner? chanId with
  | none => simp
  | some old => simp [h.owner?_ne hp ho]

theorem sink?_activate_owner (h : r.Sound) {p : Pending} (hp : p.id ∉ r.ids) {chanId : Int64}
    {old : Active} (ho : r.owner? chanId = some old) :
    (r.activate chanId p).sink? old.id =
      (r.sink? old.id).map fun s => (s.finish (reassigned chanId)).2 := by
  rw [sink?_activate]
  simp [ho, h.owner?_ne hp ho]

theorem sink?_activate_other {p : Pending} {chanId : Int64} {id : Nat} (hid : id ≠ p.id)
    (ho : ∀ old, r.owner? chanId = some old → old.id ≠ id) :
    (r.activate chanId p).sink? id = r.sink? id := by
  rw [sink?_activate]
  cases hown : r.owner? chanId with
  | none => simp [hid]
  | some old => simp [hid, ho old hown]

theorem mem_ids_activate (h : r.Sound) {p : Pending} {chanId : Int64} {id : Nat} :
    id ∈ (r.activate chanId p).ids ↔
      id = p.id ∨ id ∈ r.ids ∧ ∀ old, r.owner? chanId = some old → old.id ≠ id := by
  rw [← h.mem_ids_withoutOwner, mem_ids, mem_ids, pending_activate, active_activate]
  simp only [List.mem_cons, exists_eq_or_imp, or_left_comm, eq_comm (a := p.id)]
  exact Iff.rfl

theorem activate (h : r.Sound) {p : Pending} (hp : p.id ∉ r.ids) (hlt : p.id < r.nextId)
    (hopen : ∀ s, r.sink? p.id = some s → s.closed = false) (chanId : Int64) :
    (r.activate chanId p).Sound := by
  have hout : ∀ id ∈ (r.activate chanId p).ids, id ≠ p.id →
      (r.activate chanId p).sink? id = r.sink? id ∧ id ∈ r.ids := by
    intro id hid hne
    rcases h.mem_ids_activate.mp hid with rfl | ⟨hin, ho⟩
    · exact absurd rfl hne
    · exact ⟨sink?_activate_other hne ho, hin⟩
  constructor
  · intro id
    rw [nextId_activate, sink?_activate, ← h.known id]
    dsimp only
    split <;> split <;> simp
  · intro id hid
    rw [nextId_activate]
    rcases h.mem_ids_activate.mp hid with rfl | ⟨hin, -⟩
    · exact hlt
    · exact h.issued id hin
  · rw [pending_activate]
    exact h.ordered
  · rw [active_activate, List.pairwise_cons]
    refine ⟨fun a ha => ?_, h.distinct.filter _⟩
    obtain ⟨ha, hne⟩ := List.mem_filter.mp ha
    have hid : p.id ≠ a.id := fun he => hp (he ▸ mem_ids_of_active ha)
    have hchan : a.chanId ≠ chanId := by simpa using hne
    exact ⟨hid, hchan.symm⟩
  · rw [pending_activate, active_activate]
    intro q hq a ha
    rcases List.mem_cons.mp ha with rfl | ha
    · exact fun he => hp (mem_ids.mpr (Or.inl ⟨q, hq, he⟩))
    · exact h.apart q hq a (List.mem_filter.mp ha).1
  · intro id hid s hs
    by_cases hne : id = p.id
    · subst hne
      rw [h.sink?_activate_self hp] at hs
      obtain ⟨t, ht, rfl⟩ := Option.map_eq_some_iff.mp hs
      exact hopen t ht
    · obtain ⟨hsame, hin⟩ := hout id hid hne
      exact h.opened id hin s (hsame ▸ hs)
  · intro a ha s hs
    have hid : a.id ∈ (r.activate chanId p).ids := mem_ids_of_active ha
    rw [active_activate] at ha
    rcases List.mem_cons.mp ha with rfl | ha
    · rw [h.sink?_activate_self hp] at hs
      obtain ⟨t, -, rfl⟩ := Option.map_eq_some_iff.mp hs
      rfl
    · have ha := (List.mem_filter.mp ha).1
      have hne : a.id ≠ p.id := fun he => hp (mem_ids.mpr (Or.inr ⟨a, ha, he⟩))
      exact h.named a ha s ((hout a.id hid hne).1 ▸ hs)

theorem sink?_subscribe (h : r.Sound) (feed : Feed) (capacity : Nat) (overflow : Overflow)
    (id : Nat) :
    (r.subscribe feed capacity overflow).2.sink? id =
      if id = r.nextId then some (.create capacity overflow) else r.sink? id := by
  have hnew := h.sink?_nextId
  simp only [sink?, Sinks.get?] at hnew ⊢
  by_cases hid : id = r.nextId
  · subst hid
    simp [subscribe, allocate, register, List.lookup_append, hnew]
  · have hne : (id == r.nextId) = false := by simpa using hid
    simp [subscribe, allocate, register, List.lookup_append, hid, List.lookup_cons, hne]

theorem subscribe (h : r.Sound) (feed : Feed) (capacity : Nat) (overflow : Overflow) :
    (r.subscribe feed capacity overflow).2.Sound := by
  have hsink := h.sink?_subscribe feed capacity overflow
  generalize hr : (r.subscribe feed capacity overflow).2 = r' at hsink
  have hp : r'.pending = r.pending ++ [⟨r.nextId, feed, false⟩] := by rw [← hr]; rfl
  have ha : r'.active = r.active := by rw [← hr]; rfl
  have hn : r'.nextId = r.nextId + 1 := by rw [← hr]; rfl
  have hids : ∀ id ∈ r'.ids, id = r.nextId ∨ id ∈ r.ids := by
    intro id hid
    simp only [mem_ids, hp, ha, List.mem_append, List.mem_singleton] at hid ⊢
    rcases hid with ⟨q, hq | rfl, rfl⟩ | hid
    · exact Or.inr (Or.inl ⟨q, hq, rfl⟩)
    · exact Or.inl rfl
    · exact Or.inr (Or.inr hid)
  have hold : ∀ id ∈ r.ids, r'.sink? id = r.sink? id := by
    intro id hid
    rw [hsink, if_neg (Nat.ne_of_lt (h.issued id hid))]
  constructor
  · intro id
    rw [hsink, hn]
    by_cases hid : id = r.nextId
    · simp [hid]
    · rw [if_neg hid, h.known id]
      omega
  · intro id hid
    rw [hn]
    rcases hids id hid with rfl | hid
    · omega
    · have := h.issued id hid
      omega
  · rw [hp, List.pairwise_append]
    refine ⟨h.ordered, List.pairwise_singleton _ _, fun p hp' q hq => ?_⟩
    rw [List.mem_singleton.mp hq]
    exact h.issued p.id (mem_ids_of_pending hp')
  · rw [ha]
    exact h.distinct
  · rw [hp, ha]
    intro p hp' a ha'
    rcases List.mem_append.mp hp' with hp' | hp'
    · exact h.apart p hp' a ha'
    · rw [List.mem_singleton.mp hp']
      exact (Nat.ne_of_lt (h.issued a.id (mem_ids_of_active ha'))).symm
  · intro id hid s hs
    rcases hids id hid with rfl | hid
    · rw [hsink, if_pos rfl] at hs
      cases hs
      rfl
    · exact h.opened id hid s (hold id hid ▸ hs)
  · rw [ha]
    intro a ha' s hs
    exact h.named a ha' s (hold a.id (mem_ids_of_active ha') ▸ hs)

/-! ## Operations -/

/-- A subscription that is taken out of the pending ones is no entry any more. -/
theorem not_mem_ids_of_taken (h : r.Sound) {p : Pending} (hp : p ∈ r.pending)
    {rest : List Pending} (hr : rest.Sublist r.pending) (hout : p ∉ rest) :
    p.id ∉ ids { r with pending := rest } := by
  intro hid
  rcases mem_ids.mp hid with ⟨q, hq, he⟩ | ⟨a, ha, he⟩
  · exact hout (h.pending_eq_of_id_eq hp (hr.subset hq) he.symm ▸ hq)
  · exact h.apart p hp a ha he.symm

theorem nodup_pending (h : r.Sound) : r.pending.Nodup :=
  h.ordered.imp fun hlt he => by subst he; omega

theorem takeAgreeing (h : r.Sound) {a : Ack} {p : Pending} (hp : (r.takeAgreeing a).1 = some p) :
    (r.takeAgreeing a).2.Sound ∧ p ∈ r.pending ∧ p.id ∉ (r.takeAgreeing a).2.ids := by
  obtain ⟨-, before, after, hs, -, he⟩ := takeAgreeing_eq_some hp
  have hsub := sublist_takeAgreeing hp
  have hmem : p ∈ r.pending := by simp [hs]
  have hout : p ∉ before ++ after := by
    have hn := h.nodup_pending
    rw [hs, List.nodup_middle] at hn
    exact (List.nodup_cons.mp hn).1
  rw [he] at hsub ⊢
  exact ⟨h.sublist hsub (List.Sublist.refl _), hmem, h.not_mem_ids_of_taken hmem hsub hout⟩

theorem open_of_pending (h : r.Sound) {p : Pending} (hp : p ∈ r.pending) :
    p.id < r.nextId ∧ ∀ s, r.sink? p.id = some s → s.closed = false := by
  have hid : p.id ∈ r.ids := mem_ids_of_pending hp
  exact ⟨h.issued _ hid, h.opened _ hid⟩

theorem bind (h : r.Sound) (a : Ack) (chanId : Int64) : (r.bind a chanId).2.Sound := by
  cases he : (r.takeAgreeing a).1 with
  | none =>
    rw [bind_of_none he]
    exact h
  | some p =>
    rw [bind_of_some he]
    obtain ⟨h₁, hp, hout⟩ := h.takeAgreeing he
    obtain ⟨hlt, hopen⟩ := h.open_of_pending hp
    exact h₁.activate hout hlt hopen chanId

theorem refuse (h : r.Sound) (a : Ack) (m : StreamMessage) : (r.refuse a m).Sound := by
  cases he : (r.takeAgreeing a).1 with
  | none =>
    rw [refuse_of_none he]
    exact h
  | some p =>
    rw [refuse_of_some he]
    obtain ⟨h₁, -, hout⟩ := h.takeAgreeing he
    have hout' : ∀ id ∈ [p.id], id ∉ (r.takeAgreeing a).2.ids := by simpa using hout
    exact h₁.finishAll hout' m

theorem withoutPrivates (h : r.Sound) : r.withoutPrivates.Sound :=
  h.sublist List.filter_sublist (List.Sublist.refl _)

theorem not_mem_withoutPrivates (h : r.Sound) {p : Pending} (hp : p ∈ r.privates) :
    p.id ∉ r.withoutPrivates.ids := by
  obtain ⟨hp, hpriv⟩ := List.mem_filter.mp hp
  refine h.not_mem_ids_of_taken hp List.filter_sublist fun hin => ?_
  simp [hpriv] at hin

theorem nodup_privates (h : r.Sound) : (r.privates.map (·.id)).Nodup :=
  List.pairwise_map.mpr ((h.ordered.filter _).imp Nat.ne_of_lt)

theorem handed_bindAccount (h : r.Sound) (chanId : Int64) :
    (r.bindAccount chanId).2.2.Sound ∧
      ∀ id ∈ (r.bindAccount chanId).2.1, id ∉ (r.bindAccount chanId).2.2.ids := by
  have hout : ∀ id ∈ r.privates.map (·.id), id ∉ r.withoutPrivates.ids := by
    intro id hid
    obtain ⟨p, hp, rfl⟩ := List.mem_map.mp hid
    exact h.not_mem_withoutPrivates hp
  cases ho : r.owner? chanId with
  | some a =>
    rw [bindAccount_of_owner ho]
    exact ⟨h.withoutPrivates, hout⟩
  | none =>
    cases hps : r.privates with
    | nil =>
      rw [bindAccount_of_nil hps]
      exact ⟨h.withoutPrivates, by simp⟩
    | cons p ps =>
      rw [bindAccount_of_cons ho hps]
      have hp : p ∈ r.privates := by simp [hps]
      obtain ⟨hlt, hopen⟩ := h.open_of_pending (List.mem_filter.mp hp).1
      refine ⟨h.withoutPrivates.activate (h.not_mem_withoutPrivates hp) hlt hopen chanId,
        fun id hid hin => ?_⟩
      -- the first one's number is not among the others'
      have hn := h.nodup_privates
      rw [hps, List.map_cons, List.nodup_cons] at hn
      rcases h.withoutPrivates.mem_ids_activate.mp hin with rfl | ⟨hin, -⟩
      · exact hn.1 hid
      · exact hout id (by simp only [hps, List.map_cons]; exact List.mem_cons_of_mem _ hid) hin

theorem bindAccount (h : r.Sound) (chanId : Int64) : (r.perform (.bindAccount chanId)).Sound := by
  obtain ⟨hr, hout⟩ := h.handed_bindAccount chanId
  exact hr.finishAll hout accountTaken

theorem closeOwner (h : r.Sound) (chanId : Int64) : (r.closeOwner chanId).Sound := by
  cases ho : r.owner? chanId with
  | none =>
    rw [closeOwner_of_none ho]
    exact h
  | some a =>
    rw [closeOwner_of_some ho]
    refine (h.withoutOwner chanId).updateSink a.id (fun _ => rfl) fun hin => ?_
    exact absurd rfl ((h.mem_ids_withoutOwner.mp hin).2 a ho)

theorem takeUnsent (h : r.Sound) : r.takeUnsent.2.Sound := by
  have hids : r.takeUnsent.2.ids = r.ids := by
    simp [ids, Registry.takeUnsent, Function.comp_def]
  exact {
    known := h.known
    issued := hids ▸ h.issued
    ordered := List.pairwise_map.mpr h.ordered
    distinct := h.distinct
    apart := by
      intro p hp a ha
      obtain ⟨q, hq, rfl⟩ := List.mem_map.mp hp
      exact h.apart q hq a ha
    opened := hids ▸ h.opened
    named := h.named }

theorem perform (h : r.Sound) (op : Op) : (r.perform op).Sound := by
  cases op with
  | subscribe feed capacity overflow => exact h.subscribe feed capacity overflow
  | takeUnsent => exact h.takeUnsent
  | bind a chanId => exact h.bind a chanId
  | bindAccount chanId => exact h.bindAccount chanId
  | reject a m => exact h.refuse a m
  | close chanId => exact h.closeOwner chanId
  | offer id m =>
    exact h.of_sinks (entries_offer r id m) (sink?_offer r id m)
      (fun s => (Sink.fields_offer s m).2.2.1) fun _ _ _ s hs => (Sink.fields_offer s m).1.trans hs
  | receive id =>
    exact h.of_sinks (entries_receive r id) (sink?_receive r id)
      (fun s => (Sink.fields_receive s).2.2.1) fun _ _ _ s hs => (Sink.fields_receive s).1.trans hs
  | detach id => exact h.updateSink id (fun _ => rfl) fun _ _ hs => hs
  | drain m =>
    have h₁ := h.sublist (List.nil_sublist r.pending) (List.nil_sublist r.active)
    exact h₁.finishAll (fun id _ hin => by simp [ids] at hin) m

end Sound
end Registry
end MarketWire
