import MarketWire.Proofs.Registry.Invariant

/-!
# One subscription among the operations

What an operation on the registry does to the sink of one subscription is one of seven things, and
it tells whether the subscription stays in the registry. Who leaves gets the farewell of the
operation, or none if the channel was closed.
-/
namespace MarketWire
namespace Registry

/-- What an operation makes of the sink `s` of the subscription `id`. -/
inductive Passage (r : Registry) (op : Op) (id : Nat) (s : Sink StreamMessage) :
    Sink StreamMessage → Prop where
  | kept (h : id ∈ (r.perform op).ids ↔ id ∈ r.ids) : Passage r op id s s
  | bound (h : id ∈ (r.perform op).ids ↔ id ∈ r.ids) (chanId : Int64) :
      Passage r op id s (s.setChanId chanId)
  | offered (h : id ∈ (r.perform op).ids ↔ id ∈ r.ids) (m : StreamMessage)
      (hop : op = .offer id m) : Passage r op id s (s.offer m).2
  | received (h : id ∈ (r.perform op).ids ↔ id ∈ r.ids) (hop : op = .receive id) :
      Passage r op id s s.receive.2
  | detached (h : id ∈ (r.perform op).ids ↔ id ∈ r.ids) (hop : op = .detach id) :
      Passage r op id s s.detach
  | finished (h : id ∈ r.ids) (h' : id ∉ (r.perform op).ids) (m : StreamMessage)
      (hm : op.farewell? = some m) : Passage r op id s (s.finish m).2
  | closed (h : id ∈ r.ids) (h' : id ∉ (r.perform op).ids) (chanId : Int64) (a : Active)
      (hop : op = .close chanId) (ho : r.owner? chanId = some a) (hid : a.id = id) :
      Passage r op id s s.close

theorem ids_eq_of_entries {r r' : Registry}
    (h : r'.pending = r.pending ∧ r'.active = r.active ∧ r'.nextId = r.nextId) :
    r'.ids = r.ids := by
  simp [ids, h.1, h.2.1]

theorem ids_takeUnsent (r : Registry) : r.takeUnsent.2.ids = r.ids := by
  simp [ids, takeUnsent, Function.comp_def]

namespace Sound

variable {r : Registry}

theorem mem_ids_taken (h : r.Sound) {rest : List Pending} (hr : rest.Sublist r.pending)
    {id : Nat} :
    id ∈ ids { r with pending := rest } ↔
      id ∈ r.ids ∧ ∀ p ∈ r.pending, p ∉ rest → p.id ≠ id := by
  constructor
  · intro hid
    refine ⟨?_, fun p hp hout he => h.not_mem_ids_of_taken hp hr hout (he ▸ hid)⟩
    rcases mem_ids.mp hid with ⟨q, hq, rfl⟩ | hid
    · exact mem_ids_of_pending (hr.subset hq)
    · exact mem_ids.mpr (Or.inr hid)
  · rintro ⟨hid, hne⟩
    rcases mem_ids.mp hid with ⟨q, hq, rfl⟩ | hid
    · by_cases hin : q ∈ rest
      · exact mem_ids_of_pending hin
      · exact absurd rfl (hne q hq hin)
    · exact mem_ids.mpr (Or.inr hid)

theorem mem_ids_takeAgreeing (h : r.Sound) {a : Ack} {p : Pending}
    (hp : (r.takeAgreeing a).1 = some p) {id : Nat} :
    id ∈ (r.takeAgreeing a).2.ids ↔ id ∈ r.ids ∧ id ≠ p.id := by
  obtain ⟨-, hmem, hout⟩ := h.takeAgreeing hp
  obtain ⟨-, before, after, hs, -, he⟩ := takeAgreeing_eq_some hp
  have hsub := sublist_takeAgreeing hp
  rw [he] at hout hsub ⊢
  rw [h.mem_ids_taken hsub]
  constructor
  · rintro ⟨hid, hne⟩
    refine ⟨hid, Ne.symm (hne p hmem fun hin => hout ?_)⟩
    exact mem_ids_of_pending hin
  · rintro ⟨hid, hne⟩
    refine ⟨hid, fun q hq hq' => ?_⟩
    have hqp : q = p := by
      rw [hs] at hq
      simp only [List.mem_append, List.mem_cons] at hq hq'
      tauto
    exact hqp ▸ Ne.symm hne

theorem mem_ids_withoutPrivates (h : r.Sound) {id : Nat} :
    id ∈ r.withoutPrivates.ids ↔ id ∈ r.ids ∧ id ∉ r.privates.map (·.id) := by
  unfold Registry.withoutPrivates
  rw [h.mem_ids_taken List.filter_sublist]
  simp only [privates, List.mem_filter, List.mem_map, not_exists, not_and]
  constructor
  · rintro ⟨hid, hne⟩
    refine ⟨hid, fun p hp => hne p hp.1 fun _ => ?_⟩
    simp [hp.2]
  · rintro ⟨hid, hne⟩
    refine ⟨hid, fun p hp hpriv => hne p ⟨hp, ?_⟩⟩
    simpa using hpriv hp

/-- A channel that changes hands binds one sink, finishes another, and leaves the rest alone. -/
theorem activate_cases (h : r.Sound) {p : Pending} (hp : p.id ∉ r.ids) (chanId : Int64) {id : Nat}
    {s : Sink StreamMessage} (hs : r.sink? id = some s) :
    (id = p.id ∧ (r.activate chanId p).sink? id = some (s.setChanId chanId)) ∨
    (id ≠ p.id ∧ (∃ old, r.owner? chanId = some old ∧ old.id = id) ∧
      (r.activate chanId p).sink? id = some (s.finish (reassigned chanId)).2) ∨
    (id ≠ p.id ∧ (∀ old, r.owner? chanId = some old → old.id ≠ id) ∧
      (r.activate chanId p).sink? id = some s) := by
  by_cases hid : id = p.id
  · subst hid
    exact Or.inl ⟨rfl, by rw [h.sink?_activate_self hp, hs]; rfl⟩
  · by_cases ho : ∃ old, r.owner? chanId = some old ∧ old.id = id
    · obtain ⟨old, ho, rfl⟩ := ho
      exact Or.inr (Or.inl ⟨hid, ⟨old, ho, rfl⟩, by rw [h.sink?_activate_owner hp ho, hs]; rfl⟩)
    · have ho' : ∀ old, r.owner? chanId = some old → old.id ≠ id :=
        fun old hold he => ho ⟨old, hold, he⟩
      exact Or.inr (Or.inr ⟨hid, ho', by rw [sink?_activate_other hid ho', hs]⟩)

/-! ## Each operation -/

variable {id : Nat} {s : Sink StreamMessage}

theorem passage_bind (h : r.Sound) (a : Ack) (chanId : Int64) (hs : r.sink? id = some s) :
    ∃ s', (r.perform (.bind a chanId)).sink? id = some s' ∧ r.Passage (.bind a chanId) id s s' := by
  cases hp : (r.takeAgreeing a).1 with
  | none =>
    have hr : r.perform (.bind a chanId) = r := by simp [Registry.perform, bind_of_none hp]
    exact ⟨s, by rw [hr, hs], .kept (by rw [hr])⟩
  | some p =>
    have hr : r.perform (.bind a chanId) = (r.takeAgreeing a).2.activate chanId p := by
      simp [Registry.perform, bind_of_some hp]
    obtain ⟨h₁, hmem, hout⟩ := h.takeAgreeing hp
    have hids : id ∈ (r.takeAgreeing a).2.ids ↔ _ := h.mem_ids_takeAgreeing hp
    have hids' : id ∈ (r.perform (.bind a chanId)).ids ↔ _ := hr ▸ h₁.mem_ids_activate
    rw [hr]
    rcases h₁.activate_cases hout chanId hs with ⟨rfl, hs'⟩ | ⟨hne, ho, hs'⟩ | ⟨hne, ho, hs'⟩
    · refine ⟨_, hs', .bound ?_ chanId⟩
      simpa [hids'] using mem_ids_of_pending hmem
    · obtain ⟨old, ho, rfl⟩ := ho
      have hin : old.id ∈ r.ids :=
        mem_ids_of_active (owner?_eq_some (r := r) ho).1
      refine ⟨_, hs', .finished hin ?_ _ rfl⟩
      rw [hids']
      rintro (he | ⟨-, hno⟩)
      · exact hne he
      · exact hno old ho rfl
    · refine ⟨s, hs', .kept ?_⟩
      rw [hids', hids]
      tauto

theorem passage_reject (h : r.Sound) (a : Ack) (m : StreamMessage) (hs : r.sink? id = some s) :
    ∃ s', (r.perform (.reject a m)).sink? id = some s' ∧ r.Passage (.reject a m) id s s' := by
  cases hp : (r.takeAgreeing a).1 with
  | none =>
    have hr : r.perform (.reject a m) = r := refuse_of_none hp m
    exact ⟨s, by rw [hr, hs], .kept (by rw [hr])⟩
  | some p =>
    have hr : r.perform (.reject a m) = ((r.takeAgreeing a).2.finish p.id m).2 :=
      refuse_of_some hp m
    obtain ⟨-, hmem, -⟩ := h.takeAgreeing hp
    have hids : id ∈ (r.perform (.reject a m)).ids ↔ id ∈ r.ids ∧ id ≠ p.id := by
      rw [hr, ids_eq_of_entries (entries_finish ..), h.mem_ids_takeAgreeing hp]
    have hs₁ : (r.takeAgreeing a).2.sink? id = some s := hs
    by_cases hid : id = p.id
    · refine ⟨(s.finish m).2, by rw [hr, sink?_finish, if_pos hid, hs₁]; rfl, .finished ?_ ?_ m rfl⟩
      · exact mem_ids.mpr (Or.inl ⟨p, hmem, hid.symm⟩)
      · exact fun hin => (hids.mp hin).2 hid
    · refine ⟨s, by rw [hr, sink?_finish, if_neg hid, hs₁], .kept ?_⟩
      rw [hids]
      exact and_iff_left hid

theorem passage_bindAccount (h : r.Sound) (chanId : Int64) (hs : r.sink? id = some s) :
    ∃ s', (r.perform (.bindAccount chanId)).sink? id = some s' ∧
      r.Passage (.bindAccount chanId) id s s' := by
  have hids : id ∈ r.withoutPrivates.ids ↔ _ := h.mem_ids_withoutPrivates
  have hpriv : id ∈ r.privates.map (·.id) → id ∈ r.ids := by
    intro hid
    obtain ⟨p, hp, rfl⟩ := List.mem_map.mp hid
    exact mem_ids_of_pending (List.mem_filter.mp hp).1
  have hs₁ : r.withoutPrivates.sink? id = some s := hs
  -- without a free channel all of them are refused, and otherwise all but the first
  by_cases hfree : r.owner? chanId = none ∧ r.privates ≠ []
  · obtain ⟨ho, hne⟩ := hfree
    obtain ⟨p, ps, hps⟩ := List.exists_cons_of_ne_nil hne
    have hr : r.perform (.bindAccount chanId) =
        ((r.withoutPrivates.activate chanId p).finishAll (ps.map (·.id)) accountTaken).2 := by
      simp [Registry.perform, bindAccount_of_cons ho hps]
    have hp : p ∈ r.privates := by simp [hps]
    have hnodup := h.nodup_privates
    rw [hps, List.map_cons] at hpriv hids hnodup
    have hnp := (List.nodup_cons.mp hnodup).1
    have hids' : id ∈ (r.perform (.bindAccount chanId)).ids ↔ id = p.id ∨ id ∈ r.ids ∧
        id ∉ p.id :: ps.map (·.id) := by
      rw [hr, ids_eq_of_entries (entries_finishAll ..), h.withoutPrivates.mem_ids_activate, hids]
      have ho' : r.withoutPrivates.owner? chanId = none := ho
      simp [ho']
    rw [hr, sink?_finishAll]
    rcases h.withoutPrivates.activate_cases (h.not_mem_withoutPrivates hp) chanId hs₁ with
      ⟨rfl, hs'⟩ | ⟨-, ⟨old, ho', -⟩, -⟩ | ⟨hne, -, hs'⟩
    · refine ⟨_, by rw [if_neg hnp, hs'], .bound ?_ chanId⟩
      simpa [hids'] using hpriv List.mem_cons_self
    · have ho₁ : r.withoutPrivates.owner? chanId = none := ho
      rw [ho₁] at ho'
      cases ho'
    · by_cases hin : id ∈ ps.map (·.id)
      · refine ⟨_, by rw [if_pos hin, hs']; rfl, .finished ?_ ?_ _ rfl⟩
        · exact hpriv (List.mem_cons_of_mem _ hin)
        · rw [hids']
          rintro (he | ⟨-, hout⟩)
          · exact hne he
          · exact hout (List.mem_cons_of_mem _ hin)
      · refine ⟨s, by rw [if_neg hin, hs'], .kept ?_⟩
        rw [hids', List.mem_cons]
        tauto
  · have hr : r.perform (.bindAccount chanId) =
        (r.withoutPrivates.finishAll (r.privates.map (·.id)) accountTaken).2 := by
      cases ho : r.owner? chanId with
      | some a => simp [Registry.perform, bindAccount_of_owner ho]
      | none =>
        have hnil : r.privates = [] := by simpa [ho] using hfree
        simp [Registry.perform, bindAccount_of_nil hnil, hnil]
    have hids' : id ∈ (r.perform (.bindAccount chanId)).ids ↔
        id ∈ r.ids ∧ id ∉ r.privates.map (·.id) := by
      rw [hr, ids_eq_of_entries (entries_finishAll ..), hids]
    rw [hr, sink?_finishAll]
    by_cases hin : id ∈ r.privates.map (·.id)
    · exact ⟨_, by rw [if_pos hin, hs₁]; rfl,
        .finished (hpriv hin) (fun h' => (hids'.mp h').2 hin) _ rfl⟩
    · exact ⟨s, by rw [if_neg hin, hs₁], .kept (by rw [hids']; exact and_iff_left hin)⟩

theorem passage_close (h : r.Sound) (chanId : Int64) (hs : r.sink? id = some s) :
    ∃ s', (r.perform (.close chanId)).sink? id = some s' ∧ r.Passage (.close chanId) id s s' := by
  cases ho : r.owner? chanId with
  | none =>
    have hr : r.perform (.close chanId) = r := closeOwner_of_none ho
    exact ⟨s, by rw [hr, hs], .kept (by rw [hr])⟩
  | some a =>
    have hr : r.perform (.close chanId) = (r.withoutOwner chanId).updateSink a.id Sink.close :=
      closeOwner_of_some ho
    have hids : id ∈ (r.perform (.close chanId)).ids ↔ id ∈ r.ids ∧ a.id ≠ id := by
      rw [hr]
      change id ∈ (r.withoutOwner chanId).ids ↔ _
      rw [h.mem_ids_withoutOwner]
      simp [ho]
    have hs₁ : (r.withoutOwner chanId).sink? id = some s := hs
    by_cases hid : id = a.id
    · refine ⟨s.close, by rw [hr, sink?_updateSink, if_pos hid, hs₁]; rfl,
        .closed ?_ (fun hin => (hids.mp hin).2 hid.symm) chanId a rfl ho hid.symm⟩
      exact mem_ids.mpr (Or.inr ⟨a, (owner?_eq_some ho).1, hid.symm⟩)
    · refine ⟨s, by rw [hr, sink?_updateSink, if_neg hid, hs₁], .kept ?_⟩
      rw [hids]
      exact and_iff_left (Ne.symm hid)

theorem passage_drain (m : StreamMessage) (hs : r.sink? id = some s) :
    ∃ s', (r.perform (.drain m)).sink? id = some s' ∧ r.Passage (.drain m) id s s' := by
  have hids : id ∉ (r.perform (.drain m)).ids := by
    simp [Registry.perform, ids, drain]
  have hr : (r.perform (.drain m)).sink? id =
      if id ∈ r.ids then (r.sink? id).map fun s => (s.finish m).2 else r.sink? id :=
    sink?_finishAll r.drain.2 r.ids m id
  rw [hr, hs]
  by_cases hin : id ∈ r.ids
  · exact ⟨_, by rw [if_pos hin]; rfl, .finished hin hids m rfl⟩
  · exact ⟨s, by rw [if_neg hin], .kept ⟨fun h' => absurd h' hids, fun h' => absurd h' hin⟩⟩

theorem passage (h : r.Sound) (op : Op) (hs : r.sink? id = some s) :
    ∃ s', (r.perform op).sink? id = some s' ∧ r.Passage op id s s' := by
  cases op with
  | subscribe feed capacity overflow =>
    have hne : id ≠ r.nextId := by
      rintro rfl
      simp [h.sink?_nextId] at hs
    refine ⟨s, ?_, .kept ?_⟩
    · exact (h.sink?_subscribe feed capacity overflow id).trans (by rw [if_neg hne, hs])
    · simp [ids, Registry.perform, Registry.subscribe, allocate, register, hne]
  | takeUnsent => exact ⟨s, hs, .kept (by rw [Registry.perform, ids_takeUnsent])⟩
  | bind a chanId => exact h.passage_bind a chanId hs
  | bindAccount chanId => exact h.passage_bindAccount chanId hs
  | reject a m => exact h.passage_reject a m hs
  | close chanId => exact h.passage_close chanId hs
  | offer k m =>
    have hids : (r.perform (.offer k m)).ids = r.ids := ids_eq_of_entries (entries_offer r k m)
    have hr := sink?_offer r k m id
    by_cases hk : id = k
    · subst hk
      exact ⟨_, by rw [Registry.perform, hr, if_pos rfl, hs]; rfl, .offered (by rw [hids]) m rfl⟩
    · exact ⟨s, by rw [Registry.perform, hr, if_neg hk, hs], .kept (by rw [hids])⟩
  | receive k =>
    have hids : (r.perform (.receive k)).ids = r.ids := ids_eq_of_entries (entries_receive r k)
    have hr := sink?_receive r k id
    by_cases hk : id = k
    · subst hk
      exact ⟨_, by rw [Registry.perform, hr, if_pos rfl, hs]; rfl, .received (by rw [hids]) rfl⟩
    · exact ⟨s, by rw [Registry.perform, hr, if_neg hk, hs], .kept (by rw [hids])⟩
  | detach k =>
    have hr := sink?_updateSink r k id Sink.detach
    by_cases hk : id = k
    · subst hk
      exact ⟨_, by rw [Registry.perform, Registry.detach, hr, if_pos rfl, hs]; rfl,
        .detached Iff.rfl rfl⟩
    · exact ⟨s, by rw [Registry.perform, Registry.detach, hr, if_neg hk, hs], .kept Iff.rfl⟩
  | drain m => exact passage_drain m hs

/-- A sink that is there after an operation was there before, unless the operation created it. -/
theorem passage_or_subscribed (h : r.Sound) {op : Op} {s' : Sink StreamMessage}
    (hs' : (r.perform op).sink? id = some s') :
    (∃ s, r.sink? id = some s ∧ r.Passage op id s s') ∨
      ∃ feed capacity overflow, op = .subscribe feed capacity overflow ∧ id = r.nextId ∧
        s' = .create capacity overflow := by
  cases hs : r.sink? id with
  | some s =>
    obtain ⟨t, ht, hpass⟩ := h.passage op hs
    rw [hs'] at ht
    cases ht
    exact Or.inl ⟨s, rfl, hpass⟩
  | none =>
    have hnew : id < (r.perform op).nextId := by
      rw [← (h.perform op).known, hs']
      rfl
    have hold : ¬id < r.nextId := by
      rw [← h.known, hs]
      simp
    by_cases hop : ∃ feed capacity overflow, op = .subscribe feed capacity overflow
    · obtain ⟨feed, capacity, overflow, rfl⟩ := hop
      have hid : id = r.nextId := by
        have hn : (r.perform (.subscribe feed capacity overflow)).nextId = r.nextId + 1 := rfl
        omega
      refine Or.inr ⟨feed, capacity, overflow, rfl, hid, ?_⟩
      have hc := h.sink?_subscribe feed capacity overflow id
      rw [if_pos hid] at hc
      exact Option.some.inj (hs'.symm.trans hc)
    · have hnext := nextId_perform (r := r) fun feed capacity overflow he =>
        hop ⟨feed, capacity, overflow, he⟩
      rw [hnext] at hnew
      exact absurd hnew hold

end Sound
end Registry
end MarketWire
