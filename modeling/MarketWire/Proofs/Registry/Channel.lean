import MarketWire.Proofs.Registry.Invariant

/-!
# Owners of channels

Which operation gives a channel to whom, and who has it afterwards. Whoever owns a channel was
pending before, and a subscription is to the same feed all the time.
-/
namespace MarketWire
namespace Registry

variable {r : Registry}

theorem owner?_withoutOwner (r : Registry) (chanId c : Int64) :
    (r.withoutOwner chanId).owner? c = if c = chanId then none else r.owner? c := by
  unfold owner? withoutOwner
  dsimp only
  rw [List.find?_filter]
  by_cases hc : c = chanId
  · subst hc
    simp
  · rw [if_neg hc]
    congr 1
    funext a
    by_cases ha : a.chanId = c
    · simp [ha, hc]
    · simp [ha]

theorem owner?_activate (r : Registry) (chanId : Int64) (p : Pending) (c : Int64) :
    (r.activate chanId p).owner? c =
      if c = chanId then some ⟨chanId, p.id, p.feed⟩ else r.owner? c := by
  have hcons : (r.activate chanId p).owner? c =
      if chanId = c then some ⟨chanId, p.id, p.feed⟩ else (r.withoutOwner chanId).owner? c := by
    unfold owner?
    rw [active_activate, List.find?_cons]
    by_cases hc : chanId = c
    · simp [hc]
    · have hb : (chanId == c) = false := by simpa using hc
      rw [hb, if_neg hc]
  rw [hcons, owner?_withoutOwner]
  by_cases hc : c = chanId
  · rw [if_pos hc, if_pos hc, if_pos hc.symm]
  · rw [if_neg hc, if_neg hc, if_neg (Ne.symm hc)]

theorem owner?_congr {r' : Registry} (h : r'.active = r.active) (c : Int64) :
    r'.owner? c = r.owner? c := by
  unfold owner?
  rw [h]

theorem active_refuse (r : Registry) (a : Ack) (m : StreamMessage) :
    (r.refuse a m).active = r.active := by
  cases hp : (r.takeAgreeing a).1 with
  | none => rw [refuse_of_none hp]
  | some p =>
    rw [refuse_of_some hp]
    exact (entries_finish ..).2.1

theorem owner?_closeOwner (r : Registry) (chanId c : Int64) :
    (r.closeOwner chanId).owner? c = if c = chanId then none else r.owner? c := by
  cases ho : r.owner? chanId with
  | none =>
    rw [closeOwner_of_none ho]
    by_cases hc : c = chanId
    · rw [if_pos hc, hc, ho]
    · rw [if_neg hc]
  | some a =>
    rw [closeOwner_of_some ho]
    exact r.owner?_withoutOwner chanId c

theorem owner?_bind (r : Registry) (a : Ack) (chanId c : Int64) :
    (r.bind a chanId).2.owner? c =
      match (r.bind a chanId).1 with
      | none => r.owner? c
      | some p => if c = chanId then some ⟨chanId, p.id, p.feed⟩ else r.owner? c := by
  cases hp : (r.takeAgreeing a).1 with
  | none => rw [bind_of_none hp]
  | some p =>
    rw [bind_of_some hp]
    exact owner?_activate _ chanId p c

/-- The account channel stays with its owner, or goes to the first account subscription. -/
theorem owner?_bindAccount (r : Registry) (chanId : Int64) :
    ((r.bindAccount chanId).1 = none ∧
      ∀ c, (r.perform (.bindAccount chanId)).owner? c = r.owner? c) ∨
    ∃ p ∈ r.pending, (r.bindAccount chanId).1 = some p.id ∧
      ∀ c, (r.perform (.bindAccount chanId)).owner? c =
        if c = chanId then some ⟨chanId, p.id, p.feed⟩ else r.owner? c := by
  have hfinish : ∀ (r : Registry) (out : List Nat) (m : StreamMessage) (c : Int64),
      (r.finishAll out m).2.owner? c = r.owner? c :=
    fun r out m c => owner?_congr (entries_finishAll r out m).2.1 c
  simp only [perform, hfinish]
  cases ho : r.owner? chanId with
  | some a =>
    rw [bindAccount_of_owner ho]
    exact Or.inl ⟨rfl, fun _ => rfl⟩
  | none =>
    cases hps : r.privates with
    | nil =>
      rw [bindAccount_of_nil hps]
      exact Or.inl ⟨rfl, fun _ => rfl⟩
    | cons p ps =>
      rw [bindAccount_of_cons ho hps]
      have hp : p ∈ r.privates := hps ▸ List.mem_cons_self
      exact Or.inr ⟨p, (List.mem_filter.mp hp).1, rfl, owner?_activate _ chanId p⟩

theorem state?_of_active {id : Nat} (hp : ∀ p ∈ r.pending, p.id ≠ id) {a : Active}
    (ha : a ∈ r.active) (he : a.id = id) : r.state? id = some .active := by
  have hpending : r.pending.any (·.id == id) = false := by simpa using hp
  have hactive : r.active.any (·.id == id) = true := by
    simpa using ⟨a, ha, he⟩
  simp [state?, hpending, hactive]

/-! ## Feeds -/

/-- Who owns a channel has owned one before, or has been pending and got it by an answer. -/
theorem mem_active_perform {op : Op} {a : Active} (ha : a ∈ (r.perform op).active) :
    a ∈ r.active ∨ ∃ p ∈ r.pending, p.id = a.id ∧ p.feed = a.feed ∧
      ((∃ ack, op = .bind ack a.chanId) ∨ op = .bindAccount a.chanId ∧ a.feed.isPrivate = true) := by
  have hact : ∀ (r' : Registry) (chanId : Int64) (p : Pending), r'.active = r.active →
      a ∈ (r'.activate chanId p).active → a ∈ r.active ∨ a = ⟨chanId, p.id, p.feed⟩ := by
    intro r' chanId p hr ha
    rw [active_activate] at ha
    rcases List.mem_cons.mp ha with ha | ha
    · exact Or.inr ha
    · exact Or.inl (hr ▸ (List.mem_filter.mp ha).1)
  cases op with
  | bind ack chanId =>
    rw [perform] at ha
    cases hp : (r.takeAgreeing ack).1 with
    | none =>
      rw [bind_of_none hp] at ha
      exact Or.inl ha
    | some p =>
      rw [bind_of_some hp] at ha
      apply (hact (r.takeAgreeing ack).2 chanId p rfl ha).imp_right
      rintro rfl
      exact ⟨p, List.mem_of_find?_eq_some hp, rfl, rfl, Or.inl ⟨ack, rfl⟩⟩
  | bindAccount chanId =>
    simp only [perform, entries_finishAll] at ha
    cases ho : r.owner? chanId with
    | some o =>
      rw [bindAccount_of_owner ho] at ha
      exact Or.inl ha
    | none =>
      cases hps : r.privates with
      | nil =>
        rw [bindAccount_of_nil hps] at ha
        exact Or.inl ha
      | cons p ps =>
        rw [bindAccount_of_cons ho hps] at ha
        have hp : p ∈ r.privates := hps ▸ List.mem_cons_self
        obtain ⟨hmem, hpriv⟩ := List.mem_filter.mp hp
        apply (hact r.withoutPrivates chanId p rfl ha).imp_right
        rintro rfl
        exact ⟨p, hmem, rfl, rfl, Or.inr ⟨rfl, hpriv⟩⟩
  | reject ack m => exact Or.inl (r.active_refuse ack m ▸ ha)
  | close chanId =>
    rw [perform] at ha
    cases ho : r.owner? chanId with
    | none =>
      rw [closeOwner_of_none ho] at ha
      exact Or.inl ha
    | some o =>
      rw [closeOwner_of_some ho] at ha
      exact Or.inl (List.mem_filter.mp ha).1
  | offer id m => exact Or.inl ((entries_offer r id m).2.1 ▸ ha)
  | receive id => exact Or.inl ((entries_receive r id).2.1 ▸ ha)
  | drain m =>
    simp only [perform, entries_finishAll] at ha
    cases ha
  | _ => exact Or.inl ha

/-- Who is pending has been pending before, or has just been registered. -/
theorem mem_pending_perform {op : Op} {p : Pending} (hp : p ∈ (r.perform op).pending) :
    (∃ q ∈ r.pending, q.id = p.id ∧ q.feed = p.feed) ∨
      ∃ capacity overflow, op = .subscribe p.feed capacity overflow ∧ p.id = r.nextId := by
  by_cases hu : op = .takeUnsent
  · subst hu
    obtain ⟨q, hq, rfl⟩ := List.mem_map.mp hp
    exact Or.inl ⟨q, hq, rfl, rfl⟩
  · by_cases hs : ∃ feed capacity overflow, op = .subscribe feed capacity overflow
    · obtain ⟨feed, capacity, overflow, rfl⟩ := hs
      rcases List.mem_append.mp hp with hp | hp
      · exact Or.inl ⟨p, hp, rfl, rfl⟩
      · rw [List.mem_singleton.mp hp]
        exact Or.inr ⟨capacity, overflow, rfl, rfl⟩
    · obtain ⟨-, hsub⟩ := perform_shrinks (r := r) hu fun feed capacity overflow he =>
        hs ⟨feed, capacity, overflow, he⟩
      exact Or.inl ⟨p, hsub.subset hp, rfl, rfl⟩

/-- Who has left does not come back. -/
theorem not_mem_ids_perform {id : Nat} (hlt : id < r.nextId) (hid : id ∉ r.ids) (op : Op) :
    id ∉ (r.perform op).ids := by
  intro hin
  rcases mem_ids.mp hin with ⟨p, hp, rfl⟩ | ⟨a, ha, rfl⟩
  · rcases mem_pending_perform hp with ⟨q, hq, hqid, -⟩ | ⟨capacity, overflow, -, hnew⟩
    · exact hid (mem_ids.mpr (Or.inl ⟨q, hq, hqid⟩))
    · omega
  · rcases mem_active_perform ha with ha | ⟨p, hp, hpid, -⟩
    · exact hid (mem_ids_of_active ha)
    · exact hid (mem_ids.mpr (Or.inl ⟨p, hp, hpid⟩))

/-- As long as a subscription is in the registry, it is to this feed. -/
def Serves (r : Registry) (id : Nat) (feed : Feed) : Prop :=
  (∀ p ∈ r.pending, p.id = id → p.feed = feed) ∧ ∀ a ∈ r.active, a.id = id → a.feed = feed

theorem Serves.perform {id : Nat} {feed : Feed} (h : r.Serves id feed) (hid : id < r.nextId)
    (op : Op) : (r.perform op).Serves id feed := by
  constructor
  · rintro p hp rfl
    rcases mem_pending_perform hp with ⟨q, hq, hqid, hqf⟩ | ⟨capacity, overflow, -, hnew⟩
    · exact hqf ▸ h.1 q hq hqid
    · omega
  · rintro a ha rfl
    rcases mem_active_perform ha with ha | ⟨p, hp, hpid, hpf, -⟩
    · exact h.2 a ha rfl
    · exact hpf ▸ h.1 p hp hpid

end Registry
end MarketWire
