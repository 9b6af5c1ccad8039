import MarketWire.Stream.Session.Loop

/-!
# Operations on a registry

Everything that a session or its owner does to the registry of subscriptions is one of ten
operations, with the farewell included that a subscription gets when it leaves. For each operation
this says what becomes of the pending subscriptions, of the owners of channels, and of the sinks.
-/
namespace MarketWire
namespace Registry

/-- The subscriptions that wait for an answer or own a channel. -/
def ids (r : Registry) : List Nat := r.pending.map (·.id) ++ r.active.map (·.id)

theorem mem_ids {r : Registry} {id : Nat} :
    id ∈ r.ids ↔ (∃ p ∈ r.pending, p.id = id) ∨ ∃ a ∈ r.active, a.id = id := by
  simp [ids]

theorem mem_ids_of_pending {r : Registry} {p : Pending} (hp : p ∈ r.pending) : p.id ∈ r.ids :=
  mem_ids.mpr (Or.inl ⟨p, hp, rfl⟩)

theorem mem_ids_of_active {r : Registry} {a : Active} (ha : a ∈ r.active) : a.id ∈ r.ids :=
  mem_ids.mpr (Or.inr ⟨a, ha, rfl⟩)

inductive Op where
  | subscribe (feed : Feed) (capacity : Nat) (overflow : Overflow)
  | takeUnsent
  | bind (a : Ack) (chanId : Int64)
  | bindAccount (chanId : Int64)
  /-- A refused subscription leaves with a message. -/
  | reject (a : Ack) (m : StreamMessage)
  /-- The owner of a channel leaves without a message. -/
  | close (chanId : Int64)
  | offer (id : Nat) (m : StreamMessage)
  | receive (id : Nat)
  | detach (id : Nat)
  /-- All subscriptions leave with a message. -/
  | drain (m : StreamMessage)

/-- What subscriptions are told that an operation removes. -/
def Op.farewell? : Op → Option StreamMessage
  | .bind _ chanId => some (reassigned chanId)
  | .bindAccount _ => some accountTaken
  | .reject _ m | .drain m => some m
  | _ => none

def closeOwner (r : Registry) (chanId : Int64) : Registry :=
  match r.unbind chanId with
  | (none, r) => r
  | (some id, r) => r.updateSink id Sink.close

def refuse (r : Registry) (a : Ack) (m : StreamMessage) : Registry :=
  match r.reject a with
  | (none, r) => r
  | (some id, r) => (r.finish id m).2

def perform (r : Registry) : Op → Registry
  | .subscribe feed capacity overflow => (r.subscribe feed capacity overflow).2
  | .takeUnsent => r.takeUnsent.2
  | .bind a chanId => (r.bind a chanId).2
  | .bindAccount chanId =>
    ((r.bindAccount chanId).2.2.finishAll (r.bindAccount chanId).2.1 accountTaken).2
  | .reject a m => r.refuse a m
  | .close chanId => r.closeOwner chanId
  | .offer id m => (r.offer id m).2
  | .receive id => (r.receive id).2
  | .detach id => r.detach id
  | .drain m => (r.drain.2.finishAll r.drain.1 m).2

/-! ## Sinks -/

theorem sink?_updateSink (r : Registry) (id k : Nat) (f : Sink StreamMessage → Sink StreamMessage) :
    (r.updateSink id f).sink? k = if k = id then (r.sink? k).map f else r.sink? k :=
  Sinks.get?_update ..

/-- Writing what was made of a sink in its place changes that sink alone. -/
theorem sink?_updateSink_const {r : Registry} {id : Nat} {s : Sink StreamMessage}
    (h : r.sink? id = some s) (f : Sink StreamMessage → Sink StreamMessage) (k : Nat) :
    (r.updateSink id fun _ => f s).sink? k = if k = id then (r.sink? k).map f else r.sink? k := by
  rw [sink?_updateSink]
  by_cases hk : k = id
  · subst hk; simp [h]
  · simp [hk]

theorem sink?_offer (r : Registry) (id : Nat) (m : StreamMessage) (k : Nat) :
    (r.offer id m).2.sink? k =
      if k = id then (r.sink? k).map fun s => (s.offer m).2 else r.sink? k := by
  unfold offer
  cases h : r.sink? id with
  | none => by_cases hk : k = id <;> simp [hk, h]
  | some s => exact sink?_updateSink_const h (fun s => (s.offer m).2) k

theorem sink?_finish (r : Registry) (id : Nat) (m : StreamMessage) (k : Nat) :
    (r.finish id m).2.sink? k =
      if k = id then (r.sink? k).map fun s => (s.finish m).2 else r.sink? k := by
  unfold finish
  cases h : r.sink? id with
  | none => by_cases hk : k = id <;> simp [hk, h]
  | some s => exact sink?_updateSink_const h (fun s => (s.finish m).2) k

theorem sink?_receive (r : Registry) (id k : Nat) :
    (r.receive id).2.sink? k =
      if k = id then (r.sink? k).map fun s => s.receive.2 else r.sink? k := by
  unfold receive
  cases h : r.sink? id with
  | none => by_cases hk : k = id <;> simp [hk, h]
  | some s => exact sink?_updateSink_const h (fun s => s.receive.2) k

/-- A sink that is named twice is finished once. -/
theorem sink?_finishAll (r : Registry) (ids : List Nat) (m : StreamMessage) (k : Nat) :
    (r.finishAll ids m).2.sink? k =
      if k ∈ ids then (r.sink? k).map fun s => (s.finish m).2 else r.sink? k := by
  induction ids generalizing r with
  | nil => simp [finishAll]
  | cons id ids ih =>
    have hstep : (r.finishAll (id :: ids) m).2 = ((r.finish id m).2.finishAll ids m).2 := rfl
    rw [hstep, ih, sink?_finish]
    by_cases hk : k = id
    · subst hk
      cases r.sink? k with
      | none => simp
      | some s => simp [Sink.finish_of_closed (Sink.closed_finish s m)]
    · simp [hk]

@[simp]
theorem entries_offer (r : Registry) (id : Nat) (m : StreamMessage) :
    (r.offer id m).2.pending = r.pending ∧ (r.offer id m).2.active = r.active ∧
      (r.offer id m).2.nextId = r.nextId := by
  unfold offer
  split <;> exact ⟨rfl, rfl, rfl⟩

@[simp]
theorem entries_finish (r : Registry) (id : Nat) (m : StreamMessage) :
    (r.finish id m).2.pending = r.pending ∧ (r.finish id m).2.active = r.active ∧
      (r.finish id m).2.nextId = r.nextId := by
  unfold finish
  split <;> exact ⟨rfl, rfl, rfl⟩

@[simp]
theorem entries_receive (r : Registry) (id : Nat) :
    (r.receive id).2.pending = r.pending ∧ (r.receive id).2.active = r.active ∧
      (r.receive id).2.nextId = r.nextId := by
  unfold receive
  split <;> exact ⟨rfl, rfl, rfl⟩

@[simp]
theorem entries_finishAll (r : Registry) (ids : List Nat) (m : StreamMessage) :
    (r.finishAll ids m).2.pending = r.pending ∧ (r.finishAll ids m).2.active = r.active ∧
      (r.finishAll ids m).2.nextId = r.nextId := by
  induction ids generalizing r with
  | nil => exact ⟨rfl, rfl, rfl⟩
  | cons id ids ih => simpa [finishAll] using ih (r.finish id m).2

/-! ## Owners -/

theorem owner?_eq_some {r : Registry} {chanId : Int64} {a : Active}
    (h : r.owner? chanId = some a) : a ∈ r.active ∧ a.chanId = chanId :=
  ⟨List.mem_of_find?_eq_some h, by simpa using List.find?_some h⟩

theorem owner?_eq_none {r : Registry} {chanId : Int64} :
    r.owner? chanId = none ↔ ∀ a ∈ r.active, a.chanId ≠ chanId := by
  simp [owner?]

theorem owner?_of_mem {r : Registry} (h : r.active.Pairwise fun a b => a.chanId ≠ b.chanId)
    {a : Active} (ha : a ∈ r.active) : r.owner? a.chanId = some a := by
  unfold owner?
  generalize r.active = as at h ha
  induction as with
  | nil => simp at ha
  | cons b bs ih =>
    rw [List.pairwise_cons] at h
    rcases List.mem_cons.mp ha with rfl | ha
    · simp
    · have hne : b.chanId ≠ a.chanId := h.1 a ha
      simp only [List.find?_cons, beq_eq_false_iff_ne.mpr hne]
      exact ih h.2 ha

/-! ## Channels change hands -/

def withoutOwner (r : Registry) (chanId : Int64) : Registry :=
  { r with active := r.active.filter (·.chanId != chanId) }

theorem active_activate (r : Registry) (chanId : Int64) (p : Pending) :
    (r.activate chanId p).active = ⟨chanId, p.id, p.feed⟩ :: (r.withoutOwner chanId).active := by
  unfold activate
  cases r.owner? chanId with
  | none => rfl
  | some old => simp [updateSink, withoutOwner]

theorem nextId_activate (r : Registry) (chanId : Int64) (p : Pending) :
    (r.activate chanId p).nextId = r.nextId := by
  unfold activate
  cases r.owner? chanId with
  | none => rfl
  | some old => simp [updateSink]

theorem sink?_activate (r : Registry) (chanId : Int64) (p : Pending) (k : Nat) :
    (r.activate chanId p).sink? k =
      let s := if k = p.id then (r.sink? k).map (·.setChanId chanId) else r.sink? k
      if (r.owner? chanId).any (·.id == k) then s.map fun s => (s.finish (reassigned chanId)).2
      else s := by
  unfold activate
  cases r.owner? chanId with
  | none => exact sink?_updateSink r p.id k (·.setChanId chanId)
  | some old =>
    change ((r.updateSink p.id (·.setChanId chanId)).finish old.id
      (reassigned chanId)).2.sink? k = _
    rw [sink?_finish, sink?_updateSink]
    by_cases hk : k = old.id
    · simp [hk]
    · simp [hk, Ne.symm hk]

theorem takeAgreeing_of_first {r : Registry} {a : Ack} {p : Pending} {before after : List Pending}
    (hs : r.pending = before ++ p :: after) (hb : ∀ q ∈ before, q.feed.agrees a = false)
    (hp : p.feed.agrees a = true) :
    r.takeAgreeing a = (some p, { r with pending := before ++ after }) := by
  have hfind : r.pending.find? (·.feed.agrees a) = some p :=
    List.find?_eq_some_iff_append.mpr ⟨hp, before, after, hs, by simpa using hb⟩
  have hrest : r.pending.eraseP (·.feed.agrees a) = before ++ after := by
    rw [hs, List.eraseP_append_right _ (by simpa using hb)]
    simp [hp]
  rw [takeAgreeing, hfind, hrest]

/-- The answered subscription stands behind those that do not agree with the answer. -/
theorem takeAgreeing_eq_some {r : Registry} {a : Ack} {p : Pending}
    (h : (r.takeAgreeing a).1 = some p) :
    p.feed.agrees a = true ∧ ∃ before after, r.pending = before ++ p :: after ∧
      (∀ q ∈ before, q.feed.agrees a = false) ∧
      (r.takeAgreeing a).2 = { r with pending := before ++ after } := by
  obtain ⟨hp, before, after, hs, hb⟩ := List.find?_eq_some_iff_append.mp h
  have hb' : ∀ q ∈ before, q.feed.agrees a = false := by simpa using hb
  exact ⟨hp, before, after, hs, hb', congrArg Prod.snd (takeAgreeing_of_first hs hb' hp)⟩

theorem takeAgreeing_eq_none {r : Registry} {a : Ack} (h : (r.takeAgreeing a).1 = none) :
    (∀ q ∈ r.pending, q.feed.agrees a = false) ∧ (r.takeAgreeing a).2 = r := by
  have hall : ∀ q ∈ r.pending, q.feed.agrees a = false := by
    simpa [takeAgreeing] using h
  refine ⟨hall, ?_⟩
  simp [takeAgreeing, List.eraseP_of_forall_not (p := (·.feed.agrees a)) (l := r.pending)
    (by simpa using hall)]

theorem bind_of_none {r : Registry} {a : Ack} (h : (r.takeAgreeing a).1 = none) (chanId : Int64) :
    r.bind a chanId = (none, r) := by
  have hr := (takeAgreeing_eq_none h).2
  unfold bind
  rw [← Prod.eta (r.takeAgreeing a), h, hr]

theorem bind_of_some {r : Registry} {a : Ack} {p : Pending} (h : (r.takeAgreeing a).1 = some p)
    (chanId : Int64) : r.bind a chanId = (some p, (r.takeAgreeing a).2.activate chanId p) := by
  unfold bind
  rw [← Prod.eta (r.takeAgreeing a), h]

theorem refuse_of_none {r : Registry} {a : Ack} (h : (r.takeAgreeing a).1 = none)
    (m : StreamMessage) : r.refuse a m = r := by
  have hr := (takeAgreeing_eq_none h).2
  unfold refuse reject
  rw [← Prod.eta (r.takeAgreeing a), h, hr]
  rfl

theorem refuse_of_some {r : Registry} {a : Ack} {p : Pending} (h : (r.takeAgreeing a).1 = some p)
    (m : StreamMessage) : r.refuse a m = ((r.takeAgreeing a).2.finish p.id m).2 := by
  unfold refuse reject
  rw [← Prod.eta (r.takeAgreeing a), h]
  rfl

theorem closeOwner_of_none {r : Registry} {chanId : Int64} (h : r.owner? chanId = none) :
    r.closeOwner chanId = r := by
  have hall : r.active.filter (·.chanId != chanId) = r.active := by
    simpa using owner?_eq_none.mp h
  simp [closeOwner, unbind, h, hall]

theorem closeOwner_of_some {r : Registry} {chanId : Int64} {a : Active}
    (h : r.owner? chanId = some a) :
    r.closeOwner chanId = (r.withoutOwner chanId).updateSink a.id Sink.close := by
  simp [closeOwner, unbind, withoutOwner, h]

/-! ## The account channel -/

def privates (r : Registry) : List Pending := r.pending.filter (·.feed.isPrivate)

def withoutPrivates (r : Registry) : Registry :=
  { r with pending := r.pending.filter (!·.feed.isPrivate) }

theorem bindAccount_of_owner {r : Registry} {chanId : Int64} {a : Active}
    (h : r.owner? chanId = some a) :
    r.bindAccount chanId = (none, r.privates.map (·.id), r.withoutPrivates) := by
  simp [bindAccount, privates, withoutPrivates, h]

theorem bindAccount_of_nil {r : Registry} (h : r.privates = []) (chanId : Int64) :
    r.bindAccount chanId = (none, [], r.withoutPrivates) := by
  unfold privates at h
  cases ho : r.owner? chanId <;> simp [bindAccount, withoutPrivates, h, ho]

theorem bindAccount_of_cons {r : Registry} {chanId : Int64} (ho : r.owner? chanId = none)
    {p : Pending} {ps : List Pending} (h : r.privates = p :: ps) :
    r.bindAccount chanId =
      (some p.id, ps.map (·.id), r.withoutPrivates.activate chanId p) := by
  unfold privates at h
  simp [bindAccount, withoutPrivates, h, ho]

theorem hasPendingPrivate_perform (r : Registry) (chanId : Int64) :
    (r.perform (.bindAccount chanId)).hasPendingPrivate = false := by
  have hnone := r.hasPendingPrivate_bindAccount chanId
  unfold hasPendingPrivate at hnone ⊢
  rw [perform, (entries_finishAll ..).1]
  exact hnone

/-! ## Numbers and places -/

theorem sublist_takeAgreeing {r : Registry} {a : Ack} {p : Pending}
    (h : (r.takeAgreeing a).1 = some p) : (r.takeAgreeing a).2.pending.Sublist r.pending := by
  obtain ⟨-, before, after, hs, -, he⟩ := takeAgreeing_eq_some h
  rw [he, hs]
  exact List.Sublist.append_left (List.sublist_cons_self p after) before

/-- Subscriptions that wait leave their places, but none comes or overtakes another. -/
theorem perform_shrinks {r : Registry} {op : Op} (hu : op ≠ .takeUnsent)
    (hs : ∀ feed capacity overflow, op ≠ .subscribe feed capacity overflow) :
    (r.perform op).nextId = r.nextId ∧ (r.perform op).pending.Sublist r.pending := by
  have hrefl := List.Sublist.refl r.pending
  cases op with
  | subscribe feed capacity overflow => exact absurd rfl (hs feed capacity overflow)
  | takeUnsent => exact absurd rfl hu
  | bind a chanId =>
    cases hp : (r.takeAgreeing a).1 with
    | none =>
      rw [perform, bind_of_none hp]
      exact ⟨rfl, hrefl⟩
    | some p =>
      rw [perform, bind_of_some hp, nextId_activate, pending_activate]
      exact ⟨rfl, sublist_takeAgreeing hp⟩
  | bindAccount chanId =>
    have hpriv : r.withoutPrivates.pending.Sublist r.pending := List.filter_sublist
    simp only [perform, entries_finishAll]
    cases ho : r.owner? chanId with
    | some a =>
      rw [bindAccount_of_owner ho]
      exact ⟨rfl, hpriv⟩
    | none =>
      cases hps : r.privates with
      | nil =>
        rw [bindAccount_of_nil hps]
        exact ⟨rfl, hpriv⟩
      | cons p ps =>
        rw [bindAccount_of_cons ho hps, nextId_activate, pending_activate]
        exact ⟨rfl, hpriv⟩
  | reject a m =>
    cases hp : (r.takeAgreeing a).1 with
    | none =>
      rw [perform, refuse_of_none hp]
      exact ⟨rfl, hrefl⟩
    | some p =>
      simp only [perform, refuse_of_some hp, entries_finish]
      exact ⟨rfl, sublist_takeAgreeing hp⟩
  | close chanId =>
    cases ho : r.owner? chanId with
    | none =>
      rw [perform, closeOwner_of_none ho]
      exact ⟨rfl, hrefl⟩
    | some a =>
      rw [perform, closeOwner_of_some ho]
      exact ⟨rfl, hrefl⟩
  | offer id m => simp only [perform, entries_offer, hrefl, and_self]
  | receive id => simp only [perform, entries_receive, hrefl, and_self]
  | detach id => exact ⟨rfl, hrefl⟩
  | drain m =>
    simp only [perform, entries_finishAll]
    exact ⟨rfl, List.nil_sublist _⟩

theorem nextId_perform {r : Registry} {op : Op}
    (h : ∀ feed capacity overflow, op ≠ .subscribe feed capacity overflow) :
    (r.perform op).nextId = r.nextId := by
  by_cases hu : op = .takeUnsent
  · rw [hu]
    rfl
  · exact (perform_shrinks hu h).1

theorem le_nextId_perform (r : Registry) (op : Op) : r.nextId ≤ (r.perform op).nextId := by
  cases op with
  | subscribe feed capacity overflow => exact Nat.le_succ r.nextId
  | _ => exact Nat.le_of_eq (nextId_perform fun _ _ _ he => by cases he).symm

end Registry
end MarketWire
