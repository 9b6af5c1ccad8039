import MarketWire.Proofs.Session.Invariant

/-!
# What a subscriber is told

The history of a subscription is what its subscriber has received, followed by what waits in its
sink. Receiving moves a message from one to the other, so only the loop adds to a history, and only
a subscriber that leaves loses a part of it.
-/
namespace MarketWire

def Receipt.message? : Receipt α → Option α
  | .message m => some m
  | _ => none

theorem Sink.message?_receive (k : Sink α) :
    k.receive.1.message?.toList ++ k.receive.2.queue = k.queue := by
  cases hq : k.queue with
  | nil => cases hc : k.closed <;> simp [receive, take, hq, hc, Receipt.message?]
  | cons m ms => simp [receive, take, hq, Receipt.message?]

namespace Registry

def queued (r : Registry) (id : Nat) : List StreamMessage := (r.sink? id).elim [] (·.queue)

theorem queued_of_some {r : Registry} {id : Nat} {k : Sink StreamMessage}
    (h : r.sink? id = some k) : r.queued id = k.queue := by
  simp [queued, h]

theorem queued_of_none {r : Registry} {id : Nat} (h : r.sink? id = none) : r.queued id = [] := by
  simp [queued, h]

theorem Passage.mem_queue {r : Registry} {op : Op} {id : Nat} {k k' : Sink StreamMessage}
    (h : r.Passage op id k k') {m : StreamMessage} (hm : m ∈ k'.queue) :
    m ∈ k.queue ∨ op = .offer id m ∨ op.farewell? = some m := by
  cases h with
  | kept _ => exact Or.inl hm
  | bound _ chanId => exact Or.inl hm
  | offered _ m' hop =>
    rcases Sink.mem_queue_offer hm with hm | rfl
    · exact Or.inl hm
    · exact Or.inr (Or.inl hop)
  | received _ hop =>
    rw [← k.message?_receive]
    exact Or.inl (List.mem_append_right _ hm)
  | detached _ hop => cases hm
  | finished _ _ m' hop =>
    rcases Sink.mem_queue_finish hm with hm | rfl
    · exact Or.inl hm
    · exact Or.inr (Or.inr hop)
  | closed => exact Or.inl hm

/-- Messages come into a sink as offers and as farewells. -/
theorem mem_queued_perform {r : Registry} (hr : r.Sound) {op : Op} {id : Nat} {m : StreamMessage}
    (hm : m ∈ (r.perform op).queued id) :
    m ∈ r.queued id ∨ op = .offer id m ∨ op.farewell? = some m := by
  cases hk' : (r.perform op).sink? id with
  | none => simp [queued_of_none hk'] at hm
  | some k' =>
    rw [queued_of_some hk'] at hm
    rcases hr.passage_or_subscribed hk' with ⟨k, hk, hp⟩ | ⟨feed, capacity, overflow, -, -, rfl⟩
    · rw [queued_of_some hk]
      exact hp.mem_queue hm
    · cases hm

theorem Passage.of_detached {r : Registry} {op : Op} {id : Nat} {k k' : Sink StreamMessage}
    (h : r.Passage op id k k') (hd : k'.detached = true) : k.detached = true ∨ op = .detach id := by
  cases h with
  | kept => exact Or.inl hd
  | bound => exact Or.inl hd
  | offered _ m => exact Or.inl ((Sink.fields_offer k m).2.1.symm.trans hd)
  | received => exact Or.inl (k.fields_receive.2.1.symm.trans hd)
  | detached _ he => exact Or.inr he
  | finished _ _ m => exact Or.inl ((Sink.fields_finish k m).1.symm.trans hd)
  | closed => exact Or.inl hd

theorem Passage.detached_of {r : Registry} {op : Op} {id : Nat} {k k' : Sink StreamMessage}
    (h : r.Passage op id k k') (hd : k.detached = true) : k'.detached = true := by
  cases h with
  | kept => exact hd
  | bound => exact hd
  | offered _ m => exact (Sink.fields_offer k m).2.1.trans hd
  | received => exact k.fields_receive.2.1.trans hd
  | detached => rfl
  | finished _ _ m => exact (Sink.fields_finish k m).1.trans hd
  | closed => exact hd

/-- The subscription has a sink, and its subscriber has not left. -/
def Attached (r : Registry) (id : Nat) : Prop := ∃ k, r.sink? id = some k ∧ k.detached = false

theorem Attached.perform {r : Registry} {id : Nat} (h : r.Attached id) (hr : r.Sound) {op : Op}
    (hop : op ≠ .detach id) : (r.perform op).Attached id := by
  obtain ⟨k, hk, hd⟩ := h
  obtain ⟨k', hk', hp⟩ := hr.passage op hk
  refine ⟨k', hk', ?_⟩
  rw [Bool.eq_false_iff]
  intro hd'
  rcases hp.of_detached hd' with hd' | he
  · rw [hd] at hd'
    cases hd'
  · exact hop he

def Left (r : Registry) (id : Nat) : Prop := ∃ k, r.sink? id = some k ∧ k.detached = true

theorem Left.perform {r : Registry} {id : Nat} (h : r.Left id) (hr : r.Sound) (op : Op) :
    (r.perform op).Left id := by
  obtain ⟨k, hk, hd⟩ := h
  obtain ⟨k', hk', hp⟩ := hr.passage op hk
  exact ⟨k', hk', hp.detached_of hd⟩

theorem Attached.not_left {r : Registry} {id : Nat} (h : r.Attached id) : ¬r.Left id := by
  rintro ⟨k', hk', hd'⟩
  obtain ⟨k, hk, hd⟩ := h
  rw [hk] at hk'
  cases hk'
  rw [hd] at hd'
  cases hd'

theorem left_of_any {r : Registry} {id : Nat} (h : (r.sink? id).any (·.detached) = true) :
    r.Left id :=
  (Option.any_eq_true _ _).mp h

end Registry

namespace Session

def taken (s : Session) (id : Nat) : Act → List StreamMessage
  | .receive k => if k = id then ((s.receive id).1.bind Receipt.message?).toList else []
  | _ => []

/-- What a run hands to a subscriber. -/
def received (s : Session) (id : Nat) : List Act → List StreamMessage
  | [] => []
  | a :: acts => s.taken id a ++ (s.act a).received id acts

/-- What a subscriber has been told when a run is over. -/
def history (s : Session) (id : Nat) (acts : List Act) : List StreamMessage :=
  s.received id acts ++ (s.run acts).registry.queued id

theorem received_concat (s : Session) (id : Nat) (acts : List Act) (a : Act) :
    s.received id (acts ++ [a]) = s.received id acts ++ (s.run acts).taken id a := by
  induction acts generalizing s with
  | nil => simp [received, run]
  | cons b acts ih =>
    simp only [List.cons_append, received, ih (s.act b), List.append_assoc]
    rfl

theorem taken_eq_nil (s : Session) (id : Nat) {a : Act} (h : a ≠ .receive id) :
    s.taken id a = [] := by
  cases a with
  | receive k =>
    have hne : k ≠ id := fun hk => h (hk ▸ rfl)
    simp [taken, hne]
  | _ => rfl

/-- A message that is received is one less that waits. -/
theorem taken_append_queued (s : Session) (id k : Nat) :
    s.taken id (.receive k) ++ (s.act (.receive k)).registry.queued id = s.registry.queued id := by
  have hr := Registry.sink?_receive s.registry k id
  by_cases hk : id = k
  · subst hk
    rw [if_pos rfl] at hr
    simp only [taken, if_true, act, receive, Registry.queued]
    rw [hr]
    unfold Registry.receive
    cases s.registry.sink? id with
    | none => rfl
    | some k => exact k.message?_receive
  · rw [if_neg hk] at hr
    rw [taken_eq_nil s id (fun he => hk (Act.receive.inj he).symm), List.nil_append]
    simp only [act, receive, Registry.queued]
    rw [hr]

theorem history_receive (s : Session) (id k : Nat) (acts : List Act) :
    s.history id (acts ++ [.receive k]) = s.history id acts := by
  unfold history
  rw [received_concat, run_concat, List.append_assoc, taken_append_queued]

/-- An act that is no reception changes only what waits. -/
theorem history_concat (s : Session) (id : Nat) (acts : List Act) {a : Act}
    (h : a ≠ .receive id) :
    s.history id (acts ++ [a]) =
      s.received id acts ++ ((s.run acts).act a).registry.queued id := by
  unfold history
  rw [received_concat, run_concat, taken_eq_nil _ _ h, List.append_nil]

/-! ## Subscribers that stay -/

theorem attached_performs {s : Session} {a : Act} {r : Registry} {id : Nat}
    (h : s.Performs a r) (hs : s.Sound) (ha : a ≠ .leave id) (hid : s.registry.Attached id) :
    r.Attached id := by
  induction h with
  | start => exact hid
  | perform h hop ih =>
    refine ih.perform (h.sound hs.registry) fun he => ?_
    subst he
    cases hop
    exact ha rfl

/-- A subscriber is there until it leaves. -/
theorem attached_run {s : Session} (hs : s.Sound) {id : Nat} (hid : s.registry.Attached id)
    {acts : List Act} (ha : .leave id ∉ acts) : (s.run acts).registry.Attached id := by
  induction acts generalizing s with
  | nil => exact hid
  | cons a acts ih =>
    rw [List.mem_cons, not_or] at ha
    exact ih (hs.act a) (attached_performs (performs_act s a) hs (Ne.symm ha.1) hid) ha.2

theorem left_performs {s : Session} {a : Act} {r : Registry} {id : Nat} (h : s.Performs a r)
    (hs : s.Sound) (hid : s.registry.Left id) : r.Left id := by
  induction h with
  | start => exact hid
  | perform h hop ih => exact ih.perform (h.sound hs.registry) _

theorem sink?_register {s s' : Session} (hs : s.Sound) {feed : Feed} {id : Nat}
    (h : s.register feed = .ok (id, s')) :
    s'.registry.sink? id = some (.create s.config.sinkCapacity s.config.overflow) := by
  obtain ⟨-, rfl, rfl⟩ := register_eq_ok h
  exact (hs.registry.sink?_subscribe feed s.config.sinkCapacity s.config.overflow _).trans
    (if_pos rfl)

theorem attached_register {s s' : Session} (hs : s.Sound) {feed : Feed} {id : Nat}
    (h : s.register feed = .ok (id, s')) : s'.registry.Attached id :=
  ⟨_, sink?_register hs h, rfl⟩

end Session
end MarketWire
