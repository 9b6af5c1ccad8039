import MarketWire.Stream.Mailbox
import MarketWire.Proofs.Session.History

/-!
# The order of a sink

Both sides of a sink work on it in any order. Whatever they do, messages leave it in the order in
which they came, and the only ones that leave without being received are those that a delivery to a
full sink gave up, each the oldest one at its time. What comes in and goes out at one operation is
read off the sinks before and after it; `queue_perform` is their balance, and the rest follows by
induction on the operations.
-/
namespace MarketWire
namespace Sink

/-- What the two sides of a sink do. A delivery that has to wait for room is one that will be made
again. -/
inductive Op (α : Type) where
  | deliver (m : α)
  | finish (m : α)
  | close
  | receive
  | tryReceive
  | leave
deriving DecidableEq

def Op.isEnd : Op α → Bool
  | .finish _ | .close | .leave => true
  | _ => false

def Op.isClosing : Op α → Bool
  | .finish _ | .close => true
  | _ => false

def Op.isLeaving : Op α → Bool
  | .leave => true
  | _ => false

def perform (s : Sink α) : Op α → Sink α
  | .deliver m => (s.offer m).2
  | .finish m => (s.finish m).2
  | .close => s.close
  | .receive => s.receive.2
  | .tryReceive => s.take.2
  | .leave => s.detach

def run (s : Sink α) (ops : List (Op α)) : Sink α := ops.foldl perform s

theorem run_append (s : Sink α) (ops later : List (Op α)) :
    s.run (ops ++ later) = (s.run ops).run later :=
  List.foldl_append

theorem run_concat (s : Sink α) (ops : List (Op α)) (op : Op α) :
    s.run (ops ++ [op]) = (s.run ops).perform op := by
  rw [run_append]
  rfl

/-! ## What comes in and what goes out -/

/-- The last message that the filling side is told will be received. -/
def finishes (s : Sink α) : Op α → List α
  | .finish m => if (s.finish m).1 then [m] else []
  | _ => []

/-- The messages that the filling side is told were taken. -/
def accepts (s : Sink α) : Op α → List α
  | .deliver m => if (s.offer m).1 = some .delivered then [m] else []
  | op => s.finishes op

def refuses (s : Sink α) : Op α → List α
  | .deliver m => if (s.offer m).1 = some .dropped then [m] else []
  | _ => []

def receives (s : Sink α) : Op α → List α
  | .receive => s.receive.1.message?.toList
  | .tryReceive => s.take.1.toList
  | _ => []

/-- The messages at the front of the queue that are gone when a new one has been taken. -/
def evicts (s : Sink α) : Op α → List α
  | .deliver m =>
    s.queue.take (s.queue.length + (s.accepts (.deliver m)).length - (s.offer m).2.queue.length)
  | _ => []

inductive Departure (α : Type) where
  | received (m : α)
  | evicted (m : α)

namespace Departure

def message : Departure α → α
  | .received m | .evicted m => m

def received? : Departure α → Option α
  | .received m => some m
  | .evicted _ => none

end Departure

def departs (s : Sink α) (op : Op α) : List (Departure α) :=
  (s.evicts op).map .evicted ++ (s.receives op).map .received

theorem filterMap_departs (s : Sink α) (op : Op α) :
    (s.departs op).filterMap Departure.received? = s.receives op := by
  have he (ms : List α) : (ms.map Departure.evicted).filterMap Departure.received? = [] := by
    simp [Departure.received?]
  have hr (ms : List α) : (ms.map Departure.received).filterMap Departure.received? = ms := by
    simp [List.filterMap_map, Departure.received?, Function.comp_def]
  rw [departs, List.filterMap_append, he, hr, List.nil_append]

theorem map_departs (s : Sink α) (op : Op α) :
    (s.departs op).map Departure.message = s.evicts op ++ s.receives op := by
  simp [departs, Function.comp_def, Departure.message]

def collect (f : Sink α → Op α → List β) : Sink α → List (Op α) → List β
  | _, [] => []
  | s, op :: ops => f s op ++ collect f (s.perform op) ops

section
variable (f : Sink α → Op α → List β)

theorem collect_append (s : Sink α) (ops later : List (Op α)) :
    collect f s (ops ++ later) = collect f s ops ++ collect f (s.run ops) later := by
  induction ops generalizing s with
  | nil => rfl
  | cons op ops ih =>
    simp only [List.cons_append, collect, ih, List.append_assoc]
    rfl

theorem collect_concat (s : Sink α) (ops : List (Op α)) (op : Op α) :
    collect f s (ops ++ [op]) = collect f s ops ++ f (s.run ops) op := by
  simp [collect_append, collect]

/-- What never happens on the way is not collected. -/
theorem collect_eq_nil {P : Sink α → Prop} (hf : ∀ s op, P s → f s op = [])
    (hp : ∀ s op, P s → P (s.perform op)) {s : Sink α} (hs : P s) (ops : List (Op α)) :
    collect f s ops = [] := by
  induction ops generalizing s with
  | nil => rfl
  | cons op ops ih => rw [collect, hf s op hs, ih (hp s op hs), List.append_nil]

end

/-! ## One operation -/

/-- What is taken joins the queue at its end, and what goes leaves it at its front. -/
theorem queue_perform (s : Sink α) {op : Op α} (h : op ≠ .leave) :
    s.queue ++ s.accepts op = s.evicts op ++ s.receives op ++ (s.perform op).queue := by
  cases op with
  | deliver m =>
    have ho := s.offered m
    simp only [evicts, receives, accepts, perform]
    generalize s.offer m = r at ho ⊢
    cases ho with
    | closed _ => simp
    | taken _ _ => simp
    | waits _ _ _ => simp
    | evicted _ hfull _ =>
      have hpos := s.capacity_pos
      cases hq : s.queue with
      | nil => simp [hq] at hfull; omega
      | cons q qs => simp
    | refused _ _ _ => simp
  | finish m =>
    have hf := s.finished m
    simp only [evicts, receives, accepts, finishes, perform]
    generalize s.finish m = r at hf ⊢
    cases hf with
    | again _ => simp
    | unheard _ _ => simp
    | queued _ _ => simp
  | close => simp [evicts, receives, accepts, finishes, perform, close]
  | receive =>
    have hr := s.message?_receive
    simpa [evicts, receives, accepts, finishes, perform] using hr.symm
  | tryReceive =>
    cases hq : s.queue <;> simp [evicts, receives, accepts, finishes, perform, take, hq]
  | leave => exact absurd rfl h

theorem fields_perform (s : Sink α) (op : Op α) :
    (s.perform op).capacity = s.capacity ∧ (s.perform op).overflow = s.overflow ∧
      (s.perform op).closed = (s.closed || op.isClosing) ∧
      (s.perform op).detached = (s.detached || op.isLeaving) := by
  cases op with
  | deliver m =>
    have ho := s.offered m
    simp only [perform]
    generalize s.offer m = r at ho ⊢
    cases ho <;> simp [Op.isClosing, Op.isLeaving]
  | finish m =>
    have hf := s.finished m
    simp only [perform]
    generalize s.finish m = r at hf ⊢
    cases hf <;> simp [Op.isClosing, Op.isLeaving, *]
  | close => simp [perform, close, Op.isClosing, Op.isLeaving]
  | receive => cases hq : s.queue <;> simp [perform, receive, take, hq, Op.isClosing, Op.isLeaving]
  | tryReceive => cases hq : s.queue <;> simp [perform, take, hq, Op.isClosing, Op.isLeaving]
  | leave => simp [perform, detach, Op.isClosing, Op.isLeaving]

/-- A message is given up for another only by a full sink that gives up its oldest one. -/
theorem evicts_cases (s : Sink α) (op : Op α) :
    s.evicts op = [] ∨ ∃ m, s.evicts op = [m] ∧ s.queue.head? = some m ∧ s.isClosed = false ∧
      s.capacity ≤ s.queue.length ∧ s.overflow = .dropOldest := by
  cases op with
  | deliver m =>
    have ho := s.offered m
    simp only [evicts, accepts]
    generalize s.offer m = r at ho ⊢
    cases ho with
    | closed _ => simp
    | taken _ _ => simp
    | waits _ _ _ => simp
    | evicted h hfull ho =>
      have hpos := s.capacity_pos
      cases hq : s.queue with
      | nil => simp [hq] at hfull; omega
      | cons q qs =>
        rw [hq] at hfull
        exact .inr ⟨q, by simp, rfl, h, hfull, ho⟩
    | refused _ _ _ => simp
  | _ => exact .inl rfl

theorem evicts_eq_nil {s : Sink α} (h : s.overflow ≠ .dropOldest) (op : Op α) :
    s.evicts op = [] := by
  rcases s.evicts_cases op with he | ⟨_, -, -, -, -, he⟩
  · exact he
  · exact absurd he h

theorem isClosed_perform (s : Sink α) (op : Op α) :
    (s.perform op).isClosed = (s.isClosed || op.isEnd) := by
  obtain ⟨-, -, hc, hd⟩ := s.fields_perform op
  rw [isClosed, hc, hd]
  cases op <;> simp [isClosed, Op.isClosing, Op.isLeaving, Op.isEnd]

theorem accepts_of_isClosed {s : Sink α} (h : s.isClosed = true) (op : Op α) :
    s.accepts op = [] := by
  cases op with
  | deliver m => simp [accepts, offer_of_isClosed h]
  | finish m =>
    have hf := s.finished m
    simp only [accepts, finishes]
    generalize s.finish m = r at hf ⊢
    cases hf with
    | again _ => rfl
    | unheard _ _ => rfl
    | queued hc hd => simp [isClosed, hc, hd] at h
  | _ => rfl

theorem evicts_of_isClosed {s : Sink α} (h : s.isClosed = true) (op : Op α) :
    s.evicts op = [] := by
  rcases s.evicts_cases op with he | ⟨_, -, -, ho, -⟩
  · exact he
  · rw [h] at ho
    cases ho

/-- A closed sink only gives away what it has. -/
theorem queue_of_isClosed {s : Sink α} (h : s.isClosed = true) {op : Op α} (hop : op ≠ .leave) :
    s.receives op ++ (s.perform op).queue = s.queue := by
  simpa [accepts_of_isClosed h, evicts_of_isClosed h] using (s.queue_perform hop).symm

theorem suffix_of_isClosed {s : Sink α} (h : s.isClosed = true) (op : Op α) :
    (s.perform op).queue <:+ s.queue := by
  by_cases hop : op = .leave
  · subst hop
    exact List.nil_suffix
  · exact ⟨_, queue_of_isClosed h hop⟩

theorem finishes_of_closed {s : Sink α} (h : s.closed = true) (op : Op α) :
    s.finishes op = [] := by
  cases op with
  | finish m => simp [finishes, finish_of_closed h]
  | _ => rfl

theorem length_finishes (s : Sink α) (op : Op α) : (s.finishes op).length ≤ 1 := by
  cases op with
  | finish m => cases hf : (s.finish m).1 <;> simp [finishes, hf]
  | _ => exact Nat.zero_le 1

theorem dropped_perform (s : Sink α) (op : Op α) :
    (s.perform op).dropped = s.dropped + (s.evicts op).length + (s.refuses op).length := by
  cases op with
  | deliver m =>
    have ho := s.offered m
    simp only [evicts, accepts, refuses, perform]
    generalize s.offer m = r at ho ⊢
    cases ho with
    | closed _ => simp
    | taken _ _ => simp
    | waits _ _ _ => simp
    | evicted _ hfull _ =>
      have hpos := s.capacity_pos
      simp
      omega
    | refused _ _ _ => simp
  | finish m => simp [perform, evicts, refuses, (s.fields_finish m).2.2.1]
  | receive => simp [perform, evicts, refuses, s.fields_receive.2.2.2.1]
  | tryReceive => cases hq : s.queue <;> simp [perform, evicts, refuses, take, hq]
  | _ => simp [perform, evicts, refuses, close, detach]

theorem refuses_eq_nil {s : Sink α} (h : s.overflow ≠ .dropNewest) (op : Op α) :
    s.refuses op = [] := by
  cases op with
  | deliver m =>
    have ho := s.offered m
    simp only [refuses]
    generalize s.offer m = r at ho ⊢
    cases ho with
    | refused _ _ ho => exact absurd ho h
    | _ => rfl
  | _ => rfl

theorem receive_eq_ended_iff (s : Sink α) :
    s.receive.1 = .ended ↔ s.closed = true ∧ s.queue = [] := by
  cases hq : s.queue with
  | nil => cases hc : s.closed <;> simp [receive, take, hq, hc]
  | cons m ms => simp [receive, take, hq]

theorem finish_of_detached {s : Sink α} (h : s.detached = true) (m : α) :
    (s.finish m).1 = false := by
  have hf := s.finished m
  generalize s.finish m = r at hf ⊢
  cases hf with
  | queued _ hd => rw [h] at hd; cases hd
  | _ => rfl

theorem length_perform (s : Sink α) (op : Op α) :
    (s.perform op).queue.length ≤ max s.queue.length s.capacity + (s.finishes op).length := by
  cases op with
  | deliver m =>
    have ho := s.offered m
    simp only [perform, finishes, List.length_nil]
    generalize s.offer m = r at ho ⊢
    cases ho with
    | taken _ hroom =>
      simp only [List.length_append, List.length_cons, List.length_nil]
      omega
    | evicted _ hfull _ =>
      have hpos := s.capacity_pos
      simp only [List.length_append, List.length_tail, List.length_cons, List.length_nil]
      omega
    | _ => exact Nat.le_max_left _ _
  | finish m =>
    have hf := s.finished m
    simp only [perform, finishes]
    generalize s.finish m = r at hf ⊢
    cases hf with
    | queued _ _ =>
      simp only [if_true, List.length_append, List.length_cons, List.length_nil]
      omega
    | _ => exact Nat.le_max_left _ _
  | receive =>
    have hq := congrArg List.length s.message?_receive
    simp only [List.length_append] at hq
    simp only [perform, finishes, List.length_nil]
    omega
  | tryReceive =>
    cases hq : s.queue with
    | nil => simp [perform, take, hq]
    | cons q qs =>
      simp only [perform, take, hq, List.length_cons]
      omega
  | close => exact Nat.le_add_right_of_le (Nat.le_max_left _ _)
  | leave => simp [perform, detach]

/-! ## Many operations -/

/-- What a sink that was empty at first is like: nobody waits for what is left of it once its
subscriber is gone, and its room is exceeded by its last message at most. -/
structure Kept (s : Sink α) (finishes : List α) : Prop where
  left : s.detached = true → s.queue = []
  unfinished : s.closed = false → finishes = []
  once : finishes.length ≤ 1
  bounded : s.queue.length ≤ s.capacity + finishes.length

theorem Kept.perform {s : Sink α} {ms : List α} (h : s.Kept ms) (op : Op α) :
    (s.perform op).Kept (ms ++ s.finishes op) := by
  obtain ⟨hcap, -, hc, hd⟩ := s.fields_perform op
  have hlen := s.length_perform op
  have hb := h.bounded
  have ho := h.once
  refine ⟨fun hl => ?_, fun hopen => ?_, ?_, ?_⟩
  · cases hdet : s.detached with
    | true =>
      have hclosed : s.isClosed = true := by simp [isClosed, hdet]
      have hsuffix := suffix_of_isClosed hclosed op
      rw [h.left hdet] at hsuffix
      exact List.suffix_nil.mp hsuffix
    | false =>
      cases op with
      | leave => rfl
      | _ => simp [hd, hdet, Op.isLeaving] at hl
  · rw [hc, Bool.or_eq_false_iff] at hopen
    have hf : s.finishes op = [] := by
      cases op with
      | finish m => cases hopen.2
      | _ => rfl
    rw [h.unfinished hopen.1, hf, List.nil_append]
  · cases hclosed : s.closed with
    | true => rw [finishes_of_closed hclosed, List.append_nil]; exact ho
    | false => rw [h.unfinished hclosed, List.nil_append]; exact s.length_finishes op
  · rw [hcap, List.length_append]
    cases hclosed : s.closed with
    | true => rw [finishes_of_closed hclosed, List.length_nil] at hlen ⊢; omega
    | false => rw [h.unfinished hclosed, List.length_nil] at hb ⊢; omega

theorem kept_run (capacity : Nat) (overflow : Overflow) (ops : List (Op α)) :
    ((create capacity overflow).run ops).Kept
      (collect finishes (create capacity overflow) ops) := by
  induction ops using List.reverseRecOn with
  | nil => exact ⟨fun _ => rfl, fun _ => rfl, Nat.zero_le 1, Nat.zero_le _⟩
  | append_singleton ops op ih =>
    rw [run_concat, collect_concat]
    exact ih.perform op

theorem fields_run (s : Sink α) (ops : List (Op α)) :
    (s.run ops).capacity = s.capacity ∧ (s.run ops).overflow = s.overflow ∧
      (s.run ops).closed = (s.closed || ops.any Op.isClosing) ∧
      (s.run ops).detached = (s.detached || ops.any Op.isLeaving) := by
  induction ops using List.reverseRecOn with
  | nil => simp [run]
  | append_singleton ops op ih =>
    obtain ⟨hcap, hover, hc, hd⟩ := (s.run ops).fields_perform op
    obtain ⟨ihcap, ihover, ihc, ihd⟩ := ih
    rw [run_concat, hcap, hover, hc, hd, ihcap, ihover, ihc, ihd]
    simp [Bool.or_assoc]

theorem isClosed_run (s : Sink α) (ops : List (Op α)) :
    (s.run ops).isClosed = (s.isClosed || ops.any Op.isEnd) := by
  induction ops using List.reverseRecOn with
  | nil => simp [run]
  | append_singleton ops op ih =>
    rw [run_concat, isClosed_perform, ih]
    simp [Bool.or_assoc]

theorem suffix_run {s : Sink α} (h : s.isClosed = true) (ops : List (Op α)) :
    (s.run ops).queue <:+ s.queue := by
  induction ops using List.reverseRecOn with
  | nil => exact List.suffix_rfl
  | append_singleton ops op ih =>
    have hclosed : (s.run ops).isClosed = true := by rw [isClosed_run, h, Bool.true_or]
    rw [run_concat]
    exact (suffix_of_isClosed hclosed op).trans ih

theorem collect_of_isClosed {s : Sink α} (h : s.isClosed = true) (ops : List (Op α)) :
    collect accepts s ops = [] ∧ collect evicts s ops = [] := by
  have hstep (s : Sink α) (op : Op α) (h : s.isClosed = true) :
      (s.perform op).isClosed = true := by rw [isClosed_perform, h, Bool.true_or]
  exact ⟨collect_eq_nil accepts (fun _ op hs => accepts_of_isClosed hs op) hstep h ops,
    collect_eq_nil evicts (fun _ op hs => evicts_of_isClosed hs op) hstep h ops⟩

/-- What has been taken has gone, in the order of its coming, or still waits. -/
theorem collect_accepts {s : Sink α} {ops : List (Op α)} (h : .leave ∉ ops) :
    s.queue ++ collect accepts s ops =
      (collect departs s ops).map Departure.message ++ (s.run ops).queue := by
  induction ops generalizing s with
  | nil => simp [collect, run]
  | cons op ops ih =>
    rw [List.mem_cons, not_or] at h
    calc s.queue ++ collect accepts s (op :: ops)
        = (s.queue ++ s.accepts op) ++ collect accepts (s.perform op) ops := by
          rw [collect, List.append_assoc]
      _ = s.evicts op ++ s.receives op ++
            ((s.perform op).queue ++ collect accepts (s.perform op) ops) := by
          rw [s.queue_perform (Ne.symm h.1), List.append_assoc]
      _ = (s.departs op).map Departure.message ++
            ((collect departs (s.perform op) ops).map Departure.message ++
              ((s.perform op).run ops).queue) := by
          rw [ih h.2, map_departs]
      _ = (collect departs s (op :: ops)).map Departure.message ++ (s.run (op :: ops)).queue := by
          rw [collect, List.map_append, List.append_assoc]
          rfl

theorem collect_receives (s : Sink α) (ops : List (Op α)) :
    collect receives s ops = (collect departs s ops).filterMap Departure.received? := by
  induction ops generalizing s with
  | nil => rfl
  | cons op ops ih => rw [collect, collect, List.filterMap_append, filterMap_departs, ih]

/-- Without departures by force, what has been received and what waits is what has been taken. -/
theorem told_concat {s : Sink α} {ops : List (Op α)} {op : Op α} (hop : op ≠ .leave)
    (he : (s.run ops).evicts op = []) :
    collect receives s (ops ++ [op]) ++ (s.run (ops ++ [op])).queue =
      collect receives s ops ++ (s.run ops).queue ++ (s.run ops).accepts op := by
  have hbal := (s.run ops).queue_perform hop
  rw [he, List.nil_append] at hbal
  rw [collect_concat, run_concat, List.append_assoc, List.append_assoc, hbal]

theorem told_eq_accepted {s : Sink α} (ho : s.overflow ≠ .dropOldest) {ops : List (Op α)}
    (h : .leave ∉ ops) :
    collect receives s ops ++ (s.run ops).queue = s.queue ++ collect accepts s ops := by
  induction ops using List.reverseRecOn with
  | nil => simp [collect, run]
  | append_singleton ops op ih =>
    rw [List.mem_append, List.mem_singleton, not_or] at h
    have he : (s.run ops).evicts op = [] := by
      apply evicts_eq_nil
      rwa [(s.fields_run ops).2.1]
    rw [told_concat (Ne.symm h.2) he, ih h.1, collect_concat, List.append_assoc]

theorem closed_of_finishes {capacity : Nat} {overflow : Overflow} {ops : List (Op α)} {m : α}
    (h : m ∈ collect finishes (create capacity overflow) ops) :
    ((create capacity overflow).run ops).closed = true := by
  cases hc : ((create capacity overflow).run ops).closed with
  | true => rfl
  | false =>
    rw [(kept_run capacity overflow ops).unfinished hc] at h
    cases h

theorem last_of_finishes {capacity : Nat} {overflow : Overflow} {ops : List (Op α)} {m : α}
    (h : m ∈ collect finishes (create capacity overflow) ops) (hl : .leave ∉ ops) :
    (collect receives (create capacity overflow) ops ++
      ((create capacity overflow).run ops).queue).getLast? = some m := by
  induction ops using List.reverseRecOn with
  | nil => cases h
  | append_singleton ops op ih =>
    rw [List.mem_append, List.mem_singleton, not_or] at hl
    rw [collect_concat, List.mem_append] at h
    rcases h with h | h
    · -- the last message is there, and nothing comes behind it
      have hclosed : ((create capacity overflow).run ops).isClosed = true := by
        simp [isClosed, closed_of_finishes h]
      rw [told_concat (Ne.symm hl.2) (evicts_of_isClosed hclosed op),
        accepts_of_isClosed hclosed op, List.append_nil]
      exact ih h hl.1
    · cases op with
      | finish m' =>
        rw [told_concat (Ne.symm hl.2) rfl]
        have hacc : ((create capacity overflow).run ops).accepts (.finish m') = [m] := by
          have hlen := ((create capacity overflow).run ops).length_finishes (.finish m')
          obtain ⟨x, hx⟩ := List.length_eq_one_iff.mp
            (Nat.le_antisymm hlen (List.length_pos_of_mem h))
          rw [hx, List.mem_singleton] at h
          rw [h]
          exact hx
        rw [hacc, List.getLast?_concat]
      | _ => cases h

theorem dropped_run (s : Sink α) (ops : List (Op α)) :
    (s.run ops).dropped =
      s.dropped + (collect evicts s ops).length + (collect refuses s ops).length := by
  induction ops using List.reverseRecOn with
  | nil => simp [collect, run]
  | append_singleton ops op ih =>
    simp only [run_concat, dropped_perform, ih, collect_concat, List.length_append]
    omega

theorem collect_evicts_eq_nil {s : Sink α} (h : s.overflow ≠ .dropOldest) (ops : List (Op α)) :
    collect evicts s ops = [] :=
  collect_eq_nil evicts (P := fun s => s.overflow ≠ .dropOldest) (fun _ op h => evicts_eq_nil h op)
    (fun s op h => by rwa [(s.fields_perform op).2.1]) h ops

theorem collect_refuses_eq_nil {s : Sink α} (h : s.overflow ≠ .dropNewest) (ops : List (Op α)) :
    collect refuses s ops = [] :=
  collect_eq_nil refuses (P := fun s => s.overflow ≠ .dropNewest)
    (fun _ op h => refuses_eq_nil h op) (fun s op h => by rwa [(s.fields_perform op).2.1]) h ops

/-- How much a sink has dropped under its policy. -/
def losses (s : Sink α) (ops : List (Op α)) : List α :=
  match s.overflow with
  | .block => []
  | .dropOldest => collect evicts s ops
  | .dropNewest => collect refuses s ops

theorem dropped_eq_losses (s : Sink α) (ops : List (Op α)) :
    (s.run ops).dropped = s.dropped + (s.losses ops).length := by
  rw [dropped_run, losses]
  cases ho : s.overflow with
  | block =>
    rw [collect_evicts_eq_nil (by rw [ho]; decide), collect_refuses_eq_nil (by rw [ho]; decide)]
    rfl
  | dropOldest => rw [collect_refuses_eq_nil (by rw [ho]; decide)]; rfl
  | dropNewest => rw [collect_evicts_eq_nil (by rw [ho]; decide)]; rfl

/-- The order of a sink that was empty at first, after some operations. -/
structure Fifo (s : Sink α) (ops : List (Op α)) : Prop where
  /-- While the subscriber is there, every message taken has left the queue or waits in it, and none
  overtakes another. -/
  order : .leave ∉ ops → collect accepts s ops =
    (collect departs s ops).map Departure.message ++ (s.run ops).queue
  received : collect receives s ops = (collect departs s ops).filterMap Departure.received?
  complete : .leave ∉ ops → s.overflow ≠ .dropOldest →
    collect receives s ops ++ (s.run ops).queue = collect accepts s ops
  /-- A message that is given up is the oldest one of a full queue. -/
  evicted : ∀ before op after, ops = before ++ op :: after → (s.run before).evicts op = [] ∨
    ∃ m, (s.run before).evicts op = [m] ∧ (s.run before).queue.head? = some m ∧
      (s.run before).queue.length = s.capacity ∧ s.overflow = .dropOldest
  dropped : (s.run ops).dropped = (s.losses ops).length
  /-- There is one message too many at most, and only when there has been a last one. -/
  bounded : (s.run ops).queue.length ≤ s.capacity + (collect finishes s ops).length
  once : (collect finishes s ops).length ≤ 1
  last : .leave ∉ ops → ∀ m ∈ collect finishes s ops,
    (collect receives s ops ++ (s.run ops).queue).getLast? = some m
  /-- After an end nothing comes in any more, and what is there is not given up. -/
  ended : ops.any Op.isEnd = true → ∀ later,
    collect accepts (s.run ops) later = [] ∧ collect evicts (s.run ops) later = [] ∧
      (s.run (ops ++ later)).queue <:+ (s.run ops).queue ∧
      ∀ m, (s.run (ops ++ later)).offer m = (some .closed, s.run (ops ++ later))
  left : .leave ∈ ops → (s.run ops).queue = [] ∧ ∀ m, ((s.run ops).finish m).1 = false
  drained : (s.run ops).receive.1 = .ended ↔
    ops.any Op.isClosing = true ∧ (s.run ops).queue = []

theorem any_isLeaving {ops : List (Op α)} : ops.any Op.isLeaving = true ↔ .leave ∈ ops := by
  rw [List.any_eq_true]
  constructor
  · rintro ⟨op, hop, h⟩
    cases op with
    | leave => exact hop
    | _ => cases h
  · exact fun h => ⟨_, h, rfl⟩

theorem fifo_run (capacity : Nat) (overflow : Overflow) (ops : List (Op α)) :
    (create capacity overflow).Fifo ops := by
  have hkept := kept_run capacity overflow ops
  obtain ⟨hcap, -, hclosed, hdetached⟩ := (create capacity overflow).fields_run ops
  rw [show (create capacity overflow).closed = false from rfl, Bool.false_or] at hclosed
  rw [show (create capacity overflow).detached = false from rfl, Bool.false_or] at hdetached
  constructor
  case order => exact fun hl => collect_accepts (s := create capacity overflow) hl
  case received => exact collect_receives _ ops
  case complete => exact fun hl ho => told_eq_accepted ho hl
  case evicted =>
    intro before op after _
    obtain ⟨hcap, hover, -⟩ := (create capacity overflow).fields_run before
    rcases ((create capacity overflow).run before).evicts_cases op with
      he | ⟨m, he, hm, hopen, hfull, ho⟩
    · exact .inl he
    · have hroom := (kept_run capacity overflow before).bounded
      rw [(kept_run capacity overflow before).unfinished (Bool.or_eq_false_iff.mp hopen).1,
        List.length_nil, hcap] at hroom
      rw [hcap] at hfull
      exact .inr ⟨m, he, hm, Nat.le_antisymm hroom hfull, hover ▸ ho⟩
  case dropped =>
    rw [dropped_eq_losses]
    exact Nat.zero_add _
  case bounded => exact hcap ▸ hkept.bounded
  case once => exact hkept.once
  case last => exact fun hl m hm => last_of_finishes hm hl
  case ended =>
    intro he later
    have hend : ((create capacity overflow).run ops).isClosed = true := by
      rw [isClosed_run, he, Bool.or_true]
    have hlater : ((create capacity overflow).run (ops ++ later)).isClosed = true := by
      rw [run_append, isClosed_run, hend, Bool.true_or]
    obtain ⟨ha, hev⟩ := collect_of_isClosed hend later
    refine ⟨ha, hev, ?_, offer_of_isClosed hlater⟩
    rw [run_append]
    exact suffix_run hend later
  case left =>
    intro hl
    have hd : ((create capacity overflow).run ops).detached = true := by
      rw [hdetached, any_isLeaving]
      exact hl
    exact ⟨hkept.left hd, finish_of_detached hd⟩
  case drained => rw [receive_eq_ended_iff, hclosed]

/-- A sink that should hold nothing holds one message, and a last one beside it. -/
example : ((create 0 .dropOldest).run [.deliver 1, .deliver 2, .finish 3, .deliver 4]).queue =
    [2, 3] := by decide

end Sink

namespace Mailbox

/-- A move of a delivery that is under way looks for room once at most. -/
theorem sink_produce (b : Mailbox α) :
    b.produce.2.sink = b.sink ∨ ∃ m, b.produce.2.sink = (b.sink.offer m).2 := by
  unfold produce
  cases b.producer with
  | looking m =>
    refine .inr ⟨m, ?_⟩
    dsimp only
    cases h : b.sink.offer m with
    | mk d sink =>
      cases d with
      | none => rfl
      | some d => cases d <;> rfl
  | asking m => cases h : b.writable.ask with | mk woken signal => cases woken <;> exact .inl rfl
  | sleeping m => cases h : b.writable.rise with | mk woken signal => cases woken <;> exact .inl rfl
  | _ => exact .inl rfl

theorem sink_consume (b : Mailbox α) :
    b.consume.2.sink = b.sink ∨ b.consume.2.sink = b.sink.take.2 := by
  unfold consume
  cases b.consumer with
  | looking =>
    cases h : b.sink.take with
    | mk m sink =>
      cases m with
      | none => simp only; split <;> exact .inl rfl
      | some m => exact .inr rfl
  | asking => cases h : b.readable.ask with | mk woken signal => cases woken <;> exact .inl rfl
  | sleeping => cases h : b.readable.rise with | mk woken signal => cases woken <;> exact .inl rfl
  | _ => exact .inl rfl

theorem sink_cancel (b : Mailbox α) : b.cancel.sink = b.sink := by
  unfold cancel
  cases b.consumer <;> rfl

/-- A move looks at the sink of a mailbox once at most, so moves that come in between see the sink
before or after a whole operation. -/
theorem sink_move {b b' : Mailbox α} {m : Move α} (h : b.move? m = some b') :
    b'.sink = b.sink ∨ ∃ op, b'.sink = b.sink.perform op := by
  cases m with
  | produce =>
    cases h
    rcases b.sink_produce with hb | ⟨m, hb⟩
    · exact .inl hb
    · exact .inr ⟨.deliver m, hb⟩
  | consume =>
    cases h
    rcases b.sink_consume with hb | hb
    · exact .inl hb
    · exact .inr ⟨.tryReceive, hb⟩
  | finish m =>
    obtain ⟨-, ⟨⟩⟩ := Option.ite_none_right_eq_some.mp h
    exact .inr ⟨.finish m, rfl⟩
  | close =>
    obtain ⟨-, ⟨⟩⟩ := Option.ite_none_right_eq_some.mp h
    exact .inr ⟨.close, rfl⟩
  | cancel =>
    obtain ⟨-, ⟨⟩⟩ := Option.ite_none_right_eq_some.mp h
    exact .inl b.sink_cancel
  | tryReceive =>
    obtain ⟨-, ⟨⟩⟩ := Option.ite_none_right_eq_some.mp h
    refine .inr ⟨.tryReceive, ?_⟩
    cases hq : b.sink.queue <;> simp [startTryReceive, Sink.perform, Sink.take, hq]
  | leave =>
    obtain ⟨-, ⟨⟩⟩ := Option.ite_none_right_eq_some.mp h
    exact .inr ⟨.leave, rfl⟩
  | _ =>
    obtain ⟨-, ⟨⟩⟩ := Option.ite_none_right_eq_some.mp h
    exact .inl rfl

/-- However the moves of the two sides are interleaved, the sink is what some operations on it, one
after the other, make of it. -/
theorem sink_reachable {b : Mailbox α} (h : b.Reachable) :
    ∃ capacity overflow ops, b.sink = (Sink.create capacity overflow).run ops := by
  induction h with
  | create capacity overflow => exact ⟨capacity, overflow, [], rfl⟩
  | move _ h ih =>
    obtain ⟨capacity, overflow, ops, ih⟩ := ih
    rcases sink_move h with hb | ⟨op, hb⟩
    · exact ⟨capacity, overflow, ops, hb.trans ih⟩
    · exact ⟨capacity, overflow, ops ++ [op], by rw [Sink.run_concat, ← ih, hb]⟩

end Mailbox
end MarketWire
