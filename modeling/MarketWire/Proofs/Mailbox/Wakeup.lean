import MarketWire.Proofs.Mailbox.Invariant

/-!
# Waking up

No signal between the two sides of a mailbox is lost. Whoever waits although there is something to
go on with gets through in every run in which the other side makes the move it owes and the waiting
side has three more moves, whatever else happens in between: `Due` lists the moves that are left,
and no other move adds to them.
-/
namespace MarketWire
namespace Mailbox

variable {b b' : Mailbox α} {m : Move α} {ms : List (Move α)}

/-! ## Getting on -/

/-- If every move either does what is awaited or leaves less to wait for, a run that nothing is left
to wait for has done it on its way. -/
theorem exists_of_run {P : Mailbox α → List (Move α) → Prop} {D : Move α → Mailbox α → Prop}
    (hnil : ∀ b, ¬P b [])
    (hstep : ∀ b b' m ms, P b (m :: ms) → b.move? m = some b' → D m b ∨ P b' ms)
    (h : P b ms) (hrun : b.run ms = some b') :
    ∃ before m after c, ms = before ++ m :: after ∧ b.run before = some c ∧ D m c := by
  induction ms generalizing b with
  | nil => exact absurd h (hnil b)
  | cons m ms ih =>
    rw [run_cons] at hrun
    obtain ⟨c, hm, hrun⟩ := Option.bind_eq_some_iff.mp hrun
    rcases hstep b c m ms h hm with hd | hp
    · exact ⟨[], m, ms, b, rfl, rfl, hd⟩
    · obtain ⟨before, m', after, e, rfl, he, hd⟩ := ih hp hrun
      refine ⟨m :: before, m', after, e, rfl, ?_, hd⟩
      rw [run_cons, hm, Option.bind_some, he]

/-- The moves after which a side has got through: its own ones, as many as are left, and before them
the one that the other side owes it, unless the signal is there. -/
inductive Due (telling looking waiting calls : Prop) (own : Move α) (owed : List (Move α)) :
    List (Move α) → Prop where
  | telling (h : telling) : Due telling looking waiting calls own owed [own]
  | looking (h : looking) : Due telling looking waiting calls own owed [own, own]
  | called (h : waiting) (hcalls : calls) :
    Due telling looking waiting calls own owed [own, own, own]
  | owed (w : Move α) (h : waiting) (howed : owed = [w]) :
    Due telling looking waiting calls own owed [w, own, own, own]

section
variable {telling looking waiting calls telling' looking' waiting' calls' : Prop} {own w : Move α}
  {owed owed' needs ws : List (Move α)}

theorem sublist_of_cons_of_ne (h : (w :: ws).Sublist (m :: ms)) (hne : m ≠ w) :
    (w :: ws).Sublist ms := by
  rcases List.sublist_cons_iff.mp h with h | ⟨r, hr, -⟩
  · exact h
  · exact absurd (List.cons.inj hr).1.symm hne

theorem Due.ne_nil (h : Due telling looking waiting calls own owed needs) : needs ≠ [] := by
  cases h <;> simp

/-- What is due does not grow by a move of the other side that takes nothing away. -/
theorem Due.aside (h : Due telling looking waiting calls own owed needs) (hne : m ≠ own)
    (htelling : telling → telling') (hlooking : looking → looking') (hwaiting : waiting → waiting')
    (hcalls : calls → calls')
    (howed : ∀ w, waiting → owed = [w] → m = w ∧ calls' ∨ m ≠ w ∧ owed' = [w]) :
    ∃ needs', Due telling' looking' waiting' calls' own owed' needs' ∧
      ∀ ms, needs.Sublist (m :: ms) → needs'.Sublist ms := by
  cases h with
  | telling h => exact ⟨_, .telling (htelling h), fun ms hs => sublist_of_cons_of_ne hs hne⟩
  | looking h => exact ⟨_, .looking (hlooking h), fun ms hs => sublist_of_cons_of_ne hs hne⟩
  | called h hc =>
    exact ⟨_, .called (hwaiting h) (hcalls hc), fun ms hs => sublist_of_cons_of_ne hs hne⟩
  | owed w h hw =>
    rcases howed w h hw with ⟨rfl, hc⟩ | ⟨hm, hw⟩
    · exact ⟨_, .called (hwaiting h) hc, fun ms => List.cons_sublist_cons.mp⟩
    · exact ⟨_, .owed w (hwaiting h) hw, fun ms hs => sublist_of_cons_of_ne hs hm⟩

end

/-! ### The side that fills -/

/-- A delivery that gets through once the listed moves are made. -/
def Filling (b : Mailbox α) : List (Move α) → Prop :=
  Due (b.producer = .announcing)
    (∃ m, b.producer = .looking m ∧ b.IsWritable ∧ b.sink.closed = false)
    (b.producer.stance ≠ .away ∧ b.IsWritable ∧ b.sink.closed = false)
    (b.writable.calls b.producer.stance = true) .produce b.emptierOwes

/-- The delivery is over, and its message is in the queue unless the subscriber has left. -/
def Settles (b : Mailbox α) : Prop :=
  b.produce.1 = some .delivered ∨ b.produce.1 = some .closed ∧ b.sink.detached = true

theorem Filling.filled {needs : List (Move α)} {d : Option Delivery} (h : b.Filling needs)
    (hf : b.Filled d b') :
    (d = some .delivered ∨ d = some .closed ∧ b.sink.detached = true) ∨
      ∃ needs', b'.Filling needs' ∧ ∀ ms, needs.Sublist (.produce :: ms) → needs'.Sublist ms := by
  cases h with
  | telling hp => cases hf <;> simp_all
  | looking h =>
    obtain ⟨m, hp, hroom, hopen⟩ := h
    cases hf with
    | closed m' _ hclosed =>
      have hd : b.sink.detached = true := by simpa [Sink.isClosed, hopen] using hclosed
      exact .inl (.inr ⟨rfl, hd⟩)
    | put m' queue dropped _ _ => exact .inr ⟨_, .telling rfl, fun ms => List.cons_sublist_cons.mp⟩
    | refused m' _ hopen hfull => simp_all [IsWritable, Sink.isClosed]
    | full m' _ hopen hfull => simp_all [IsWritable, Sink.isClosed]
    | _ => simp_all
  | called h hcalls =>
    obtain ⟨hp, hroom, hopen⟩ := h
    cases hf with
    | called m _ _ =>
      exact .inr ⟨_, .looking ⟨m, rfl, hroom, hopen⟩, fun ms => List.cons_sublist_cons.mp⟩
    | woken m _ _ =>
      exact .inr ⟨_, .looking ⟨m, rfl, hroom, hopen⟩, fun ms => List.cons_sublist_cons.mp⟩
    | uncalled m hp' hkept => simp [hp', Producer.stance, Signal.calls, hkept] at hcalls
    | asleep m hp' hwoken => simp [hp', Producer.stance, Signal.calls, hwoken] at hcalls
    | _ => simp_all [Producer.stance]
  | owed w h howes =>
    obtain ⟨hp, hroom, hopen⟩ := h
    have hw : .produce ≠ w := by
      rintro rfl
      revert howes
      cases hc : b.consumer <;> simp [emptierOwes, hc]
    have htwo : [Move.produce, .produce].Sublist [w, .produce, .produce, .produce] :=
      .cons _ (.cons _ (.refl _))
    cases hf with
    | called m _ _ =>
      exact .inr ⟨_, .looking ⟨m, rfl, hroom, hopen⟩,
        fun ms hs => htwo.trans (sublist_of_cons_of_ne hs hw)⟩
    | woken m _ _ =>
      exact .inr ⟨_, .looking ⟨m, rfl, hroom, hopen⟩,
        fun ms hs => htwo.trans (sublist_of_cons_of_ne hs hw)⟩
    | uncalled m _ _ =>
      exact .inr ⟨_, .owed w ⟨by simp [Producer.stance], hroom, hopen⟩ howes,
        fun ms hs => sublist_of_cons_of_ne hs hw⟩
    | asleep m _ _ =>
      exact .inr ⟨_, .owed w ⟨hp, hroom, hopen⟩ howes, fun ms hs => sublist_of_cons_of_ne hs hw⟩
    | _ => simp_all [Producer.stance]

/-- While a delivery is under way, what the other side does neither takes its room away nor uses its
signal up. -/
structure Aside (b b' : Mailbox α) (m : Move α) : Prop where
  producer : b'.producer = b.producer
  room : b.IsWritable → b'.IsWritable
  closed : b'.sink.closed = b.sink.closed
  writable : b'.writable = b.writable ∨ b'.writable = b.writable.notify
  owes : ∀ w, b.emptierOwes = [w] →
    m = w ∧ b'.writable = b.writable.notify ∨ m ≠ w ∧ b'.emptierOwes = [w]

theorem IsWritable.of_tail {queue : List α} {m : α} {consumer : Consumer α} (h : b.IsWritable)
    (hqueue : b.sink.queue = m :: queue) :
    IsWritable { b with sink := { b.sink with queue := queue }, consumer := consumer } := by
  refine h.imp_left fun hroom => ?_
  simp only [Sink.isFull, hqueue, List.length_cons, decide_eq_false_iff_not] at hroom ⊢
  omega

theorem Emptied.aside {r : Receipt α} (h : b.Emptied r b') : b.Aside b' .consume := by
  cases h with
  | took m queue hp hqueue =>
    exact ⟨rfl, fun h => h.of_tail hqueue, rfl, .inl rfl, fun w h => by simp [emptierOwes, hp] at h⟩
  | told m hp =>
    exact ⟨rfl, id, rfl, .inr rfl, fun w h => .inl ⟨by simpa [emptierOwes, hp] using h, rfl⟩⟩
  | left hp =>
    exact ⟨rfl, id, rfl, .inr rfl, fun w h => .inl ⟨by simpa [emptierOwes, hp] using h, rfl⟩⟩
  | idle hp =>
    refine ⟨rfl, id, rfl, .inl rfl, fun w h => ?_⟩
    rcases hp with hp | hp <;> simp [emptierOwes, hp] at h
  | _ hp _ => exact ⟨rfl, id, rfl, .inl rfl, fun w h => by simp [emptierOwes, hp] at h⟩

theorem Sound.aside (h : b.Sound) (hp : b.producer ≠ .idle) (hne : m ≠ .produce)
    (hm : b.move? m = some b') : b.Aside b' m := by
  have hc := h.closing_eq_false hp
  cases m with
  | produce => exact absurd rfl hne
  | announceClosing => simp [move?, hc] at hm
  | deliver _ => simp [move?, isFillerFree_iff, hp] at hm
  | finish _ => simp [move?, isFillerFree_iff, hp] at hm
  | close => simp [move?, isFillerFree_iff, hp] at hm
  | consume =>
    cases hm
    exact b.emptied.aside
  | receive =>
    obtain ⟨hfree, ⟨⟩⟩ := Option.ite_none_right_eq_some.mp hm
    have hp := isEmptierFree_iff.mp hfree
    exact ⟨rfl, id, rfl, .inl rfl, fun w h => by simp [emptierOwes, hp] at h⟩
  | cancel =>
    obtain ⟨hfree, ⟨⟩⟩ := Option.ite_none_right_eq_some.mp hm
    obtain ⟨howes, s, -, heq⟩ := h.cancel_eq (by simp [hfree])
    rw [heq]
    exact ⟨rfl, id, rfl, .inl rfl, fun w h => by simp [howes] at h⟩
  | tryReceive =>
    obtain ⟨hfree, ⟨⟩⟩ := Option.ite_none_right_eq_some.mp hm
    have hp := isEmptierFree_iff.mp hfree
    cases hq : b.sink.queue with
    | nil =>
      simp only [startTryReceive, Sink.take, hq]
      exact ⟨rfl, id, rfl, .inl rfl, fun w h => by simp [emptierOwes, hp] at h⟩
    | cons m queue =>
      simp only [startTryReceive, Sink.take, hq]
      exact ⟨rfl, fun h => h.of_tail hq, rfl, .inl rfl, fun w h => by simp [emptierOwes, hp] at h⟩
  | leave =>
    obtain ⟨hfree, ⟨⟩⟩ := Option.ite_none_right_eq_some.mp hm
    obtain ⟨howes, s, -, heq⟩ := h.cancel_eq hfree
    rw [startLeave, heq]
    exact ⟨rfl, fun _ => .inr rfl, rfl, .inl rfl, fun w h => by simp [howes] at h⟩

theorem Filling.producer_ne {needs : List (Move α)} (h : b.Filling needs) : b.producer ≠ .idle := by
  intro hp
  cases h <;> simp_all [Producer.stance]

theorem Filling.move {needs : List (Move α)} (h : b.Filling needs) (hs : b.Sound)
    (hm : b.move? m = some b') : m = .produce ∧ b.Settles ∨
      ∃ needs', b'.Filling needs' ∧ ∀ ms, needs.Sublist (m :: ms) → needs'.Sublist ms := by
  by_cases hne : m = .produce
  · subst hne
    cases hm
    exact (h.filled b.filled).imp_left fun hd => ⟨rfl, hd⟩
  · have ha := hs.aside h.producer_ne hne hm
    refine .inr (Due.aside h hne (fun hp => ha.producer.trans hp) ?_ ?_ ?_ ?_)
    · rintro ⟨m, hp, hroom, hopen⟩
      exact ⟨m, ha.producer.trans hp, ha.room hroom, ha.closed.trans hopen⟩
    · rintro ⟨hp, hroom, hopen⟩
      exact ⟨ha.producer ▸ hp, ha.room hroom, ha.closed.trans hopen⟩
    · intro hcalls
      rw [ha.producer]
      rcases ha.writable with hw | hw <;> rw [hw]
      · exact hcalls
      · exact Signal.calls_notify_of_calls hcalls
    · rintro w ⟨hp, -⟩ howes
      refine (ha.owes w howes).imp_left fun ⟨hm, hw⟩ => ⟨hm, ?_⟩
      rw [ha.producer, hw]
      exact hs.writable.calls_notify hp

/-- A delivery gets through in every run that has the moves it needs among its own. -/
theorem Filling.run {needs : List (Move α)} (h : b.Filling needs) (hs : b.Sound)
    (hrun : b.run ms = some b') (hneeds : needs.Sublist ms) :
    ∃ before after c, ms = before ++ .produce :: after ∧ b.run before = some c ∧ c.Settles := by
  obtain ⟨before, m, after, c, hms, hc, rfl, hd⟩ := exists_of_run
    (P := fun b ms => b.Sound ∧ ∃ needs, b.Filling needs ∧ needs.Sublist ms)
    (D := fun m b => m = .produce ∧ b.Settles)
    (fun b ⟨_, needs, h, hneeds⟩ => Due.ne_nil h (List.eq_nil_of_sublist_nil hneeds))
    (fun b b' m ms ⟨hs, needs, h, hneeds⟩ hm =>
      (h.move hs hm).imp_right fun ⟨needs', h', hsub⟩ => ⟨hs.move hm, needs', h', hsub ms hneeds⟩)
    ⟨hs, needs, h, hneeds⟩ hrun
  exact ⟨before, after, c, hms, hc, hd⟩

/-! ### The side that empties -/

/-- A receipt that gets through once the listed moves are made. -/
def Emptying (b : Mailbox α) : List (Move α) → Prop :=
  Due (∃ m, b.consumer = .announcing m) (b.consumer = .looking ∧ b.IsReadable)
    (b.consumer.stance ≠ .away ∧ b.IsReadable) (b.readable.calls b.consumer.stance = true) .consume
    b.fillerOwes

/-- The receipt is over with a message or the news of the end. -/
def Learns (b : Mailbox α) : Prop := (∃ m, b.consume.1 = .message m) ∨ b.consume.1 = .ended

theorem Emptying.emptied {needs : List (Move α)} {r : Receipt α} (h : b.Emptying needs)
    (he : b.Emptied r b') :
    ((∃ m, r = .message m) ∨ r = .ended) ∨
      ∃ needs', b'.Emptying needs' ∧ ∀ ms, needs.Sublist (.consume :: ms) → needs'.Sublist ms := by
  cases h with
  | telling h =>
    obtain ⟨m, hp⟩ := h
    cases he <;> simp_all
  | looking h =>
    obtain ⟨hp, hnews⟩ := h
    cases he with
    | took m queue _ _ => exact .inr ⟨_, .telling ⟨m, rfl⟩, fun ms => List.cons_sublist_cons.mp⟩
    | empty _ hqueue hopen => simp [IsReadable, hqueue, hopen] at hnews
    | _ => simp_all
  | called h hcalls =>
    obtain ⟨hp, hnews⟩ := h
    cases he with
    | called _ _ => exact .inr ⟨_, .looking ⟨rfl, hnews⟩, fun ms => List.cons_sublist_cons.mp⟩
    | woken _ _ => exact .inr ⟨_, .looking ⟨rfl, hnews⟩, fun ms => List.cons_sublist_cons.mp⟩
    | uncalled hp' hkept => simp [hp', Consumer.stance, Signal.calls, hkept] at hcalls
    | asleep hp' hwoken => simp [hp', Consumer.stance, Signal.calls, hwoken] at hcalls
    | idle hp' => rcases hp' with hp' | hp' <;> simp [hp', Consumer.stance] at hp
    | _ => simp_all [Consumer.stance]
  | owed w h howes =>
    obtain ⟨hp, hnews⟩ := h
    have hw : .consume ≠ w := by
      rintro rfl
      revert howes
      cases hc : b.closing <;> cases hp : b.producer <;> simp [fillerOwes, hc, hp]
    have htwo : [Move.consume, .consume].Sublist [w, .consume, .consume, .consume] :=
      .cons _ (.cons _ (.refl _))
    cases he with
    | called _ _ =>
      exact .inr ⟨_, .looking ⟨rfl, hnews⟩, fun ms hs => htwo.trans (sublist_of_cons_of_ne hs hw)⟩
    | woken _ _ =>
      exact .inr ⟨_, .looking ⟨rfl, hnews⟩, fun ms hs => htwo.trans (sublist_of_cons_of_ne hs hw)⟩
    | uncalled _ _ =>
      exact .inr ⟨_, .owed w ⟨by simp [Consumer.stance], hnews⟩ howes,
        fun ms hs => sublist_of_cons_of_ne hs hw⟩
    | asleep _ _ =>
      exact .inr ⟨_, .owed w ⟨hp, hnews⟩ howes, fun ms hs => sublist_of_cons_of_ne hs hw⟩
    | idle hp' => rcases hp' with hp' | hp' <;> simp [hp', Consumer.stance] at hp
    | _ => simp_all [Consumer.stance]

/-- While a receipt is under way, what the other side does neither takes its news away nor uses its
signal up. -/
structure Beside (b b' : Mailbox α) (m : Move α) : Prop where
  consumer : b'.consumer = b.consumer
  news : b.IsReadable → b'.IsReadable
  readable : b'.readable = b.readable ∨ b'.readable = b.readable.notify
  owes : ∀ w, b.fillerOwes = [w] →
    m = w ∧ b'.readable = b.readable.notify ∨ m ≠ w ∧ b'.fillerOwes = [w]

theorem Sound.beside_filled {d : Option Delivery} (h : b.Sound) (hf : b.Filled d b') :
    b.Beside b' .produce := by
  cases hf with
  | idle hp =>
    refine ⟨rfl, id, .inl rfl, fun w h => .inr ⟨?_, h⟩⟩
    rintro rfl
    cases hc : b.closing <;> simp [fillerOwes, hp, hc] at h
  | told hp =>
    have hc := h.closing_eq_false (by simp [hp])
    exact ⟨rfl, id, .inr rfl, fun w h => .inl ⟨by simpa [fillerOwes, hp, hc] using h, rfl⟩⟩
  | put m queue dropped hp hqueue =>
    have hc := h.closing_eq_false (by simp [hp])
    exact ⟨rfl, fun _ => .inl hqueue, .inl rfl, fun w h => by simp [fillerOwes, hp, hc] at h⟩
  | _ m hp =>
    have hc := h.closing_eq_false (by simp [hp])
    exact ⟨rfl, id, .inl rfl, fun w h => by simp [fillerOwes, hp, hc] at h⟩

theorem fillerOwes_of_free (h : b.isFillerFree = true) : b.fillerOwes = [] := by
  obtain ⟨hp, hc⟩ := isFillerFree_iff.mp h
  simp [fillerOwes, hp, hc]

theorem Sound.beside (h : b.Sound) (hp : (b.isEmptierFree = false)) (hne : m ≠ .consume)
    (hcancel : m ≠ .cancel) (hleave : m ≠ .leave) (hm : b.move? m = some b') : b.Beside b' m := by
  cases m with
  | produce =>
    cases hm
    exact h.beside_filled b.filled
  | deliver m =>
    obtain ⟨hfree, ⟨⟩⟩ := Option.ite_none_right_eq_some.mp hm
    exact ⟨rfl, id, .inl rfl, fun w h => by simp [fillerOwes_of_free hfree] at h⟩
  | finish m =>
    obtain ⟨hfree, ⟨⟩⟩ := Option.ite_none_right_eq_some.mp hm
    exact ⟨rfl, fun _ => .inr (b.sink.closed_finish m), .inl rfl,
      fun w h => by simp [fillerOwes_of_free hfree] at h⟩
  | close =>
    obtain ⟨hfree, ⟨⟩⟩ := Option.ite_none_right_eq_some.mp hm
    exact ⟨rfl, fun _ => .inr rfl, .inl rfl, fun w h => by simp [fillerOwes_of_free hfree] at h⟩
  | announceClosing =>
    obtain ⟨hc, ⟨⟩⟩ := Option.ite_none_right_eq_some.mp hm
    exact ⟨rfl, id, .inr rfl, fun w h => .inl ⟨by simpa [fillerOwes, hc] using h, rfl⟩⟩
  | receive => simp [move?, hp] at hm
  | tryReceive => simp [move?, hp] at hm
  | consume => exact absurd rfl hne
  | cancel => exact absurd rfl hcancel
  | leave => exact absurd rfl hleave

theorem Emptying.isEmptierFree {needs : List (Move α)} (h : b.Emptying needs) :
    b.isEmptierFree = false := by
  rw [← Bool.not_eq_true, isEmptierFree_iff]
  intro hp
  cases h <;> simp_all [Consumer.stance]

theorem Emptying.move {needs : List (Move α)} (h : b.Emptying needs) (hs : b.Sound)
    (hcancel : m ≠ .cancel) (hleave : m ≠ .leave) (hm : b.move? m = some b') :
    m = .consume ∧ b.Learns ∨
      ∃ needs', b'.Emptying needs' ∧ ∀ ms, needs.Sublist (m :: ms) → needs'.Sublist ms := by
  by_cases hne : m = .consume
  · subst hne
    cases hm
    exact (h.emptied b.emptied).imp_left fun hd => ⟨rfl, hd⟩
  · have hb := hs.beside h.isEmptierFree hne hcancel hleave hm
    refine .inr (Due.aside h hne ?_ ?_ ?_ ?_ ?_)
    · rintro ⟨m, hp⟩
      exact ⟨m, hb.consumer.trans hp⟩
    · rintro ⟨hp, hnews⟩
      exact ⟨hb.consumer.trans hp, hb.news hnews⟩
    · rintro ⟨hp, hnews⟩
      exact ⟨hb.consumer ▸ hp, hb.news hnews⟩
    · intro hcalls
      rw [hb.consumer]
      rcases hb.readable with hr | hr <;> rw [hr]
      · exact hcalls
      · exact Signal.calls_notify_of_calls hcalls
    · rintro w ⟨hp, -⟩ howes
      refine (hb.owes w howes).imp_left fun ⟨hm, hr⟩ => ⟨hm, ?_⟩
      rw [hb.consumer, hr]
      exact hs.readable.calls_notify hp

/-- A receipt that is not given up gets through in every run that has the moves it needs among its
own. -/
theorem Emptying.run {needs : List (Move α)} (h : b.Emptying needs) (hs : b.Sound)
    (hrun : b.run ms = some b') (hcancel : .cancel ∉ ms) (hleave : .leave ∉ ms)
    (hneeds : needs.Sublist ms) :
    ∃ before after c, ms = before ++ .consume :: after ∧ b.run before = some c ∧ c.Learns := by
  obtain ⟨before, m, after, c, hms, hc, rfl, hd⟩ := exists_of_run
    (P := fun b ms => b.Sound ∧ .cancel ∉ ms ∧ .leave ∉ ms ∧
      ∃ needs, b.Emptying needs ∧ needs.Sublist ms)
    (D := fun m b => m = .consume ∧ b.Learns)
    (fun b ⟨_, _, _, needs, h, hneeds⟩ => Due.ne_nil h (List.eq_nil_of_sublist_nil hneeds))
    (fun b b' m ms ⟨hs, hcancel, hleave, needs, h, hneeds⟩ hm => by
      rw [List.mem_cons, not_or] at hcancel hleave
      refine (h.move hs (Ne.symm hcancel.1) (Ne.symm hleave.1) hm).imp_right ?_
      rintro ⟨needs', h', hsub⟩
      exact ⟨hs.move hm, hcancel.2, hleave.2, needs', h', hsub ms hneeds⟩)
    ⟨hs, hcancel, hleave, needs, h, hneeds⟩ hrun
  exact ⟨before, after, c, hms, hc, hd⟩

/-! ## No signal is lost -/

theorem emptierOwes_cases (b : Mailbox α) : b.emptierOwes = [] ∨ ∃ w, b.emptierOwes = [w] := by
  cases hc : b.consumer <;> simp [emptierOwes, hc]

theorem fillerOwes_cases (b : Mailbox α) : b.fillerOwes = [] ∨ ∃ w, b.fillerOwes = [w] := by
  cases hc : b.closing <;> cases hp : b.producer <;> simp [fillerOwes, hc, hp]

/-- Neither side sleeps through what it waits for. -/
structure Wakeful (b : Mailbox α) : Prop where
  /-- A delivery that waits although there is room, or nobody to wait for, has its signal, or the
  other side still gives it. -/
  filler : b.producer.stance ≠ .away → b.IsWritable →
    b.writable.calls b.producer.stance = true ∨ b.emptierOwes ≠ []
  /-- So does a receipt that waits although there is a message or the end. -/
  emptier : b.consumer.stance ≠ .away → b.IsReadable →
    b.readable.calls b.consumer.stance = true ∨ b.fillerOwes ≠ []
  /-- The delivery gets through, whatever comes between the moves it needs. -/
  resumes : b.producer.stance ≠ .away → b.IsWritable → ∀ ms b', b.run ms = some b' →
    List.Sublist (b.emptierOwes ++ [.produce, .produce, .produce]) ms →
    ∃ before after c, ms = before ++ .produce :: after ∧ b.run before = some c ∧ c.Settles
  /-- So does the receipt, unless the subscriber gives it up. -/
  learns : b.consumer.stance ≠ .away → b.IsReadable → ∀ ms b', b.run ms = some b' →
    .cancel ∉ ms → .leave ∉ ms →
    List.Sublist (b.fillerOwes ++ [.consume, .consume, .consume]) ms →
    ∃ before after c, ms = before ++ .consume :: after ∧ b.run before = some c ∧ c.Learns

theorem wakeful_of_reachable (h : b.Reachable) : b.Wakeful := by
  have hs := h.sound
  have hfiller := hs.writable.awake
  have hemptier := hs.readable.awake
  constructor
  case filler => exact hfiller
  case emptier => exact hemptier
  case resumes =>
    intro hp hroom ms b' hrun hms
    have hopen := hs.unclosed hp
    rcases b.emptierOwes_cases with howes | ⟨w, howes⟩
    · have hcalls := (hfiller hp hroom).resolve_right (not_not_intro howes)
      rw [howes, List.nil_append] at hms
      exact Filling.run (Due.called ⟨hp, hroom, hopen⟩ hcalls) hs hrun hms
    · rw [howes] at hms
      exact Filling.run (Due.owed w ⟨hp, hroom, hopen⟩ howes) hs hrun hms
  case learns =>
    intro hp hnews ms b' hrun hcancel hleave hms
    rcases b.fillerOwes_cases with howes | ⟨w, howes⟩
    · have hcalls := (hemptier hp hnews).resolve_right (not_not_intro howes)
      rw [howes, List.nil_append] at hms
      exact Emptying.run (Due.called ⟨hp, hnews⟩ hcalls) hs hrun hcancel hleave hms
    · rw [howes] at hms
      exact Emptying.run (Due.owed w ⟨hp, hnews⟩ howes) hs hrun hcancel hleave hms

/-- A delivery sleeps before a full queue, and the subscriber has taken the message that filled it
but has not said so. -/
theorem wakeful_of_reachable_full : ∃ b : Mailbox Nat,
    (create 1 .block).run [.deliver 1, .produce, .produce, .deliver 2, .produce, .produce, .receive,
      .consume] = some b ∧ b.producer = .sleeping 2 ∧ b.IsWritable ∧
      b.writable.calls .sleeping = false ∧ b.emptierOwes = [.consume] ∧ b.Reachable ∧
      b.Wakeful := by
  have hrun : (create 1 .block : Mailbox Nat).run [.deliver 1, .produce, .produce, .deliver 2,
      .produce, .produce, .receive, .consume] = some _ := rfl
  have hreach := (Reachable.create 1 .block).run hrun
  exact ⟨_, hrun, rfl, .inl rfl, rfl, rfl, hreach, wakeful_of_reachable hreach⟩

end Mailbox
end MarketWire
