import MarketWire.Proofs.Sink.Fifo

/-!
# The signals of a mailbox

A side of a mailbox that has to wait asks for a signal under the lock and falls asleep outside of
it, so the other side may move in between. Whenever the side that waits could go on, a signal for it
is stored, or the other side still owes one; every move keeps that. What one move of a delivery or
of a receipt does is said once, in `Filled` and `Emptied`.
-/
namespace MarketWire

/-- How a side stands to the signal it may have to wait for. -/
inductive Stance where
  | away
  | asking
  | sleeping
deriving DecidableEq

def Producer.stance : Producer α → Stance
  | .asking _ => .asking
  | .sleeping _ => .sleeping
  | _ => .away

def Consumer.stance : Consumer α → Stance
  | .asking => .asking
  | .sleeping => .sleeping
  | _ => .away

namespace Signal

variable {s : Signal} {p q : Stance} {cause cause' owed owed' : Prop}

/-- Whether the signal is stored where one of this stance will find it. -/
def calls (s : Signal) : Stance → Bool
  | .away => false
  | .asking => s.kept
  | .sleeping => s.sleeper == .woken

/-- A sleeper is there exactly while the side sleeps; nothing is kept beside one still asleep. -/
structure Fits (s : Signal) (p : Stance) : Prop where
  sleeper : s.sleeper = .nobody ↔ p ≠ .sleeping
  kept : s.sleeper = .asleep → s.kept = false

theorem Fits.of_awake (h : s.Fits p) (hp : p ≠ .sleeping) (hq : q ≠ .sleeping) : s.Fits q :=
  ⟨iff_of_true (h.sleeper.mpr hp) hq, h.kept⟩

theorem Fits.notify (h : s.Fits p) : s.notify.Fits p := by
  obtain ⟨k, z⟩ := s
  obtain ⟨hz, -⟩ := h
  constructor <;> cases z <;> simp_all [Signal.notify]

/-- Whoever waits is reached by the next signal. -/
theorem Fits.calls_notify (h : s.Fits p) (hp : p ≠ .away) : s.notify.calls p = true := by
  obtain ⟨k, z⟩ := s
  obtain ⟨hz, -⟩ := h
  cases p <;> cases z <;> simp_all [Signal.notify, calls]

theorem calls_notify_of_calls (h : s.calls p = true) : s.notify.calls p = true := by
  obtain ⟨k, z⟩ := s
  cases p <;> cases z <;> simp_all [Signal.notify, calls]

theorem Fits.ask_of_kept (h : s.Fits .asking) (hk : s.kept = true) : s.ask.2.Fits .away := by
  have hz := h.sleeper.mpr (by decide)
  constructor <;> simp [Signal.ask, hk, hz]

theorem Fits.ask_of_not_kept (hk : s.kept = false) : s.ask.2.Fits .sleeping := by
  constructor <;> simp [Signal.ask, hk]

theorem Fits.rise_of_woken (hw : s.sleeper = .woken) : s.rise.2.Fits .away := by
  constructor <;> simp [Signal.rise, hw]

theorem Fits.abandon (s : Signal) : s.abandon.Fits .away := by
  obtain ⟨k, z⟩ := s
  cases z <;> constructor <;> simp [Signal.abandon]

/-- If the side waits although there is a cause to go on, the signal is stored or owed. -/
structure Serves (s : Signal) (p : Stance) (cause owed : Prop) : Prop extends s.Fits p where
  awake : p ≠ .away → cause → s.calls p = true ∨ owed

theorem Serves.notify (h : s.Fits p) : s.notify.Serves p cause owed :=
  ⟨h.notify, fun hp _ => .inl (h.calls_notify hp)⟩

theorem Serves.of_owed (h : s.Fits p) (howed : owed) : s.Serves p cause owed :=
  ⟨h, fun _ _ => .inr howed⟩

theorem Serves.of_away (h : s.Fits p) (hp : p = .away) : s.Serves p cause owed :=
  ⟨h, fun hne => absurd hp hne⟩

theorem Serves.mono (h : s.Serves p cause owed) (hcause : cause' → cause) (howed : owed → owed') :
    s.Serves p cause' owed' :=
  ⟨h.toFits, fun hp hc => (h.awake hp (hcause hc)).imp_right howed⟩

end Signal

namespace Mailbox

variable {b b' : Mailbox α} {m : Move α} {ms : List (Move α)}

def run (b : Mailbox α) (ms : List (Move α)) : Option (Mailbox α) := ms.foldlM move? b

theorem run_cons : b.run (m :: ms) = (b.move? m).bind (run · ms) := rfl

theorem Reachable.run (h : b.Reachable) (hrun : b.run ms = some b') : b'.Reachable := by
  induction ms generalizing b with
  | nil =>
    cases hrun
    exact h
  | cons m ms ih =>
    rw [run_cons] at hrun
    obtain ⟨c, hmove, hrun⟩ := Option.bind_eq_some_iff.mp hrun
    exact ih (h.move hmove) hrun

/-- A delivery that waits could go on: there is room, or nobody to wait for. -/
def IsWritable (b : Mailbox α) : Prop := b.sink.isFull = false ∨ b.sink.detached = true

/-- A receipt that waits could go on: there is a message or the end. -/
def IsReadable (b : Mailbox α) : Prop := b.sink.queue ≠ [] ∨ b.sink.closed = true

/-- The move in which the side that empties tells the other one what it has done. -/
def emptierOwes (b : Mailbox α) : List (Move α) :=
  match b.consumer with
  | .announcing _ | .leaving => [.consume]
  | _ => []

/-- The move in which the side that fills tells the other one what it has done. -/
def fillerOwes (b : Mailbox α) : List (Move α) :=
  if b.closing then [.announceClosing]
  else
    match b.producer with
    | .announcing => [.produce]
    | _ => []

/-! ## One move of a delivery or a receipt -/

inductive Filled (b : Mailbox α) : Option Delivery → Mailbox α → Prop where
  | idle (h : b.producer = .idle) : Filled b none b
  | closed (m : α) (h : b.producer = .looking m) (hclosed : b.sink.isClosed = true) :
    Filled b (some .closed) { b with producer := .idle }
  | refused (m : α) (h : b.producer = .looking m) (hopen : b.sink.isClosed = false)
    (hfull : b.sink.isFull = true) : Filled b (some .dropped)
      { b with sink := { b.sink with dropped := b.sink.dropped + 1 }, producer := .idle }
  | put (m : α) (queue : List α) (dropped : Nat) (h : b.producer = .looking m)
    (hqueue : queue ≠ []) : Filled b none
      { b with sink := { b.sink with queue := queue, dropped := dropped }, producer := .announcing }
  | full (m : α) (h : b.producer = .looking m) (hopen : b.sink.isClosed = false)
    (hfull : b.sink.isFull = true) : Filled b none { b with producer := .asking m }
  | called (m : α) (h : b.producer = .asking m) (hkept : b.writable.kept = true) :
    Filled b none { b with writable := b.writable.ask.2, producer := .looking m }
  | uncalled (m : α) (h : b.producer = .asking m) (hkept : b.writable.kept = false) :
    Filled b none { b with writable := b.writable.ask.2, producer := .sleeping m }
  | woken (m : α) (h : b.producer = .sleeping m) (hwoken : b.writable.sleeper = .woken) :
    Filled b none { b with writable := b.writable.rise.2, producer := .looking m }
  | asleep (m : α) (h : b.producer = .sleeping m) (hwoken : b.writable.sleeper ≠ .woken) :
    Filled b none b
  | told (h : b.producer = .announcing) :
    Filled b (some .delivered) { b with readable := b.readable.notify, producer := .idle }

theorem filled (b : Mailbox α) : b.Filled b.produce.1 b.produce.2 := by
  unfold produce
  cases h : b.producer with
  | idle => exact .idle h
  | looking m =>
    have ho := b.sink.offered m
    dsimp only
    generalize b.sink.offer m = r at ho ⊢
    cases ho with
    | closed hclosed => exact .closed m h hclosed
    | taken _ _ => exact .put m _ _ h (by simp)
    | waits hopen hfull _ => exact .full m h hopen (by simpa [Sink.isFull] using hfull)
    | evicted _ _ _ => exact .put m _ _ h (by simp)
    | refused hopen hfull _ => exact .refused m h hopen (by simpa [Sink.isFull] using hfull)
  | asking m =>
    cases hk : b.writable.kept with
    | true => simpa [Signal.ask, hk] using Filled.called m h hk
    | false => simpa [Signal.ask, hk] using Filled.uncalled m h hk
  | sleeping m =>
    cases hz : b.writable.sleeper with
    | woken => simpa [Signal.rise, hz] using Filled.woken m h hz
    | _ => simpa [Signal.rise, hz] using Filled.asleep m h (by simp [hz])
  | announcing => exact .told h

inductive Emptied (b : Mailbox α) : Receipt α → Mailbox α → Prop where
  | idle (h : b.consumer = .idle ∨ b.consumer = .gone) : Emptied b .waiting b
  | took (m : α) (queue : List α) (h : b.consumer = .looking) (hqueue : b.sink.queue = m :: queue) :
    Emptied b .waiting { b with sink := { b.sink with queue := queue }, consumer := .announcing m }
  | ended (h : b.consumer = .looking) (hclosed : b.sink.closed = true) :
    Emptied b .ended { b with consumer := .idle }
  | empty (h : b.consumer = .looking) (hqueue : b.sink.queue = []) (hopen : b.sink.closed = false) :
    Emptied b .waiting { b with consumer := .asking }
  | called (h : b.consumer = .asking) (hkept : b.readable.kept = true) :
    Emptied b .waiting { b with readable := b.readable.ask.2, consumer := .looking }
  | uncalled (h : b.consumer = .asking) (hkept : b.readable.kept = false) :
    Emptied b .waiting { b with readable := b.readable.ask.2, consumer := .sleeping }
  | woken (h : b.consumer = .sleeping) (hwoken : b.readable.sleeper = .woken) :
    Emptied b .waiting { b with readable := b.readable.rise.2, consumer := .looking }
  | asleep (h : b.consumer = .sleeping) (hwoken : b.readable.sleeper ≠ .woken) :
    Emptied b .waiting b
  | told (m : α) (h : b.consumer = .announcing m) :
    Emptied b (.message m) { b with writable := b.writable.notify, consumer := .idle }
  | left (h : b.consumer = .leaving) :
    Emptied b .waiting { b with writable := b.writable.notify, consumer := .gone }

theorem emptied (b : Mailbox α) : b.Emptied b.consume.1 b.consume.2 := by
  unfold consume
  cases h : b.consumer with
  | idle => exact .idle (.inl h)
  | gone => exact .idle (.inr h)
  | looking =>
    cases hq : b.sink.queue with
    | cons m queue => simpa [Sink.take, hq] using Emptied.took m queue h hq
    | nil =>
      cases hc : b.sink.closed with
      | true => simpa [Sink.take, hq, hc] using Emptied.ended h hc
      | false => simpa [Sink.take, hq, hc] using Emptied.empty h hq hc
  | asking =>
    cases hk : b.readable.kept with
    | true => simpa [Signal.ask, hk] using Emptied.called h hk
    | false => simpa [Signal.ask, hk] using Emptied.uncalled h hk
  | sleeping =>
    cases hz : b.readable.sleeper with
    | woken => simpa [Signal.rise, hz] using Emptied.woken h hz
    | _ => simpa [Signal.rise, hz] using Emptied.asleep h (by simp [hz])
  | announcing m => exact .told m h
  | leaving => exact .left h

/-! ## What every move keeps -/

structure Sound (b : Mailbox α) : Prop where
  writable : b.writable.Serves b.producer.stance b.IsWritable (b.emptierOwes ≠ [])
  readable : b.readable.Serves b.consumer.stance b.IsReadable (b.fillerOwes ≠ [])
  /-- A delivery that waits has met an open sink, and the sink is not closed meanwhile. -/
  unclosed : b.producer.stance ≠ .away → b.sink.closed = false
  /-- Closing does not overlap a delivery. -/
  closing : b.closing = true → b.producer = .idle

theorem sound_create (capacity : Nat) (overflow : Overflow) :
    (create capacity overflow : Mailbox α).Sound where
  writable := .of_away ⟨by simp [create, Signal.quiet, Producer.stance], fun _ => rfl⟩ rfl
  readable := .of_away ⟨by simp [create, Signal.quiet, Consumer.stance], fun _ => rfl⟩ rfl
  unclosed := fun h => absurd rfl h
  closing := fun h => by cases h

theorem Sound.closing_eq_false (h : b.Sound) (hp : b.producer ≠ .idle) : b.closing = false := by
  cases hc : b.closing with
  | false => rfl
  | true => exact absurd (h.closing hc) hp

theorem Sound.filled {d : Option Delivery} (h : b.Sound) (hf : b.Filled d b') : b'.Sound := by
  have hw := h.writable
  have hr := h.readable
  cases hf with
  | idle _ => exact h
  | asleep _ _ _ => exact h
  | closed m hp hclosed =>
    have hc := h.closing_eq_false (by simp [hp])
    rw [hp] at hw
    exact ⟨.of_away hw.toFits rfl, hr.mono id (by simp [fillerOwes, hp, hc]), fun h => absurd rfl h,
      fun _ => rfl⟩
  | refused m hp hopen hfull =>
    have hc := h.closing_eq_false (by simp [hp])
    rw [hp] at hw
    exact ⟨.of_away hw.toFits rfl, hr.mono id (by simp [fillerOwes, hp, hc]), fun h => absurd rfl h,
      fun _ => rfl⟩
  | put m queue dropped hp hqueue =>
    have hc := h.closing_eq_false (by simp [hp])
    rw [hp] at hw
    exact ⟨.of_away hw.toFits rfl, .of_owed hr.toFits (by simp [fillerOwes, hc]),
      fun h => absurd rfl h, fun h => by simp [hc] at h⟩
  | full m hp hopen hfull =>
    have hc := h.closing_eq_false (by simp [hp])
    rw [hp] at hw
    simp only [Sink.isClosed, Bool.or_eq_false_iff] at hopen
    refine ⟨⟨hw.toFits.of_awake (by simp [Producer.stance]) (by simp [Producer.stance]), ?_⟩,
      hr.mono id (by simp [fillerOwes, hp, hc]), fun _ => hopen.1, fun h => by simp [hc] at h⟩
    intro _ hroom
    simp [IsWritable, hfull, hopen.2] at hroom
  | called m hp hkept =>
    have hc := h.closing_eq_false (by simp [hp])
    rw [hp] at hw
    exact ⟨.of_away (hw.toFits.ask_of_kept hkept) rfl, hr.mono id (by simp [fillerOwes, hp, hc]),
      fun h => absurd rfl h, fun h => by simp [hc] at h⟩
  | uncalled m hp hkept =>
    have hc := h.closing_eq_false (by simp [hp])
    have hopen := h.unclosed (by simp [hp, Producer.stance])
    rw [hp] at hw
    refine ⟨⟨.ask_of_not_kept hkept, fun _ hroom => ?_⟩, hr.mono id (by simp [fillerOwes, hp, hc]),
      fun _ => hopen, fun h => by simp [hc] at h⟩
    rcases hw.awake (by simp [Producer.stance]) hroom with hcalls | howed
    · simp [Producer.stance, Signal.calls, hkept] at hcalls
    · exact .inr howed
  | woken m hp hwoken =>
    have hc := h.closing_eq_false (by simp [hp])
    exact ⟨.of_away (.rise_of_woken hwoken) rfl, hr.mono id (by simp [fillerOwes, hp, hc]),
      fun h => absurd rfl h, fun h => by simp [hc] at h⟩
  | told hp =>
    rw [hp] at hw
    exact ⟨.of_away hw.toFits rfl, .notify hr.toFits, fun h => absurd rfl h, fun _ => rfl⟩

theorem Sound.emptied {r : Receipt α} (h : b.Sound) (he : b.Emptied r b') : b'.Sound := by
  obtain ⟨hw, hr, hu, hc⟩ := h
  cases he with
  | idle _ => exact ⟨hw, hr, hu, hc⟩
  | asleep _ _ => exact ⟨hw, hr, hu, hc⟩
  | took m queue hp hqueue =>
    rw [hp] at hr
    exact ⟨.of_owed hw.toFits (by simp [emptierOwes]), .of_away hr.toFits rfl, hu, hc⟩
  | ended hp hclosed =>
    rw [hp] at hr
    exact ⟨hw.mono id (by simp [emptierOwes, hp]), .of_away hr.toFits rfl, hu, hc⟩
  | empty hp hqueue hopen =>
    rw [hp] at hr
    refine ⟨hw.mono id (by simp [emptierOwes, hp]),
      ⟨hr.toFits.of_awake (by simp [Consumer.stance]) (by simp [Consumer.stance]), ?_⟩, hu, hc⟩
    intro _ hnews
    simp [IsReadable, hqueue, hopen] at hnews
  | called hp hkept =>
    rw [hp] at hr
    exact ⟨hw.mono id (by simp [emptierOwes, hp]), .of_away (hr.toFits.ask_of_kept hkept) rfl, hu,
      hc⟩
  | uncalled hp hkept =>
    rw [hp] at hr
    refine ⟨hw.mono id (by simp [emptierOwes, hp]), ⟨.ask_of_not_kept hkept, fun _ hnews => ?_⟩, hu,
      hc⟩
    rcases hr.awake (by simp [Consumer.stance]) hnews with hcalls | howed
    · simp [Consumer.stance, Signal.calls, hkept] at hcalls
    · exact .inr howed
  | woken hp hwoken =>
    exact ⟨hw.mono id (by simp [emptierOwes, hp]), .of_away (.rise_of_woken hwoken) rfl, hu, hc⟩
  | told m hp =>
    rw [hp] at hr
    exact ⟨.notify hw.toFits, .of_away hr.toFits rfl, hu, hc⟩
  | left hp =>
    rw [hp] at hr
    exact ⟨.notify hw.toFits, .of_away hr.toFits rfl, hu, hc⟩

theorem isFillerFree_iff : b.isFillerFree = true ↔ b.producer = .idle ∧ b.closing = false := by
  cases hp : b.producer <;> simp [isFillerFree, hp]

theorem isEmptierFree_iff : b.isEmptierFree = true ↔ b.consumer = .idle := by
  cases hp : b.consumer <;> simp [isEmptierFree, hp]

/-- A receipt that may be given up leaves the emptying side free, and owes nothing. -/
theorem Sound.cancel_eq (h : b.Sound) (hp : (b.isEmptierFree || b.isReceiving) = true) :
    b.emptierOwes = [] ∧
      ∃ s : Signal, s.Fits .away ∧ b.cancel = { b with readable := s, consumer := .idle } := by
  have hr := h.readable.toFits
  obtain ⟨sink, readable, writable, producer, closing, consumer⟩ := b
  cases consumer with
  | idle => exact ⟨rfl, _, hr, rfl⟩
  | looking => exact ⟨rfl, _, hr, rfl⟩
  | asking => exact ⟨rfl, _, hr.of_awake (by simp [Consumer.stance]) (by decide), rfl⟩
  | sleeping => exact ⟨rfl, _, .abandon readable, rfl⟩
  | _ => cases hp

theorem Sound.finish (h : b.Sound) (hp : b.producer = .idle) (m : α) :
    (b.startFinish m).2.Sound := by
  have hw := h.writable
  have hr := h.readable
  rw [hp] at hw
  cases hc : b.sink.closed with
  | true =>
    have hsame : (b.startFinish m).2 = b := by simp [startFinish, Sink.finish_of_closed hc, hc]
    rwa [hsame]
  | false =>
    exact ⟨.of_away (by simpa [startFinish, hp] using hw.toFits) (by simp [startFinish, hp]; rfl),
      .of_owed hr.toFits (by simp [fillerOwes, startFinish, hc]),
      fun h => absurd (by simp [startFinish, hp]; rfl) h, fun _ => hp⟩

theorem Sound.move (h : b.Sound) (hm : b.move? m = some b') : b'.Sound := by
  have hw := h.writable
  have hr := h.readable
  cases m with
  | produce =>
    cases hm
    exact h.filled b.filled
  | consume =>
    cases hm
    exact h.emptied b.emptied
  | deliver m =>
    obtain ⟨hfree, ⟨⟩⟩ := Option.ite_none_right_eq_some.mp hm
    obtain ⟨hp, hc⟩ := isFillerFree_iff.mp hfree
    rw [hp] at hw
    exact ⟨.of_away hw.toFits rfl, hr.mono id (by simp [fillerOwes, hp, hc]), fun h => absurd rfl h,
      fun h => by simp [hc] at h⟩
  | finish m =>
    obtain ⟨hfree, ⟨⟩⟩ := Option.ite_none_right_eq_some.mp hm
    exact h.finish (isFillerFree_iff.mp hfree).1 m
  | close =>
    obtain ⟨hfree, ⟨⟩⟩ := Option.ite_none_right_eq_some.mp hm
    obtain ⟨hp, -⟩ := isFillerFree_iff.mp hfree
    rw [hp] at hw
    exact ⟨.of_away (by simpa [startClose, hp] using hw.toFits) (by simp [startClose, hp]; rfl),
      .of_owed hr.toFits (by simp [fillerOwes, startClose]),
      fun h => absurd (by simp [startClose, hp]; rfl) h, fun _ => hp⟩
  | announceClosing =>
    obtain ⟨-, ⟨⟩⟩ := Option.ite_none_right_eq_some.mp hm
    exact ⟨hw, .notify hr.toFits, h.unclosed, fun h => by cases h⟩
  | receive =>
    obtain ⟨hfree, ⟨⟩⟩ := Option.ite_none_right_eq_some.mp hm
    have hp := isEmptierFree_iff.mp hfree
    rw [hp] at hr
    exact ⟨hw.mono id (by simp [emptierOwes, hp]), .of_away hr.toFits rfl, h.unclosed, h.closing⟩
  | cancel =>
    obtain ⟨hfree, ⟨⟩⟩ := Option.ite_none_right_eq_some.mp hm
    obtain ⟨howes, s, hfits, heq⟩ := h.cancel_eq (by simp [hfree])
    rw [heq]
    exact ⟨hw.mono id (by simp [howes]), .of_away hfits rfl, h.unclosed, h.closing⟩
  | tryReceive =>
    obtain ⟨hfree, ⟨⟩⟩ := Option.ite_none_right_eq_some.mp hm
    have hp := isEmptierFree_iff.mp hfree
    rw [hp] at hr
    cases hq : b.sink.queue with
    | nil => simpa [startTryReceive, Sink.take, hq] using h
    | cons m queue =>
      simp only [startTryReceive, Sink.take, hq]
      exact ⟨.of_owed hw.toFits (by simp [emptierOwes]), .of_away hr.toFits rfl, h.unclosed,
        h.closing⟩
  | leave =>
    obtain ⟨hfree, ⟨⟩⟩ := Option.ite_none_right_eq_some.mp hm
    obtain ⟨-, s, hfits, heq⟩ := h.cancel_eq hfree
    rw [startLeave, heq]
    exact ⟨.of_owed hw.toFits (by simp [emptierOwes]), .of_away hfits rfl, h.unclosed, h.closing⟩

theorem Reachable.sound (h : b.Reachable) : b.Sound := by
  induction h with
  | create capacity overflow => exact sound_create capacity overflow
  | move _ hm ih => exact ih.move hm

end Mailbox
end MarketWire
