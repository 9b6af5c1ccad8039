import MarketWire.Stream.Socket

/-!
# Keeping a socket alive

A ping is sent after a silent window and no second one before something has been heard, and the
socket is given up in the first silent window after a ping that nothing has answered. What the flag
of a socket holds is told here by the outcomes of the waits alone: `Outstanding` looks for a ping
with nothing heard behind it. A failed read is heard like a frame; the stream under a socket ends
after it (`Fused`), so that between two pings there is a frame.
-/
namespace MarketWire
namespace Wait

/-- Whether the wait ended before its window did. -/
def isHeard (w : Wait) : Bool := !w.isSilence

/-- After a failed read there is only the end of the stream to be read. -/
def Fused (ws : List Wait) : Prop :=
  ∀ i reason w, ws[i]? = some (.fault reason) → ws[i + 1]? = some w → w = .ended

theorem isHeard_of_isFrame {w : Wait} (h : w.isFrame) : w.isHeard := by
  cases w <;> simp_all [isFrame, isHeard, isSilence]

/-- What is heard is a frame, a failed read or the end. -/
theorem cases_of_isHeard {w : Wait} (h : w.isHeard) :
    w.isFrame ∨ (∃ reason, w = .fault reason) ∨ w = .ended := by
  cases w <;> simp_all [isFrame, isHeard, isSilence]

end Wait

namespace Waited

/-- Whether a ping was attempted. -/
def attempts (r : Waited) : Bool := r.ping.isSome

/-- Whether a ping was written. -/
def writes (r : Waited) : Bool := r.ping.any (·.2)

end Waited

namespace Socket

/-- A socket that has just been connected. -/
def opened (url : String) (limit : Span) (idle : Option Span) : Socket :=
  ({ create url with connectTimeout := limit, idle := idle }.connect .established).2

/-- The socket before one of its waits. -/
def before (s : Socket) (ws : List Wait) (i : Nat) : Socket := (s.waitAll (ws.take i)).2

/-- What comes of one of the waits. -/
def outcome? (s : Socket) (ws : List Wait) (i : Nat) : Option Waited := (s.waitAll ws).1[i]?

/-- A ping was written before the wait, and nothing has been heard since. -/
def Outstanding (heard : Wait → Bool) (s : Socket) (ws : List Wait) (i : Nat) : Prop :=
  ∃ j r, j < i ∧ s.outcome? ws j = some r ∧ r.writes ∧
    ∀ k w, j < k → k < i → ws[k]? = some w → heard w = false

/-- How a socket is kept alive if what is `heard` shows that the other side is there. -/
structure KeptAlive (heard : Wait → Bool) (s : Socket) (ws : List Wait) : Prop where
  attempts : ∀ i w r, ws[i]? = some w → s.outcome? ws i = some r →
    (r.attempts ↔ (s.before ws i).connected ∧ s.idle.isSome ∧ w.isSilence ∧
      ¬s.Outstanding heard ws i)
  writes : ∀ i w r, ws[i]? = some w → s.outcome? ws i = some r →
    (r.writes ↔ r.attempts ∧ w = .silence none)
  apart : ∀ i j r r', i < j → s.outcome? ws i = some r → s.outcome? ws j = some r' →
    r.writes → r'.writes → ∃ k w, i < k ∧ k < j ∧ ws[k]? = some w ∧ heard w
  givesUp : ∀ i w r d, ws[i]? = some w → s.outcome? ws i = some r →
    (r.answer = some (.error (.timeout d)) ↔
      (s.before ws i).connected ∧ s.idle = some d ∧ w.isSilence ∧ s.Outstanding heard ws i)
  gone : ∀ i r d, s.outcome? ws i = some r → r.answer = some (.error (.timeout d)) →
    ∀ j, i < j → (s.before ws j).connected = false
  numbers : ∃ n, (s.waitAll ws).1.filterMap (·.ping.map (·.1)) = (List.range' 1 n).map UInt64.ofNat
  clears : ∀ i w, ws[i]? = some w → (s.before ws i).connected → w.isFrame →
    (s.before ws (i + 1)).awaitingPong = false ∧ ¬s.Outstanding heard ws (i + 1)
  quiet : s.idle = none → ∀ r ∈ (s.waitAll ws).1,
    r.ping = none ∧ ∀ d, r.answer ≠ some (.error (.timeout d))

/-! ## One wait -/

/-- What a wait can come to, with the socket after it. -/
inductive Course (s : Socket) : Wait → Waited → Socket → Prop where
  | shut (w : Wait) (hc : s.connected = false) : Course s w (answered (.error .notConnected)) s
  | unwatched (fault : Option String) (hc : s.connected) (hidle : s.idle = none) :
    Course s (.silence fault) ⟨none, none⟩ s
  | givenUp (fault : Option String) (d : Span) (hc : s.connected) (hidle : s.idle = some d)
      (hping : s.awaitingPong) :
    Course s (.silence fault) (answered (.error (.timeout d))) s.close
  | pinged (d : Span) (hc : s.connected) (hidle : s.idle = some d)
      (hping : s.awaitingPong = false) :
    Course s (.silence none) ⟨none, some (s.nextCid, true)⟩
      { s with nextCid := s.nextCid + 1, awaitingPong := true }
  | unsent (reason : String) (d : Span) (hc : s.connected) (hidle : s.idle = some d)
      (hping : s.awaitingPong = false) :
    Course s (.silence (some reason)) ⟨some (.error (.sendFailed reason)), some (s.nextCid, false)⟩
      { s with nextCid := s.nextCid + 1 }
  | heard (w : Wait) (answer : Option (Except LinkError (Option String))) (connected : Bool)
      (hc : s.connected) (hw : w.isHeard)
      (htimeout : ∀ d, answer ≠ some (.error (.timeout d)))
      (hended : w = .ended → connected = false) :
    Course s w ⟨answer, none⟩ { s with connected := connected, awaitingPong := false }

section
variable {s s' : Socket} {w : Wait} {r : Waited}

theorem course_silence (fault : Option String) (hc : s.connected) :
    s.Course (.silence fault) (s.handle (.silence fault)).1 (s.handle (.silence fault)).2 := by
  cases hidle : s.idle with
  | none => simpa only [handle, hidle] using Course.unwatched fault hc hidle
  | some d =>
    simp only [handle, hidle]
    cases hping : s.awaitingPong with
    | true =>
      rw [handleSilence, if_pos hping]
      exact .givenUp fault d hc hidle hping
    | false =>
      rw [handleSilence, if_neg (by simp [hping])]
      cases fault with
      | none => simpa [send, hc] using Course.pinged d hc hidle hping
      | some reason => simpa [send, hc] using Course.unsent reason d hc hidle hping

/-- No answer to what is heard is that of a window gone by. -/
theorem textOfBytes_ne_timeout (bytes : List UInt8) (d : Span) :
    (textOfBytes bytes).map some ≠ .error (.timeout d) := by
  unfold textOfBytes
  split <;> simp [Except.map]

theorem closeAnswer_ne_timeout (status : Option CloseStatus) (d : Span) :
    closeAnswer status ≠ .error (.timeout d) := by
  cases status with
  | none => simp [closeAnswer]
  | some c => cases hc : c.isGraceful <;> simp [closeAnswer, hc]

theorem course_wait (s : Socket) (w : Wait) : s.Course w (s.wait w).1 (s.wait w).2 := by
  unfold wait
  cases hc : s.connected with
  | false => exact .shut w hc
  | true =>
    cases w with
    | silence fault => exact course_silence fault hc
    | text t => exact .heard (.text t) _ s.connected hc rfl (by simp) (by simp)
    | binary bytes =>
      exact .heard (.binary bytes) _ s.connected hc rfl
        (by simpa using textOfBytes_ne_timeout bytes) (by simp)
    | control => exact .heard .control none s.connected hc rfl (by simp) (by simp)
    | close status =>
      exact .heard (.close status) _ false hc rfl (by simpa using closeAnswer_ne_timeout status)
        (by simp)
    | fault reason => exact .heard (.fault reason) _ s.connected hc rfl (by simp) (by simp)
    | ended => exact .heard .ended _ false hc rfl (by simp) (by simp)

namespace Course

theorem idle_eq (h : s.Course w r s') : s'.idle = s.idle := by
  cases h <;> rfl

theorem connected_of (h : s.Course w r s') (hc : s'.connected) : s.connected := by
  cases h <;> assumption

theorem attempts_iff (h : s.Course w r s') :
    r.attempts ↔ s.connected ∧ s.idle.isSome ∧ w.isSilence ∧ s.awaitingPong = false := by
  cases h <;> simp_all [Waited.attempts, answered, Wait.isHeard, Wait.isSilence]

theorem writes_iff (h : s.Course w r s') : r.writes ↔ r.attempts ∧ w = .silence none := by
  cases h <;> simp [Waited.writes, Waited.attempts, answered]

theorem timeout_iff (h : s.Course w r s') (d : Span) :
    r.answer = some (.error (.timeout d)) ↔
      s.connected ∧ s.idle = some d ∧ w.isSilence ∧ s.awaitingPong := by
  cases h <;> simp_all [answered, Wait.isHeard, Wait.isSilence]

theorem gone (h : s.Course w r s') (hr : r.answer = some (.error (.timeout d))) :
    s'.connected = false := by
  cases h <;> simp_all [answered, close]

/-- The flag is raised by a ping that is written and stands until something is heard. -/
theorem awaiting_iff (h : s.Course w r s') (hc : s'.connected) :
    s'.awaitingPong ↔ r.writes ∨ s.awaitingPong ∧ w.isHeard = false := by
  cases h <;> simp_all [Waited.writes, Wait.isHeard, Wait.isSilence, close]

theorem clears (h : s.Course w r s') (hc : s.connected) (hw : w.isHeard) :
    s'.awaitingPong = false := by
  cases h <;> simp_all [Wait.isHeard, Wait.isSilence]

theorem ended (h : s.Course .ended r s') : s'.connected = false := by
  cases h <;> simp_all

theorem number (h : s.Course w r s') :
    r.ping = none ∧ s'.nextCid = s.nextCid ∨
      (∃ b, r.ping = some (s.nextCid, b)) ∧ s'.nextCid = s.nextCid + 1 := by
  cases h <;> simp [answered, close]

end Course
end

/-! ## Many waits -/

section
variable {s : Socket} {ws : List Wait} {i j : Nat} {w : Wait} {r : Waited}

theorem before_zero (s : Socket) (ws : List Wait) : s.before ws 0 = s := rfl

theorem outcome?_eq (s : Socket) (ws : List Wait) (i : Nat) :
    s.outcome? ws i = ws[i]?.map fun w => ((s.before ws i).wait w).1 := by
  induction ws generalizing s i with
  | nil => rfl
  | cons v ws ih =>
    cases i with
    | zero => rfl
    | succ i => exact ih (s.wait v).2 i

theorem before_succ (s : Socket) (ws : List Wait) (i : Nat) :
    s.before ws (i + 1) = ws[i]?.elim (s.before ws i) fun w => ((s.before ws i).wait w).2 := by
  induction ws generalizing s i with
  | nil => simp [before]
  | cons v ws ih =>
    cases i with
    | zero => rfl
    | succ i => exact ih (s.wait v).2 i

theorem exists_outcome (hw : ws[i]? = some w) : ∃ r, s.outcome? ws i = some r := by
  simp [outcome?_eq, hw]

theorem exists_wait (hr : s.outcome? ws i = some r) : ∃ w, ws[i]? = some w := by
  rw [outcome?_eq] at hr
  exact (Option.map_eq_some_iff.mp hr).imp fun _ => And.left

/-- A wait takes the socket before it to the one before the next wait. -/
theorem course_of_outcome (hw : ws[i]? = some w) (hr : s.outcome? ws i = some r) :
    (s.before ws i).Course w r (s.before ws (i + 1)) := by
  rw [outcome?_eq, hw] at hr
  rw [before_succ, hw, ← Option.some.inj hr]
  exact course_wait _ w

/-- Past the last wait nothing changes. -/
theorem before_succ_cases (s : Socket) (ws : List Wait) (i : Nat) :
    (∃ w r, ws[i]? = some w ∧ s.outcome? ws i = some r) ∨
      s.before ws (i + 1) = s.before ws i := by
  cases hw : ws[i]? with
  | none => exact .inr (by rw [before_succ, hw]; rfl)
  | some w =>
    obtain ⟨r, hr⟩ := exists_outcome (s := s) hw
    exact .inl ⟨w, r, rfl, hr⟩

theorem before_idle (s : Socket) (ws : List Wait) (i : Nat) : (s.before ws i).idle = s.idle := by
  induction i with
  | zero => rfl
  | succ i ih =>
    rcases s.before_succ_cases ws i with ⟨w, r, hw, hr⟩ | h
    · rw [(course_of_outcome hw hr).idle_eq, ih]
    · rw [h, ih]

theorem connected_of_le (hij : i ≤ j) (hc : (s.before ws j).connected) :
    (s.before ws i).connected := by
  induction hij with
  | refl => exact hc
  | step _ ih =>
    rcases s.before_succ_cases ws _ with ⟨w, r, hw, hr⟩ | h
    · exact ih ((course_of_outcome hw hr).connected_of hc)
    · exact ih (h ▸ hc)

/-- One more wait leaves a ping outstanding if it writes one or hears nothing. -/
theorem outstanding_succ {heard : Wait → Bool} (hw : ws[i]? = some w)
    (hr : s.outcome? ws i = some r) :
    s.Outstanding heard ws (i + 1) ↔ r.writes ∨ s.Outstanding heard ws i ∧ heard w = false := by
  constructor
  · rintro ⟨j, r', hj, hr', hwrites, hsince⟩
    rcases Nat.lt_or_eq_of_le (Nat.le_of_lt_succ hj) with hlt | rfl
    · exact .inr ⟨⟨j, r', hlt, hr', hwrites, fun k v hk hki => hsince k v hk (by omega)⟩,
        hsince i w hlt (by omega) hw⟩
    · obtain rfl : r' = r := Option.some.inj (hr'.symm.trans hr)
      exact .inl hwrites
  · rintro (hwrites | ⟨⟨j, r', hj, hr', hwrites, hsince⟩, hquiet⟩)
    · exact ⟨i, r, by omega, hr, hwrites, fun k v hk hki => by omega⟩
    · refine ⟨j, r', by omega, hr', hwrites, fun k v hk hki hv => ?_⟩
      rcases Nat.lt_or_eq_of_le (Nat.le_of_lt_succ hki) with hlt | rfl
      · exact hsince k v hk hlt hv
      · obtain rfl : v = w := Option.some.inj (hv.symm.trans hw)
        exact hquiet

/-- The flag of a connected socket says that a ping is outstanding. -/
theorem awaiting_iff_outstanding (hstart : s.awaitingPong = false) (hi : i ≤ ws.length)
    (hc : (s.before ws i).connected) :
    (s.before ws i).awaitingPong ↔ s.Outstanding Wait.isHeard ws i := by
  induction i with
  | zero => simp [before_zero, hstart, Outstanding]
  | succ i ih =>
    have hw : ws[i]? = some ws[i] := List.getElem?_eq_getElem hi
    obtain ⟨r, hr⟩ := exists_outcome (s := s) hw
    have h := course_of_outcome hw hr
    rw [h.awaiting_iff hc, outstanding_succ hw hr, ih (by omega) (h.connected_of hc)]

/-- The pings are numbered in their order, from the number of the first on. -/
theorem numbers_waitAll (s : Socket) (ws : List Wait) (n : Nat) (hn : s.nextCid = .ofNat n) :
    ∃ m, (s.waitAll ws).1.filterMap (·.ping.map (·.1)) = (List.range' n m).map UInt64.ofNat := by
  induction ws generalizing s n with
  | nil => exact ⟨0, rfl⟩
  | cons w ws ih =>
    rcases (s.course_wait w).number with ⟨hping, hnext⟩ | ⟨⟨b, hping⟩, hnext⟩
    · obtain ⟨m, hm⟩ := ih (s.wait w).2 n (hnext.trans hn)
      exact ⟨m, by simpa [waitAll, hping] using hm⟩
    · obtain ⟨m, hm⟩ := ih (s.wait w).2 (n + 1) (by rw [hnext, hn, UInt64.ofNat_add]; rfl)
      exact ⟨m + 1, by simp [waitAll, hping, hm, hn, List.range'_succ]⟩

end

/-! ## The whole run -/

section
variable {heard : Wait → Bool} {s : Socket} {ws : List Wait} {i j k : Nat} {v w : Wait}
  {r r' : Waited}

/-- Where a window goes by, the flag says whether a ping is outstanding. -/
def Flagged (heard : Wait → Bool) (s : Socket) (ws : List Wait) : Prop :=
  ∀ i w, ws[i]? = some w → w.isSilence → (s.before ws i).connected →
    ((s.before ws i).awaitingPong ↔ s.Outstanding heard ws i)

theorem Flagged.attempts_iff (h : Flagged heard s ws) (hw : ws[i]? = some w)
    (hr : s.outcome? ws i = some r) :
    r.attempts ↔ (s.before ws i).connected ∧ s.idle.isSome ∧ w.isSilence ∧
      ¬s.Outstanding heard ws i := by
  rw [(course_of_outcome hw hr).attempts_iff, before_idle]
  refine and_congr_right fun hc => and_congr_right fun _ => and_congr_right fun hs => ?_
  rw [← h i w hw hs hc, Bool.not_eq_true]

theorem Flagged.timeout_iff (h : Flagged heard s ws) (hw : ws[i]? = some w)
    (hr : s.outcome? ws i = some r) (d : Span) :
    r.answer = some (.error (.timeout d)) ↔
      (s.before ws i).connected ∧ s.idle = some d ∧ w.isSilence ∧ s.Outstanding heard ws i := by
  rw [(course_of_outcome hw hr).timeout_iff, before_idle]
  exact and_congr_right fun hc => and_congr_right fun _ => and_congr_right fun hs => h i w hw hs hc

/-- With nothing heard in between, the first ping would be outstanding at the second. -/
theorem Flagged.apart (h : Flagged heard s ws) (hij : i < j) (hr : s.outcome? ws i = some r)
    (hr' : s.outcome? ws j = some r') (hwrites : r.writes) (hwrites' : r'.writes) :
    ∃ k w, i < k ∧ k < j ∧ ws[k]? = some w ∧ heard w := by
  obtain ⟨w, hw⟩ := exists_wait hr'
  have hattempts := ((course_of_outcome hw hr').writes_iff.mp hwrites').1
  have hnone := ((h.attempts_iff hw hr').mp hattempts).2.2.2
  refine Classical.byContradiction fun hquiet => hnone ⟨i, r, hij, hr, hwrites, ?_⟩
  exact fun k v hik hkj hv => Bool.eq_false_iff.mpr fun hv' => hquiet ⟨k, v, hik, hkj, hv, hv'⟩

theorem Flagged.keptAlive (h : Flagged heard s ws) (hcid : s.nextCid = 1)
    (hheard : ∀ w, w.isFrame → heard w) : KeptAlive heard s ws where
  attempts _ _ _ := h.attempts_iff
  writes _ _ _ hw hr := (course_of_outcome hw hr).writes_iff
  apart _ _ _ _ := h.apart
  givesUp _ _ _ d hw hr := h.timeout_iff hw hr d
  gone i r d hr htimeout j hij := by
    obtain ⟨w, hw⟩ := exists_wait hr
    refine Bool.eq_false_iff.mpr fun hc => ?_
    exact absurd (connected_of_le hij hc) (by simp [(course_of_outcome hw hr).gone htimeout])
  numbers := numbers_waitAll s ws 1 hcid
  clears i w hw hc hframe := by
    obtain ⟨r, hr⟩ := exists_outcome (s := s) hw
    have hcourse := course_of_outcome hw hr
    refine ⟨hcourse.clears hc (Wait.isHeard_of_isFrame hframe), ?_⟩
    rw [outstanding_succ hw hr, hcourse.writes_iff]
    rintro (⟨-, rfl⟩ | ⟨-, hquiet⟩)
    · cases hframe
    · simp [hheard w hframe] at hquiet
  quiet hidle r hr := by
    obtain ⟨i, hr⟩ := List.mem_iff_getElem?.mp hr
    obtain ⟨w, hw⟩ := exists_wait hr
    have hattempts : ¬r.attempts := fun ha => by
      simpa [hidle] using ((h.attempts_iff hw hr).mp ha).2.1
    refine ⟨by simpa [Waited.attempts] using hattempts, fun d htimeout => ?_⟩
    simpa [hidle] using ((h.timeout_iff hw hr d).mp htimeout).2.1

/-- Before a silent window of a connected socket the stream has not failed, so that all that has
been heard are frames. -/
theorem isFrame_of_isHeard (hfused : Wait.Fused ws) (hc : (s.before ws i).connected)
    (hw : ws[i]? = some w) (hsilence : w.isSilence) (hki : k < i) (hv : ws[k]? = some v)
    (hheard : v.isHeard) : v.isFrame := by
  -- the end of the stream would have shut the socket
  have hend {j} (hj : ws[j]? = some .ended) : ¬j < i := by
    intro hji
    obtain ⟨r, hr⟩ := exists_outcome (s := s) hj
    exact absurd (connected_of_le hji hc) (by simp [(course_of_outcome hj hr).ended])
  rcases Wait.cases_of_isHeard hheard with hframe | ⟨reason, rfl⟩ | rfl
  · exact hframe
  · obtain ⟨u, hu⟩ : ∃ u, ws[k + 1]? = some u := by
      have := (List.getElem?_eq_some_iff.mp hw).1
      exact ⟨_, List.getElem?_eq_getElem (by omega)⟩
    obtain rfl := hfused k reason u hv hu
    obtain rfl : i = k + 1 := by have := hend hu; omega
    obtain rfl : w = .ended := Option.some.inj (hw.symm.trans hu)
    cases hsilence
  · exact absurd hki (hend hv)

theorem outstanding_isFrame_iff (hfused : Wait.Fused ws) (hc : (s.before ws i).connected)
    (hw : ws[i]? = some w) (hsilence : w.isSilence) :
    s.Outstanding Wait.isFrame ws i ↔ s.Outstanding Wait.isHeard ws i := by
  constructor
  · rintro ⟨j, r, hj, hr, hwrites, hsince⟩
    refine ⟨j, r, hj, hr, hwrites, fun k v hjk hki hv => Bool.eq_false_iff.mpr fun hheard => ?_⟩
    simpa [hsince k v hjk hki hv] using isFrame_of_isHeard hfused hc hw hsilence hki hv hheard
  · rintro ⟨j, r, hj, hr, hwrites, hsince⟩
    refine ⟨j, r, hj, hr, hwrites, fun k v hjk hki hv => Bool.eq_false_iff.mpr fun hframe => ?_⟩
    simpa [hsince k v hjk hki hv] using Wait.isHeard_of_isFrame hframe

theorem flagged_of_awaiting (hstart : s.awaitingPong = false) (ws : List Wait) :
    Flagged Wait.isHeard s ws := by
  intro i w hw _ hc
  exact awaiting_iff_outstanding hstart (Nat.le_of_lt (List.getElem?_eq_some_iff.mp hw).1) hc

/-- However the waits end, a socket that has been connected is kept alive. -/
theorem opened_keptAlive (url : String) (limit : Span) (idle : Option Span) (ws : List Wait) :
    KeptAlive Wait.isHeard (opened url limit idle) ws ∧
      (Wait.Fused ws → KeptAlive Wait.isFrame (opened url limit idle) ws) := by
  have hflag : Flagged Wait.isHeard (opened url limit idle) ws := flagged_of_awaiting rfl ws
  refine ⟨hflag.keptAlive rfl fun _ => Wait.isHeard_of_isFrame, fun hfused => ?_⟩
  refine Flagged.keptAlive (fun i w hw hsilence hc => ?_) rfl fun _ => id
  rw [hflag i w hw hsilence hc, outstanding_isFrame_iff hfused hc hw hsilence]

/-- Two pings with a frame of the transport in between, and the end after the second. -/
theorem opened_keptAlive_pinged :
    let ws := [.silence none, .control, .silence none, .silence none]
    let s := opened "wss://api.bitfinex.com/ws/2" standardConnectTimeout (some standardIdle)
    Wait.Fused ws ∧ KeptAlive Wait.isFrame s ws ∧
      (s.waitAll ws).1.map Waited.writes = [true, false, true, false] ∧
      (s.waitAll ws).1.map (·.answer) =
        [none, none, none, some (.error (.timeout standardIdle))] := by
  intro ws s
  have hfused : Wait.Fused ws := fun i reason w hw => by
    have hmem := List.mem_of_getElem? hw
    simp [ws] at hmem
  exact ⟨hfused, (opened_keptAlive _ _ _ ws).2 hfused, by decide, rfl⟩

end
end Socket
end MarketWire
