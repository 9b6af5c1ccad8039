import MarketWire.Auth.Nonce

/-!
# Nonces drawn at once

Any number of callers may draw from one source that follows a clock. Each looks at the last number
and proposes one above it, until a proposal is written before anybody else has written. A proposal
that is written takes the place of the number that it was made for, so it is above all that were
written before, whatever the clock says, and nothing else is ever written.
-/
namespace MarketWire
namespace Clock

variable {last : UInt64}

theorem candidate_eq (now last : UInt64) :
    candidate now last = if now ≤ last + 1 then last + 1 else now := rfl

theorem le_candidate (now last : UInt64) : now ≤ candidate now last := by
  rw [candidate_eq]
  split
  case isTrue h => exact h
  case isFalse => exact UInt64.le_refl now

/-- Short of the end of 64 bits, a proposal is above the number that it is made for. -/
theorem lt_candidate (h : last < 0xFFFFFFFFFFFFFFFF) (now : UInt64) : last < candidate now last := by
  have hsucc : last < last + 1 := by
    have hlast : last.toNat < 18446744073709551615 := UInt64.lt_iff_toNat_lt.mp h
    rw [UInt64.lt_iff_toNat_lt, UInt64.toNat_add, UInt64.toNat_one]
    omega
  rw [candidate_eq]
  split
  case isTrue => exact hsucc
  case isFalse hnow => exact UInt64.lt_trans hsucc (UInt64.not_le.mp hnow)

namespace Race

variable {r : Race} {m : Move}

/-- Whether a move writes: its caller expects the number that stands there, and the attempt does not
fail for no reason. -/
def succeeds (r : Race) : Move → Bool
  | .start _ => false
  | .attempt caller _ fails => r.expected caller == some r.clock.last && !fails

/-- The numbers that are written, in the order in which the attempts succeed. -/
def written (r : Race) : List Move → List UInt64
  | [] => []
  | m :: ms =>
    if r.succeeds m then (r.step m).clock.last :: written (r.step m) ms
    else written (r.step m) ms

/-! ## One move -/

/-- A proposal that is written is handed out at once. -/
theorem step_of_succeeds {caller : Nat} {now : UInt64} {fails : Bool}
    (h : r.succeeds (.attempt caller now fails) = true) :
    (r.step (.attempt caller now fails)).clock.last = candidate now r.clock.last ∧
      (r.step (.attempt caller now fails)).returned = candidate now r.clock.last :: r.returned := by
  simp only [succeeds, Bool.and_eq_true, beq_iff_eq, Bool.not_eq_true'] at h
  obtain ⟨hexpected, rfl⟩ := h
  simp [step, hexpected]

theorem step_of_not_succeeds (h : r.succeeds m = false) :
    (r.step m).clock = r.clock ∧ (r.step m).returned = r.returned := by
  cases m with
  | start caller =>
    rw [step]
    split <;> exact ⟨rfl, rfl⟩
  | attempt caller now fails =>
    rw [step]
    split
    case h_1 => exact ⟨rfl, rfl⟩
    case h_2 e he =>
      have hfailed : ¬(e = r.clock.last && !fails) = true := by
        simpa [succeeds, he] using h
      rw [if_neg hfailed]
      exact ⟨rfl, rfl⟩

/-- Only an attempt writes, and what it writes is its proposal. -/
theorem exists_attempt (h : r.succeeds m = true) : ∃ now,
    (r.step m).clock.last = candidate now r.clock.last ∧
      (r.step m).returned = candidate now r.clock.last :: r.returned := by
  cases m with
  | start caller => cases h
  | attempt caller now fails => exact ⟨now, step_of_succeeds h⟩

/-! ## The whole run -/

theorem written_append (r : Race) (ms ms' : List Move) :
    r.written (ms ++ ms') = r.written ms ++ (r.run ms).written ms' := by
  induction ms generalizing r with
  | nil => rfl
  | cons m ms ih =>
    rw [List.cons_append, written, written, ih]
    split <;> rfl

/-- What is written is what is handed out. -/
theorem returned_run (r : Race) (ms : List Move) :
    (r.run ms).returned = (r.written ms).reverse ++ r.returned := by
  induction ms generalizing r with
  | nil => rfl
  | cons m ms ih =>
    have hrun : (r.run (m :: ms)).returned = ((r.step m).run ms).returned := rfl
    rw [hrun, ih, written]
    split
    case isTrue h =>
      obtain ⟨now, hlast, hreturned⟩ := exists_attempt h
      rw [hreturned, ← hlast, List.reverse_cons, List.append_assoc, List.singleton_append]
    case isFalse h => rw [(step_of_not_succeeds (Bool.eq_false_iff.mpr h)).2]

/-- The number that stands there and those that are written after it are one increasing list. -/
theorem pairwise_written (r : Race) (ms : List Move) (hlast : r.clock.last < 0xFFFFFFFFFFFFFFFF)
    (hbound : ∀ n ∈ r.written ms, n < 0xFFFFFFFFFFFFFFFF) :
    (r.clock.last :: r.written ms).Pairwise (· < ·) := by
  induction ms generalizing r with
  | nil => exact List.pairwise_singleton _ _
  | cons m ms ih =>
    rw [written] at hbound ⊢
    split at hbound
    case isTrue h =>
      rw [if_pos h]
      obtain ⟨now, hwrites, -⟩ := exists_attempt h
      obtain ⟨hnext, hrest⟩ := List.forall_mem_cons.mp hbound
      have habove : r.clock.last < (r.step m).clock.last := hwrites ▸ lt_candidate hlast now
      have htail := ih (r.step m) hnext hrest
      refine List.pairwise_cons.mpr ⟨List.forall_mem_cons.mpr ⟨habove, fun n hn => ?_⟩, htail⟩
      exact UInt64.lt_trans habove (List.rel_of_pairwise_cons htail hn)
    case isFalse h =>
      rw [if_neg h]
      have hsame := (step_of_not_succeeds (Bool.eq_false_iff.mpr h)).1
      rw [← hsame]
      exact ih (r.step m) (hsame ▸ hlast) hbound

/-- As long as no number reaches the end of 64 bits, the numbers written increase, and each of them
is handed out once. The number of an attempt that succeeds is not below what its caller read from
the clock, and above all that were handed out before the caller began to look. -/
theorem written_increase (ms : List Move)
    (hbound : ∀ n ∈ start.written ms, n < 0xFFFFFFFFFFFFFFFF) :
    (start.written ms).Pairwise (· < ·) ∧
    (start.run ms).returned = (start.written ms).reverse ∧ (start.run ms).returned.Nodup ∧
    ∀ earlier caller now fails later, ms = earlier ++ .attempt caller now fails :: later →
      (start.run earlier).succeeds (.attempt caller now fails) = true →
      ∃ n, (start.run (earlier ++ [.attempt caller now fails])).clock.last = n ∧
        (start.run (earlier ++ [.attempt caller now fails])).returned =
          n :: (start.run earlier).returned ∧
        now ≤ n ∧
        ∀ before between, earlier = before ++ .start caller :: between →
          ∀ v ∈ (start.run before).returned, v < n := by
  have hreturned : ∀ ms, (start.run ms).returned = (start.written ms).reverse := fun ms => by
    rw [returned_run]
    exact List.append_nil _
  have hsorted := (List.pairwise_cons.mp (pairwise_written start ms (by decide) hbound)).2
  refine ⟨hsorted, hreturned ms, ?_, ?_⟩
  · rw [hreturned]
    exact List.pairwise_reverse.mpr (hsorted.imp fun hlt => (UInt64.ne_of_lt hlt).symm)
  · rintro earlier caller now fails later rfl hs
    obtain ⟨hlast, hnext⟩ := step_of_succeeds hs
    have hrun : start.run (earlier ++ [.attempt caller now fails]) =
        (start.run earlier).step (.attempt caller now fails) := List.foldl_append
    rw [hrun]
    refine ⟨_, hlast, hnext, le_candidate now _, ?_⟩
    rintro before between rfl v hv
    -- What was handed out before the look was written before this attempt.
    rw [hreturned, List.mem_reverse] at hv
    rw [written_append _ (before ++ _), written, if_pos hs, List.pairwise_append] at hsorted
    rw [← hlast]
    refine hsorted.2.2 v ?_ _ List.mem_cons_self
    rw [written_append]
    exact List.mem_append_left _ hv

/-- Two callers look at once. The one that is slower has to look again, while the clock has gone
back. -/
theorem written_increase_overtaken :
    let ms : List Move := [.start 0, .start 1, .attempt 0 50 false, .attempt 1 70 false,
      .attempt 1 20 true, .attempt 1 20 false]
    (∀ n ∈ start.written ms, n < 0xFFFFFFFFFFFFFFFF) ∧ start.written ms = [50, 51] ∧
      (start.run ms).returned = [51, 50] := by
  intro ms
  have hwritten : start.written ms = [50, 51] := by decide
  have hbound : ∀ n ∈ start.written ms, n < 0xFFFFFFFFFFFFFFFF := by
    rw [hwritten]
    exact List.forall_mem_cons.mpr ⟨by decide, List.forall_mem_singleton.mpr (by decide)⟩
  refine ⟨hbound, hwritten, ?_⟩
  rw [(written_increase ms hbound).2.1, hwritten]
  rfl

end Race
end Clock
end MarketWire
