import MarketWire.Json.Printer
import MarketWire.Proofs.Json.Notation

/-!
# Whole numbers in JSON texts

A whole number of 64 bits is read back from its digits. Conversely only a token without a fraction
and without an exponent is read as a whole number, and as the one that its digits say.
-/
namespace MarketWire
namespace Json

theorem isDigit_of_mem_digits {n : Nat} : ∀ c ∈ Nat.toDigits 10 n, c.isDigit = true :=
  fun _ hc => Nat.isDigit_of_mem_toDigits (by decide) (by decide) hc

theorem head?_digits_ne {n : Nat} (h : 0 < n) : (Nat.toDigits 10 n).head? ≠ some '0' := by
  induction n using Nat.strongRecOn with
  | ind n ih =>
    rcases Nat.lt_or_ge n 10 with hlt | hge
    · rw [Nat.toDigits_of_lt_base hlt, List.head?_cons, ne_eq, Option.some.injEq,
        Nat.digitChar_eq_zero]
      omega
    · have hhead := ih (n / 10) (by omega) (by omega)
      cases hds : Nat.toDigits 10 (n / 10) with
      | nil => exact absurd hds Nat.toDigits_ne_nil
      | cons c cs =>
        rw [hds] at hhead
        rw [Nat.toDigits_of_base_le (by decide) hge, hds]
        exact hhead

/-- More digits never make a number smaller. -/
theorem le_ofDigitChars (cs : List Char) (n : Nat) : n ≤ Nat.ofDigitChars 10 cs n := by
  rw [Nat.ofDigitChars_eq_ofDigitChars_zero]
  exact Nat.le_add_right_of_le (Nat.le_mul_of_pos_left _ (Nat.pow_pos (by decide)))

namespace NumberToken

/-- The token of a whole number. -/
def ofInt (i : Int) : NumberToken := ⟨i < 0, Nat.toDigits 10 i.natAbs, [], none⟩

/-- Digits are written without leading zeros. -/
theorem legal_ofInt (i : Int) : (ofInt i).Legal where
  whole_digits := isDigit_of_mem_digits
  whole_ne := Nat.toDigits_ne_nil
  no_zero := fun hhead => by
    rcases Nat.eq_zero_or_pos i.natAbs with hzero | hpos
    · simp [ofInt, hzero]
    · exact absurd hhead (head?_digits_ne hpos)
  fraction_digits := by simp [ofInt]
  exponent_digits := by simp [ofInt]

theorem chars_ofInt (i : Int) : (ofInt i).chars = Number.wholeChars i := by
  by_cases hi : i < 0 <;>
    simp [chars, ofInt, unsignedChars, fractionChars, exponentChars, Number.wholeChars,
      Binary64.signed, hi]

end NumberToken

namespace Value

theorem ofNat_of_lt {n : Nat} (h : (n : Int) < 0x10000000000000000) :
    ofNat n = .number (.whole n ⟨by omega, h⟩) := by
  have hfits : -0x8000000000000000 ≤ (n : Int) ∧ (n : Int) < 0x10000000000000000 := ⟨by omega, h⟩
  rw [ofNat, Number.whole?, dif_pos hfits, Option.elim_some]

end Value

namespace Number

theorem wholeChars_natCast (n : Nat) : wholeChars n = Nat.toDigits 10 n := by
  rw [wholeChars, if_neg (by omega), Int.natAbs_natCast]

theorem gather_of_lt {cs : List Char} {n : Nat}
    (h : Nat.ofDigitChars 10 cs n < 0x10000000000000000) :
    gather cs n = (Nat.ofDigitChars 10 cs n, cs.length) := by
  induction cs generalizing n with
  | nil => rfl
  | cons c cs ih =>
    rw [Nat.ofDigitChars_cons] at h ⊢
    rw [gather, if_pos (Nat.lt_of_le_of_lt (le_ofDigitChars cs _) h), ih h, List.length_cons]

theorem gather_snd_le (cs : List Char) (n : Nat) : (gather cs n).2 ≤ cs.length := by
  induction cs generalizing n with
  | nil => simp [gather]
  | cons c cs ih =>
    rw [gather]
    split
    · exact Nat.succ_le_succ (ih _)
    · exact Nat.zero_le _

theorem gather_of_all {cs : List Char} {n : Nat} (h : (gather cs n).2 = cs.length) :
    (gather cs n).1 = Nat.ofDigitChars 10 cs n := by
  induction cs generalizing n with
  | nil => rfl
  | cons c cs ih =>
    rw [gather] at h ⊢
    split at h
    case isTrue hm =>
      rw [if_pos hm, Nat.ofDigitChars_cons]
      exact ih (Nat.succ_inj.mp h)
    case isFalse => simp at h

theorem gather_digits {n : Nat} (h : n < 0x10000000000000000) :
    gather (Nat.toDigits 10 n) 0 = (n, (Nat.toDigits 10 n).length) := by
  rw [gather_of_lt] <;> rw [Nat.ofDigitChars_ten_toDigits]
  exact h

theorem ofToken?_digits {n : Nat} (h : n < 0x10000000000000000) :
    ofToken? ⟨false, Nat.toDigits 10 n, [], none⟩ = whole? n := by
  simp [ofToken?, gather_digits h]

theorem ofToken?_minus {n : Nat} (hpos : 0 < n) (h : n ≤ 0x8000000000000000) :
    ofToken? ⟨true, Nat.toDigits 10 n, [], none⟩ = whole? (-n) := by
  simp [ofToken?, gather_digits (n := n) (by omega), h, Nat.ne_of_gt hpos]

/-- A whole number is the value of its token. -/
theorem ofToken?_ofInt (i : Int) (h : -0x8000000000000000 ≤ i ∧ i < 0x10000000000000000) :
    ofToken? (.ofInt i) = some (.whole i h) := by
  have hwhole : whole? i = some (.whole i h) := by rw [whole?, dif_pos h]
  rcases Int.lt_or_le i 0 with hneg | hpos
  · have hi : -(i.natAbs : Int) = i := by omega
    rw [NumberToken.ofInt, decide_eq_true hneg, ofToken?_minus (by omega) (by omega), hi, hwhole]
  · have hi : (i.natAbs : Int) = i := by omega
    rw [NumberToken.ofInt, decide_eq_false (Int.not_lt.mpr hpos), ofToken?_digits (by omega), hi,
      hwhole]

end Number

namespace NumberToken

/-- Whether a token is written as a whole number. -/
def IsInteger (t : NumberToken) : Prop := t.fraction = [] ∧ t.exponent = none

def integer (t : NumberToken) : Int :=
  if t.negative then -Nat.ofDigitChars 10 t.whole 0 else Nat.ofDigitChars 10 t.whole 0

theorem integer_of_whole {t : NumberToken} {i : Int} {h}
    (ht : Number.ofToken? t = some (.whole i h)) : t.IsInteger ∧ t.integer = i := by
  have hvalue : ∀ {j : Int}, Number.whole? j = some (.whole i h) → j = i := by
    intro j hj
    unfold Number.whole? at hj
    split at hj <;> cases hj
    rfl
  have hall : t.whole.length - (Number.gather t.whole 0).2 = 0 →
      (Number.gather t.whole 0).1 = Nat.ofDigitChars 10 t.whole 0 := by
    intro hspare
    have hle := Number.gather_snd_le t.whole 0
    exact Number.gather_of_all (by omega)
  unfold IsInteger integer
  simp only [Number.ofToken?] at ht
  split at ht
  case isTrue hpos =>
    simp only [Bool.and_eq_true, beq_iff_eq, List.isEmpty_iff, Option.isNone_iff_eq_none,
      Bool.not_eq_true'] at hpos
    obtain ⟨⟨⟨hspare, hfraction⟩, hexponent⟩, hsign⟩ := hpos
    rw [hall hspare] at ht
    simp [hfraction, hexponent, hsign, hvalue ht]
  case isFalse hpos =>
    split at ht
    case isTrue hneg =>
      simp only [Bool.and_eq_true, beq_iff_eq, List.isEmpty_iff,
        Option.isNone_iff_eq_none] at hneg hpos
      obtain ⟨⟨⟨⟨hspare, hfraction⟩, hexponent⟩, -⟩, -⟩ := hneg
      rw [hall hspare] at ht
      have hsign : t.negative = true := by simpa [hspare, hfraction, hexponent] using hpos
      simp [hfraction, hexponent, hsign, hvalue ht]
    case isFalse =>
      obtain ⟨x, -, hx⟩ := Option.map_eq_some_iff.mp ht
      cases hx

end NumberToken
end Json
end MarketWire
