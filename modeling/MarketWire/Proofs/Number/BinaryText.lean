import MarketWire.Proofs.Number.ShortDigits
import MarketWire.Proofs.Number.TokenDecimal

/-!
# Decimals read from the text of a binary value

The text of a binary value has eighteen digits at most, so the number before its exponent is always a
decimal. The text is refused only if it stands for too large a number, or for a small one with more
places than a decimal has.
-/
namespace MarketWire

namespace Json.NumberToken

open Shortest (digitCount)

variable (negative : Bool) {d : Digits}

theorem length_ofDigits_le (h : d.coefficient < 10 ^ 18) (hzero : d.coefficient = 0 → d.exponent = 0) :
    (ofDigits negative d).whole.length + (ofDigits negative d).fraction.length ≤ 28 := by
  have hlength : (Nat.toDigits 10 d.coefficient).length ≤ 18 :=
    (Nat.length_toDigits_le_iff (by decide) (by decide)).mpr h
  have hcount : digitCount d.coefficient = (Nat.toDigits 10 d.coefficient).length ∨
      d.exponent = 0 := by
    unfold digitCount
    split
    case isTrue hc => exact .inr (hzero hc)
    case isFalse => exact .inl rfl
  unfold ofDigits
  simp only
  generalize digitCount d.coefficient = count at *
  split
  · split
    · simp only [List.length_append, Digits.zeros, List.length_replicate, List.length_singleton]
      omega
    · split
      · simp only [List.length_take, List.length_drop]
        omega
      · simp only [List.length_append, Digits.zeros, List.length_replicate, List.length_singleton]
        omega
  · simp only [List.length_take, List.length_drop]
    omega

/-- The power of ten that stands behind the mark, if there is one. -/
theorem power_ofDigits (hpos : 0 < d.coefficient) :
    (ofDigits negative d).power = 0 ∨
      ¬(-5 ≤ (ofDigits negative d).power ∧ (ofDigits negative d).power < 16) ∧
        (ofDigits negative d).power = d.exponent + digitCount d.coefficient - 1 ∧
        (ofDigits negative d).fraction.length - (ofDigits negative d).power = -d.exponent := by
  have hcount : digitCount d.coefficient = (Nat.toDigits 10 d.coefficient).length := by
    rw [digitCount, if_neg hpos.ne']
  have hlength : 0 < (Nat.toDigits 10 d.coefficient).length := Nat.length_toDigits_pos
  unfold ofDigits
  simp only
  split
  case isTrue =>
    left
    split
    · rfl
    · split <;> rfl
  case isFalse hrange =>
    right
    rw [power_mark, List.length_drop]
    omega

end Json.NumberToken

namespace Digits

open Shortest (digitCount ten_pow_digitCount_le lt_ten_pow_digitCount)

theorem value_bounds {d : Digits} (hpos : 0 < d.coefficient) :
    (10 : ℚ) ^ (d.exponent + digitCount d.coefficient - 1) ≤ d.value ∧
      d.value < 10 ^ (d.exponent + digitCount d.coefficient) := by
  have hlow : (10 ^ (digitCount d.coefficient - 1) : ℚ) ≤ d.coefficient := by
    exact_mod_cast ten_pow_digitCount_le hpos
  have hhigh : (d.coefficient : ℚ) < 10 ^ digitCount d.coefficient := by
    exact_mod_cast lt_ten_pow_digitCount d.coefficient
  have hcount : 0 < digitCount d.coefficient := by
    rw [digitCount, if_neg hpos.ne']
    exact Nat.length_toDigits_pos
  have hten : (0 : ℚ) < 10 ^ d.exponent := by positivity
  have hsplit : d.exponent + digitCount d.coefficient - 1 =
      (digitCount d.coefficient - 1 : ℕ) + d.exponent := by omega
  rw [hsplit, add_comm d.exponent, zpow_add₀ (by norm_num), zpow_add₀ (by norm_num), zpow_natCast,
    zpow_natCast]
  exact ⟨mul_le_mul_of_nonneg_right hlow hten.le, mul_lt_mul_of_pos_right hhigh hten⟩

end Digits

namespace Decimal

open Json (Number NumberToken)

/-- Few digits always make up a decimal. -/
theorem fits_of_length {t : NumberToken} (ht : t.Legal)
    (h : t.whole.length + t.fraction.length ≤ 28) : Fits t := by
  have hdigits : ∀ c ∈ t.whole ++ t.fraction, c.isDigit = true := fun c hc =>
    (List.mem_append.mp hc).elim (ht.whole_digits c) (ht.fraction_digits c)
  have hlt := (Json.within_ofDigitChars hdigits 0).2
  rw [Nat.zero_add, Nat.one_mul, List.length_append] at hlt
  refine ⟨t.digits, t.fraction.length, ?_, ?_, rfl⟩
  · calc t.digits < 10 ^ (t.whole.length + t.fraction.length) := hlt
      _ ≤ 10 ^ 28 := Nat.pow_le_pow_right (by decide) h
      _ ≤ limit := by decide
  · exact le_trans (Nat.le_add_left _ _) h

theorem abs_signedValue (negative : Bool) (q : ℚ) : |signedValue negative q| = |q| := by
  cases negative <;> simp [signedValue]

variable {x : Binary64}

theorem value_token (x : Binary64) :
    (Number.binary x).token.value = signedValue x.negative (Shortest.digits .toEven x).value := by
  rw [Number.token, NumberToken.value, NumberToken.negative_ofDigits, NumberToken.magnitude_ofDigits]
  rfl

theorem fits_token (h : (Shortest.digits .toEven x).coefficient < 10 ^ 18)
    (hzero : (Shortest.digits .toEven x).coefficient = 0 → (Shortest.digits .toEven x).exponent = 0) :
    Fits (Number.binary x).token :=
  fits_of_length (Number.legal_token _) (NumberToken.length_ofDigits_le _ h hzero)

theorem spells_token (x : Binary64) :
    (Number.binary x).token.Spells (Number.binaryChars x) := by
  have hchars : (Number.binary x).token.chars = Number.binaryChars x := Number.chars_token _
  rw [← hchars]
  exact NumberToken.spells_chars _

theorem ofText?_binaryChars_zero (hx : x.isZero = true) :
    ∃ a, ofText? (.ofList (Number.binaryChars x)) = some a ∧ a.value = 0 := by
  have hdigits := Number.digits_of_zero hx
  have htoken : (Number.binary x).token.power = 0 := by
    rw [Number.token, hdigits]
    rfl
  have hvalue : (Number.binary x).token.value = 0 := by
    rw [value_token, hdigits, Digits.value]
    simp [signedValue]
  have hfits : Fits (Number.binary x).token := by
    apply fits_token <;> simp [hdigits]
  rw [← hvalue]
  refine exists_ofText (Number.legal_token _) hfits (spells_token x) ?_ ?_ (.inl htoken.ge)
  · rw [hvalue]
    norm_num
  · rw [htoken]
    decide

/-- The text of a binary value is read as the number that it shows, or is refused. -/
theorem ofText?_binaryChars (h : 1 / 10 ^ 30 ≤ x.magnitude) :
    (∃ a, ofText? (.ofList (Number.binaryChars x)) = some a ∧
      a.value = signedValue x.negative (Shortest.digits .toEven x).value) ∨
    ofText? (.ofList (Number.binaryChars x)) = none ∧
      (2 ^ 96 ≤ (Shortest.digits .toEven x).value ∨
        (Shortest.digits .toEven x).value < 1 / 10 ^ 5 ∧
          (Shortest.digits .toEven x).exponent < -28) := by
  have hpos : 0 < x.magnitude := lt_of_lt_of_le (by norm_num) h
  have hvalue := Shortest.value_digits_pos .toEven (Shortest.isZero_eq_false hpos)
  have hcoefficient : 0 < (Shortest.digits .toEven x).coefficient := by
    refine Nat.pos_of_ne_zero fun hzero => hvalue.ne' ?_
    rw [Digits.value, hzero, Nat.cast_zero, zero_mul]
  have hfits : Fits (Number.binary x).token :=
    fits_token (Shortest.coefficient_digits_lt .toEven h) fun hzero =>
      absurd hzero hcoefficient.ne'
  have hpower := NumberToken.power_ofDigits x.negative hcoefficient
  have hwritten : NumberToken.ofDigits x.negative (Shortest.digits .toEven x) =
    (Number.binary x).token := rfl
  rw [hwritten] at hpower
  obtain ⟨hlow, hhigh⟩ := Digits.value_bounds hcoefficient
  rw [← value_token]
  cases hread : ofText? (.ofList (Number.binaryChars x)) with
  | some a =>
    exact .inl ⟨a, rfl, value_of_spelling (Number.legal_token _) hfits (spells_token x) hread⟩
  | none =>
    refine .inr ⟨rfl, ?_⟩
    by_contra hnot
    push Not at hnot
    obtain ⟨hlt, hsmall⟩ := hnot
    have htoken : |(Number.binary x).token.value| < 2 ^ 96 := by
      rwa [value_token, abs_signedValue, abs_of_pos hvalue]
    have hpower : (Number.binary x).token.power ≤ maxScale ∧
        (0 ≤ (Number.binary x).token.power ∨
          (Number.binary x).token.fraction.length - (Number.binary x).token.power ≤ maxScale) := by
      have hmax : maxScale = 28 := rfl
      rcases hpower with hzero | ⟨hrange, hexponent, hplaces⟩
      · omega
      · have hle : (Number.binary x).token.power < 29 := by
          have hten : (10 : ℚ) ^ (Number.binary x).token.power < 10 ^ (29 : ℤ) := by
            refine lt_of_le_of_lt (hexponent ▸ hlow) (hlt.trans ?_)
            norm_num
          exact (zpow_lt_zpow_iff_right₀ (by norm_num)).mp hten
        refine ⟨by omega, ?_⟩
        by_contra hnegative
        push Not at hnegative
        have htiny : (Shortest.digits .toEven x).value < 1 / 10 ^ 5 := by
          refine hhigh.trans_le ?_
          have hten : (10 : ℚ) ^ (-5 : ℤ) = 1 / 10 ^ 5 := by norm_num
          rw [← hten]
          exact zpow_le_zpow_right₀ (by norm_num) (by omega)
        have hexp := hsmall htiny
        omega
    obtain ⟨a, ha, -⟩ := exists_ofText (Number.legal_token _) hfits (spells_token x) htoken
      hpower.1 hpower.2
    rw [hread] at ha
    cases ha

end Decimal
end MarketWire
