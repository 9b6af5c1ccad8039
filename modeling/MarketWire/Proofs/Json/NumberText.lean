import MarketWire.Proofs.Json.Numeral
import MarketWire.Proofs.Number.Shortest

/-!
# The token of a number

Every number is written as one legal token. The token of a whole number has neither a point nor an
exponent, that of a binary value has one of them; it stands for the number that the digits of the
value stand for. So different numbers have different tokens.
-/
namespace MarketWire
namespace Json

open Shortest (digitCount ten_zpow_toNat)

namespace NumberToken

/-- The token that digits are written as. -/
def ofDigits (negative : Bool) (d : Digits) : NumberToken :=
  let ds := Nat.toDigits 10 d.coefficient
  let e := d.exponent + (digitCount d.coefficient : Int) - 1
  if -5 ≤ e ∧ e < 16 then
    if 0 ≤ d.exponent then ⟨negative, ds ++ Digits.zeros d.exponent.toNat, ['0'], none⟩
    else
      let places := (-d.exponent).toNat
      if places < ds.length then
        ⟨negative, ds.take (ds.length - places), ds.drop (ds.length - places), none⟩
      else ⟨negative, ['0'], Digits.zeros (places - ds.length) ++ ds, none⟩
  else
    let e := d.exponent + (ds.length - 1 : Nat)
    ⟨negative, ds.take 1, ds.drop 1, some (decide (e < 0), Nat.toDigits 10 e.natAbs)⟩

/-- The exponent that stands behind the mark. -/
def power (t : NumberToken) : Int :=
  match t.exponent with
  | none => 0
  | some (true, ds) => -Nat.ofDigitChars 10 ds 0
  | some (false, ds) => Nat.ofDigitChars 10 ds 0

/-- The number that a token stands for, without its sign. -/
def magnitude (t : NumberToken) : ℚ :=
  Nat.ofDigitChars 10 (t.whole ++ t.fraction) 0 * 10 ^ (t.power - t.fraction.length)

theorem fractionChars_of_ne {ds : List Char} (h : ds ≠ []) : fractionChars ds = '.' :: ds := by
  cases ds with
  | nil => exact absurd rfl h
  | cons d ds => rfl

theorem isDigit_of_mem_zeros {n : Nat} : ∀ c ∈ Digits.zeros n, c.isDigit = true := by
  intro c hc
  rw [List.eq_of_mem_replicate hc]
  rfl

theorem drop_one_eq_nil {ds : List Char} (h : ds ≠ []) :
    ds.drop 1 = [] ↔ ds.length = 1 := by
  cases ds with
  | nil => exact absurd rfl h
  | cons d ds => simp

variable (negative : Bool) (d : Digits)

theorem chars_ofDigits :
    (ofDigits negative d).chars = Binary64.signed negative
      (if -5 ≤ d.exponent + (digitCount d.coefficient : Int) - 1 ∧
          d.exponent + (digitCount d.coefficient : Int) - 1 < 16 then
        if 0 ≤ d.exponent then d.plain ++ ['.', '0'] else d.plain
      else d.scientific) := by
  have hne : Nat.toDigits 10 d.coefficient ≠ [] := Nat.toDigits_ne_nil
  unfold ofDigits Digits.plain Digits.scientific
  simp only
  split
  case isTrue =>
    split
    case isTrue => simp [chars, unsignedChars, fractionChars, exponentChars]
    case isFalse =>
      split
      case isTrue hplaces =>
        have hdrop : (Nat.toDigits 10 d.coefficient).drop
            ((Nat.toDigits 10 d.coefficient).length - (-d.exponent).toNat) ≠ [] := by
          rw [ne_eq, List.drop_eq_nil_iff]
          omega
        simp [chars, unsignedChars, exponentChars, fractionChars_of_ne hdrop]
      case isFalse =>
        have hdigits : Digits.zeros ((-d.exponent).toNat -
            (Nat.toDigits 10 d.coefficient).length) ++ Nat.toDigits 10 d.coefficient ≠ [] := by
          simp [hne]
        simp [chars, unsignedChars, exponentChars, fractionChars_of_ne hdigits]
  case isFalse =>
    have hmark : ∀ e : Int, (if decide (e < 0) = true then '-' else '+') =
        if e < 0 then '-' else '+' := fun e => by simp
    have hfraction : fractionChars ((Nat.toDigits 10 d.coefficient).drop 1) =
        if (Nat.toDigits 10 d.coefficient).length = 1 then []
        else '.' :: (Nat.toDigits 10 d.coefficient).drop 1 := by
      split
      case isTrue hone => rw [(drop_one_eq_nil hne).mpr hone, fractionChars]
      case isFalse hone =>
        exact fractionChars_of_ne fun hdrop => hone ((drop_one_eq_nil hne).mp hdrop)
    simp only [chars, unsignedChars, exponentChars, hmark, hfraction, List.append_assoc]

theorem head?_digits {n : Nat} (h : (Nat.toDigits 10 n).head? = some '0') : n = 0 :=
  (Nat.eq_zero_or_pos n).resolve_right fun hn => head?_digits_ne hn h

/-- Neither digits before the point nor those before an exponent start with a spare zero. -/
theorem legal_ofDigits (h : d.coefficient = 0 → d.exponent = 0) : (ofDigits negative d).Legal := by
  have hne : Nat.toDigits 10 d.coefficient ≠ [] := Nat.toDigits_ne_nil
  have hds := isDigit_of_mem_digits (n := d.coefficient)
  unfold ofDigits
  simp only
  split
  case isTrue =>
    split
    case isTrue =>
      refine ⟨fun c hc => ?_, by simp [hne], fun hzero => ?_, by simp, by simp⟩
      · exact (List.mem_append.mp hc).elim (hds c) (isDigit_of_mem_zeros c)
      · rw [List.head?_append_of_ne_nil _ hne] at hzero
        simp [head?_digits hzero, h (head?_digits hzero), Digits.zeros]
    case isFalse hexp =>
      split
      case isTrue hplaces =>
        refine ⟨fun c hc => hds c (List.mem_of_mem_take hc), ?_, fun hzero => ?_,
          fun c hc => hds c (List.mem_of_mem_drop hc), by simp⟩
        · rw [ne_eq, List.take_eq_nil_iff, or_iff_left hne]
          omega
        · rw [List.head?_take, if_neg (by omega)] at hzero
          have hexp0 := h (head?_digits hzero)
          omega
      case isFalse =>
        refine ⟨by simp, by simp, by simp, fun c hc => ?_, by simp⟩
        exact (List.mem_append.mp hc).elim (isDigit_of_mem_zeros c) (hds c)
  case isFalse =>
    have hlen : 0 < (Nat.toDigits 10 d.coefficient).length := Nat.length_toDigits_pos
    refine ⟨fun c hc => hds c (List.mem_of_mem_take hc), by simp [hne], fun _ => ?_,
      fun c hc => hds c (List.mem_of_mem_drop hc), ?_⟩
    · rw [List.length_take]
      omega
    · rintro _ ⟨⟩
      exact ⟨Nat.toDigits_ne_nil, isDigit_of_mem_digits⟩

theorem negative_ofDigits : (ofDigits negative d).negative = negative := by
  unfold ofDigits
  simp only
  split
  · split
    · rfl
    · split <;> rfl
  · rfl

theorem isInteger_ofInt (i : Int) : (ofInt i).IsInteger := ⟨rfl, rfl⟩

theorem not_isInteger_ofDigits : ¬(ofDigits negative d).IsInteger := by
  have hne : Nat.toDigits 10 d.coefficient ≠ [] := Nat.toDigits_ne_nil
  unfold ofDigits
  simp only
  split
  · split
    · simp [IsInteger]
    · split
      · rintro ⟨hdrop, -⟩
        rw [List.drop_eq_nil_iff] at hdrop
        omega
      · simp [IsInteger, hne]
  · simp [IsInteger]

/-! ## The number of a token -/

theorem ofDigitChars_append_zeros (cs : List Char) (n : Nat) :
    Nat.ofDigitChars 10 (cs ++ Digits.zeros n) 0 = Nat.ofDigitChars 10 cs 0 * 10 ^ n := by
  rw [Nat.ofDigitChars_append, Digits.zeros, Nat.ofDigitChars_replicate_zero, mul_comm]

theorem ofDigitChars_zeros_append (cs : List Char) (n : Nat) :
    Nat.ofDigitChars 10 (Digits.zeros n ++ cs) 0 = Nat.ofDigitChars 10 cs 0 := by
  rw [Nat.ofDigitChars_append, Digits.zeros, Nat.ofDigitChars_replicate_zero, mul_zero]

theorem power_mark (negative : Bool) (whole fraction : List Char) (e : Int) :
    power ⟨negative, whole, fraction, some (decide (e < 0), Nat.toDigits 10 e.natAbs)⟩ = e := by
  by_cases he : e < 0 <;>
    simp only [power, he, decide_true, decide_false, Nat.ofDigitChars_ten_toDigits] <;> omega

theorem magnitude_ofDigits : (ofDigits negative d).magnitude = d.value := by
  have hlen : 0 < (Nat.toDigits 10 d.coefficient).length := Nat.length_toDigits_pos
  unfold ofDigits
  simp only
  split
  case isTrue =>
    split
    case isTrue hexp =>
      have hzero : ['0'] = Digits.zeros 1 := rfl
      have htenth : (10 : ℚ) ^ 1 * 10 ^ (-1 : Int) = 1 := by norm_num
      simp only [magnitude, power, List.length_singleton]
      rw [hzero, ofDigitChars_append_zeros, ofDigitChars_append_zeros,
        Nat.ofDigitChars_ten_toDigits, Nat.cast_mul, Nat.cast_mul, Nat.cast_pow, Nat.cast_pow,
        Nat.cast_ofNat, ten_zpow_toNat hexp, Nat.cast_one, zero_sub, mul_assoc, htenth, mul_one,
        Digits.value]
    case isFalse hexp =>
      split
      case isTrue hplaces =>
        simp only [magnitude, power, List.take_append_drop, Nat.ofDigitChars_ten_toDigits,
          List.length_drop, Digits.value]
        congr 2
        omega
      case isFalse =>
        have hzero : ['0'] = Digits.zeros 1 := rfl
        simp only [magnitude, power]
        rw [hzero, ofDigitChars_zeros_append, ofDigitChars_zeros_append,
          Nat.ofDigitChars_ten_toDigits, Digits.value, Digits.zeros, List.length_append,
          List.length_replicate]
        congr 2
        omega
  case isFalse =>
    simp only [magnitude, power_mark, List.take_append_drop, Nat.ofDigitChars_ten_toDigits,
      List.length_drop, Digits.value]
    congr 2
    omega

end NumberToken

namespace Number

/-- The token that a number is written as. -/
def token : Number → NumberToken
  | .whole i _ => .ofInt i
  | .binary x => .ofDigits x.negative (Shortest.digits .toEven x)

theorem digits_of_zero {x : Binary64} (hx : x.isZero = true) :
    Shortest.digits .toEven x = ⟨0, 0⟩ := by
  simp [Shortest.digits, hx]

theorem chars_token (n : Number) : n.token.chars = n.chars := by
  cases n with
  | whole i h => exact NumberToken.chars_ofInt i
  | binary x =>
    rw [token, NumberToken.chars_ofDigits, chars, binaryChars]
    cases hx : x.isZero with
    | true =>
      rw [digits_of_zero hx]
      rfl
    | false => simp

theorem legal_token (n : Number) : n.token.Legal := by
  cases n with
  | whole i h => exact NumberToken.legal_ofInt i
  | binary x =>
    refine NumberToken.legal_ofDigits _ _ fun hzero => ?_
    cases hx : x.isZero with
    | true => rw [digits_of_zero hx]
    | false =>
      have hpos := Shortest.value_digits_pos .toEven hx
      rw [Digits.value, hzero, Nat.cast_zero, zero_mul] at hpos
      exact absurd hpos (lt_irrefl 0)

theorem token_injective {m n : Number} (h : m.token = n.token) : m = n := by
  -- A binary value is never written like a whole number, even if it is one.
  cases m with
  | whole i hi =>
    cases n with
    | whole j hj =>
      have hread := ofToken?_ofInt i hi
      have htoken : NumberToken.ofInt i = NumberToken.ofInt j := h
      rw [htoken, ofToken?_ofInt j hj] at hread
      exact (Option.some.inj hread).symm
    | binary y =>
      have hwhole : (token (.binary y)).IsInteger := by
        rw [← h]
        exact NumberToken.isInteger_ofInt i
      exact absurd hwhole (NumberToken.not_isInteger_ofDigits _ _)
  | binary x =>
    cases n with
    | whole j hj =>
      have hwhole : (token (.binary x)).IsInteger := by
        rw [h]
        exact NumberToken.isInteger_ofInt j
      exact absurd hwhole (NumberToken.not_isInteger_ofDigits _ _)
    | binary y =>
      have hsign : x.negative = y.negative := by
        have hneg := congrArg NumberToken.negative h
        simpa [token, NumberToken.negative_ofDigits] using hneg
      have hvalue := congrArg NumberToken.magnitude h
      simp only [token, NumberToken.magnitude_ofDigits] at hvalue
      rw [Shortest.eq_of_value_digits .toEven hsign hvalue]

end Number
end Json
end MarketWire
