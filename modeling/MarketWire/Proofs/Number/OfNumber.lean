import MarketWire.Proofs.Number.BinaryText
import MarketWire.Proofs.Number.OfBinary

/-!
# Decimals read from the numbers of tokens

A token that stands for a decimal is read as a binary value near it, and that by its text, or by its
value if the text is refused. Either way the decimal is off by a small part, or by less than one of the
last places that a decimal can have; only a number close to the largest decimal may be refused. If all
that the binary value has to tell apart are numbers with fifteen digits, nothing is lost.
-/
namespace MarketWire

namespace Shortest

variable {x : Binary64}

/-- The digits of a value below the limit of the mantissas do not reach it. -/
theorem value_digits_lt (tie : Tie) (hleast : 1 / 10 ^ 30 ≤ x.magnitude) (h : x.magnitude < 2 ^ 96) :
    (digits tie x).value < 2 ^ 96 := by
  have hnear := (value_digits_near tie hleast).le
  rcases lt_or_ge x.magnitude (2 ^ 95) with hlt | hge
  · linarith
  · -- The last place of such a value weighs so much that the next value is the limit at least.
    have hsignificand : (x.significand : ℚ) < 2 ^ 53 := by exact_mod_cast x.significand_lt
    have hvalue := x.magnitude_eq_zpow
    have hpower : 42 < (x.power : ℤ) - 1074 := by
      by_contra hle
      have hpow : (2 : ℚ) ^ ((x.power : ℤ) - 1074) ≤ 2 ^ (42 : ℤ) :=
        zpow_le_zpow_right₀ (by norm_num) (by omega)
      have hproduct : x.magnitude < 2 ^ 53 * 2 ^ (42 : ℤ) := by
        rw [hvalue]
        exact mul_lt_mul_of_lt_of_le_of_nonneg_of_pos hsignificand hpow (by positivity) (by norm_num)
      norm_num at hproduct hge
      linarith
    obtain ⟨j, hj⟩ : ∃ j : ℕ, (x.power : ℤ) - 1074 = (43 + j : ℕ) := ⟨x.power - 1117, by omega⟩
    have hunits : x.magnitude = (x.significand * 2 ^ j : ℕ) * 2 ^ 43 := by
      rw [hvalue, hj, zpow_natCast, pow_add]
      push_cast
      ring
    have hcount : x.significand * 2 ^ j < 2 ^ 53 := by
      have hcast : ((x.significand * 2 ^ j : ℕ) : ℚ) < 2 ^ 53 := by
        rw [hunits] at h
        linarith
      exact_mod_cast hcast
    have hlast : ((x.significand * 2 ^ j : ℕ) : ℚ) ≤ 2 ^ 53 - 1 := by
      have hle := Nat.succ_le_of_lt hcount
      have hcast : ((x.significand * 2 ^ j : ℕ) : ℚ) + 1 ≤ 2 ^ 53 := by exact_mod_cast hle
      linarith
    linarith

theorem power_lt (hleast : 1 / 10 ^ 30 ≤ x.magnitude) (h : x.magnitude < 1) : x.power < 1074 := by
  by_contra hge
  have hone : (1 : ℚ) ≤ 2 ^ ((x.power : ℤ) - 1074) := one_le_zpow₀ (by norm_num) (by omega)
  have hsignificand : (1 : ℚ) ≤ x.significand := by
    exact_mod_cast le_trans (by decide) (hidden_le_significand hleast)
  have hproduct := one_le_mul_of_one_le_of_one_le hsignificand hone
  rw [← x.magnitude_eq_zpow] at hproduct
  linarith

end Shortest

namespace Decimal

open Json (Number)

variable {x : Binary64}

/-- A binary value is read as the number that its text shows; or, if the text has too many places, as a
decimal that is off by less than the last place and a small part of the value. -/
theorem ofNumber?_binary (hleast : 995 / 1000 ≤ x.magnitude * 10 ^ maxScale) :
    ofNumber? (.binary x) = none ∧ 2 ^ 96 ≤ (Shortest.digits .toEven x).value ∨
    ∃ d, ofNumber? (.binary x) = some d ∧
      (d.value = signedValue x.negative (Shortest.digits .toEven x).value ∨
        (Shortest.digits .toEven x).exponent < -28 ∧ d.negative = x.negative ∧
          d.Approximates x) := by
  have hleast' : 1 / 10 ^ 30 ≤ x.magnitude := by
    have hmax : (10 : ℚ) ^ maxScale = 10 ^ 28 := rfl
    rw [hmax] at hleast
    linarith
  rcases ofText?_binaryChars hleast' with ⟨d, hread, hvalue⟩ | ⟨hread, hlarge | ⟨hsmall, hplaces⟩⟩
  · exact .inr ⟨d, by rw [ofNumber?, hread], .inl hvalue⟩
  · have hmagnitude : 2 ^ 96 ≤ x.magnitude := by
      by_contra hlt
      have hdigits := Shortest.value_digits_lt .toEven hleast' (not_le.mp hlt)
      exact absurd hlarge (not_le.mpr hdigits)
    exact .inl ⟨by rw [ofNumber?, hread, ofBinary?_eq_none hmagnitude], hlarge⟩
  · have hone : x.magnitude < 1 := by
      have hge := (Shortest.value_digits_near .toEven hleast').ge
      linarith
    obtain ⟨d, hd, hsign, hlast⟩ := exists_ofBinary (Shortest.power_lt hleast' hone) hleast
    exact .inr ⟨d, by rw [ofNumber?, hread, hd], .inr ⟨hplaces, hsign, hlast⟩⟩

end Decimal

namespace Json.NumberToken

variable {t : NumberToken}

/-- Whether nothing is lost if a token is sent as a number: it is written as a whole number of 64 bits,
or is short, or stands for a number below `10^-13`. -/
def KeptAsNumber (t : NumberToken) : Prop :=
  t.IsInteger ∧ -2 ^ 63 ≤ t.value ∧ t.value < 2 ^ 64 ∨ t.IsShort ∨ |t.value| < 1 / 10 ^ 13

theorem magnitude_of_units {n : ℤ} {s : ℕ} (h : t.value = n / 10 ^ s) :
    t.magnitude = (n.natAbs : ℚ) / 10 ^ s := by
  rw [← t.abs_value, h, abs_div, Nat.cast_natAbs, Int.cast_abs,
    abs_of_pos (by positivity : (0 : ℚ) < 10 ^ s)]

/-- A value that was rounded from a short token has the digits of that token. -/
theorem ReadAs.digits_of_isShort {x : Binary64} (hx : t.ReadAs x) (hpos : 0 < t.digits)
    (hleast : 1 / 10 ^ 30 ≤ x.magnitude) (hshort : t.IsShort) :
    (Shortest.digits .toEven x).value = t.magnitude ∧ -22 ≤ (Shortest.digits .toEven x).exponent := by
  have hhas := (hx.rounds hpos hshort).has
  obtain ⟨hdigits, hpoint⟩ := hshort
  rw [magnitude_eq] at hhas ⊢
  obtain ⟨hvalue, hexponent⟩ := Shortest.value_digits_of_has .toEven hleast hpos hdigits hhas
  exact ⟨hvalue, le_trans (abs_le.mp hpoint).1 hexponent⟩

end Json.NumberToken

namespace Decimal

open Json (Number NumberToken)

theorem eq_of_abs_sub_lt_one {m n : ℕ} (h : |(m : ℚ) - n| < 1) : m = n := by
  have hcast : |(m : ℤ) - n| < 1 := by exact_mod_cast h
  have hzero := Int.abs_lt_one_iff.mp hcast
  omega

theorem lastPlaces_of_value {d : Decimal} {negative : Bool} {q : ℚ} (hq : 0 < q)
    (h : d.value = signedValue negative q) :
    d.value = signedValue negative (d.lastPlaces / 10 ^ maxScale) ∧
      (d.lastPlaces : ℚ) = q * 10 ^ maxScale := by
  have habs : |d.value| = |signedValue negative q| := by rw [h]
  rw [value_eq_lastPlaces, abs_signedValue, abs_signedValue, abs_of_pos hq,
    abs_of_nonneg (by positivity)] at habs
  exact ⟨by rw [h, habs], by rw [← habs, div_mul_cancel₀ _ (by positivity)]⟩

/-- How a decimal is read from a token that stands for so many last places. -/
structure ReadFrom (d : Decimal) (t : NumberToken) (places : ℕ) : Prop where
  value : d.value = signedValue t.negative (d.lastPlaces / 10 ^ maxScale)
  short : t.IsShort → d.lastPlaces = places
  few : places < 10 ^ 15 → d.lastPlaces = places
  near : Near (1 / 2 ^ 48) d.lastPlaces places

section

variable {t : NumberToken} {x : Binary64} {places : ℕ} (hpos : 0 < t.digits)
  (hplaces : t.magnitude * 10 ^ maxScale = places)

include hpos hplaces

theorem one_le_places : (1 : ℚ) ≤ places := by
  have hpositive : (0 : ℚ) < places := by
    rw [← hplaces]
    exact mul_pos (t.magnitude_pos_iff.mpr hpos) (by positivity)
  exact_mod_cast Nat.cast_pos.mp hpositive

variable (hx : t.ReadAs x)

include hx

theorem near_places : Near (7 / 2 ^ 54) (x.magnitude * 10 ^ maxScale) places :=
  hplaces ▸ (hx.near hpos).mul_const (by positivity)

theorem le_magnitude : 1 / 10 ^ 30 ≤ x.magnitude := by
  have hone := one_le_places hpos hplaces
  have hge := (near_places hpos hplaces hx).ge
  have hmax : (10 : ℚ) ^ maxScale = 10 ^ 28 := rfl
  rw [hmax] at hge
  linarith

/-- The text of the value shows a number that is as near, and has no more places than a decimal. -/
theorem readFrom_of_text {d : Decimal}
    (h : d.value = signedValue x.negative (Shortest.digits .toEven x).value) :
    d.ReadFrom t places := by
  have hone := one_le_places hpos hplaces
  have hleast := le_magnitude hpos hplaces hx
  have hmagnitude : 0 < x.magnitude := lt_of_lt_of_le (by norm_num) hleast
  have hdigits := Shortest.value_digits_near .toEven hleast
  obtain ⟨hvalue, hunits⟩ := lastPlaces_of_value (hdigits.pos (by norm_num) hmagnitude) h
  have hnear : Near (10 / 2 ^ 54) d.lastPlaces places := by
    rw [hunits]
    have hboth := (hdigits.mul_const (by positivity)).trans (near_places hpos hplaces hx) (by norm_num)
    exact hboth.mono (by norm_num) (by linarith)
  refine ⟨hx.sign hpos ▸ hvalue, fun hshort => ?_, fun hfew => ?_, ?_⟩
  · rw [(hx.digits_of_isShort hpos hleast hshort).1, hplaces] at hunits
    exact_mod_cast hunits
  · have hfew' : (places : ℚ) < 10 ^ 15 := by exact_mod_cast hfew
    refine eq_of_abs_sub_lt_one (lt_of_le_of_lt hnear ?_)
    linarith
  · exact hnear.mono (by norm_num) (by linarith)

/-- Without the text, a short token is out of the question, and the last place decides among few. -/
theorem readFrom_of_value {d : Decimal} (hexponent : (Shortest.digits .toEven x).exponent < -28)
    (hsign : d.negative = x.negative) (h : d.Approximates x) : d.ReadFrom t places := by
  have hone := one_le_places hpos hplaces
  have hnear := near_places hpos hplaces hx
  have hle := hnear.le
  have hexact : places < 10 ^ 15 → d.lastPlaces = places := by
    intro hfew
    have hfew' : (places : ℚ) < 10 ^ 15 := by exact_mod_cast hfew
    rcases h with hlast | ⟨hwide, -⟩
    · refine eq_of_abs_sub_lt_one (lt_of_le_of_lt (abs_sub_le _ (x.magnitude * 10 ^ maxScale) _) ?_)
      have herror := add_le_add hlast hnear
      linarith
    · exfalso
      linarith
  refine ⟨?_, fun hshort => ?_, hexact, ?_⟩
  · rw [← hx.sign hpos, ← hsign]
    exact value_eq_lastPlaces d
  · have hbound := (hx.digits_of_isShort hpos (le_magnitude hpos hplaces hx) hshort).2
    omega
  · rcases Nat.lt_or_ge places (10 ^ 15) with hfew | hmany
    · rw [hexact hfew]
      exact .refl (by norm_num) (by linarith)
    · have hmany' : (10 ^ 15 : ℚ) ≤ places := by exact_mod_cast hmany
      rcases h with hlast | ⟨-, hwide⟩
      · refine (abs_sub_le _ (x.magnitude * 10 ^ maxScale) _).trans ?_
        have herror := add_le_add hlast hnear
        linarith
      · exact (hwide.trans hnear (by norm_num)).mono (by norm_num) (by linarith)

/-- A token of a decimal that was read as a binary value. -/
theorem exists_ofNumber_binary (hlt : t.magnitude < 2 ^ 96) :
    ofNumber? (.binary x) = none ∧ 79228162514264 * 10 ^ 15 ≤ t.magnitude ∧ ¬t.IsShort ∨
      ∃ d, ofNumber? (.binary x) = some d ∧ d.ReadFrom t places := by
  have hone := one_le_places hpos hplaces
  have hleast := le_magnitude hpos hplaces hx
  have hge := (near_places hpos hplaces hx).ge
  rcases ofNumber?_binary (x := x) (by linarith) with
    ⟨hnone, hlarge⟩ | ⟨d, hd, hvalue | ⟨hexponent, hsign, hlast⟩⟩
  · refine .inl ⟨hnone, ?_, fun hshort => ?_⟩
    · have hdigits := (Shortest.value_digits_near .toEven hleast).le
      have hmagnitude := (hx.near hpos).le
      linarith
    · rw [(hx.digits_of_isShort hpos hleast hshort).1] at hlarge
      exact absurd hlt (not_lt.mpr hlarge)
  · exact .inr ⟨d, hd, readFrom_of_text hpos hplaces hx hvalue⟩
  · exact .inr ⟨d, hd, readFrom_of_value hpos hplaces hx hexponent hsign hlast⟩

end

/-! ## Tokens -/

theorem exists_ofInt {i : ℤ} (h : -0x8000000000000000 ≤ i ∧ i < 0x10000000000000000) :
    ∃ d, ofInt? i = some d ∧ d.value = i := by
  have hfits : i.natAbs < limit := by
    unfold limit
    omega
  obtain ⟨d, hd⟩ := exists_make (i < 0) hfits (Nat.zero_le maxScale)
  obtain ⟨hsign, hmantissa, hscale⟩ := make?_eq_some_iff.mp hd
  refine ⟨d, hd, ?_⟩
  rw [value_eq, hsign, hmantissa, hscale, pow_zero, div_one, signedValue, Nat.cast_natAbs,
    Int.cast_abs]
  rcases Int.lt_or_le i 0 with hneg | hpos
  · have hneg' : (i : ℚ) < 0 := by exact_mod_cast hneg
    rw [if_pos (decide_eq_true hneg), abs_of_neg hneg', neg_neg]
  · have hpos' : (0 : ℚ) ≤ i := by exact_mod_cast hpos
    rw [if_neg (by simpa using hpos), abs_of_nonneg hpos']

theorem signedValue_sub (negative : Bool) (p q : ℚ) :
    signedValue negative (p - q) = signedValue negative p - signedValue negative q := by
  cases negative with
  | true => exact neg_sub' p q
  | false => rfl

theorem abs_units_lt {n : ℤ} (hn : |n| < 2 ^ 96) (s : ℕ) : |(n : ℚ) / 10 ^ s| < 2 ^ 96 := by
  have hunits : |(n : ℚ)| < 2 ^ 96 := by exact_mod_cast hn
  have hscale : (1 : ℚ) ≤ 10 ^ s := one_le_pow₀ (by norm_num)
  rw [abs_div, abs_of_pos (by positivity : (0 : ℚ) < 10 ^ s)]
  exact (div_le_self (abs_nonneg _) hscale).trans_lt hunits

section

variable {t : NumberToken} {places : ℕ} (hplaces : t.magnitude * 10 ^ maxScale = places)

include hplaces

theorem value_of_places : t.value = signedValue t.negative (places / 10 ^ maxScale) := by
  rw [← hplaces, mul_div_cancel_right₀ _ (by positivity)]
  rfl

theorem inRange_of_places (hlt : t.magnitude < 2 ^ 96) (hpower : t.digits = 0 ∨ |t.power| < 2 ^ 31) :
    t.InRange := by
  rcases Nat.eq_zero_or_pos t.digits with hzero | hpos
  · exact .inl hzero
  · refine .inr ⟨?_, hlt.le, hpower.resolve_left hpos.ne'⟩
    have hone := one_le_places hpos hplaces
    rw [← hplaces] at hone
    rw [div_le_iff₀ (by norm_num)]
    exact hone

theorem isShort_or_few (hkept : t.KeptAsNumber) (hpos : 0 < t.digits) (hfits : ¬t.FitsInteger) :
    t.IsShort ∨ places < 10 ^ 15 := by
  rcases hkept with ⟨hinteger, hlow, hhigh⟩ | hshort | hsmall
  · exact absurd (NumberToken.fitsInteger_of_value hinteger hpos hlow hhigh) hfits
  · exact .inl hshort
  · right
    rw [t.abs_value] at hsmall
    have hmax : (10 : ℚ) ^ maxScale = 10 ^ 28 := rfl
    have hfew : (places : ℚ) < 10 ^ 15 := by
      rw [← hplaces, hmax]
      linarith
    exact_mod_cast hfew

theorem ReadFrom.near_value {d : Decimal} (h : d.ReadFrom t places) :
    |d.value - t.value| ≤ 1 / 2 ^ 48 * |t.value| := by
  have hscale : (0 : ℚ) < 10 ^ maxScale := by positivity
  have hnonneg : (0 : ℚ) ≤ places / 10 ^ maxScale := by positivity
  rw [h.value, value_of_places hplaces, ← signedValue_sub, abs_signedValue, abs_signedValue, ← sub_div,
    abs_div, abs_of_pos hscale, abs_of_nonneg hnonneg, ← mul_div_assoc]
  exact div_le_div_of_nonneg_right h.near hscale.le

end

/-- A token of a decimal is read as that decimal, or as one near it; or it is refused if it stands for
a number that is close to the largest. -/
theorem exists_ofToken {t : NumberToken} (ht : t.Legal) {n : ℤ} {s : ℕ} (hn : |n| < 2 ^ 96)
    (hs : s ≤ maxScale) (hvalue : t.value = n / 10 ^ s) (hpower : t.digits = 0 ∨ |t.power| < 2 ^ 31) :
    ∃ m, Number.ofToken? t = some m ∧
      (ofNumber? m = none ∧ 79228162514264 * 10 ^ 15 ≤ |t.value| ∧ ¬t.KeptAsNumber ∨
        ∃ d, ofNumber? m = some d ∧ (t.KeptAsNumber → d.value = t.value) ∧
          |d.value - t.value| ≤ 1 / 2 ^ 48 * |t.value|) := by
  have hplaces : t.magnitude * 10 ^ maxScale = (n.natAbs * 10 ^ (maxScale - s) : ℕ) := by
    rw [cast_lastPlaces hs, NumberToken.magnitude_of_units hvalue]
  have hlt : t.magnitude < 2 ^ 96 := by
    rw [← t.abs_value, hvalue]
    exact abs_units_lt hn s
  generalize n.natAbs * 10 ^ (maxScale - s) = places at *
  rcases NumberToken.exists_ofToken ht (inRange_of_places hplaces hlt hpower) with
    ⟨i, hi, hm, hwhole⟩ | ⟨hfits, x, hm, hx⟩
  · obtain ⟨d, hd, hvalue⟩ := exists_ofInt hi
    refine ⟨_, hm, .inr ⟨d, hd, fun _ => hvalue.trans hwhole.symm, ?_⟩⟩
    rw [hvalue, hwhole, sub_self, abs_zero]
    positivity
  · refine ⟨_, hm, ?_⟩
    rcases Nat.eq_zero_or_pos t.digits with hzero | hpos
    · obtain ⟨d, hd, hvalue⟩ := ofText?_binaryChars_zero (hx.zero hzero)
      have hzero' : t.value = 0 := by
        rw [← abs_eq_zero, t.abs_value, NumberToken.magnitude_eq, hzero, Nat.cast_zero, zero_mul]
      refine .inr ⟨d, by rw [ofNumber?, hd], fun _ => hvalue.trans hzero'.symm, ?_⟩
      simp [hvalue, hzero']
    · rcases exists_ofNumber_binary hpos hplaces hx hlt with ⟨hnone, hlarge, hlong⟩ | ⟨d, hd, hread⟩
      · rw [t.abs_value]
        refine .inl ⟨hnone, hlarge, fun hkept => ?_⟩
        have hfew := (isShort_or_few hplaces hkept hpos hfits).resolve_left hlong
        have hfew' : t.magnitude * 10 ^ maxScale < 10 ^ 15 := by
          rw [hplaces]
          exact_mod_cast hfew
        have hone : (1 : ℚ) ≤ 10 ^ maxScale := one_le_pow₀ (by norm_num)
        have hproduct := le_mul_of_one_le_right (by linarith : 0 ≤ t.magnitude) hone
        linarith
      · refine .inr ⟨d, hd, fun hkept => ?_, hread.near_value hplaces⟩
        rw [hread.value, value_of_places hplaces,
          (isShort_or_few hplaces hkept hpos hfits).elim hread.short hread.few]

end Decimal
end MarketWire
