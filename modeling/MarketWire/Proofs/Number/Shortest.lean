import Mathlib.Algebra.Order.Field.Power
import Mathlib.Tactic.Linarith
import Mathlib.Tactic.Ring
import Mathlib.Tactic.Positivity
import MarketWire.Number.Shortest

/-!
# Digits that identify a value

The reals that round to a binary64 value form its interval, and the intervals of different magnitudes
have no point in common. A decimal grid finer than the interval is wide has a point in it, next to the
value; seventeen digits always give such a grid. So the digits that are found stand for a point of the
interval, and no other value has the same ones.
-/
namespace MarketWire

/-- The number that digits stand for. -/
def Digits.value (d : Digits) : ℚ := d.coefficient * 10 ^ d.exponent

namespace Shortest

/-- Whether a number lies in the interval. -/
def Interval.Has (i : Interval) (q : ℚ) : Prop :=
  if i.closed then i.low ≤ q * denominator ∧ q * denominator ≤ i.high
  else i.low < q * denominator ∧ q * denominator < i.high

/-! ## Grids -/

/-- What the bounds of an interval are multiplied by to be compared on the grid `10^k`. -/
def up (k : Int) : Nat := if k < 0 then Nat.pow 10 (-k).toNat else 1

/-- What the points of the grid `10^k` are multiplied by. -/
def down (k : Int) : Nat := if k < 0 then denominator else denominator * Nat.pow 10 k.toNat

theorem up_pos (k : Int) : 0 < up k := by
  unfold up
  split
  · exact Nat.pow_pos (by decide)
  · decide

theorem denominator_pos : 0 < denominator := by decide +kernel

theorem down_pos (k : Int) : 0 < down k := by
  unfold down
  split
  · exact denominator_pos
  · exact Nat.mul_pos denominator_pos (Nat.pow_pos (by decide))

theorem ten_zpow_toNat {k : Int} (h : 0 ≤ k) : (10 : ℚ) ^ k.toNat = 10 ^ k := by
  rw [← zpow_natCast, Int.toNat_of_nonneg h]

theorem cast_down (k : Int) : (down k : ℚ) = up k * (10 ^ k * denominator) := by
  unfold down up
  split
  case isTrue hk =>
    have hneg : (10 : ℚ) ^ (-k).toNat * 10 ^ k = 1 := by
      rw [ten_zpow_toNat (by omega), ← zpow_add₀ (by norm_num), neg_add_cancel, zpow_zero]
    rw [Nat.pow_eq, Nat.cast_pow, Nat.cast_ofNat, ← mul_assoc, hneg, one_mul]
  case isFalse hk =>
    rw [Nat.pow_eq, Nat.cast_mul, Nat.cast_pow, Nat.cast_ofNat, ten_zpow_toNat (by omega),
      Nat.cast_one, one_mul, mul_comm]

theorem mul_up_le_iff (a c : Nat) (k : Int) :
    a * up k ≤ c * down k ↔ (a : ℚ) ≤ c * 10 ^ k * denominator := by
  have hup : (0 : ℚ) < up k := by exact_mod_cast up_pos k
  rw [← Nat.cast_le (α := ℚ), Nat.cast_mul, Nat.cast_mul, cast_down, mul_left_comm, mul_comm,
    mul_le_mul_iff_right₀ hup, mul_assoc]

theorem le_mul_up_iff (a c : Nat) (k : Int) :
    c * down k ≤ a * up k ↔ c * 10 ^ k * denominator ≤ (a : ℚ) := by
  have hup : (0 : ℚ) < up k := by exact_mod_cast up_pos k
  rw [← Nat.cast_le (α := ℚ), Nat.cast_mul, Nat.cast_mul, cast_down, mul_left_comm,
    mul_comm (a : ℚ), mul_le_mul_iff_right₀ hup, mul_assoc]

theorem holds_iff (i : Interval) (k : Int) (c : Nat) :
    i.holds (up k) (down k) c = true ↔ i.Has (c * 10 ^ k) := by
  unfold Interval.holds Interval.Has
  split
  · simp only [Bool.and_eq_true, decide_eq_true_eq, mul_up_le_iff, le_mul_up_iff]
  · simp only [Bool.and_eq_true, decide_eq_true_eq, ← not_le, mul_up_le_iff, le_mul_up_iff]

theorem onGrid_eq (i : Interval) (tie : Tie) (k : Int) :
    i.onGrid tie k =
      let c := i.mid * up k / down k
      match i.holds (up k) (down k) c, i.holds (up k) (down k) (c + 1) with
      | true, true =>
        let below := i.mid * up k - c * down k
        let above := (c + 1) * down k - i.mid * up k
        if below < above then some c
        else if above < below then some (c + 1)
        else match tie with
          | .up => some (c + 1)
          | .toEven => some (c + c % 2)
      | true, false => some c
      | false, true => some (c + 1)
      | false, false => none := rfl

theorem has_of_onGrid {i : Interval} {tie : Tie} {k : Int} {c : Nat}
    (h : i.onGrid tie k = some c) : i.Has (c * 10 ^ k) := by
  rw [← holds_iff]
  rw [onGrid_eq] at h
  simp only at h
  split at h
  case h_1 hbelow habove =>
    have heven : ∀ n : Nat, n + n % 2 = n ∨ n + n % 2 = n + 1 := fun n => by omega
    split at h
    · exact Option.some.inj h ▸ hbelow
    · split at h
      · exact Option.some.inj h ▸ habove
      · split at h
        · exact Option.some.inj h ▸ habove
        · rw [← Option.some.inj h]
          rcases heven (i.mid * up k / down k) with he | he <;> rw [he] <;> assumption
  case h_2 hbelow _ => exact Option.some.inj h ▸ hbelow
  case h_3 _ habove => exact Option.some.inj h ▸ habove
  case h_4 => cases h

/-- A grid finer than the interval is wide has one of the two neighbours of the value in it. -/
theorem exists_onGrid {i : Interval} (tie : Tie) {k : Int} (hlow : i.low ≤ i.mid)
    (hhigh : i.mid < i.high) (hfine : down k < (i.high - i.low) * up k) :
    ∃ c, i.onGrid tie k = some c := by
  rw [onGrid_eq]
  simp only
  split
  case h_1 =>
    split
    · exact ⟨_, rfl⟩
    · split
      · exact ⟨_, rfl⟩
      · split <;> exact ⟨_, rfl⟩
  case h_2 => exact ⟨_, rfl⟩
  case h_3 => exact ⟨_, rfl⟩
  case h_4 hbelow habove =>
    exfalso
    have hc := Nat.div_mul_le_self (i.mid * up k) (down k)
    have hnext : i.mid * up k < (i.mid * up k / down k + 1) * down k := by
      rw [Nat.add_one_mul]
      exact Nat.lt_div_mul_add (down_pos k)
    have hmid : i.mid * up k < i.high * up k := Nat.mul_lt_mul_of_pos_right hhigh (up_pos k)
    have hlow' : i.low * up k ≤ i.mid * up k := Nat.mul_le_mul_right _ hlow
    generalize i.mid * up k / down k = c at *
    rw [Nat.add_one_mul] at hnext
    rw [Nat.sub_mul] at hfine
    unfold Interval.holds at hbelow habove
    split at hbelow <;>
      simp_all only [if_true, if_false, Bool.and_eq_false_iff, decide_eq_false_iff_not,
        Nat.add_one_mul, Bool.false_eq_true] <;> omega

theorem exists_search {i : Interval} (tie : Tie) {n : Nat} {k : Int}
    (h : ∃ c, i.onGrid tie (k - n) = some c) :
    ∃ c k', i.onGrid tie k' = some c ∧ search i tie (n + 1) k = dropZeros 20 c k' := by
  -- The grids get finer until one has a point; the last of them has one.
  induction n generalizing k with
  | zero =>
    obtain ⟨c, hc⟩ := h
    rw [Int.natCast_zero, Int.sub_zero] at hc
    exact ⟨c, k, hc, by rw [search, hc]⟩
  | succ n ih =>
    rw [search]
    cases hk : i.onGrid tie k with
    | some c => exact ⟨c, k, hk, rfl⟩
    | none =>
      refine ih ?_
      obtain ⟨c, hc⟩ := h
      refine ⟨c, ?_⟩
      rw [← hc]
      congr 1
      omega

theorem value_dropZeros (n c : Nat) (k : Int) : (dropZeros n c k).value = c * 10 ^ k := by
  induction n generalizing c k with
  | zero => rfl
  | succ n ih =>
    rw [dropZeros]
    split
    case isTrue hc =>
      have hten : (c : ℚ) = (c / 10 : Nat) * 10 := by
        exact_mod_cast (Nat.div_mul_cancel (Nat.dvd_of_mod_eq_zero hc)).symm
      rw [ih, zpow_add_one₀ (by norm_num), hten, mul_assoc, mul_comm (10 : ℚ)]
    case isFalse => rfl

/-! ## The leading digit -/

theorem ten_pow_digitCount_le {n : Nat} (h : 0 < n) : 10 ^ (digitCount n - 1) ≤ n := by
  rw [digitCount, if_neg (by omega)]
  rcases Nat.eq_zero_or_pos ((Nat.toDigits 10 n).length - 1) with hlen | hlen
  · rw [hlen]
    exact h
  · by_contra hlt
    have hle := (Nat.length_toDigits_le_iff (by decide) hlen).mpr (Nat.lt_of_not_le hlt)
    omega

theorem lt_ten_pow_digitCount (n : Nat) : n < 10 ^ digitCount n := by
  unfold digitCount
  split
  case isTrue h => simp [h]
  case isFalse => exact (Nat.length_toDigits_le_iff (by decide) Nat.length_toDigits_pos).mp le_rfl

/-- The leading digit does not weigh more than the ratio. -/
theorem ten_zpow_leading_le {a b : Nat} (ha : 0 < a) (hb : 0 < b) :
    (10 : ℚ) ^ leading a b * b ≤ a := by
  unfold leading
  split
  case isTrue hle =>
    have hq : 0 < a / b := Nat.div_pos hle hb
    have hcount : 0 < digitCount (a / b) := by
      rw [digitCount, if_neg (by omega)]
      exact Nat.length_toDigits_pos
    have hpow : 10 ^ (digitCount (a / b) - 1) * b ≤ a :=
      (Nat.mul_le_mul_right b (ten_pow_digitCount_le hq)).trans (Nat.div_mul_le_self a b)
    have hexp : ((digitCount (a / b) : Int) - 1) = (digitCount (a / b) - 1 : Nat) := by omega
    rw [hexp, zpow_natCast]
    exact_mod_cast hpow
  case isFalse hlt =>
    have hpow : b ≤ a * 10 ^ digitCount ((b - 1) / a) := by
      have hq := Nat.lt_mul_of_div_lt (lt_ten_pow_digitCount ((b - 1) / a)) ha
      rw [Nat.mul_comm]
      omega
    rw [zpow_neg, zpow_natCast, inv_mul_le_iff₀ (by positivity), mul_comm]
    exact_mod_cast hpow

/-! ## Intervals of values -/

theorem significand_pos {x : Binary64} (hx : x.isZero = false) : 0 < x.significand := by
  simpa [Binary64.isZero, Nat.pos_iff_ne_zero] using hx

theorem Interval.of_bounds {x : Binary64} (hx : x.isZero = false) :
    0 < (Interval.of x).low ∧ (Interval.of x).low ≤ (Interval.of x).mid ∧
      (Interval.of x).mid < (Interval.of x).high := by
  have hm := significand_pos hx
  have hpow : 0 < Nat.pow 2 x.power := Nat.pow_pos (by decide)
  refine ⟨Nat.mul_pos ?_ hpow, Nat.mul_le_mul_right _ (Nat.sub_le _ _),
    Nat.mul_lt_mul_of_pos_right (by omega) hpow⟩
  split <;> omega

/-- The value has at most sixteen digits to the width of its interval. -/
theorem Interval.mid_lt {x : Binary64} :
    (Interval.of x).mid < ((Interval.of x).high - (Interval.of x).low) * 10 ^ 16 := by
  have hpow : 0 < Nat.pow 2 x.power := Nat.pow_pos (by decide)
  have hlt := x.significand_lt
  unfold Interval.of
  simp only [← Nat.sub_mul]
  rw [Nat.mul_right_comm (4 * x.significand + 2 - _)]
  refine Nat.mul_lt_mul_of_pos_right ?_ hpow
  unfold Binary64.limit at hlt
  split
  case isTrue h =>
    rw [h.1]
    decide
  case isFalse => omega

/-- The sixteenth grid below that of the leading digit is finer than the interval is wide. -/
theorem Interval.down_lt {x : Binary64} (hx : x.isZero = false) :
    down (leading (Interval.of x).mid denominator - 16) <
      ((Interval.of x).high - (Interval.of x).low) *
        up (leading (Interval.of x).mid denominator - 16) := by
  have hmid : 0 < (Interval.of x).mid :=
    (Interval.of_bounds hx).1.trans_le (Interval.of_bounds hx).2.1
  have hleading := ten_zpow_leading_le hmid denominator_pos
  have hwidth : ((Interval.of x).mid : ℚ) <
      ((Interval.of x).high - (Interval.of x).low : Nat) * 10 ^ 16 := by
    exact_mod_cast Interval.mid_lt
  generalize leading (Interval.of x).mid denominator = k at *
  have hup : (0 : ℚ) < up (k - 16) := by exact_mod_cast up_pos (k - 16)
  have hsplit : (10 : ℚ) ^ k = 10 ^ (k - 16) * 10 ^ 16 := by
    rw [← zpow_natCast, ← zpow_add₀ (by norm_num)]
    congr 1
    omega
  rw [← Nat.cast_lt (α := ℚ), cast_down, Nat.cast_mul, mul_comm _ (up (k - 16) : ℚ)]
  refine mul_lt_mul_of_pos_left ?_ hup
  rw [hsplit, mul_right_comm] at hleading
  exact lt_of_mul_lt_mul_right (hleading.trans_lt hwidth) (by norm_num)

/-- The digits of a value stand for a number in its interval. -/
theorem has_digits (tie : Tie) {x : Binary64} (hx : x.isZero = false) :
    (Interval.of x).Has (digits tie x).value := by
  obtain ⟨-, hlow, hhigh⟩ := Interval.of_bounds hx
  have hgrid := exists_onGrid tie hlow hhigh (Interval.down_lt hx)
  obtain ⟨c, k, hc, hsearch⟩ := exists_search (n := 16) tie hgrid
  rw [digits, if_neg (by simp [hx])]
  simp only
  rw [hsearch, value_dropZeros]
  exact has_of_onGrid hc

theorem Interval.Has.le {i : Interval} {q : ℚ} (h : i.Has q) :
    i.low ≤ q * denominator ∧ q * denominator ≤ i.high := by
  unfold Interval.Has at h
  split at h
  · exact h
  · exact ⟨h.1.le, h.2.le⟩

/-- Of two values the one with the larger last place is larger. -/
theorem scaled_lt_of_power_lt {x y : Binary64} (h : x.power < y.power) : x.scaled < y.scaled := by
  have hx : x.significand < 2 * Binary64.hidden := x.significand_lt
  have hy : Binary64.hidden ≤ y.significand := y.normal.resolve_right (by omega)
  have hpow : 2 * Nat.pow 2 x.power ≤ Nat.pow 2 y.power := by
    rw [Nat.pow_eq, Nat.pow_eq, ← pow_succ']
    exact Nat.pow_le_pow_right (by decide) h
  calc
    x.significand * Nat.pow 2 x.power
      < 2 * Binary64.hidden * Nat.pow 2 x.power :=
        Nat.mul_lt_mul_of_pos_right hx (Nat.pow_pos (by decide))
    _ = Binary64.hidden * (2 * Nat.pow 2 x.power) := by ring
    _ ≤ y.significand * Nat.pow 2 y.power := Nat.mul_le_mul hy hpow

theorem power_le {x y : Binary64} (h : x.scaled ≤ y.scaled) : x.power ≤ y.power :=
  Nat.le_of_not_lt fun hlt => Nat.not_le_of_lt (scaled_lt_of_power_lt hlt) h

/-- The interval of a smaller value lies below that of a larger one, and where two of them touch one
does not have its end. -/
theorem Interval.high_le_low {x y : Binary64} (h : x.scaled < y.scaled) :
    (Interval.of x).high ≤ (Interval.of y).low ∧
      ((Interval.of x).high = (Interval.of y).low →
        ¬((Interval.of x).closed = true ∧ (Interval.of y).closed = true)) := by
  have hx : x.significand < 2 * Binary64.hidden := x.significand_lt
  have hnormal := y.normal
  obtain ⟨d, hd⟩ := Nat.exists_eq_add_of_le (power_le h.le)
  have hpow : 0 < Nat.pow 2 x.power := Nat.pow_pos (by decide)
  have hsplit : Nat.pow 2 y.power = 2 ^ d * Nat.pow 2 x.power := by
    rw [hd, Nat.pow_eq, Nat.pow_eq, pow_add, mul_comm]
  have hlt : x.significand < y.significand * 2 ^ d := by
    unfold Binary64.scaled at h
    rw [hsplit, ← mul_assoc] at h
    exact Nat.lt_of_mul_lt_mul_right h
  unfold Interval.of
  simp only [hsplit, ← mul_assoc, beq_iff_eq]
  -- The last place of the larger value counts as one of the smaller one, or as two or more.
  rcases d with _ | d
  · rw [pow_zero, mul_one] at hlt ⊢
    refine ⟨Nat.mul_le_mul_right _ (by split <;> omega), fun heq => ?_⟩
    have hends := Nat.eq_of_mul_eq_mul_right hpow heq
    split at hends <;> omega
  · have htwo : 2 ≤ 2 ^ (d + 1) := by
      rw [pow_succ]
      exact Nat.le_mul_of_pos_left 2 (Nat.pow_pos (by decide))
    have hy : Binary64.hidden ≤ y.significand := hnormal.resolve_right (by omega)
    have hpower : 0 < y.power := by omega
    have heven : Binary64.hidden % 2 = 0 := by decide
    have hwide : (4 * y.significand - if y.significand = Binary64.hidden ∧ 0 < y.power then 1 else 2) *
        2 ≤ (4 * y.significand - if y.significand = Binary64.hidden ∧ 0 < y.power then 1 else 2) *
          2 ^ (d + 1) := Nat.mul_le_mul_left _ htwo
    refine ⟨Nat.mul_le_mul_right _ ?_, fun heq => ?_⟩
    · split at hwide <;> split <;> omega
    · have hends := Nat.eq_of_mul_eq_mul_right hpow heq
      split at hends <;> split at hwide <;> omega

theorem Interval.disjoint {x y : Binary64} (h : x.scaled < y.scaled) {q : ℚ}
    (hx : (Interval.of x).Has q) : ¬(Interval.of y).Has q := by
  intro hy
  obtain ⟨hle, htouch⟩ := Interval.high_le_low h
  have hlow : ((Interval.of x).high : ℚ) ≤ (Interval.of y).low := by exact_mod_cast hle
  unfold Interval.Has at hx hy
  by_cases hclosed : (Interval.of x).closed = true ∧ (Interval.of y).closed = true
  · rw [if_pos hclosed.1] at hx
    rw [if_pos hclosed.2] at hy
    have heq : ((Interval.of x).high : ℚ) = (Interval.of y).low := by linarith
    exact htouch (by exact_mod_cast heq) hclosed
  · split at hx <;> split at hy
    · exact hclosed ⟨by assumption, by assumption⟩
    all_goals linarith

theorem eq_of_scaled_eq {x y : Binary64} (hs : x.negative = y.negative)
    (h : x.scaled = y.scaled) : x = y := by
  have hpower : x.power = y.power := Nat.le_antisymm (power_le h.le) (power_le h.ge)
  have hsignificand : x.significand = y.significand := by
    unfold Binary64.scaled at h
    rw [hpower] at h
    exact Nat.eq_of_mul_eq_mul_right (Nat.pow_pos (by decide)) h
  cases x
  cases y
  simp_all only

theorem digits_of_isZero (tie : Tie) {x : Binary64} (hx : x.isZero = true) :
    (digits tie x).value = 0 := by
  simp [digits, hx, Digits.value]

theorem value_digits_pos (tie : Tie) {x : Binary64} (hx : x.isZero = false) :
    0 < (digits tie x).value := by
  have hlow : (0 : ℚ) < (Interval.of x).low := by exact_mod_cast (Interval.of_bounds hx).1
  have hden : (0 : ℚ) < denominator := by exact_mod_cast denominator_pos
  exact pos_of_mul_pos_left (hlow.trans_le (has_digits tie hx).le.1) hden.le

theorem scaled_eq_zero {x : Binary64} (hx : x.isZero = true) : x.scaled = 0 := by
  rw [Binary64.scaled, beq_iff_eq.mp hx, zero_mul]

/-- A value is known by its sign and by the number that its digits stand for. -/
theorem eq_of_value_digits (tie : Tie) {x y : Binary64} (hs : x.negative = y.negative)
    (h : (digits tie x).value = (digits tie y).value) : x = y := by
  refine eq_of_scaled_eq hs ?_
  cases hx : x.isZero <;> cases hy : y.isZero
  case false.false =>
    have hhas := has_digits tie hy
    rw [← h] at hhas
    rcases Nat.lt_trichotomy x.scaled y.scaled with hlt | heq | hgt
    · exact absurd hhas (Interval.disjoint hlt (has_digits tie hx))
    · exact heq
    · exact absurd (has_digits tie hx) (Interval.disjoint hgt hhas)
  case false.true =>
    have hpos := value_digits_pos tie hx
    rw [h, digits_of_isZero tie hy] at hpos
    exact absurd hpos (lt_irrefl 0)
  case true.false =>
    have hpos := value_digits_pos tie hy
    rw [← h, digits_of_isZero tie hx] at hpos
    exact absurd hpos (lt_irrefl 0)
  case true.true => rw [scaled_eq_zero hx, scaled_eq_zero hy]

end Shortest
end MarketWire
