import MarketWire.Proofs.Number.Rounding

/-!
# Short numbers and their digits

The digits of a value that is not subnormal stand for a number near it, and there are at most eighteen
of them. A number of the value's interval with at most fifteen digits is the only one of its grid there,
so the digits stand for that number.
-/
namespace MarketWire
namespace Shortest

/-! ## The leading digit -/

/-- The next power of ten above the leading digit is more than the ratio. -/
theorem lt_ten_zpow_leading {a b : ℕ} (ha : 0 < a) (hb : 0 < b) :
    (a : ℚ) < 10 ^ (leading a b + 1) * b := by
  unfold leading
  split
  case isTrue hle =>
    have hlt := (Nat.div_lt_iff_lt_mul hb).mp (lt_ten_pow_digitCount (a / b))
    rw [sub_add_cancel, zpow_natCast]
    exact_mod_cast hlt
  case isFalse hlt =>
    have hq : 0 < (b - 1) / a := Nat.div_pos (by omega) ha
    have hcount : 0 < digitCount ((b - 1) / a) := by
      rw [digitCount, if_neg (by omega)]
      exact Nat.length_toDigits_pos
    have hpow : a * 10 ^ (digitCount ((b - 1) / a) - 1) < b := by
      have hle := (Nat.le_div_iff_mul_le ha).mp (ten_pow_digitCount_le hq)
      rw [mul_comm]
      omega
    have hexp : -(digitCount ((b - 1) / a) : ℤ) + 1 = -((digitCount ((b - 1) / a) - 1 : ℕ) : ℤ) := by
      omega
    rw [hexp, zpow_neg, zpow_natCast, lt_inv_mul_iff₀ (by positivity), mul_comm]
    exact_mod_cast hpow

/-! ## Grids -/

/-- Between a point of the grid in the interval and the value lies a neighbour of the value. -/
theorem exists_onGrid_of_has {i : Interval} (tie : Tie) {k : ℤ} {c : ℕ} (hlow : i.low ≤ i.mid)
    (hhigh : i.mid < i.high) (h : i.Has (c * 10 ^ k)) : ∃ c', i.onGrid tie k = some c' := by
  rw [← holds_iff] at h
  rw [onGrid_eq]
  simp only
  split
  case h_1 =>
    split
    · exact ⟨_, rfl⟩
    · split
      · exact ⟨_, rfl⟩
      · split <;> exact ⟨_, rfl⟩
  case h_2 => exact ⟨_, rfl⟩
  case h_3 => exact ⟨_, rfl⟩
  case h_4 hbelow habove =>
    exfalso
    have hdiv := Nat.div_mul_le_self (i.mid * up k) (down k)
    have hnext : i.mid * up k < (i.mid * up k / down k + 1) * down k := by
      rw [Nat.add_one_mul]
      exact Nat.lt_div_mul_add (down_pos k)
    have hmid : i.mid * up k < i.high * up k := Nat.mul_lt_mul_of_pos_right hhigh (up_pos k)
    have hlow' : i.low * up k ≤ i.mid * up k := Nat.mul_le_mul_right _ hlow
    generalize i.mid * up k / down k = below at *
    have hside : c * down k ≤ below * down k ∨ (below + 1) * down k ≤ c * down k := by
      rcases Nat.lt_or_ge below c with hlt | hle
      · exact .inr (Nat.mul_le_mul_right _ hlt)
      · exact .inl (Nat.mul_le_mul_right _ hle)
    unfold Interval.holds at h hbelow habove
    split at h <;>
      simp_all only [if_true, if_false, Bool.and_eq_true, Bool.and_eq_false_iff, decide_eq_true_eq,
        decide_eq_false_iff_not, Bool.false_eq_true] <;> omega

/-- The search ends at the grid of a point in the interval at the latest. -/
theorem exists_search_le {i : Interval} (tie : Tie) {n : ℕ} {k q : ℤ}
    (h : ∃ c, i.onGrid tie q = some c) (hle : q ≤ k) (hfuel : k ≤ q + n) :
    ∃ c k', i.onGrid tie k' = some c ∧ q ≤ k' ∧ k' ≤ k ∧
      search i tie (n + 1) k = dropZeros 20 c k' := by
  induction n generalizing k with
  | zero =>
    obtain ⟨c, hc⟩ := h
    obtain rfl : k = q := by omega
    exact ⟨c, k, hc, le_rfl, le_rfl, by rw [search, hc]⟩
  | succ n ih =>
    rw [search]
    cases hk : i.onGrid tie k with
    | some c => exact ⟨c, k, hk, hle, le_rfl, rfl⟩
    | none =>
      have hlt : q ≠ k := by
        rintro rfl
        obtain ⟨c, hc⟩ := h
        cases hk.symm.trans hc
      obtain ⟨c, k', hc, hq, hk', hsearch⟩ := ih (k := k - 1) (by omega) (by omega)
      exact ⟨c, k', hc, hq, by omega, hsearch⟩

theorem coefficient_dropZeros_le (n c : ℕ) (k : ℤ) : (dropZeros n c k).coefficient ≤ c := by
  induction n generalizing c k with
  | zero => exact le_rfl
  | succ n ih =>
    rw [dropZeros]
    split
    · exact (ih _ _).trans (Nat.div_le_self c 10)
    · exact le_rfl

theorem le_exponent_dropZeros (n c : ℕ) (k : ℤ) : k ≤ (dropZeros n c k).exponent := by
  induction n generalizing c k with
  | zero => exact le_rfl
  | succ n ih =>
    rw [dropZeros]
    split
    · exact le_trans (by omega) (ih _ _)
    · exact le_rfl

/-- Zeros at the end are dropped. -/
theorem add_le_exponent_dropZeros {n j : ℕ} (c : ℕ) (k : ℤ) (hj : j ≤ n) :
    k + j ≤ (dropZeros n (c * 10 ^ j) k).exponent := by
  induction j generalizing n k with
  | zero => simpa using le_exponent_dropZeros n c k
  | succ j ih =>
    obtain ⟨n, rfl⟩ : ∃ m, n = m + 1 := ⟨n - 1, by omega⟩
    have hmul : c * 10 ^ (j + 1) = 10 * (c * 10 ^ j) := by ring
    rw [dropZeros, hmul, if_pos (Nat.mul_mod_right 10 _), Nat.mul_div_cancel_left _ (by decide)]
    have hle := ih (n := n) (k + 1) (by omega)
    push_cast
    omega

/-! ## Intervals of values that are not subnormal -/

section

variable {x : Binary64}

theorem mid_eq (x : Binary64) : (Interval.of x).mid = 4 * x.scaled := by
  rw [Binary64.scaled, ← mul_assoc]
  rfl

theorem mid_div_denominator (x : Binary64) :
    ((Interval.of x).mid : ℚ) = x.magnitude * denominator := by
  rw [mid_eq, Binary64.denominator_eq, Nat.cast_mul, Nat.cast_mul, mul_left_comm,
    Binary64.magnitude_mul_one]

/-- The interval of a value reaches `2^-53` of it to either side at most. -/
theorem Interval.Has.near {v : ℚ} (h : (Interval.of x).Has v) (hnormal : Binary64.hidden ≤ x.significand) :
    Near (1 / 2 ^ 53) v x.magnitude := by
  have hden : (0 : ℚ) < denominator := by exact_mod_cast denominator_pos
  have hwide : (Interval.of x).mid ≤ (Interval.of x).low + 2 * Nat.pow 2 x.power ∧
      (Interval.of x).high = (Interval.of x).mid + 2 * Nat.pow 2 x.power := by
    unfold Interval.of
    simp only [← Nat.add_mul, and_true]
    refine Nat.mul_le_mul_right _ ?_
    split <;> omega
  have hsmall : 2 ^ 53 * (2 * Nat.pow 2 x.power) ≤ (Interval.of x).mid := by
    rw [← mul_assoc]
    refine Nat.mul_le_mul_right _ ?_
    unfold Binary64.hidden at hnormal
    omega
  obtain ⟨hle, hge⟩ := h.le
  have hmid := mid_div_denominator x
  generalize Interval.of x = i at *
  generalize 2 * Nat.pow 2 x.power = half at *
  obtain ⟨hlow, hhigh⟩ := hwide
  have hlow' : (i.mid : ℚ) ≤ i.low + half := by exact_mod_cast hlow
  have hhigh' : (i.high : ℚ) = i.mid + half := by exact_mod_cast hhigh
  have hsmall' : (2 ^ 53 * half : ℚ) ≤ i.mid := by exact_mod_cast hsmall
  have herror : |v * denominator - x.magnitude * denominator| ≤
      1 / 2 ^ 53 * (x.magnitude * denominator) := by
    rw [← hmid, abs_le]
    constructor <;> linarith
  rw [← sub_mul, abs_mul, abs_of_pos hden, ← mul_assoc] at herror
  exact le_of_mul_le_mul_right herror hden

theorem hidden_le_significand (h : 1 / 10 ^ 30 ≤ x.magnitude) :
    Binary64.hidden ≤ x.significand := by
  refine x.normal.resolve_right fun hpower => ?_
  obtain ⟨rest, hone, hrest, -⟩ := Binary64.exists_one
  have hscaled : x.scaled = x.significand := by rw [Binary64.scaled, hpower]; exact Nat.mul_one _
  have hlt : (x.significand : ℚ) < 2 ^ 53 := by exact_mod_cast x.significand_lt
  have hrest' : (2 ^ 52 : ℚ) ≤ rest := by exact_mod_cast hrest
  have hvalue := x.magnitude_mul_one
  rw [hscaled, hone] at hvalue
  push_cast at hvalue
  have hlarge : (2 : ℚ) ^ 100 * rest ≤ x.significand := by
    rw [← hvalue, ← mul_assoc]
    refine mul_le_mul_of_nonneg_right ?_ (Nat.cast_nonneg rest)
    have hscale : (2 : ℚ) ^ 100 ≤ 1 / 10 ^ 30 * 2 ^ 200 := by norm_num
    linarith
  linarith

/-! ## The digits of a value -/

/-- The digits are those of the first grid with a point in the interval. -/
theorem exists_digits (tie : Tie) (hx : x.isZero = false) {q : ℤ}
    (h : ∃ c, (Interval.of x).onGrid tie q = some c)
    (hle : q ≤ leading (Interval.of x).mid denominator)
    (hfuel : leading (Interval.of x).mid denominator ≤ q + 16) :
    ∃ (c : ℕ) (k : ℤ), (Interval.of x).Has (c * 10 ^ k) ∧ q ≤ k ∧
      k ≤ leading (Interval.of x).mid denominator ∧ digits tie x = dropZeros 20 c k := by
  obtain ⟨c, k, hc, hq, hk, hsearch⟩ := exists_search_le (n := 16) tie h hle (by omega)
  refine ⟨c, k, has_of_onGrid hc, hq, hk, ?_⟩
  rw [digits, if_neg (by simp [hx])]
  simp only
  rw [hsearch]

theorem isZero_eq_false (h : 0 < x.magnitude) : x.isZero = false := by
  refine Bool.eq_false_iff.mpr fun hzero => h.ne' ?_
  exact Binary64.magnitude_of_isZero hzero

/-- The leading digit of a value. -/
theorem leading_bounds (h : 0 < x.magnitude) :
    (10 : ℚ) ^ leading (Interval.of x).mid denominator ≤ x.magnitude ∧
      x.magnitude < 10 ^ (leading (Interval.of x).mid denominator + 1) := by
  have hden : (0 : ℚ) < denominator := by exact_mod_cast denominator_pos
  obtain ⟨hlow, hmid, -⟩ := Interval.of_bounds (isZero_eq_false h)
  have hle := ten_zpow_leading_le (hlow.trans_le hmid) denominator_pos
  have hlt := lt_ten_zpow_leading (hlow.trans_le hmid) denominator_pos
  rw [mid_div_denominator] at hle hlt
  exact ⟨le_of_mul_le_mul_right hle hden, lt_of_mul_lt_mul_right hlt hden.le⟩

theorem coefficient_digits_lt (tie : Tie) (h : 1 / 10 ^ 30 ≤ x.magnitude) :
    (digits tie x).coefficient < 10 ^ 18 := by
  have hpos : 0 < x.magnitude := lt_of_lt_of_le (by norm_num) h
  obtain ⟨-, hlow, hhigh⟩ := Interval.of_bounds (isZero_eq_false hpos)
  have hgrid := exists_onGrid tie hlow hhigh (Interval.down_lt (isZero_eq_false hpos))
  obtain ⟨c, k, hhas, hk, -, hdigits⟩ :=
    exists_digits tie (isZero_eq_false hpos) hgrid (by omega) (by omega)
  rw [hdigits]
  refine (coefficient_dropZeros_le 20 c k).trans_lt ?_
  have hnear := (hhas.near (hidden_le_significand h)).le
  have hlt := (leading_bounds hpos).2
  generalize leading (Interval.of x).mid denominator = l at *
  have hten : (0 : ℚ) < 10 ^ k := by positivity
  have hpow : (10 : ℚ) ^ (l + 1) ≤ 10 ^ k * 10 ^ 17 := by
    rw [← zpow_natCast, ← zpow_add₀ (by norm_num)]
    exact zpow_le_zpow_right₀ (by norm_num) (by push_cast; omega)
  have hlt' : (c : ℚ) * 10 ^ k < 10 ^ 18 * 10 ^ k := by
    calc (c : ℚ) * 10 ^ k ≤ (1 + 1 / 2 ^ 53) * x.magnitude := hnear
      _ ≤ 10 * x.magnitude := mul_le_mul_of_nonneg_right (by norm_num) hpos.le
      _ < 10 * (10 ^ k * 10 ^ 17) := by linarith
      _ = 10 ^ 18 * 10 ^ k := by ring
  exact_mod_cast lt_of_mul_lt_mul_right hlt' hten.le

theorem value_digits_near (tie : Tie) (h : 1 / 10 ^ 30 ≤ x.magnitude) :
    Near (1 / 2 ^ 53) (digits tie x).value x.magnitude := by
  have hpos : 0 < x.magnitude := lt_of_lt_of_le (by norm_num) h
  exact (has_digits tie (isZero_eq_false hpos)).near (hidden_le_significand h)

/-- The interval has one point at most of a grid that is so much coarser. -/
theorem eq_of_has {a b : ℕ} {k : ℤ} (hpos : 0 < x.magnitude) (hnormal : Binary64.hidden ≤ x.significand)
    (ha : (Interval.of x).Has (a * 10 ^ k)) (hb : (Interval.of x).Has (b * 10 ^ k))
    (hshort : b < 2 ^ 50) : a = b := by
  have hten : (0 : ℚ) < 10 ^ k := by positivity
  have hshort' : (b : ℚ) < 2 ^ 50 := by exact_mod_cast hshort
  have hbnear := hb.near hnormal
  have hge := hbnear.ge
  have hhalf : 1 / 2 * x.magnitude ≤ (1 - 1 / 2 ^ 53) * x.magnitude :=
    mul_le_mul_of_nonneg_right (by norm_num) hpos.le
  have hclose : |(a * 10 ^ k : ℚ) - b * 10 ^ k| ≤ 2 / 2 ^ 53 * x.magnitude := by
    calc |(a * 10 ^ k : ℚ) - b * 10 ^ k|
        ≤ |a * 10 ^ k - x.magnitude| + |x.magnitude - b * 10 ^ k| := abs_sub_le _ _ _
      _ ≤ 1 / 2 ^ 53 * x.magnitude + 1 / 2 ^ 53 * x.magnitude := by
          rw [abs_sub_comm x.magnitude]
          exact add_le_add (ha.near hnormal) hbnear
      _ = 2 / 2 ^ 53 * x.magnitude := by ring
  have hsmall : |(a : ℚ) - b| * 10 ^ k < 1 * 10 ^ k := by
    rw [← abs_of_pos hten, ← abs_mul, abs_of_pos hten, sub_mul]
    refine hclose.trans_lt ?_
    have hpart : (2 : ℚ) / 2 ^ 53 * x.magnitude ≤ 2 / 2 ^ 53 * (2 * (b * 10 ^ k)) :=
      mul_le_mul_of_nonneg_left (by linarith) (by norm_num)
    have hmany : (b : ℚ) * 10 ^ k < 2 ^ 50 * 10 ^ k := mul_lt_mul_of_pos_right hshort' hten
    linarith
  have hlt : |(a : ℤ) - b| < 1 := by exact_mod_cast lt_of_mul_lt_mul_right hsmall hten.le
  have heq := Int.abs_lt_one_iff.mp hlt
  omega

/-- A number of at most fifteen digits that rounds to a value is what the digits of the value stand for,
and they have no more places than it. -/
theorem value_digits_of_has (tie : Tie) {c : ℕ} {q : ℤ} (h : 1 / 10 ^ 30 ≤ x.magnitude)
    (hc : 0 < c) (hshort : c < 10 ^ 15) (hhas : (Interval.of x).Has (c * 10 ^ q)) :
    (digits tie x).value = c * 10 ^ q ∧ q ≤ (digits tie x).exponent := by
  have hpos : 0 < x.magnitude := lt_of_lt_of_le (by norm_num) h
  have hnormal := hidden_le_significand h
  obtain ⟨-, hlow, hhigh⟩ := Interval.of_bounds (isZero_eq_false hpos)
  obtain ⟨hleading, hlt⟩ := leading_bounds hpos
  have hnear := hhas.near hnormal
  have hten : (0 : ℚ) < 10 ^ q := by positivity
  have hc' : (1 : ℚ) ≤ c := by exact_mod_cast hc
  have hshort' : (c : ℚ) < 10 ^ 15 := by exact_mod_cast hshort
  have hleast : (10 : ℚ) ^ q ≤ c * 10 ^ q := le_mul_of_one_le_left hten.le hc'
  have hmost : (c : ℚ) * 10 ^ q ≤ 10 ^ 15 * 10 ^ q := mul_le_mul_of_nonneg_right hshort'.le hten.le
  have hdouble : (c : ℚ) * 10 ^ q ≤ 2 * x.magnitude :=
    hnear.le.trans (mul_le_mul_of_nonneg_right (by norm_num) hpos.le)
  have hhalf : x.magnitude ≤ 2 * (c * 10 ^ q) := by
    have hge := hnear.ge
    have hpart : 1 / 2 * x.magnitude ≤ (1 - 1 / 2 ^ 53) * x.magnitude :=
      mul_le_mul_of_nonneg_right (by norm_num) hpos.le
    linarith
  generalize hl : leading (Interval.of x).mid denominator = l at *
  have hq : q ≤ l + 1 := by
    by_contra hgt
    have hpow : (10 : ℚ) ^ (l + 1) * 10 ≤ 10 ^ q := by
      rw [← zpow_add_one₀ (by norm_num)]
      exact zpow_le_zpow_right₀ (by norm_num) (by omega)
    linarith
  have hl' : l ≤ q + 15 := by
    by_contra hgt
    have hpow : (10 : ℚ) ^ q * 10 ^ 16 ≤ 10 ^ l := by
      rw [← zpow_natCast, ← zpow_add₀ (by norm_num)]
      exact zpow_le_zpow_right₀ (by norm_num) (by push_cast; omega)
    linarith
  -- The search may start one grid below the number, where it has a zero more.
  obtain ⟨m, d, hqm, hml, hd, hstart⟩ : ∃ (m : ℤ) (d : ℕ), q = m + d ∧ m ≤ l ∧ d ≤ 1 ∧
      (0 < d → m = l) := by
    rcases Int.lt_or_le l q with hgt | hle
    · exact ⟨l, 1, by omega, le_rfl, le_rfl, fun _ => rfl⟩
    · exact ⟨q, 0, by omega, hle, by omega, by omega⟩
  have hvalue : (c : ℚ) * 10 ^ q = (c * 10 ^ d : ℕ) * 10 ^ m := by
    rw [hqm, zpow_add₀ (by norm_num), zpow_natCast]
    push_cast
    ring
  have hgrid := exists_onGrid_of_has tie hlow hhigh (hvalue ▸ hhas)
  obtain ⟨c', k, hhas', hmk, hkl, hdigits⟩ :=
    exists_digits tie (isZero_eq_false hpos) hgrid (hl ▸ hml) (by omega)
  have hvalue' : (c' : ℚ) * 10 ^ k = (c' * 10 ^ (k - m).toNat : ℕ) * 10 ^ m := by
    have hk : k = (k - m).toNat + m := by omega
    rw [Nat.cast_mul, Nat.cast_pow, Nat.cast_ofNat, ← zpow_natCast, mul_assoc,
      ← zpow_add₀ (by norm_num), ← hk]
  have hfew : c * 10 ^ d < 2 ^ 50 := by
    rcases Nat.eq_zero_or_pos d with rfl | hd'
    · omega
    · obtain rfl : d = 1 := by omega
      have hm : m = l := hstart Nat.one_pos
      have hpow : (c : ℚ) * 10 ^ (1 : ℕ) * 10 ^ l < 20 * 10 ^ l := by
        rw [hvalue, hm] at hdouble
        push_cast at hdouble
        rw [zpow_add_one₀ (by norm_num)] at hlt
        linarith
      have hfew' := lt_of_mul_lt_mul_right hpow (by positivity)
      have hfew'' : c * 10 ^ 1 < 20 := by exact_mod_cast hfew'
      omega
  have hsame : c' * 10 ^ (k - m).toNat = c * 10 ^ d :=
    eq_of_has hpos hnormal (hvalue' ▸ hhas') (hvalue ▸ hhas) hfew
  rw [hdigits]
  refine ⟨by rw [value_dropZeros, hvalue', hsame, hvalue], ?_⟩
  rcases Int.lt_or_le k q with hgt | hle
  · have hk : (k - m).toNat = 0 := by omega
    rw [hk, pow_zero, mul_one] at hsame
    rw [hsame]
    have hexponent := add_le_exponent_dropZeros c k (j := d) (n := 20) (by omega)
    omega
  · exact hle.trans (le_exponent_dropZeros 20 c' k)

end

end Shortest
end MarketWire
