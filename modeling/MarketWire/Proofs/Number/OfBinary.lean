import MarketWire.Number.Decimal.OfBinary
import MarketWire.Proofs.Number.TokenDecimal

/-!
# Decimals near binary values

Trading factors of two for factors of five loses next to nothing, and rounding places away is off by
less than six tenths of the last place that is kept, however many are dropped. So a value that is not
too small gives a decimal near it, within the last place of a decimal or a small part of the value; and
a value beyond the largest decimal gives none.
-/
namespace MarketWire

namespace Binary64

theorem magnitude_eq_zpow (x : Binary64) :
    x.magnitude = x.significand * 2 ^ ((x.power : ℤ) - 1074) := by
  obtain ⟨k, hone, hk⟩ : ∃ k, one = Nat.pow 2 k ∧ (k : ℤ) = 1074 := ⟨1074, by decide +kernel, rfl⟩
  rw [magnitude, scaled, hone, ← hk, Nat.pow_eq, Nat.pow_eq, zpow_sub₀ (by norm_num), zpow_natCast,
    zpow_natCast, ← mul_div_assoc]
  push_cast
  rfl

end Binary64

namespace Decimal

/-! ## Trading factors -/

namespace Scaled

def value (s : Scaled) : ℚ := s.mantissa * 10 ^ s.power

end Scaled

/-- Trading `n` halves never adds to the value, and each step loses a tiny part of it at most. -/
theorem tradeHalves_bounds (n : ℕ) {b : ℕ} {k : ℤ} (hb : b < limit) :
    (tradeHalves n ⟨b, k⟩).value ≤ b * 5 ^ n * 10 ^ k ∧
      (1 - 5 / 2 ^ 96) ^ n * (b * 5 ^ n * 10 ^ k) ≤ (tradeHalves n ⟨b, k⟩).value ∧
      (tradeHalves n ⟨b, k⟩).mantissa < limit ∧ (tradeHalves n ⟨b, k⟩).power ≤ k + n := by
  induction n generalizing b k with
  | zero => simp [tradeHalves, Scaled.value, hb]
  | succ n ih =>
    have hten : (10 : ℚ) ^ (k + 1) = 10 * 10 ^ k := by rw [zpow_add_one₀ (by norm_num), mul_comm]
    have hscale : (0 : ℚ) < 5 ^ (n + 1) * 10 ^ k := by positivity
    -- A step may lose a part of the mantissa, and the other steps keep what the induction says.
    have hstep : ∀ (c : ℕ) (k' : ℤ) (y : ℚ), c < limit → k' ≤ k + 1 → y ≤ b →
        (1 - 5 / 2 ^ 96) * b ≤ y → (c * 5 ^ n * 10 ^ k' : ℚ) = y * (5 ^ (n + 1) * 10 ^ k) →
        (tradeHalves n ⟨c, k'⟩).value ≤ b * 5 ^ (n + 1) * 10 ^ k ∧
          (1 - 5 / 2 ^ 96) ^ (n + 1) * (b * 5 ^ (n + 1) * 10 ^ k) ≤
            (tradeHalves n ⟨c, k'⟩).value ∧
          (tradeHalves n ⟨c, k'⟩).mantissa < limit ∧
          (tradeHalves n ⟨c, k'⟩).power ≤ k + (n + 1 : ℕ) := by
      intro c k' y hc hk hle hge hvalue
      obtain ⟨hhigh, hlow, hmantissa, hpower⟩ := ih (k := k') hc
      rw [hvalue] at hhigh hlow
      refine ⟨hhigh.trans ?_, le_trans ?_ hlow, hmantissa, by omega⟩
      · rw [mul_assoc]
        exact mul_le_mul_of_nonneg_right hle hscale.le
      · rw [pow_succ, mul_assoc ((1 - 5 / 2 ^ 96 : ℚ) ^ n), mul_assoc (b : ℚ), ← mul_assoc _ (b : ℚ)]
        refine mul_le_mul_of_nonneg_left (mul_le_mul_of_nonneg_right hge hscale.le) ?_
        exact pow_nonneg (by norm_num) n
    have hself : (1 - 5 / 2 ^ 96) * (b : ℚ) ≤ b :=
      mul_le_of_le_one_left (Nat.cast_nonneg b) (by norm_num)
    rw [tradeHalves]
    split
    case isTrue heven =>
      obtain ⟨c, rfl⟩ := Nat.dvd_of_mod_eq_zero heven
      rw [Nat.mul_div_cancel_left c (by decide)]
      refine hstep c (k + 1) _ (by omega) le_rfl le_rfl hself ?_
      rw [hten]
      push_cast
      ring
    case isFalse hodd =>
      split
      case isTrue hroom =>
        refine hstep (5 * b) k _ hroom (by omega) le_rfl hself ?_
        push_cast
        ring
      case isFalse hroom =>
        have hsplit : b = 2 * (b / 2) + 1 := by omega
        have hcast : (b : ℚ) = 2 * (b / 2 : ℕ) + 1 := by exact_mod_cast hsplit
        have hlimit : (limit : ℚ) = 2 ^ 96 := by norm_num [limit]
        have hlarge : (2 ^ 96 : ℚ) ≤ 5 * b := by
          rw [← hlimit]
          exact_mod_cast Nat.le_of_not_lt hroom
        refine hstep (b / 2) (k + 1) (b - 1) (by omega) le_rfl (by linarith) (by linarith) ?_
        rw [hten, hcast]
        ring

/-- Trading twos gives up on a value beyond the largest mantissa. -/
theorem tradeTwos_eq_none (n : ℕ) {b : ℕ} {k : ℤ} (hb : b < limit) (hk : n ≤ k)
    (h : limit ≤ b * 2 ^ n) : tradeTwos n ⟨b, k⟩ = none := by
  induction n generalizing b k with
  | zero =>
    rw [pow_zero, mul_one] at h
    exact absurd hb (Nat.not_lt.mpr h)
  | succ n ih =>
    rw [tradeTwos]
    split
    case isTrue hroom =>
      refine ih hroom (by omega) ?_
      rw [pow_succ] at h
      linarith
    case isFalse =>
      rw [if_pos (by omega)]

/-! ## Rounding places away -/

theorem round_tenth (b : ℕ) :
    |((if 5 ≤ b % 10 then b / 10 + 1 else b / 10 : ℕ) : ℚ) - b / 10| ≤ 1 / 2 := by
  have hsplit : (b : ℚ) = 10 * (b / 10 : ℕ) + (b % 10 : ℕ) := by
    exact_mod_cast (Nat.div_add_mod b 10).symm
  have hlt : ((b % 10 : ℕ) : ℚ) ≤ 9 := by
    exact_mod_cast Nat.le_of_lt_succ (Nat.mod_lt b (by decide))
  have hnonneg : (0 : ℚ) ≤ (b % 10 : ℕ) := Nat.cast_nonneg _
  rw [hsplit, abs_le]
  split
  case isTrue h =>
    have hfive : (5 : ℚ) ≤ (b % 10 : ℕ) := by exact_mod_cast h
    push_cast
    constructor <;> linarith
  case isFalse h =>
    have hfour : ((b % 10 : ℕ) : ℚ) ≤ 4 := by exact_mod_cast (by omega : b % 10 ≤ 4)
    constructor <;> linarith

/-- The errors of roundings at one place after the other stay below six tenths of the last one. -/
theorem round_tenth_near {b : ℕ} {y : ℚ} (h : |b - y| ≤ 5 / 9) :
    |((if 5 ≤ b % 10 then b / 10 + 1 else b / 10 : ℕ) : ℚ) - y / 10| ≤ 5 / 9 := by
  have hround := abs_le.mp (round_tenth b)
  have hnear := abs_le.mp h
  rw [abs_le]
  constructor <;> linarith

theorem dropPlaces_near {j b s : ℕ} {y : ℚ} (hy : 99 / 100 ≤ y) (h : |b - y * 10 ^ j| ≤ 5 / 9) :
    ∃ b', dropPlaces j (b, s) = (b', s - j) ∧ |b' - y| ≤ 5 / 9 ∧ b' ≤ b := by
  induction j generalizing b s with
  | zero => exact ⟨b, rfl, by simpa using h, le_rfl⟩
  | succ j ih =>
    have hlarge : (9 : ℚ) < b := by
      have hten : (1 : ℚ) ≤ 10 ^ j := one_le_pow₀ (by norm_num)
      have hpow : y * 10 ≤ y * 10 ^ (j + 1) :=
        mul_le_mul_of_nonneg_left (by rw [pow_succ]; linarith) (by linarith)
      have hlow := (abs_le.mp h).1
      linarith
    have hlarge' : 9 < b := by exact_mod_cast hlarge
    have hquotient : ¬b / 10 = 0 := by omega
    have hnear := round_tenth_near h
    rw [pow_succ, ← mul_assoc, mul_div_cancel_right₀ _ (by norm_num)] at hnear
    obtain ⟨b', hdrop, hnear', hle⟩ := ih (s := s - 1) hnear
    refine ⟨b', ?_, hnear', hle.trans (by split <;> omega)⟩
    rw [dropPlaces]
    simp only [hquotient, if_false]
    rw [hdrop, Nat.sub_sub, Nat.add_comm 1]

theorem narrow_of_lt {s b : ℕ} (h : b < Binary64.hidden) : narrow s b = (b, s) := by
  cases s with
  | zero => rfl
  | succ s => rw [narrow, if_pos h]

/-- A mantissa that is narrowed keeps more bits than all but its last digit has. -/
theorem narrow_near {s b : ℕ} {y : ℚ} (h : |b - y| ≤ 5 / 9) :
    ∃ b' t, narrow s b = (b', s - t) ∧ t ≤ s ∧ |b' - y / 10 ^ t| ≤ 5 / 9 ∧ b' ≤ b ∧
      (t = 0 ∧ b' = b ∨ (2 ^ 52 - 1) * 10 ^ t ≤ 10 * y) := by
  induction s generalizing b y with
  | zero => exact ⟨b, 0, rfl, le_rfl, by simpa using h, le_rfl, .inl ⟨rfl, rfl⟩⟩
  | succ s ih =>
    rw [narrow]
    split
    case isTrue => exact ⟨b, 0, rfl, Nat.zero_le _, by simpa using h, le_rfl, .inl ⟨rfl, rfl⟩⟩
    case isFalse hwide =>
      have hy : (2 ^ 52 - 1 : ℚ) ≤ y := by
        have hhidden : (2 ^ 52 : ℚ) ≤ b := by exact_mod_cast Nat.le_of_not_lt hwide
        have hhigh := (abs_le.mp h).2
        linarith
      obtain ⟨b', t, hnarrow, ht, hnear, hle, hkept⟩ := ih (round_tenth_near h)
      have hhidden : Binary64.hidden = 4503599627370496 := rfl
      refine ⟨b', t + 1, ?_, by omega, ?_, hle.trans (by split <;> omega), .inr ?_⟩
      · rw [hnarrow, Nat.add_sub_add_right]
      · rwa [pow_succ', ← div_div]
      · rcases hkept with ⟨rfl, -⟩ | hkept
        · rw [zero_add, pow_one]
          linarith
        · rw [pow_succ' (10 : ℚ)]
          linarith

theorem value_dropZeros (s b : ℕ) :
    ((dropZeros s b).1 : ℚ) / 10 ^ (dropZeros s b).2 = b / 10 ^ s ∧ (dropZeros s b).1 ≤ b ∧
      (dropZeros s b).2 ≤ s := by
  induction s generalizing b with
  | zero => exact ⟨rfl, le_rfl, le_rfl⟩
  | succ s ih =>
    rw [dropZeros]
    split
    case isTrue hzero =>
      obtain ⟨c, rfl⟩ := Nat.dvd_of_mod_eq_zero hzero
      rw [Nat.mul_div_cancel_left c (by decide)]
      obtain ⟨hvalue, hle, hs⟩ := ih c
      refine ⟨?_, by omega, by omega⟩
      rw [hvalue, pow_succ']
      push_cast
      rw [mul_div_mul_left _ _ (by norm_num)]
    case isFalse => exact ⟨rfl, le_rfl, le_rfl⟩

/-! ## The decimal near a binary value -/

/-- The magnitude in units of the last place that a decimal can have. -/
def lastPlaces (d : Decimal) : ℕ := d.mantissa * 10 ^ (maxScale - d.scale)

theorem cast_lastPlaces {m s : ℕ} (hs : s ≤ maxScale) :
    ((m * 10 ^ (maxScale - s) : ℕ) : ℚ) = m / 10 ^ s * 10 ^ maxScale := by
  obtain ⟨r, hr⟩ := Nat.exists_eq_add_of_le hs
  rw [hr, Nat.add_sub_cancel_left, pow_add]
  push_cast
  field_simp

theorem value_eq_lastPlaces (d : Decimal) :
    d.value = signedValue d.negative (d.lastPlaces / 10 ^ maxScale) := by
  rw [value_eq, lastPlaces, cast_lastPlaces d.scale_le, mul_div_cancel_right₀ _ (by positivity)]

/-- Trading loses next to nothing. -/
theorem tradeHalves_near {x : Binary64} {n : ℕ} (hn : (n : ℤ) = 1074 - x.power) :
    Near (1 / 2 ^ 83) (tradeHalves n ⟨x.significand, -n⟩).value x.magnitude ∧
      (tradeHalves n ⟨x.significand, -n⟩).mantissa < limit ∧
      (tradeHalves n ⟨x.significand, -n⟩).power ≤ 0 := by
  have hfits : x.significand < limit := x.significand_lt.trans (by decide)
  obtain ⟨hle, hge, hmantissa, hpower⟩ := tradeHalves_bounds n (k := -n) hfits
  have hmagnitude : x.significand * 5 ^ n * 10 ^ (-n : ℤ) = x.magnitude := by
    have hten : (10 : ℚ) ^ n = 2 ^ n * 5 ^ n := by rw [← mul_pow]; norm_num
    rw [x.magnitude_eq_zpow, ← neg_sub, ← hn, zpow_neg, zpow_neg, zpow_natCast, zpow_natCast, hten]
    field_simp
  rw [hmagnitude] at hle hge
  have hnonneg := x.magnitude_nonneg
  have hloss : (1 - 1 / 2 ^ 83 : ℚ) ≤ (1 - 5 / 2 ^ 96) ^ n := by
    have hsteps : (n : ℚ) ≤ 1074 := by exact_mod_cast (by omega : n ≤ 1074)
    have hbernoulli := one_add_mul_le_pow (a := (-5 / 2 ^ 96 : ℚ)) (by norm_num) n
    have hbase : (1 + -5 / 2 ^ 96 : ℚ) = 1 - 5 / 2 ^ 96 := by ring
    rw [hbase] at hbernoulli
    refine le_trans ?_ hbernoulli
    linarith
  have hlow := (mul_le_mul_of_nonneg_right hloss hnonneg).trans hge
  refine ⟨?_, hmantissa, by omega⟩
  rw [Near, abs_le]
  constructor <;> linarith

/-- Places beyond the last one are dropped. -/
theorem dropPlaces_lastPlaces {t : Scaled} (hpower : t.power ≤ 0)
    (h : 99 / 100 ≤ t.value * 10 ^ maxScale) :
    ∃ b s, dropPlaces ((-t.power).toNat - maxScale) (t.mantissa, (-t.power).toNat) = (b, s) ∧
      s ≤ maxScale ∧ b ≤ t.mantissa ∧
      |((b * 10 ^ (maxScale - s) : ℕ) : ℚ) - t.value * 10 ^ maxScale| ≤ 5 / 9 := by
  obtain ⟨s, hs⟩ : ∃ s : ℕ, -t.power = s := ⟨_, (Int.toNat_of_nonneg (by omega)).symm⟩
  have hvalue : t.value = t.mantissa / 10 ^ s := by
    rw [Scaled.value, ← neg_neg t.power, hs, zpow_neg, zpow_natCast, div_eq_mul_inv]
  rw [hvalue] at h ⊢
  rw [hs, Int.toNat_natCast]
  rcases Nat.le_total s maxScale with hfew | hmany
  · refine ⟨t.mantissa, s, by rw [Nat.sub_eq_zero_of_le hfew]; rfl, hfew, le_rfl, ?_⟩
    rw [cast_lastPlaces hfew, sub_self, abs_zero]
    norm_num
  · obtain ⟨j, rfl⟩ := Nat.exists_eq_add_of_le hmany
    have hkept : (t.mantissa : ℚ) / 10 ^ (maxScale + j) * 10 ^ maxScale * 10 ^ j = t.mantissa := by
      rw [mul_assoc, ← pow_add, div_mul_cancel₀ _ (by positivity)]
    obtain ⟨b, hdrop, hnear, hle⟩ := dropPlaces_near (j := j) (s := maxScale + j) (b := t.mantissa) h
      (by rw [hkept, sub_self, abs_zero]; norm_num)
    rw [Nat.add_sub_cancel] at hdrop
    refine ⟨b, maxScale, by rw [Nat.add_sub_cancel_left, hdrop], le_rfl, hle, ?_⟩
    rwa [Nat.sub_self, pow_zero, mul_one]

/-- A mantissa that is wide loses a small part. -/
theorem exists_settled (negative : Bool) {b s : ℕ} (hb : b < limit) (hs : s ≤ maxScale) :
    ∃ d, (let (b, s) := narrow s b
        let (b, s) := dropZeros s b
        make? negative b s) = some d ∧
      d.negative = negative ∧ (d.lastPlaces = b * 10 ^ (maxScale - s) ∨
        2 ^ 52 ≤ b ∧ Near (6 / 2 ^ 52) d.lastPlaces (b * 10 ^ (maxScale - s) : ℕ)) := by
  have hself : |(b : ℚ) - b| ≤ 5 / 9 := by
    rw [sub_self, abs_zero]
    norm_num
  obtain ⟨b₁, t, hnarrow, ht, hnear, hle, hkept⟩ := narrow_near (s := s) hself
  obtain ⟨hvalue, hle', hs'⟩ := value_dropZeros (s - t) b₁
  have hscale : (dropZeros (s - t) b₁).2 ≤ maxScale := by omega
  obtain ⟨d, hd⟩ := exists_make negative (m := (dropZeros (s - t) b₁).1) (by omega) hscale
  obtain ⟨hsign, hm, hplaces⟩ := make?_eq_some_iff.mp hd
  have hlast : (d.lastPlaces : ℚ) = b₁ / 10 ^ (s - t) * 10 ^ maxScale := by
    rw [lastPlaces, hm, hplaces, cast_lastPlaces hscale, hvalue]
  refine ⟨d, by rw [hnarrow]; exact hd, hsign, ?_⟩
  rcases Nat.lt_or_ge b Binary64.hidden with hsmall | hwide
  · left
    rw [narrow_of_lt hsmall] at hnarrow
    obtain ⟨rfl, hall⟩ := Prod.mk.inj hnarrow
    rw [← hall, ← cast_lastPlaces hs] at hlast
    exact_mod_cast hlast
  · refine .inr ⟨hwide, ?_⟩
    have hten : (0 : ℚ) < 10 ^ t := by positivity
    have hpow : (b₁ : ℚ) / 10 ^ (s - t) * 10 ^ maxScale = b₁ * 10 ^ t * 10 ^ (maxScale - s) := by
      have hsplit : t + (maxScale - s + (s - t)) = maxScale := by omega
      rw [div_mul_eq_mul_div, div_eq_iff (by positivity), mul_assoc, mul_assoc, ← pow_add, ← pow_add,
        hsplit]
    have hkept' : (2 ^ 52 - 1) * 10 ^ t ≤ 10 * (b : ℚ) := by
      rcases hkept with ⟨rfl, -⟩ | hkept
      · have hhidden : (2 ^ 52 : ℚ) ≤ b := by exact_mod_cast hwide
        rw [pow_zero]
        linarith
      · exact hkept
    have herror : Near (6 / 2 ^ 52) (b₁ * 10 ^ t) b := by
      have hscaled := mul_le_mul_of_nonneg_right hnear hten.le
      rw [← abs_of_pos hten, ← abs_mul, abs_of_pos hten, sub_mul, div_mul_cancel₀ _ hten.ne']
        at hscaled
      exact hscaled.trans (by linarith)
    rw [hlast, hpow]
    push_cast
    exact herror.mul_const (by positivity)

/-- Whether a decimal is off by less than the last place and a tiny part of the value; or, if the value
is wide, by a small part of it. -/
def Approximates (d : Decimal) (x : Binary64) : Prop :=
  |d.lastPlaces - x.magnitude * 10 ^ maxScale| ≤
      1 / 2 ^ 83 * (x.magnitude * 10 ^ maxScale) + 5 / 9 ∨
    2 ^ 51 ≤ x.magnitude * 10 ^ maxScale ∧
      Near (1 / 2 ^ 49) d.lastPlaces (x.magnitude * 10 ^ maxScale)

/-- A value that is neither too small nor too large gives a decimal. -/
theorem exists_ofBinary {x : Binary64} (hpower : x.power < 1074)
    (hleast : 995 / 1000 ≤ x.magnitude * 10 ^ maxScale) :
    ∃ d, ofBinary? x = some d ∧ d.negative = x.negative ∧ d.Approximates x := by
  obtain ⟨n, hn⟩ : ∃ n : ℕ, (n : ℤ) = 1074 - x.power := ⟨1074 - x.power, by omega⟩
  obtain ⟨hnear, hmantissa, hpower'⟩ := tradeHalves_near hn
  have hread : ofBinary? x =
      (let (b, s) := dropPlaces ((-(tradeHalves n ⟨x.significand, -n⟩).power).toNat - maxScale)
        ((tradeHalves n ⟨x.significand, -n⟩).mantissa,
          (-(tradeHalves n ⟨x.significand, -n⟩).power).toNat)
      let (b, s) := narrow s b
      let (b, s) := dropZeros s b
      make? x.negative b s) := by
    have hexponent : (x.power : ℤ) - 1074 = -n := by omega
    rw [ofBinary?]
    simp only [hexponent, neg_neg, Int.toNat_natCast]
    rw [if_pos (by omega), Option.bind_some]
    simp only [if_neg (not_lt.mpr hpower')]
  generalize tradeHalves n ⟨x.significand, -n⟩ = traded at *
  have hscaled := hnear.mul_const (c := 10 ^ maxScale) (by positivity)
  obtain ⟨b, s, hdrop, hs, hb, hlast⟩ := dropPlaces_lastPlaces hpower' (by
    have hge := hscaled.ge
    linarith)
  obtain ⟨d, hd, hsign, hsettled⟩ := exists_settled x.negative (hb.trans_lt hmantissa) hs
  rw [hdrop] at hread
  refine ⟨d, hread.trans hd, hsign, ?_⟩
  have herror : |((b * 10 ^ (maxScale - s) : ℕ) : ℚ) - x.magnitude * 10 ^ maxScale| ≤
      1 / 2 ^ 83 * (x.magnitude * 10 ^ maxScale) + 5 / 9 := by
    calc _ ≤ |((b * 10 ^ (maxScale - s) : ℕ) : ℚ) - traded.value * 10 ^ maxScale| +
          |traded.value * 10 ^ maxScale - x.magnitude * 10 ^ maxScale| := abs_sub_le _ _ _
      _ ≤ 5 / 9 + 1 / 2 ^ 83 * (x.magnitude * 10 ^ maxScale) := add_le_add hlast hscaled
      _ = _ := add_comm _ _
  rcases hsettled with heq | ⟨hwide, hnarrow⟩
  · exact .inl (heq ▸ herror)
  · right
    have hlarge : (2 ^ 52 : ℚ) ≤ (b * 10 ^ (maxScale - s) : ℕ) := by
      exact_mod_cast hwide.trans (Nat.le_mul_of_pos_right b (Nat.pow_pos (by decide)))
    obtain ⟨hlow, hhigh⟩ := abs_le.mp herror
    obtain ⟨hlow', hhigh'⟩ := abs_le.mp hnarrow
    refine ⟨by linarith, ?_⟩
    rw [Near, abs_le]
    constructor <;> linarith

/-- A value beyond the largest mantissa gives no decimal. -/
theorem ofBinary?_eq_none {x : Binary64} (h : 2 ^ 96 ≤ x.magnitude) : ofBinary? x = none := by
  have hfits : x.significand < limit := x.significand_lt.trans (by decide)
  have hpower : 1074 < x.power := by
    by_contra hle
    have hsignificand : (x.significand : ℚ) < 2 ^ 53 := by exact_mod_cast x.significand_lt
    have hone : (2 : ℚ) ^ ((x.power : ℤ) - 1074) ≤ 1 :=
      zpow_le_one_of_nonpos₀ (by norm_num) (by omega)
    have hle := mul_le_of_le_one_right (Nat.cast_nonneg x.significand) hone
    rw [← x.magnitude_eq_zpow] at hle
    linarith
  obtain ⟨n, hn⟩ : ∃ n : ℕ, (n : ℤ) = x.power - 1074 := ⟨x.power - 1074, by omega⟩
  have hlarge : limit ≤ x.significand * 2 ^ n := by
    rw [x.magnitude_eq_zpow, ← hn, zpow_natCast] at h
    exact_mod_cast h
  have hnone := tradeTwos_eq_none n (k := n) hfits le_rfl hlarge
  rw [ofBinary?]
  simp only [← hn, Int.toNat_natCast]
  rw [if_neg (by omega), hnone, Option.bind_none]

end Decimal
end MarketWire
