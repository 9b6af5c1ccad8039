import MarketWire.Proofs.Number.Near
import MarketWire.Proofs.Number.Shortest
import MarketWire.Proofs.Number.Value

/-!
# Rounding to binary values

A ratio is rounded to a binary value within half of the value's last place, and a tie goes to an even
significand. So the ratio lies in the interval of the value, and within `2^-53` of it where the value is
not subnormal. A ratio that is a binary value is kept.
-/
namespace MarketWire
namespace Binary64

open Shortest (Interval)

/-! ## Nearest integers -/

/-- The nearest integer is at most a half away, and less than that if it is odd. -/
theorem nearest_bounds (a : ℕ) {b : ℕ} (hb : 0 < b) :
    2 * a ≤ 2 * (nearest a b * b) + b ∧ 2 * (nearest a b * b) ≤ 2 * a + b ∧
      (nearest a b % 2 = 1 →
        2 * a < 2 * (nearest a b * b) + b ∧ 2 * (nearest a b * b) < 2 * a + b) := by
  have hsplit := Nat.div_add_mod' a b
  have hrest := Nat.mod_lt a hb
  unfold nearest
  simp only
  generalize a / b = q at *
  generalize a % b = r at *
  have hnext : (q + 1) * b = q * b + b := Nat.succ_mul q b
  split
  · omega
  · split
    · rw [hnext]
      omega
    · rcases Nat.mod_two_eq_zero_or_one q with hq | hq
      · rw [hq, Nat.add_zero]
        omega
      · rw [hq, hnext]
        omega

theorem nearest_mul (c : ℕ) {b : ℕ} (hb : 0 < b) : nearest (c * b) b = c := by
  rw [nearest, Nat.mul_mod_left, Nat.mul_div_cancel c hb]
  exact if_pos hb

/-! ## The last place -/

/-- The power of two that the last place of the rounded ratio weighs, by the whole part of the ratio. -/
def place (q : ℕ) : ℕ := Nat.log2 q - 52

theorem lt_place (q : ℕ) : q < 2 ^ 53 * 2 ^ place q := by
  rw [← pow_add]
  refine Nat.lt_log2_self.trans_le (Nat.pow_le_pow_right (by decide) ?_)
  unfold place
  omega

theorem place_le {q : ℕ} (h : 0 < place q) : 2 ^ 52 * 2 ^ place q ≤ q := by
  have hq : q ≠ 0 := by
    rintro rfl
    simp [place] at h
  have hpow : 52 + place q = q.log2 := by
    unfold place at *
    omega
  rw [← pow_add, hpow]
  exact Nat.log2_self_le hq

theorem place_le_of_lt {q k : ℕ} (h : q < Nat.pow 2 (53 + k)) : place q ≤ k := by
  rw [Nat.pow_eq] at h
  unfold place
  rcases Nat.eq_zero_or_pos q with rfl | hq
  · simp
  · have hlog := (Nat.log2_lt hq.ne').mpr h
    omega

section

variable (a : ℕ) {b : ℕ} (hb : 0 < b)

include hb

theorem lt_mul_place : a < 2 ^ 53 * (b * 2 ^ place (a / b)) := by
  have hlt := (Nat.div_lt_iff_lt_mul hb).mp (lt_place (a / b))
  rw [mul_left_comm, mul_comm b]
  exact hlt

theorem mul_place_le (h : 0 < place (a / b)) : 2 ^ 52 * (b * 2 ^ place (a / b)) ≤ a := by
  have hle := (Nat.le_div_iff_mul_le hb).mp (place_le h)
  rw [mul_left_comm, mul_comm b]
  exact hle

theorem nearest_le_limit : nearest a (b * 2 ^ place (a / b)) ≤ limit := by
  have hunit : 0 < b * 2 ^ place (a / b) := Nat.mul_pos hb (Nat.pow_pos (by decide))
  have hnear := (nearest_bounds a hunit).2.1
  have ha := lt_mul_place a hb
  generalize b * 2 ^ place (a / b) = unit at *
  have hlt : nearest a unit * unit < (limit + 1) * unit := by
    unfold limit
    omega
  exact Nat.lt_succ_iff.mp (Nat.lt_of_mul_lt_mul_right hlt)

theorem hidden_le_nearest (h : 0 < place (a / b)) :
    hidden ≤ nearest a (b * 2 ^ place (a / b)) := by
  have hunit : 0 < b * 2 ^ place (a / b) := Nat.mul_pos hb (Nat.pow_pos (by decide))
  have hnear := (nearest_bounds a hunit).1
  have ha := mul_place_le a hb h
  generalize b * 2 ^ place (a / b) = unit at *
  have hlt : hidden * unit < (nearest a unit + 1) * unit := by
    rw [Nat.succ_mul]
    unfold hidden
    omega
  exact Nat.lt_succ_iff.mp (Nat.lt_of_mul_lt_mul_right hlt)

/-- A rounded ratio has the nearest integer of last places as its significand, unless that is too
large by one and gives the least significand of the next power. -/
theorem exists_parts (negative : Bool) (hplace : place (a / b) ≤ 2044) :
    ∃ x, round? negative a b = some x ∧ x.negative = negative ∧
      (x.significand = nearest a (b * 2 ^ place (a / b)) ∧ x.power = place (a / b) ∨
        nearest a (b * 2 ^ place (a / b)) = limit ∧ x.significand = hidden ∧
          x.power = place (a / b) + 1) := by
  have hlimit := nearest_le_limit a hb
  have hnormal := hidden_le_nearest a hb
  have hround : round? negative a b =
      if nearest a (b * 2 ^ place (a / b)) = limit then
        ofParts? negative hidden (place (a / b) + 1)
      else ofParts? negative (nearest a (b * 2 ^ place (a / b))) (place (a / b)) := rfl
  rw [hround]
  generalize nearest a (b * 2 ^ place (a / b)) = m at *
  split
  case isTrue hm =>
    have hparts : hidden < limit ∧ (hidden ≤ hidden ∨ place (a / b) + 1 = 0) ∧
        place (a / b) + 1 ≤ 2045 := ⟨by decide, .inl le_rfl, by omega⟩
    exact ⟨_, by rw [ofParts?, dif_pos hparts], rfl, .inr ⟨hm, rfl, rfl⟩⟩
  case isFalse hm =>
    have hparts : m < limit ∧ (hidden ≤ m ∨ place (a / b) = 0) ∧ place (a / b) ≤ 2045 :=
      ⟨by omega, by omega, by omega⟩
    exact ⟨_, by rw [ofParts?, dif_pos hparts], rfl, .inl ⟨rfl, rfl⟩⟩

end

/-! ## Rounded ratios -/

theorem scaled_of_parts {x : Binary64} {m p : ℕ}
    (h : x.significand = m ∧ x.power = p ∨ m = limit ∧ x.significand = hidden ∧ x.power = p + 1) :
    x.scaled = m * 2 ^ p := by
  rcases h with ⟨hm, hp⟩ | ⟨rfl, hm, hp⟩
  · rw [scaled, hm, hp, Nat.pow_eq]
  · rw [scaled, hm, hp, Nat.pow_eq, pow_succ', ← mul_assoc]
    rfl

/-- The ratio lies in the interval of its rounded value. -/
theorem bounds_of_parts {x : Binary64} {a b p : ℕ} (hb : 0 < b)
    (hnormal : 0 < p → 2 ^ 52 * (b * 2 ^ p) ≤ a)
    (h : x.significand = nearest a (b * 2 ^ p) ∧ x.power = p ∨
      nearest a (b * 2 ^ p) = limit ∧ x.significand = hidden ∧ x.power = p + 1) :
    (Interval.of x).low * b ≤ 4 * a ∧ 4 * a ≤ (Interval.of x).high * b ∧
      ((Interval.of x).closed = false →
        (Interval.of x).low * b < 4 * a ∧ 4 * a < (Interval.of x).high * b) := by
  have hunit : 0 < b * 2 ^ p := Nat.mul_pos hb (Nat.pow_pos (by decide))
  obtain ⟨hbelow, habove, hodd⟩ := nearest_bounds a hunit
  have hlow : ∀ c, c * 2 ^ p * b = c * (b * 2 ^ p) := fun c => by rw [mul_assoc, mul_comm b]
  have hlow' : ∀ c, c * 2 ^ (p + 1) * b = 2 * c * (b * 2 ^ p) := fun c => by rw [pow_succ']; ring
  unfold Interval.of
  generalize nearest a (b * 2 ^ p) = m at *
  rcases h with ⟨hm, hp⟩ | ⟨rfl, hm, hp⟩
  · simp only [hm, hp, Nat.pow_eq, hlow, beq_eq_false_iff_ne, Nat.sub_mul, Nat.add_mul, mul_assoc 4]
    generalize b * 2 ^ p = unit at *
    split
    case isTrue hleast =>
      have hle : m * unit ≤ a := by
        rw [hleast.1]
        exact hnormal hleast.2
      have hfits : unit ≤ m * unit := by
        rw [hleast.1]
        exact Nat.le_mul_of_pos_left unit (by decide)
      clear hnormal
      generalize m * unit = t at *
      refine ⟨by omega, by omega, fun _ => ⟨by omega, ?_⟩⟩
      have hstrict := hodd (by omega)
      omega
    case isFalse =>
      clear hnormal
      have hfits : 0 < m → unit ≤ m * unit := Nat.le_mul_of_pos_left unit
      generalize m * unit = t at *
      refine ⟨by omega, by omega, fun _ => ?_⟩
      have hstrict := hodd (by omega)
      omega
  · simp only [hm, hp, Nat.pow_eq, hlow']
    generalize b * 2 ^ p = unit at *
    have hlimit : limit = 9007199254740992 := rfl
    have hleast : 2 * (4 * hidden - 1) = 36028797018963966 := by decide
    have hmost : 2 * (4 * hidden + 2) = 36028797018963972 := by decide
    have heven : (hidden % 2 == 0) = true := by decide
    rw [if_pos ⟨trivial, Nat.succ_pos p⟩, hleast, hmost, heven]
    rw [hlimit] at hbelow habove
    refine ⟨by omega, by omega, nofun⟩

/-- A value that is the rounded one of a number: it lies within `2^-53` of the number, which lies in
its interval. -/
structure Rounds (x : Binary64) (v : ℚ) : Prop where
  near : Near (1 / 2 ^ 53) x.magnitude v
  has : (Interval.of x).Has v

theorem denominator_eq : Shortest.denominator = 4 * one := by decide +kernel

/-- The unit of the magnitudes is small, so that ratios within range are far from its last places. -/
theorem exists_one :
    ∃ rest, one = 2 ^ 200 * rest ∧ 2 ^ 52 ≤ rest ∧ 2 ^ 200 * one < Nat.pow 2 (53 + 2044) :=
  ⟨Nat.pow 2 874, by decide +kernel, by decide +kernel, by decide +kernel⟩

section

variable {a b unit : ℕ} {v : ℚ}

theorem mul_le_of_le {rest : ℕ} (hv : v * (b * (2 ^ 200 * rest : ℕ)) = a)
    (hlow : 1 ≤ v * 2 ^ 200) : b * rest ≤ a := by
  have hcast : (b * rest : ℚ) ≤ a := by
    calc (b * rest : ℚ) ≤ v * 2 ^ 200 * (b * rest) := le_mul_of_one_le_left (by positivity) hlow
      _ = v * (b * (2 ^ 200 * rest : ℕ)) := by push_cast; ring
      _ = a := hv
  exact_mod_cast hcast

theorem le_mul_of_le (hv : v * (b * unit) = a) (hhigh : v ≤ 2 ^ 200) : a ≤ 2 ^ 200 * (b * unit) := by
  have hcast : (a : ℚ) ≤ 2 ^ 200 * (b * unit) := hv ▸ mul_le_mul_of_nonneg_right hhigh (by positivity)
  exact_mod_cast hcast

/-- A copy of the ratio that is off by half a last place is off by `2^-53` of it, if it has that many
last places. -/
theorem near_of_bounds {copy last : ℕ} (hb : 0 < b) (hunit : 0 < unit) (hv : v * (b * unit) = a)
    (hbelow : 2 * a ≤ 2 * (copy * b) + last) (habove : 2 * (copy * b) ≤ 2 * a + last)
    (hlast : 2 ^ 52 * last ≤ a) : Near (1 / 2 ^ 53) (copy / unit) v := by
  have hb' : (0 : ℚ) < b := by exact_mod_cast hb
  have hunit' : (0 : ℚ) < unit := by exact_mod_cast hunit
  have hbelow' : (2 * a : ℚ) ≤ 2 * (copy * b) + last := by exact_mod_cast hbelow
  have habove' : (2 * (copy * b) : ℚ) ≤ 2 * a + last := by exact_mod_cast habove
  have hlast' : (2 ^ 52 * last : ℚ) ≤ a := by exact_mod_cast hlast
  have herror : |(copy * b : ℚ) - a| ≤ a / 2 ^ 53 := by
    rw [abs_le]
    constructor <;> linarith
  have hcopy : (copy / unit : ℚ) - v = (copy * b - a) / (b * unit) := by
    rw [← hv]
    field_simp
  have hvalue : 1 / 2 ^ 53 * v = a / 2 ^ 53 / (b * unit) := by
    rw [← hv]
    field_simp
  rw [Near, hcopy, hvalue, abs_div, abs_of_pos (mul_pos hb' hunit')]
  exact div_le_div_of_nonneg_right herror (mul_pos hb' hunit').le

theorem has_of_bounds {i : Interval} (hb : 0 < b) (hdenominator : Shortest.denominator = 4 * unit)
    (hv : v * (b * unit) = a) (hle : i.low * b ≤ 4 * a) (hge : 4 * a ≤ i.high * b)
    (hstrict : i.closed = false → i.low * b < 4 * a ∧ 4 * a < i.high * b) : i.Has v := by
  have hb' : (0 : ℚ) < b := by exact_mod_cast hb
  have hmul : v * Shortest.denominator * b = (4 * a : ℕ) := by
    rw [hdenominator]
    push_cast
    rw [← hv]
    ring
  unfold Interval.Has
  split
  case isTrue =>
    refine ⟨le_of_mul_le_mul_right ?_ hb', le_of_mul_le_mul_right ?_ hb'⟩ <;> rw [hmul] <;>
      exact_mod_cast by assumption
  case isFalse hclosed =>
    obtain ⟨hlt, hgt⟩ := hstrict (Bool.eq_false_iff.mpr hclosed)
    refine ⟨lt_of_mul_lt_mul_right ?_ hb'.le, lt_of_mul_lt_mul_right ?_ hb'.le⟩ <;> rw [hmul] <;>
      exact_mod_cast by assumption

end

/-- A ratio within range is rounded. -/
theorem exists_rounds (negative : Bool) {a b : ℕ} {v : ℚ} (hb : 0 < b) (hv : v * (b * one) = a)
    (hlow : 1 ≤ v * 2 ^ 200) (hhigh : v ≤ 2 ^ 200) :
    ∃ x, round? negative a b = some x ∧ x.negative = negative ∧ x.Rounds v := by
  obtain ⟨rest, hone, hrest, hrange⟩ := exists_one
  have hlarge : b * rest ≤ a := by
    rw [hone] at hv
    exact mul_le_of_le hv hlow
  have hplace : place (a / b) ≤ 2044 := by
    have hle := le_mul_of_le hv hhigh
    have hmul : 2 ^ 200 * (b * one) = 2 ^ 200 * one * b := by ring
    have hlt := hle.trans_lt (hmul.trans_lt (Nat.mul_lt_mul_of_pos_right hrange hb))
    exact place_le_of_lt ((Nat.div_lt_iff_lt_mul hb).mpr hlt)
  obtain ⟨x, hx, hsign, hparts⟩ := exists_parts a hb negative hplace
  have hnormal := mul_place_le a hb
  obtain ⟨hle, hge, hstrict⟩ := bounds_of_parts hb hnormal hparts
  have hunit : 0 < b * 2 ^ place (a / b) := Nat.mul_pos hb (Nat.pow_pos (by decide))
  obtain ⟨hbelow, habove, -⟩ := nearest_bounds a hunit
  have hcopy : nearest a (b * 2 ^ place (a / b)) * (b * 2 ^ place (a / b)) = x.scaled * b := by
    rw [scaled_of_parts hparts]
    ring
  rw [hcopy] at hbelow habove
  have hlast : 2 ^ 52 * (b * 2 ^ place (a / b)) ≤ a := by
    rcases Nat.eq_zero_or_pos (place (a / b)) with hzero | hpos
    · rw [hzero, pow_zero, mul_one, mul_comm]
      exact (Nat.mul_le_mul_left b hrest).trans hlarge
    · exact hnormal hpos
  exact ⟨x, hx, hsign, near_of_bounds hb one_pos hv hbelow habove hlast,
    has_of_bounds hb denominator_eq hv hle hge hstrict⟩

/-! ## Arithmetic -/

theorem magnitude_mul_one (x : Binary64) : x.magnitude * one = x.scaled := by
  have hone : (one : ℚ) ≠ 0 := by exact_mod_cast one_pos.ne'
  rw [magnitude, div_mul_cancel₀ _ hone]

theorem magnitude_of_isZero {x : Binary64} (h : x.isZero = true) : x.magnitude = 0 := by
  rw [magnitude, Shortest.scaled_eq_zero h, Nat.cast_zero, zero_div]

theorem round?_zero (negative : Bool) (b : ℕ) : round? negative 0 b = some (zero negative) := by
  have hnearest : ∀ c, nearest 0 c = 0 := fun c => by simp [nearest]
  rw [round?, Nat.zero_div]
  simp only [hnearest]
  rfl

theorem exists_one_eq : ∃ k, one = Nat.pow 2 k ∧ k ≤ 1074 := ⟨1074, by decide +kernel, le_rfl⟩

/-- A ratio that is a significand times a power of two is kept. -/
theorem exists_round_exact (negative : Bool) {m j : ℕ} (hm : m < 2 ^ 53) (hj : j ≤ 2044) :
    ∃ x, round? negative (m * 2 ^ j) 1 = some x ∧ x.negative = negative ∧ x.scaled = m * 2 ^ j := by
  have hplace : place (m * 2 ^ j / 1) ≤ j := by
    rw [Nat.div_one]
    refine place_le_of_lt ?_
    rw [Nat.pow_eq, pow_add]
    exact Nat.mul_lt_mul_of_pos_right hm (Nat.pow_pos (by decide))
  obtain ⟨x, hx, hsign, hparts⟩ := exists_parts (m * 2 ^ j) Nat.one_pos negative (hplace.trans hj)
  refine ⟨x, hx, hsign, (scaled_of_parts hparts).trans ?_⟩
  generalize place (m * 2 ^ j / 1) = p at *
  obtain ⟨d, rfl⟩ := Nat.exists_eq_add_of_le hplace
  have hsplit : m * 2 ^ (p + d) = m * 2 ^ d * 2 ^ p := by
    rw [pow_add]
    ring
  rw [one_mul, hsplit, nearest_mul _ (Nat.pow_pos (by decide))]

theorem exists_ofNat_exact {m i : ℕ} (hm : m < 2 ^ 53) (hi : i ≤ 900) :
    ∃ x, ofNat? (m * 2 ^ i) = some x ∧ x.negative = false ∧ x.magnitude = m * 2 ^ i := by
  obtain ⟨k, hone, hk⟩ := exists_one_eq
  have hj : i + k ≤ 2044 := by omega
  obtain ⟨x, hx, hsign, hscaled⟩ := exists_round_exact false hm hj
  have hunits : m * 2 ^ (i + k) = m * 2 ^ i * one := by rw [hone, Nat.pow_eq, pow_add, mul_assoc]
  refine ⟨x, by rw [ofNat?, ← hunits, hx], hsign, ?_⟩
  have hvalue := (x.magnitude_eq_natCast_iff (m * 2 ^ i)).mpr (hscaled.trans hunits)
  exact_mod_cast hvalue

theorem exists_ofNat {n : ℕ} (hpos : 0 < n) (h : (n : ℚ) ≤ 2 ^ 200) :
    ∃ x, ofNat? n = some x ∧ x.negative = false ∧ x.Rounds n := by
  have hleast : (1 : ℚ) ≤ n := by exact_mod_cast hpos
  refine exists_rounds false Nat.one_pos ?_ (one_le_mul_of_one_le_of_one_le hleast (by norm_num)) h
  rw [Nat.cast_one, one_mul, Nat.cast_mul]

/-- An integer is rounded, and kept if it is a significand times a power of two. -/
theorem exists_ofNat_near {n : ℕ} (hpos : 0 < n) (h : (n : ℚ) ≤ 2 ^ 200) :
    ∃ x, ofNat? n = some x ∧ x.negative = false ∧ Near (1 / 2 ^ 53) x.magnitude n ∧
      ∀ m i, m < 2 ^ 53 → i ≤ 900 → n = m * 2 ^ i → x.magnitude = n := by
  obtain ⟨x, hx, hsign, hrounds⟩ := exists_ofNat hpos h
  refine ⟨x, hx, hsign, hrounds.near, fun m i hm hi hn => ?_⟩
  obtain ⟨x', hx', -, hvalue⟩ := exists_ofNat_exact hm hi
  rw [← hn, hx] at hx'
  rw [Option.some.inj hx', hvalue, hn]
  push_cast
  rfl

variable {x y : Binary64}

theorem exists_mul (hlow : 1 ≤ x.magnitude * y.magnitude * 2 ^ 200)
    (hhigh : x.magnitude * y.magnitude ≤ 2 ^ 200) :
    ∃ z, x.mul? y = some z ∧ z.negative = (x.negative != y.negative) ∧
      z.Rounds (x.magnitude * y.magnitude) := by
  refine exists_rounds _ one_pos ?_ hlow hhigh
  rw [mul_mul_mul_comm, magnitude_mul_one, magnitude_mul_one, Nat.cast_mul]

theorem exists_div (hy : 0 < y.magnitude) (hlow : 1 ≤ x.magnitude / y.magnitude * 2 ^ 200)
    (hhigh : x.magnitude / y.magnitude ≤ 2 ^ 200) :
    ∃ z, x.div? y = some z ∧ z.negative = (x.negative != y.negative) ∧
      z.Rounds (x.magnitude / y.magnitude) := by
  have hscaled : 0 < y.scaled := by
    refine Nat.pos_of_ne_zero fun hzero => hy.ne' ?_
    rw [magnitude, hzero, Nat.cast_zero, zero_div]
  refine exists_rounds _ hscaled ?_ hlow hhigh
  rw [← magnitude_mul_one y, ← mul_assoc, ← mul_assoc, div_mul_cancel₀ _ hy.ne', magnitude_mul_one,
    Nat.cast_mul]

end Binary64
end MarketWire
