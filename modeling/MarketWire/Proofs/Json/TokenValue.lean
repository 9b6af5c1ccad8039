import MarketWire.Proofs.Json.NumberText
import MarketWire.Proofs.Number.Rounding

/-!
# Binary values of tokens

A token that is not read as a whole number gives a binary value near the number that it stands for: the
digits that are dropped, the rounded power of ten and the rounded product or quotient are each off by a
small part only. With fewer than sixteen digits and a power of ten that is a binary value itself nothing
is lost before the last step, which makes the value the rounded one.
-/
namespace MarketWire
namespace Json

namespace NumberToken

/-- The digits of a token without its point. -/
def digits (t : NumberToken) : ℕ := Nat.ofDigitChars 10 (t.whole ++ t.fraction) 0

/-- The number that a token stands for. -/
def value (t : NumberToken) : ℚ := if t.negative then -t.magnitude else t.magnitude

theorem magnitude_eq (t : NumberToken) :
    t.magnitude = t.digits * 10 ^ (t.power - t.fraction.length) := rfl

theorem abs_value (t : NumberToken) : |t.value| = t.magnitude := by
  have hnonneg : 0 ≤ t.magnitude := by
    rw [magnitude_eq]
    positivity
  rw [value]
  split <;> simp [abs_of_nonneg hnonneg]

theorem magnitude_pos_iff (t : NumberToken) : 0 < t.magnitude ↔ 0 < t.digits := by
  have hten : (0 : ℚ) < 10 ^ (t.power - t.fraction.length) := by positivity
  rw [magnitude_eq, mul_pos_iff_of_pos_right hten, Nat.cast_pos]

/-- The digits that are gathered from a token. -/
def significand (t : NumberToken) : ℕ := (Number.gather t.fraction (Number.gather t.whole 0).1).1

/-- The power of ten of the gathered digits, apart from the one that is written. -/
def start (t : NumberToken) : ℤ :=
  (t.whole.length - (Number.gather t.whole 0).2 : ℕ) -
    (Number.gather t.fraction (Number.gather t.whole 0).1).2

end NumberToken

/-! ## Digits -/

theorem digit_le {c : Char} (h : c.isDigit = true) : c.toNat - '0'.toNat ≤ 9 := by
  have hle : c.toNat ≤ '9'.toNat := by
    simp only [Char.isDigit, Bool.and_eq_true, decide_eq_true_eq] at h
    exact h.2
  have hnine : '9'.toNat = 57 := rfl
  have hzero : '0'.toNat = 48 := rfl
  omega

/-- Whether `n` is at least `m` widths and less than one more. -/
def Within (m width n : ℕ) : Prop := m * width ≤ n ∧ n < (m + 1) * width

namespace Within

variable {m n k width c : ℕ}

theorem refl (n : ℕ) : Within n 1 n := by
  constructor <;> omega

theorem mul (h : Within m width n) (hc : 0 < c) : Within m (width * c) (n * c) := by
  rw [Within, ← mul_assoc, ← mul_assoc]
  exact ⟨Nat.mul_le_mul_right c h.1, Nat.mul_lt_mul_of_pos_right h.2 hc⟩

theorem trans (h : Within m width n) (h' : Within n c k) : Within m (width * c) k := by
  rw [Within, ← mul_assoc, ← mul_assoc]
  exact ⟨(Nat.mul_le_mul_right c h.1).trans h'.1, h'.2.trans_le (Nat.mul_le_mul_right c h.2)⟩

theorem near (h : Within m width n) (h' : Within m width k) (hm : 0 < m) :
    Near (1 / m) n k := by
  have hm' : (0 : ℚ) < m := by exact_mod_cast hm
  have hn : (m * width : ℚ) ≤ n ∧ (n : ℚ) < (m + 1) * width := by exact_mod_cast h
  have hk : (m * width : ℚ) ≤ k ∧ (k : ℚ) < (m + 1) * width := by exact_mod_cast h'
  exact Near.of_mem_Ico hm' hn hk

end Within

/-- One more digit. -/
theorem within_digit {c : Char} (h : c.isDigit = true) (n : ℕ) :
    Within n 10 (10 * n + (c.toNat - '0'.toNat)) := by
  have hc := digit_le h
  constructor <;> omega

theorem within_ofDigitChars {cs : List Char} (hcs : ∀ c ∈ cs, c.isDigit = true) (n : ℕ) :
    Within n (10 ^ cs.length) (Nat.ofDigitChars 10 cs n) := by
  induction cs generalizing n with
  | nil => exact .refl n
  | cons c cs ih =>
    rw [Nat.ofDigitChars_cons, List.length_cons, pow_succ']
    exact (within_digit (hcs c List.mem_cons_self) n).trans
      (ih (fun d hd => hcs d (List.mem_cons_of_mem c hd)) _)

namespace Number

/-- The digits that are gathered, and those that are not. -/
theorem within_gather {cs : List Char} (hcs : ∀ c ∈ cs, c.isDigit = true) (n : ℕ) :
    Within n (10 ^ (gather cs n).2) (gather cs n).1 ∧
      Within (gather cs n).1 (10 ^ (cs.length - (gather cs n).2)) (Nat.ofDigitChars 10 cs n) := by
  have hall := within_ofDigitChars hcs n
  induction cs generalizing n with
  | nil => exact ⟨.refl n, .refl n⟩
  | cons c cs ih =>
    have hrest := fun d hd => hcs d (List.mem_cons_of_mem c hd)
    rw [gather]
    split
    case isTrue =>
      obtain ⟨htaken, hleft⟩ := ih hrest _ (within_ofDigitChars hrest _)
      simp only [Nat.ofDigitChars_cons, List.length_cons, Nat.add_sub_add_right, pow_succ']
      exact ⟨(within_digit (hcs c List.mem_cons_self) n).trans htaken, hleft⟩
    case isFalse => exact ⟨.refl n, hall⟩

/-- Digits are left only if one more would not fit. -/
theorem le_gather {cs : List Char} (hcs : ∀ c ∈ cs, c.isDigit = true) (n : ℕ)
    (h : (gather cs n).2 < cs.length) : 2 ^ 60 ≤ (gather cs n).1 := by
  induction cs generalizing n with
  | nil => exact absurd h (Nat.not_lt_zero _)
  | cons c cs ih =>
    have hc := digit_le (hcs c List.mem_cons_self)
    rw [gather] at h ⊢
    split at h
    case isTrue hfits =>
      rw [if_pos hfits]
      exact ih (fun d hd => hcs d (List.mem_cons_of_mem c hd)) _ (Nat.lt_of_succ_lt_succ h)
    case isFalse hfull =>
      rw [if_neg hfull]
      simp only
      omega

theorem gather_lt {cs : List Char} {n : ℕ} (h : n < 2 ^ 64) : (gather cs n).1 < 2 ^ 64 := by
  induction cs generalizing n with
  | nil => exact h
  | cons c cs ih =>
    rw [gather]
    split
    case isTrue hfits => exact ih hfits
    case isFalse => exact h

/-- Digits that are gathered in two parts, put in their places. -/
theorem near_gathered {whole fraction : List Char} (hwhole : ∀ c ∈ whole, c.isDigit = true)
    (hfraction : ∀ c ∈ fraction, c.isDigit = true) :
    Near (1 / 2 ^ 60)
      ((gather fraction (gather whole 0).1).1 *
        10 ^ (fraction.length - (gather fraction (gather whole 0).1).2) *
        10 ^ (whole.length - (gather whole 0).2) : ℕ)
      (Nat.ofDigitChars 10 (whole ++ fraction) 0) := by
  have hmany : ∀ m : ℕ, 2 ^ 60 ≤ m → (1 : ℚ) / m ≤ 1 / 2 ^ 60 := fun m hm =>
    one_div_le_one_div_of_le (by positivity) (by exact_mod_cast hm)
  obtain ⟨-, hleft⟩ := within_gather hwhole 0
  obtain ⟨htaken, hleft'⟩ := within_gather hfraction (gather whole 0).1
  have hstop := le_gather hwhole 0
  have hstop' := le_gather hfraction (gather whole 0).1
  have hall := within_ofDigitChars hfraction (Nat.ofDigitChars 10 whole 0)
  have hfirst := gather_snd_le whole 0
  have hlast := gather_snd_le fraction (gather whole 0).1
  have hfull : (gather whole 0).2 = whole.length → _ := gather_of_all
  rw [Nat.ofDigitChars_append]
  generalize gather whole 0 = first at *
  generalize gather fraction first.1 = last at *
  rcases Nat.lt_or_ge first.2 whole.length with hspare | hnone
  -- Digits before the point are dropped, so those behind it matter even less.
  · have hm := hstop hspare
    have hplaced : Within first.1 (10 ^ (whole.length - first.2) * 10 ^ fraction.length)
        (last.1 * 10 ^ (fraction.length - last.2) * 10 ^ (whole.length - first.2)) := by
      have hmul := (htaken.mul (c := 10 ^ (fraction.length - last.2)) (by positivity)).mul
        (c := 10 ^ (whole.length - first.2)) (by positivity)
      rw [← pow_add, Nat.add_sub_cancel' hlast, mul_comm] at hmul
      exact hmul
    have hnear := hplaced.near (hleft.trans hall) (by omega)
    exact hnear.mono (hmany _ hm) (Nat.cast_nonneg _)
  · have hspare : whole.length - first.2 = 0 := by omega
    rw [← hfull (by omega), hspare, pow_zero, mul_one]
    rcases Nat.lt_or_ge last.2 fraction.length with hplaces | hplaces
    · have hm := hstop' hplaces
      have hsame := (Within.refl last.1).mul (c := 10 ^ (fraction.length - last.2)) (by positivity)
      rw [one_mul] at hsame
      exact (hsame.near hleft' (by omega)).mono (hmany _ hm) (Nat.cast_nonneg _)
    · have hplaces' : fraction.length - last.2 = 0 := by omega
      rw [hplaces', pow_zero] at hleft' ⊢
      have hsame : last.1 = Nat.ofDigitChars 10 fraction first.1 := by
        obtain ⟨hle, hlt⟩ := hleft'
        omega
      rw [mul_one, hsame]
      exact .refl (by positivity) (Nat.cast_nonneg _)

/-! ## Powers of ten -/

theorem exists_power {k : ℕ} (hk : k ≤ 50) :
    ∃ y, power? k = some y ∧ y.negative = false ∧ Near (1 / 2 ^ 53) y.magnitude (10 ^ k) ∧
      (k ≤ 22 → y.magnitude = 10 ^ k) := by
  have hrange : ((Nat.pow 10 k : ℕ) : ℚ) ≤ 2 ^ 200 := by
    rw [Nat.pow_eq]
    calc ((10 ^ k : ℕ) : ℚ) ≤ (10 ^ 50 : ℕ) := by
          exact_mod_cast Nat.pow_le_pow_right (by decide) hk
      _ ≤ 2 ^ 200 := by norm_num
  obtain ⟨y, hy, hsign, hnear, hexact⟩ := Binary64.exists_ofNat_near (Nat.pow_pos (by decide)) hrange
  rw [Nat.cast_pow, Nat.cast_ofNat] at hnear
  simp only [Nat.cast_pow, Nat.cast_ofNat] at hexact
  refine ⟨y, hy, hsign, hnear, fun hsmall => hexact (5 ^ k) k ?_ (by omega) ?_⟩
  · calc 5 ^ k ≤ 5 ^ 22 := Nat.pow_le_pow_right (by decide) hsmall
      _ < 2 ^ 53 := by decide
  · rw [← mul_pow]
    norm_num

theorem exists_significand {n : ℕ} (hpos : 0 < n) (h : n < 2 ^ 64) :
    ∃ x, Binary64.ofNat? n = some x ∧ x.negative = false ∧ Near (1 / 2 ^ 53) x.magnitude n ∧
      (n < 2 ^ 53 → x.magnitude = n) := by
  have hrange : (n : ℚ) ≤ 2 ^ 200 := by
    calc (n : ℚ) ≤ (2 ^ 64 : ℕ) := by exact_mod_cast h.le
      _ ≤ 2 ^ 200 := by norm_num
  obtain ⟨x, hx, hsign, hnear, hexact⟩ := Binary64.exists_ofNat_near hpos hrange
  exact ⟨x, hx, hsign, hnear, fun hsmall => hexact n 0 hsmall (by decide) (by rw [pow_zero, mul_one])⟩

theorem power_bounds {n : ℕ} {e : ℤ} (hpos : 0 < n) (h : n < 2 ^ 64)
    (hlow : (1 : ℚ) / 10 ^ 30 ≤ n * 10 ^ e) (hhigh : (n : ℚ) * 10 ^ e ≤ 10 ^ 30) :
    -50 ≤ e ∧ e ≤ 50 := by
  have hleast : (1 : ℚ) ≤ n := by exact_mod_cast hpos
  have hmost : (n : ℚ) ≤ 2 ^ 64 := by exact_mod_cast h.le
  have hten : (0 : ℚ) < 10 ^ e := by positivity
  constructor
  · by_contra hlt
    have hsmall : (10 : ℚ) ^ e ≤ 10 ^ (-51 : ℤ) := zpow_le_zpow_right₀ (by norm_num) (by omega)
    have hproduct : (n : ℚ) * 10 ^ e ≤ 2 ^ 64 * 10 ^ (-51 : ℤ) :=
      mul_le_mul hmost hsmall hten.le (by norm_num)
    have hgap : (2 : ℚ) ^ 64 * 10 ^ (-51 : ℤ) < 1 / 10 ^ 30 := by norm_num
    exact absurd (hlow.trans hproduct) (not_le.mpr hgap)
  · by_contra hlt
    have hlarge : (10 : ℚ) ^ (51 : ℤ) ≤ 10 ^ e := zpow_le_zpow_right₀ (by norm_num) (by omega)
    have hproduct : (10 : ℚ) ^ e ≤ n * 10 ^ e := le_mul_of_one_le_left hten.le hleast
    have hgap : (10 : ℚ) ^ 30 < 10 ^ (51 : ℤ) := by norm_num
    exact absurd (hlarge.trans (hproduct.trans hhigh)) (not_le.mpr hgap)

/-- The last rounding, of a number that two roundings have left near the product or quotient. -/
theorem exists_last {v w : ℚ} {r : Option Binary64} (hnear : Near (17 / 2 ^ 56) w v)
    (hlow : 1 / 10 ^ 30 ≤ v) (hhigh : v ≤ 10 ^ 30)
    (hround : 1 ≤ w * 2 ^ 200 → w ≤ 2 ^ 200 →
      ∃ z, r = some z ∧ z.negative = false ∧ z.Rounds w) :
    ∃ z, r = some z ∧ z.negative = false ∧ Near (13 / 2 ^ 55) z.magnitude v ∧ z.Rounds w := by
  have hv : 0 ≤ v := le_trans (by norm_num) hlow
  have hge := hnear.ge
  have hle := hnear.le
  have hpart : (1 : ℚ) / 2 ≤ 1 - 17 / 2 ^ 56 := by norm_num
  have hdouble : (1 : ℚ) + 17 / 2 ^ 56 ≤ 2 := by norm_num
  have hleast : 1 / 2 * v ≤ w := (mul_le_mul_of_nonneg_right hpart hv).trans hge
  have hmost : w ≤ 2 * v := hle.trans (mul_le_mul_of_nonneg_right hdouble hv)
  have hsmall : (1 : ℚ) ≤ 1 / 2 * (1 / 10 ^ 30) * 2 ^ 200 := by norm_num
  have hlarge : (2 : ℚ) * 10 ^ 30 ≤ 2 ^ 200 := by norm_num
  obtain ⟨z, hz, hsign, hrounds⟩ := hround (by linarith) (by linarith)
  have htotal := hrounds.near.trans hnear (by norm_num)
  exact ⟨z, hz, hsign, htotal.mono (by norm_num) hv, hrounds⟩

/-- Digits times a power of ten: each is rounded, and so is the result. -/
theorem exists_scale {n : ℕ} {e : ℤ} (hpos : 0 < n) (h : n < 2 ^ 64)
    (hlow : (1 : ℚ) / 10 ^ 30 ≤ n * 10 ^ e) (hhigh : (n : ℚ) * 10 ^ e ≤ 10 ^ 30) :
    ∃ z, scale? n e = some z ∧ z.negative = false ∧ Near (13 / 2 ^ 55) z.magnitude (n * 10 ^ e) ∧
      (n < 2 ^ 53 → -22 ≤ e → e ≤ 22 → z.Rounds (n * 10 ^ e)) := by
  obtain ⟨hleast, hmost⟩ := power_bounds hpos h hlow hhigh
  obtain ⟨x, hx, hxsign, hxnear, hxexact⟩ := exists_significand hpos h
  have hn : (0 : ℚ) < n := by exact_mod_cast hpos
  obtain ⟨y, hy, hysign, hynear, hyexact⟩ := exists_power (k := e.natAbs) (by omega)
  have hten : (0 : ℚ) < 10 ^ e.natAbs := by positivity
  have hxpos := hxnear.pos (by norm_num) hn
  have hypos := hynear.pos (by norm_num) hten
  rcases Int.lt_or_le e 0 with he | he
  · have hvalue : (n : ℚ) * 10 ^ e = n / 10 ^ e.natAbs := by
      rw [div_eq_mul_inv, ← zpow_natCast, ← zpow_neg]
      congr 2
      omega
    have hscale : scale? n e = x.div? y := by
      have hdown : (-e).toNat = e.natAbs := by omega
      have hmax : e.natAbs ≤ maxPower := by unfold maxPower; omega
      rw [scale?, hx, Option.bind_some, if_pos he, hdown, shrink?, if_pos hmax, hy, Option.bind_some]
    rw [hvalue] at hlow hhigh ⊢
    have hquotient := hxnear.div hynear hn.le hten (by norm_num) (by norm_num) (by norm_num)
    have hnear : Near (17 / 2 ^ 56) (x.magnitude / y.magnitude) (n / 10 ^ e.natAbs) :=
      hquotient.mono (by norm_num) (by positivity)
    obtain ⟨z, hz, hsign, htotal, hrounds⟩ := exists_last hnear hlow hhigh fun hlow' hhigh' => by
      have hround := Binary64.exists_div hypos hlow' hhigh'
      rwa [hxsign, hysign, ← hscale] at hround
    refine ⟨z, hz, hsign, htotal, fun hsmall hdown hup => ?_⟩
    rwa [hxexact hsmall, hyexact (by omega)] at hrounds
  · have hvalue : (n : ℚ) * 10 ^ e = n * 10 ^ e.natAbs := by
      rw [← zpow_natCast]
      congr 2
      omega
    have hscale : scale? n e = x.mul? y := by
      have hup : e.toNat = e.natAbs := by omega
      have hmax : e ≤ maxPower := by unfold maxPower; omega
      rw [scale?, hx, Option.bind_some, if_neg (by omega), if_pos hmax, hup, hy, Option.bind_some]
    rw [hvalue] at hlow hhigh ⊢
    have hproduct := hxnear.mul hynear hypos.le hn.le (by norm_num)
    have hnear : Near (17 / 2 ^ 56) (x.magnitude * y.magnitude) (n * 10 ^ e.natAbs) :=
      hproduct.mono (by norm_num) (by positivity)
    obtain ⟨z, hz, hsign, htotal, hrounds⟩ := exists_last hnear hlow hhigh fun hlow' hhigh' => by
      have hround := Binary64.exists_mul hlow' hhigh'
      rwa [hxsign, hysign, ← hscale] at hround
    refine ⟨z, hz, hsign, htotal, fun hsmall hdown hup => ?_⟩
    rwa [hxexact hsmall, hyexact (by omega)] at hrounds

/-! ## Zero -/

theorem exists_power_of_le {k : ℕ} (hk : k ≤ maxPower) : ∃ y, power? k = some y := by
  rcases Nat.lt_or_ge k maxPower with hlt | hge
  · obtain ⟨top, htop, hrange⟩ : ∃ top, maxPower = top + 1 ∧
        Nat.pow 10 top * Binary64.one < Nat.pow 2 (53 + 2044) := ⟨307, rfl, by decide +kernel⟩
    have hpow : Nat.pow 10 k ≤ Nat.pow 10 top := Nat.pow_le_pow_right (by decide) (by omega)
    have hplace : Binary64.place (Nat.pow 10 k * Binary64.one / 1) ≤ 2044 := by
      rw [Nat.div_one]
      exact Binary64.place_le_of_lt ((Nat.mul_le_mul_right _ hpow).trans_lt hrange)
    obtain ⟨y, hy, -⟩ := Binary64.exists_parts (Nat.pow 10 k * Binary64.one) Nat.one_pos false hplace
    exact ⟨y, hy⟩
  · obtain rfl : k = maxPower := Nat.le_antisymm hk hge
    exact Option.isSome_iff_exists.mp (by decide +kernel)

theorem exists_mul_zero {x : Binary64} (y : Binary64) (hx : x.isZero = true) :
    ∃ z, x.mul? y = some z ∧ z.isZero = true := by
  refine ⟨.zero (x.negative != y.negative), ?_, rfl⟩
  rw [Binary64.mul?, Shortest.scaled_eq_zero hx, zero_mul, Binary64.round?_zero]

theorem exists_div_zero {x : Binary64} (y : Binary64) (hx : x.isZero = true) :
    ∃ z, x.div? y = some z ∧ z.isZero = true := by
  refine ⟨.zero (x.negative != y.negative), ?_, rfl⟩
  rw [Binary64.div?, Shortest.scaled_eq_zero hx, zero_mul, Binary64.round?_zero]

theorem exists_shrink_zero {x : Binary64} (hx : x.isZero = true) (k : ℕ) :
    ∃ z, shrink? x k = some z ∧ z.isZero = true := by
  rw [shrink?]
  split
  case isTrue hk =>
    obtain ⟨y, hy⟩ := exists_power_of_le hk
    rw [hy, Option.bind_some]
    exact exists_div_zero y hx
  case isFalse => exact ⟨x, rfl, hx⟩

theorem exists_scale_zero (e : ℤ) : ∃ z, scale? 0 e = some z ∧ z.isZero = true := by
  obtain ⟨x, hx, hzero⟩ : ∃ x, Binary64.ofNat? 0 = some x ∧ x.isZero = true := by
    refine ⟨.zero false, ?_, rfl⟩
    rw [Binary64.ofNat?, zero_mul, Binary64.round?_zero]
  rw [scale?, hx, Option.bind_some]
  split
  · exact exists_shrink_zero hzero _
  · split
    case isTrue hk =>
      have hk' : e.toNat ≤ maxPower := by omega
      obtain ⟨y, hy⟩ := exists_power_of_le hk'
      rw [hy, Option.bind_some]
      exact exists_mul_zero y hzero
    case isFalse => exact ⟨x, rfl, hzero⟩

/-! ## Tokens -/

theorem magnitude?_eq {t : NumberToken} (hpower : |t.power| < 2 ^ 31) (n : ℕ) (e : ℤ) :
    magnitude? n e t.exponent = scale? n (e + t.power) := by
  unfold NumberToken.power at *
  cases hexponent : t.exponent with
  | none => simp [magnitude?]
  | some p =>
    obtain ⟨down, ds⟩ := p
    rw [hexponent] at hpower
    rw [magnitude?]
    cases down with
    | true =>
      simp only [abs_neg, Nat.abs_cast] at hpower
      simp only [if_true]
      rw [if_pos (by omega), sub_eq_add_neg]
    | false =>
      simp only [Nat.abs_cast] at hpower
      simp only [Bool.false_eq_true, if_false]
      rw [if_pos (by omega)]

theorem magnitude?_zero (t : NumberToken) (e : ℤ) :
    ∃ z, magnitude? 0 e t.exponent = some z ∧ z.isZero = true := by
  cases t.exponent with
  | none => exact exists_scale_zero e
  | some p =>
    obtain ⟨down, ds⟩ := p
    rw [magnitude?]
    split
    · exact exists_scale_zero _
    · exact ⟨.zero false, by simp, rfl⟩

end Number

namespace NumberToken

variable {t : NumberToken}

theorem near_significand (ht : t.Legal) :
    Near (1 / 2 ^ 60) (t.significand * 10 ^ (t.start + t.power)) t.magnitude := by
  have hten : (0 : ℚ) ≤ 10 ^ (t.power - t.fraction.length) := by positivity
  have hnear := (Number.near_gathered ht.whole_digits ht.fraction_digits).mul_const hten
  have hlast := Number.gather_snd_le t.fraction (Number.gather t.whole 0).1
  have hpower : t.start + t.power = ((t.fraction.length -
      (Number.gather t.fraction (Number.gather t.whole 0).1).2 : ℕ) : ℤ) +
      (t.whole.length - (Number.gather t.whole 0).2 : ℕ) + (t.power - t.fraction.length) := by
    unfold start
    omega
  rw [hpower, zpow_add₀ (by norm_num), zpow_add₀ (by norm_num), zpow_natCast, zpow_natCast,
    ← mul_assoc, ← mul_assoc]
  push_cast at hnear
  exact hnear

theorem significand_lt (t : NumberToken) : t.significand < 2 ^ 64 :=
  Number.gather_lt (Number.gather_lt (by decide))

/-- Digits that fit are all gathered. -/
theorem significand_of_lt (h : t.digits < 2 ^ 64) :
    t.significand = t.digits ∧ t.start = -t.fraction.length := by
  unfold digits at *
  rw [Nat.ofDigitChars_append] at *
  have hwhole := Number.gather_of_lt ((le_ofDigitChars t.fraction _).trans_lt h)
  have hfraction := Number.gather_of_lt h
  unfold significand start
  rw [hwhole, hfraction]
  exact ⟨rfl, by simp⟩

/-- Whether a token has fifteen digits at most, and the last of them at most 22 places off the point. -/
def IsShort (t : NumberToken) : Prop :=
  t.digits < 10 ^ 15 ∧ |t.power - t.fraction.length| ≤ 22

/-- How a binary value is read from a token. -/
structure ReadAs (t : NumberToken) (x : Binary64) : Prop where
  zero : t.digits = 0 → x.isZero = true
  sign : 0 < t.digits → x.negative = t.negative
  near : 0 < t.digits → Near (7 / 2 ^ 54) x.magnitude t.magnitude
  rounds : 0 < t.digits → t.IsShort → x.Rounds t.magnitude

/-- Whether a token has no digit but zeros, or stands for a number within the range of decimals and has
an exponent of 31 bits. -/
def InRange (t : NumberToken) : Prop :=
  t.digits = 0 ∨ 1 / 10 ^ 28 ≤ t.magnitude ∧ t.magnitude ≤ 2 ^ 96 ∧ |t.power| < 2 ^ 31

theorem exists_magnitude (ht : t.Legal) (h : t.InRange) :
    ∃ z, Number.magnitude? t.significand t.start t.exponent = some z ∧
      (t.digits = 0 → z.isZero = true) ∧
      (0 < t.digits → z.negative = false ∧ Near (7 / 2 ^ 54) z.magnitude t.magnitude ∧
        (t.IsShort → z.Rounds t.magnitude)) := by
  rcases Nat.eq_zero_or_pos t.digits with hzero | hpos
  · obtain ⟨hsignificand, -⟩ := significand_of_lt (t := t) (by rw [hzero]; decide)
    obtain ⟨z, hz, hz'⟩ := Number.magnitude?_zero t t.start
    refine ⟨z, by rw [hsignificand, hzero, hz], fun _ => hz', fun hpos => ?_⟩
    exact absurd hzero hpos.ne'
  · obtain ⟨hlow, hhigh, hpower⟩ := h.resolve_left hpos.ne'
    have hnear := near_significand ht
    have hmagnitude := t.magnitude_pos_iff.mpr hpos
    have hproduct := hnear.pos (by norm_num) hmagnitude
    have hsignificand : 0 < t.significand := by
      refine Nat.pos_of_ne_zero fun hzero => ?_
      rw [hzero, Nat.cast_zero, zero_mul] at hproduct
      exact lt_irrefl 0 hproduct
    have hpart : (1 : ℚ) / 2 ≤ 1 - 1 / 2 ^ 60 := by norm_num
    have hdouble : (1 : ℚ) + 1 / 2 ^ 60 ≤ 2 := by norm_num
    have hge := (mul_le_mul_of_nonneg_right hpart hmagnitude.le).trans hnear.ge
    have hle := hnear.le.trans (mul_le_mul_of_nonneg_right hdouble hmagnitude.le)
    have hsmall : (1 : ℚ) / 10 ^ 30 ≤ 1 / 2 * (1 / 10 ^ 28) := by norm_num
    have hlarge : (2 : ℚ) * 2 ^ 96 ≤ 10 ^ 30 := by norm_num
    obtain ⟨z, hz, hsign, hznear, hrounds⟩ := Number.exists_scale hsignificand t.significand_lt
      (e := t.start + t.power) (by linarith) (by linarith)
    refine ⟨z, by rw [Number.magnitude?_eq hpower, hz], fun hzero => absurd hzero hpos.ne',
      fun _ => ⟨hsign, ?_, fun ⟨hshort, hplaces⟩ => ?_⟩⟩
    · exact (hznear.trans hnear (by norm_num)).mono (by norm_num) hmagnitude.le
    · obtain ⟨hall, hstart⟩ := significand_of_lt (hshort.trans (by decide))
      have hpower' : t.start + t.power = t.power - t.fraction.length := by
        rw [hstart]
        ring
      rw [hall, hpower'] at hrounds
      obtain ⟨hdown, hup⟩ := abs_le.mp hplaces
      exact hrounds (hshort.trans (by decide)) hdown hup

/-- Whether a token is written as a whole number of 64 bits, and not as zero. -/
def FitsInteger (t : NumberToken) : Prop :=
  t.IsInteger ∧ 0 < t.digits ∧ -2 ^ 63 ≤ t.integer ∧ t.integer < 2 ^ 64

theorem ofToken?_cases (t : NumberToken) :
    (∃ i h, Number.ofToken? t = some (.whole i h)) ∨
      ¬t.FitsInteger ∧ Number.ofToken? t =
        (Number.magnitude? t.significand t.start t.exponent).map fun x =>
          .binary (if t.negative then x.neg else x) := by
  have hwhole : ∀ i : ℤ, -0x8000000000000000 ≤ i ∧ i < 0x10000000000000000 →
      ∃ h, Number.whole? i = some (.whole i h) := fun i hi => ⟨hi, by rw [Number.whole?, dif_pos hi]⟩
  have hlt : (Number.gather t.whole 0).1 < 2 ^ 64 := Number.gather_lt (by decide)
  have hfits : t.FitsInteger → Number.gather t.whole 0 = (t.digits, t.whole.length) ∧
      t.fraction = [] ∧ t.exponent = none ∧ 0 < t.digits ∧
      (t.negative = true → t.digits ≤ 0x8000000000000000) := by
    rintro ⟨⟨hfraction, hexponent⟩, hpos, hlow, hhigh⟩
    have hdigits : t.digits = Nat.ofDigitChars 10 t.whole 0 := by
      rw [digits, hfraction, List.append_nil]
    unfold integer at hlow hhigh
    rw [← hdigits] at hlow hhigh
    have hrange : t.digits < 0x10000000000000000 := by
      split at hlow
      case isTrue => omega
      case isFalse hsign =>
        rw [if_neg hsign] at hhigh
        omega
    refine ⟨?_, hfraction, hexponent, hpos, fun hsign => ?_⟩
    · rw [Number.gather_of_lt (hdigits ▸ hrange), hdigits]
    · rw [if_pos hsign] at hlow
      omega
  simp only [Number.ofToken?]
  split
  case isTrue =>
    obtain ⟨h, hi⟩ := hwhole (Number.gather t.whole 0).1 ⟨by omega, by omega⟩
    exact .inl ⟨_, h, hi⟩
  case isFalse hunsigned =>
    split
    case isTrue hsigned =>
      simp only [Bool.and_eq_true, decide_eq_true_eq] at hsigned
      obtain ⟨h, hi⟩ := hwhole (-(Number.gather t.whole 0).1) ⟨by omega, by omega⟩
      exact .inl ⟨_, h, hi⟩
    case isFalse hsigned =>
      refine .inr ⟨fun h => ?_, rfl⟩
      obtain ⟨hgather, hfraction, hexponent, hpos, hlimit⟩ := hfits h
      have hsign : t.negative = true := by
        simpa [hgather, hfraction, hexponent] using hunsigned
      simp [hgather, hfraction, hexponent, hpos.ne', hlimit hsign] at hsigned

theorem integer_eq_value (h : t.IsInteger) : (t.integer : ℚ) = t.value := by
  obtain ⟨hfraction, hexponent⟩ := h
  have hmagnitude : t.magnitude = Nat.ofDigitChars 10 t.whole 0 := by
    simp [magnitude, power, hfraction, hexponent]
  rw [value, integer, hmagnitude]
  split <;> simp

theorem fitsInteger_of_value (h : t.IsInteger) (hpos : 0 < t.digits) (hlow : -2 ^ 63 ≤ t.value)
    (hhigh : t.value < 2 ^ 64) : t.FitsInteger := by
  rw [← integer_eq_value h] at hlow hhigh
  exact ⟨h, hpos, by exact_mod_cast hlow, by exact_mod_cast hhigh⟩

theorem value_of_whole {i : ℤ} {h} (ht : Number.ofToken? t = some (.whole i h)) : t.value = i := by
  obtain ⟨hwhole, hinteger⟩ := integer_of_whole ht
  rw [← integer_eq_value hwhole, hinteger]

/-- A token within range is read as the whole number that it stands for, or as a binary value near that
number; the former if it is written as a whole number of 64 bits. -/
theorem exists_ofToken (ht : t.Legal) (h : t.InRange) :
    (∃ i h, Number.ofToken? t = some (.whole i h) ∧ t.value = i) ∨
      ¬t.FitsInteger ∧ ∃ x, Number.ofToken? t = some (.binary x) ∧ t.ReadAs x := by
  rcases ofToken?_cases t with ⟨i, hi, hwhole⟩ | ⟨hfits, hbinary⟩
  · exact .inl ⟨i, hi, hwhole, value_of_whole hwhole⟩
  · obtain ⟨z, hz, hzero, hnear⟩ := exists_magnitude ht h
    rw [hz, Option.map_some] at hbinary
    refine .inr ⟨hfits, _, hbinary, ?_⟩
    have hmagnitude : z.neg.magnitude = z.magnitude := rfl
    have hrounds : ∀ v, z.Rounds v → z.neg.Rounds v := fun v hv => ⟨hv.near, hv.has⟩
    cases hsign : t.negative with
    | true =>
      refine ⟨hzero, fun hpos => ?_, fun hpos => (hnear hpos).2.1, fun hpos hshort =>
        hrounds _ ((hnear hpos).2.2 hshort)⟩
      simp [Binary64.neg, (hnear hpos).1, hsign]
    | false =>
      exact ⟨hzero, fun hpos => (hnear hpos).1.trans hsign.symm, fun hpos => (hnear hpos).2.1,
        fun hpos => (hnear hpos).2.2⟩

end NumberToken
end Json
end MarketWire
