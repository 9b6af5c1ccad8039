import MarketWire.Proofs.Json.Spelling
import MarketWire.Proofs.Json.TokenValue
import MarketWire.Proofs.Number.DecimalText

/-!
# Decimals read from tokens

The text of a number token is read as a decimal without loss. Places and digits that do not fit are
zeros, as long as the number before the exponent is a decimal, so that rounding at them changes
nothing; and an exponent moves the point exactly or not at all.
-/
namespace MarketWire
namespace Decimal

open Json (NumberToken)

/-! ## Digits behind the point -/

/-- Digits that make up a decimal do not matter once the places or the mantissa run out. -/
theorem tail_eq_zero {m s len tail n scale : ℕ} (htail : tail < 10 ^ len) (hn : n < limit)
    (hscale : scale ≤ maxScale) (hvalue : (m * 10 ^ len + tail) * 10 ^ scale = n * 10 ^ (s + len))
    (hfull : s = maxScale ∨ limit * 10 ^ len ≤ 10 * (m * 10 ^ len + tail)) : tail = 0 := by
  rcases Nat.lt_or_ge s scale with hlt | hle
  · exfalso
    have hlarge := hfull.resolve_left (by omega)
    obtain ⟨d, rfl⟩ := Nat.exists_eq_add_of_lt hlt
    have hcancel : (m * 10 ^ len + tail) * 10 * 10 ^ d = n * 10 ^ len := by
      refine Nat.eq_of_mul_eq_mul_right (Nat.pow_pos (n := s) (by decide : 0 < 10)) ?_
      calc (m * 10 ^ len + tail) * 10 * 10 ^ d * 10 ^ s
          = (m * 10 ^ len + tail) * 10 ^ (s + d + 1) := by ring
        _ = n * 10 ^ (s + len) := hvalue
        _ = n * 10 ^ len * 10 ^ s := by ring
    have hge : limit * 10 ^ len ≤ n * 10 ^ len := by
      rw [← hcancel, mul_comm _ 10]
      exact hlarge.trans (Nat.le_mul_of_pos_right _ (Nat.pow_pos (by decide)))
    exact absurd (Nat.le_of_mul_le_mul_right hge (Nat.pow_pos (by decide))) (Nat.not_le.mpr hn)
  · obtain ⟨d, rfl⟩ := Nat.exists_eq_add_of_le hle
    have hcancel : m * 10 ^ len + tail = n * 10 ^ d * 10 ^ len := by
      refine Nat.eq_of_mul_eq_mul_right (Nat.pow_pos (n := scale) (by decide : 0 < 10)) ?_
      rw [hvalue]
      ring
    have hdvd : 10 ^ len ∣ tail :=
      (Nat.dvd_add_right (Nat.dvd_mul_left _ m)).mp (hcancel ▸ Nat.dvd_mul_left _ _)
    exact Nat.eq_zero_of_dvd_of_lt hdvd htail

theorem roundBy_zero {c : Char} {cs : List Char} (hcs : ∀ d ∈ c :: cs, d.isDigit = true)
    (hzero : digit c = 0) (m s : ℕ) : roundBy m s (c :: cs) = some (m, s) := by
  have hfiller : cs.all isFiller = true := by
    rw [List.all_eq_true]
    intro d hd
    simp [isFiller, hcs d (List.mem_cons_of_mem c hd)]
  rw [roundBy, if_pos (hcs c List.mem_cons_self), if_pos hfiller, hzero, roundAt, if_pos (by decide)]

/-- Digits behind the point of a decimal, in any number. -/
theorem magnitude_decimal {ds : List Char} {m s n scale : ℕ} (hds : ∀ c ∈ ds, c.isDigit = true)
    (hs : s ≤ maxScale) (hm : m < limit) (hn : n < limit) (hscale : scale ≤ maxScale)
    (hvalue : Nat.ofDigitChars 10 ds m * 10 ^ scale = n * 10 ^ (s + ds.length)) :
    ∃ m' s', magnitude ds m s true true = some (m', s') ∧
      m' * 10 ^ (s + ds.length) = Nat.ofDigitChars 10 ds m * 10 ^ s' ∧ s' ≤ s + ds.length ∧
      m' < limit ∧ s' ≤ maxScale := by
  induction ds generalizing m s with
  | nil => exact ⟨m, s, by simp [magnitude], by simp [Nat.ofDigitChars_nil], le_rfl, hm, hs⟩
  | cons c cs ih =>
    have hc := hds c List.mem_cons_self
    have hrest := fun d hd => hds d (List.mem_cons_of_mem c hd)
    have hstep : Nat.ofDigitChars 10 (c :: cs) m = Nat.ofDigitChars 10 cs (10 * m + digit c) :=
      Nat.ofDigitChars_cons ..
    have hsplit : Nat.ofDigitChars 10 (c :: cs) m =
        m * 10 ^ (c :: cs).length + Nat.ofDigitChars 10 (c :: cs) 0 := by
      rw [Nat.ofDigitChars_eq_ofDigitChars_zero, mul_comm]
    have htail := (Json.within_ofDigitChars hds 0).2
    rw [Nat.zero_add, Nat.one_mul] at htail
    by_cases hfull : s = maxScale ∨ limit ≤ 10 * m + digit c
    · have hzero : Nat.ofDigitChars 10 (c :: cs) 0 = 0 := by
        refine tail_eq_zero htail hn hscale (hsplit ▸ hvalue) (hfull.imp_right fun hlimit => ?_)
        rw [← hsplit, hstep, List.length_cons, pow_succ', mul_left_comm]
        exact Nat.mul_le_mul_left 10 ((Nat.mul_le_mul_right _ hlimit).trans
          (Json.within_ofDigitChars hrest _).1)
      have hdigit : digit c = 0 := by
        have hle := Json.le_ofDigitChars cs (10 * 0 + digit c)
        have hcons : Nat.ofDigitChars 10 (c :: cs) 0 = Nat.ofDigitChars 10 cs (10 * 0 + digit c) :=
          Nat.ofDigitChars_cons ..
        omega
      have hmagnitude : magnitude (c :: cs) m s true true = some (m, s) := by
        rw [magnitude]
        rcases hfull with rfl | hlimit
        · simp [roundBy_zero hds hdigit]
        · simp only [Bool.true_and, hc, if_true, if_neg (Nat.not_lt.mpr hlimit)]
          rw [roundBy_zero hds hdigit, ite_self]
      refine ⟨m, s, hmagnitude, ?_, Nat.le_add_right _ _, hm, hs⟩
      rw [hsplit, hzero]
      ring
    · push Not at hfull
      obtain ⟨hroom, hfits⟩ := hfull
      have hlength : s + (c :: cs).length = s + 1 + cs.length := by
        rw [List.length_cons]
        omega
      have hmagnitude : magnitude (c :: cs) m s true true =
          magnitude cs (10 * m + digit c) (s + 1) true true := by
        rw [magnitude]
        simp [hroom, hc, hfits]
      rw [hstep, hlength] at hvalue ⊢
      rw [hmagnitude]
      exact ih hrest (by omega) hfits hvalue

/-- Digits with a point before those of the fraction. -/
theorem magnitude_plain {whole fraction : List Char} {n scale : ℕ}
    (hwhole : ∀ c ∈ whole, c.isDigit = true) (hne : whole ≠ [])
    (hfraction : ∀ c ∈ fraction, c.isDigit = true) (hn : n < limit) (hscale : scale ≤ maxScale)
    (hvalue : Nat.ofDigitChars 10 (whole ++ fraction) 0 * 10 ^ scale = n * 10 ^ fraction.length) :
    ∃ m s, magnitude (whole ++ NumberToken.fractionChars fraction) 0 0 false false = some (m, s) ∧
      m * 10 ^ fraction.length = Nat.ofDigitChars 10 (whole ++ fraction) 0 * 10 ^ s ∧
      s ≤ fraction.length ∧ m < limit ∧ s ≤ maxScale := by
  rw [Nat.ofDigitChars_append] at hvalue ⊢
  have hfits : Nat.ofDigitChars 10 whole 0 < limit := by
    refine lt_of_le_of_lt (Nat.le_of_mul_le_mul_right ?_ (Nat.pow_pos (n := fraction.length)
      (by decide : 0 < 10))) hn
    calc Nat.ofDigitChars 10 whole 0 * 10 ^ fraction.length
        ≤ Nat.ofDigitChars 10 fraction (Nat.ofDigitChars 10 whole 0) :=
          (Json.within_ofDigitChars hfraction _).1
      _ ≤ _ := Nat.le_mul_of_pos_right _ (Nat.pow_pos (by decide))
      _ = n * 10 ^ fraction.length := hvalue
  have hseen : (!whole.isEmpty) = true := by simpa using hne
  rw [magnitude_append hwhole hfits, hseen, Bool.or_true]
  generalize Nat.ofDigitChars 10 whole 0 = m at *
  cases fraction with
  | nil => exact ⟨m, 0, rfl, rfl, le_rfl, hfits, Nat.zero_le _⟩
  | cons c cs =>
    have hpoint : magnitude ('.' :: c :: cs) m 0 false true = magnitude (c :: cs) m 0 true true := by
      simp [magnitude]
    have hread := magnitude_decimal (s := 0) hfraction (Nat.zero_le _) hfits hn hscale
      (by rwa [Nat.zero_add])
    rw [Nat.zero_add] at hread
    rw [NumberToken.fractionChars, hpoint]
    exact hread

/-! ## Plain notation -/

theorem splitSign_signed (negative : Bool) {c : Char} (hc : c.isDigit = true) (cs : List Char) :
    splitSign (Binary64.signed negative (c :: cs)) = (negative, c :: cs) := by
  have hminus : c ≠ '-' := by rintro rfl; cases hc
  have hplus : c ≠ '+' := by rintro rfl; cases hc
  cases negative with
  | true => rfl
  | false =>
    rw [Binary64.signed, if_neg Bool.false_ne_true, splitSign]
    · exact fun _ h => hminus (List.cons.inj h).1
    · exact fun _ h => hplus (List.cons.inj h).1

/-- The number with its sign. -/
def signedValue (negative : Bool) (q : ℚ) : ℚ := if negative then -q else q

theorem value_eq (d : Decimal) : d.value = signedValue d.negative (d.mantissa / 10 ^ d.scale) := by
  rw [value, units, signedValue]
  split
  · rw [Int.cast_neg, Int.cast_natCast, neg_div]
  · rw [Int.cast_natCast]

/-- Whether a decimal before an exponent can be read: digits and places fit. -/
def Fits (t : NumberToken) : Prop :=
  ∃ n scale, n < limit ∧ scale ≤ maxScale ∧ t.digits * 10 ^ scale = n * 10 ^ t.fraction.length

theorem exists_ofPlain {t : NumberToken} (ht : t.Legal) (h : Fits t) :
    ∃ d, ofPlain? (Binary64.signed t.negative (t.whole ++ NumberToken.fractionChars t.fraction)) =
        some d ∧
      d.value = signedValue t.negative (t.digits / 10 ^ t.fraction.length) ∧
      d.scale ≤ t.fraction.length := by
  obtain ⟨n, scale, hn, hscale, hvalue⟩ := h
  obtain ⟨m, s, hread, hmantissa, hs, hm, hs'⟩ :=
    magnitude_plain ht.whole_digits ht.whole_ne ht.fraction_digits hn hscale hvalue
  obtain ⟨c, cs, hwhole⟩ := List.exists_cons_of_ne_nil ht.whole_ne
  have hc : c.isDigit = true := ht.whole_digits c (hwhole ▸ List.mem_cons_self)
  have hsplit := splitSign_signed t.negative hc (cs ++ NumberToken.fractionChars t.fraction)
  rw [← List.cons_append, ← hwhole] at hsplit
  refine ⟨⟨t.negative && m != 0, m, s, hm, hs'⟩, ?_, ?_, hs⟩
  · rw [ofPlain?, hsplit]
    simp only [hread, Option.bind_some]
    rw [make?, dif_pos ⟨hm, hs'⟩]
  · have hquotient : (m : ℚ) / 10 ^ s = t.digits / 10 ^ t.fraction.length := by
      rw [div_eq_div_iff (by positivity) (by positivity)]
      exact_mod_cast hmantissa
    rw [value_eq, ← hquotient]
    rcases Nat.eq_zero_or_pos m with rfl | hpos
    · simp [signedValue]
    · have hne : (m != 0) = true := bne_iff_ne.mpr hpos.ne'
      simp [hne]

/-! ## Exponents -/

theorem make?_eq_some_iff {negative : Bool} {m s : ℕ} {d : Decimal} :
    make? negative m s = some d ↔ d.negative = negative ∧ d.mantissa = m ∧ d.scale = s := by
  unfold make?
  split
  case isTrue h =>
    rw [Option.some.injEq]
    constructor
    · rintro rfl
      exact ⟨rfl, rfl, rfl⟩
    · rintro ⟨rfl, rfl, rfl⟩
      rfl
  case isFalse h =>
    constructor
    · intro hnone
      cases hnone
    · rintro ⟨rfl, rfl, rfl⟩
      exact absurd ⟨d.mantissa_lt, d.scale_le⟩ h

theorem exists_make (negative : Bool) {m s : ℕ} (hm : m < limit) (hs : s ≤ maxScale) :
    ∃ d, make? negative m s = some d := ⟨_, dif_pos ⟨hm, hs⟩⟩

theorem signedValue_mul (negative : Bool) (q c : ℚ) :
    signedValue negative (q * c) = signedValue negative q * c := by
  cases negative <;> simp [signedValue]

theorem value_shiftRight {d d' : Decimal} {n : ℕ} (h : d.shiftRight? n = some d') :
    d'.value = d.value * 10 ^ n := by
  rw [value_eq d', value_eq d, ← signedValue_mul]
  unfold shiftRight? at h
  split at h
  case isTrue hle =>
    obtain ⟨hsign, hm, hs⟩ := make?_eq_some_iff.mp h
    obtain ⟨k, hk⟩ := Nat.exists_eq_add_of_le hle
    have hplaces : d.scale - n = k := by omega
    rw [hsign, hm, hs, hplaces, hk, pow_add]
    congr 1
    field_simp
  case isFalse hgt =>
    split at h
    · cases h
    · obtain ⟨hsign, hm, hs⟩ := make?_eq_some_iff.mp h
      obtain ⟨k, hk⟩ := Nat.exists_eq_add_of_le (Nat.le_of_not_le hgt)
      have hplaces : n - d.scale = k := by omega
      rw [hsign, hm, hs, hplaces, hk, pow_add, Nat.pow_eq]
      push_cast
      congr 1
      field_simp

theorem exists_shiftRight {d : Decimal} {n : ℕ} (hn : n ≤ maxScale)
    (h : |d.value * 10 ^ n| < 2 ^ 96) : ∃ d', d.shiftRight? n = some d' := by
  unfold shiftRight?
  split
  case isTrue hle => exact exists_make _ d.mantissa_lt ((Nat.sub_le _ _).trans d.scale_le)
  case isFalse hgt =>
    rw [if_neg (Nat.not_lt.mpr hn)]
    refine exists_make _ ?_ (Nat.zero_le _)
    obtain ⟨k, rfl⟩ := Nat.exists_eq_add_of_le (Nat.le_of_not_le hgt)
    have hvalue : |d.value * 10 ^ (d.scale + k)| = (d.mantissa * 10 ^ k : ℕ) := by
      have hsign : ∀ q, |signedValue d.negative q| = |q| := fun q => by
        cases d.negative <;> simp [signedValue]
      rw [value_eq, ← signedValue_mul, hsign, pow_add, ← mul_assoc,
        div_mul_cancel₀ _ (by positivity), abs_of_nonneg (by positivity)]
      push_cast
      rfl
    rw [hvalue] at h
    rw [Nat.add_sub_cancel_left, Nat.pow_eq]
    have hlt : d.mantissa * 10 ^ k < 2 ^ 96 := by exact_mod_cast h
    exact hlt

theorem value_shiftLeft {d d' : Decimal} {n : ℕ} (h : d.shiftLeft? n = some d') :
    d'.value = d.value * (10 ^ n)⁻¹ := by
  rw [value_eq d', value_eq d, ← signedValue_mul]
  unfold shiftLeft? at h
  split at h
  case isTrue => cases h
  case isFalse =>
    obtain ⟨hsign, hm, hs⟩ := make?_eq_some_iff.mp h
    rw [hsign, hm, hs, pow_add]
    congr 1
    field_simp

theorem exists_shiftLeft {d : Decimal} {n : ℕ} (h : d.scale + n ≤ maxScale) :
    ∃ d', d.shiftLeft? n = some d' := by
  unfold shiftLeft?
  rw [if_neg (by omega)]
  exact exists_make _ d.mantissa_lt h

/-- Moves the point as an exponent says. -/
def moved? (d : Decimal) : Option (Bool × List Char) → Option Decimal
  | none => some d
  | some (true, ds) => (Text.countDigits? ds).bind d.shiftLeft?
  | some (false, ds) => (Text.countDigits? ds).bind d.shiftRight?

theorem power_of_none {t : NumberToken} (h : t.exponent = none) : t.power = 0 := by
  rw [NumberToken.power, h]

theorem power_of_down {t : NumberToken} {ds : List Char} (h : t.exponent = some (true, ds)) :
    t.power = -Nat.ofDigitChars 10 ds 0 := by
  rw [NumberToken.power, h]

theorem power_of_up {t : NumberToken} {ds : List Char} (h : t.exponent = some (false, ds)) :
    t.power = Nat.ofDigitChars 10 ds 0 := by
  rw [NumberToken.power, h]

theorem eq_of_countDigits? {ds : List Char} {n : ℕ} (h : Text.countDigits? ds = some n) :
    n = Nat.ofDigitChars 10 ds 0 := by
  unfold Text.countDigits? at h
  grind

theorem exists_countDigits {ds : List Char} (hne : ds ≠ []) (hds : ∀ c ∈ ds, c.isDigit = true)
    (hlt : Nat.ofDigitChars 10 ds 0 < 2 ^ 32) :
    Text.countDigits? ds = some (Nat.ofDigitChars 10 ds 0) := by
  have hempty : ds.isEmpty = false := by simpa using hne
  have hall : ds.all Char.isDigit = true := List.all_eq_true.mpr hds
  simp only [Text.countDigits?, hempty, hall, Bool.not_true, Bool.or_self, Bool.false_eq_true,
    if_false]
  exact if_pos hlt

theorem value_moved {t : NumberToken} {d d' : Decimal} (h : d.moved? t.exponent = some d') :
    d'.value = d.value * 10 ^ t.power := by
  unfold moved? at h
  split at h
  case h_1 hexponent =>
    cases h
    rw [power_of_none hexponent, zpow_zero, mul_one]
  case h_2 ds hexponent =>
    obtain ⟨n, hcount, hshift⟩ := Option.bind_eq_some_iff.mp h
    rw [power_of_down hexponent, ← eq_of_countDigits? hcount, zpow_neg, zpow_natCast,
      value_shiftLeft hshift]
  case h_3 ds hexponent =>
    obtain ⟨n, hcount, hshift⟩ := Option.bind_eq_some_iff.mp h
    rw [power_of_up hexponent, ← eq_of_countDigits? hcount, zpow_natCast, value_shiftRight hshift]

theorem exists_moved {t : NumberToken} (ht : t.Legal) {d : Decimal} (hpower : t.power ≤ maxScale)
    (hplaces : 0 ≤ t.power ∨ d.scale - t.power ≤ maxScale)
    (hlt : |d.value * 10 ^ t.power| < 2 ^ 96) : ∃ d', d.moved? t.exponent = some d' := by
  have hscale : d.scale ≤ maxScale := d.scale_le
  have hmax : maxScale = 28 := rfl
  unfold moved?
  split
  case h_1 => exact ⟨d, rfl⟩
  case h_2 ds hexponent =>
    obtain ⟨hne, hds⟩ : ds ≠ [] ∧ _ := ht.exponent_digits _ hexponent
    rw [power_of_down hexponent] at hplaces
    rw [exists_countDigits hne hds (by omega)]
    exact exists_shiftLeft (by omega)
  case h_3 ds hexponent =>
    obtain ⟨hne, hds⟩ : ds ≠ [] ∧ _ := ht.exponent_digits _ hexponent
    rw [power_of_up hexponent] at hpower hlt
    rw [exists_countDigits hne hds (by omega)]
    exact exists_shiftRight (by omega) (by rwa [zpow_natCast] at hlt)

/-! ## Spellings -/

theorem isMark_of_isDigit {c : Char} (h : c.isDigit = true) : isMark c = false := by
  have he : c ≠ 'e' := by rintro rfl; cases h
  have hE : c ≠ 'E' := by rintro rfl; cases h
  simp [isMark, he, hE]

theorem isMark_plain {t : NumberToken} (ht : t.Legal) :
    ∀ c ∈ Binary64.signed t.negative (t.whole ++ NumberToken.fractionChars t.fraction),
      isMark c = false := by
  have hfraction : ∀ c ∈ NumberToken.fractionChars t.fraction, isMark c = false := by
    have hdigits := ht.fraction_digits
    cases hds : t.fraction with
    | nil => simp [NumberToken.fractionChars]
    | cons d ds =>
      rw [hds] at hdigits
      intro c hc
      rcases List.mem_cons.mp hc with rfl | hc
      · rfl
      · exact isMark_of_isDigit (hdigits c hc)
  have hbody : ∀ c ∈ t.whole ++ NumberToken.fractionChars t.fraction, isMark c = false := by
    intro c hc
    exact (List.mem_append.mp hc).elim (fun h => isMark_of_isDigit (ht.whole_digits c h))
      (hfraction c)
  intro c hc
  unfold Binary64.signed at hc
  split at hc
  · rcases List.mem_cons.mp hc with rfl | hc
    · rfl
    · exact hbody c hc
  · exact hbody c hc

theorem ofText?_plain {base : List Char} (hbase : ∀ d ∈ base, isMark d = false) :
    ofText? (.ofList base) = ofPlain? base := by
  have hany : base.any isMark = false := by simpa using hbase
  simp [ofText?, hany]

theorem ofScientific?_split {cs power : List Char} {c : Char}
    (h : cs.dropWhile (!isMark ·) = c :: power) :
    ofScientific? cs = (ofPlain? (cs.takeWhile (!isMark ·))).bind fun d =>
      match power with
      | '-' :: ds => (Text.count? ds).bind d.shiftLeft?
      | ds => (Text.count? ds).bind d.shiftRight? := by
  unfold ofScientific?
  split
  case h_1 hnil => cases hnil.symm.trans h
  case h_2 hcons =>
    obtain ⟨-, rfl⟩ := List.cons.inj (hcons.symm.trans h)
    rfl

theorem ofText?_marked {base power : List Char} (hbase : ∀ d ∈ base, isMark d = false) {c : Char}
    (hc : isMark c = true) :
    ofText? (.ofList (base ++ c :: power)) = (ofPlain? base).bind fun d =>
      match power with
      | '-' :: ds => (Text.count? ds).bind d.shiftLeft?
      | ds => (Text.count? ds).bind d.shiftRight? := by
  have hall : ∀ d ∈ base, (!isMark d) = true := by simpa using hbase
  have hany : (base ++ c :: power).any isMark = true := by simp [hc]
  have hdrop : (base ++ c :: power).dropWhile (!isMark ·) = c :: power := by
    rw [List.dropWhile_append_of_pos hall]
    simp [hc]
  have htake : (base ++ c :: power).takeWhile (!isMark ·) = base := by
    rw [List.takeWhile_append_of_pos hall]
    simp [hc]
  rw [ofText?, String.toList_ofList, if_pos hany, ofScientific?_split hdrop, htake]

theorem count?_digits {ds : List Char} (hds : ∀ c ∈ ds, c.isDigit = true) :
    Text.count? ds = Text.countDigits? ds := by
  unfold Text.count?
  split
  · exact absurd (hds '+' List.mem_cons_self) (by decide)
  · rfl

/-- A spelling of a token is read as the number before the exponent, with the point moved. -/
theorem ofText?_spelling {t : NumberToken} (ht : t.Legal) {cs : List Char} (h : t.Spells cs) :
    ofText? (.ofList cs) =
      (ofPlain? (Binary64.signed t.negative (t.whole ++ NumberToken.fractionChars t.fraction))).bind
        (moved? · t.exponent) := by
  obtain ⟨exponent, hspells, rfl⟩ := h
  have hbase := isMark_plain ht
  have hsigned : Binary64.signed t.negative
      (t.whole ++ (NumberToken.fractionChars t.fraction ++ exponent)) =
      Binary64.signed t.negative (t.whole ++ NumberToken.fractionChars t.fraction) ++ exponent := by
    unfold Binary64.signed
    split <;> simp
  have hdigits := ht.exponent_digits
  rw [hsigned]
  cases hexponent : t.exponent with
  | none =>
    rw [hexponent] at hspells
    cases hspells
    rw [List.append_nil, ofText?_plain hbase]
    simp [moved?]
  | some p =>
    rw [hexponent] at hspells hdigits
    obtain ⟨hne, hds⟩ := hdigits p rfl
    cases hspells with
    | down hc ds => rw [ofText?_marked hbase hc]; simp only [moved?, count?_digits hds]
    | plus hc ds =>
      rw [ofText?_marked hbase hc]
      rfl
    | bare hc ds =>
      rw [ofText?_marked hbase hc]
      simp only [moved?]
      split
      · exact absurd (hds '-' List.mem_cons_self) (by decide)
      · rw [count?_digits hds]

theorem value_before_mark (t : NumberToken) :
    signedValue t.negative (t.digits / 10 ^ t.fraction.length) * 10 ^ t.power = t.value := by
  rw [← signedValue_mul, NumberToken.value, NumberToken.magnitude_eq, zpow_sub₀ (by norm_num),
    zpow_natCast, div_mul_eq_mul_div, mul_div_assoc]
  rfl

/-- Whatever a token is read as in a text is what it stands for. -/
theorem value_of_spelling {t : NumberToken} (ht : t.Legal) (hfits : Fits t) {cs : List Char}
    (hcs : t.Spells cs) {d : Decimal} (h : ofText? (.ofList cs) = some d) : d.value = t.value := by
  obtain ⟨base, hread, hvalue, -⟩ := exists_ofPlain ht hfits
  rw [ofText?_spelling ht hcs, hread, Option.bind_some] at h
  rw [value_moved h, hvalue, value_before_mark]

theorem exists_ofText {t : NumberToken} (ht : t.Legal) (hfits : Fits t) {cs : List Char}
    (hcs : t.Spells cs) (hlt : |t.value| < 2 ^ 96) (hpower : t.power ≤ maxScale)
    (hplaces : 0 ≤ t.power ∨ t.fraction.length - t.power ≤ maxScale) :
    ∃ d, ofText? (.ofList cs) = some d ∧ d.value = t.value := by
  obtain ⟨base, hread, hvalue, hscale⟩ := exists_ofPlain ht hfits
  have hmoved : base.value * 10 ^ t.power = t.value := by rw [hvalue, value_before_mark]
  obtain ⟨d, hd⟩ := exists_moved ht (d := base) hpower (by omega) (by rwa [hmoved])
  refine ⟨d, ?_, (value_moved hd).trans hmoved⟩
  rw [ofText?_spelling ht hcs, hread, Option.bind_some, hd]

end Decimal
end MarketWire
