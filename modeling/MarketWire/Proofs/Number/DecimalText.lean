import MarketWire.Number.Decimal.Notation
import MarketWire.Proofs.Json.Numeral

/-!
# Reading decimals as they are written

A decimal is read back from its text with all its places. Only a zero is read without its sign, so
a zero written with a minus comes back as the other zero.
-/
namespace MarketWire
namespace Decimal

/-- The decimal that stands for the same amount, and is no zero with a minus sign. -/
def settled (d : Decimal) : Decimal := { d with negative := d.negative && d.mantissa != 0 }

theorem units_settled (d : Decimal) : d.settled.units = d.units := by
  by_cases hm : d.mantissa = 0 <;> simp [units, settled, hm]

theorem scale_settled (d : Decimal) : d.settled.scale = d.scale := rfl

theorem settled_settled (d : Decimal) : d.settled.settled = d.settled := by
  simp [settled]

theorem settled_eq_iff {d : Decimal} :
    d.settled = d ↔ (d.negative = true → d.mantissa ≠ 0) := by
  obtain ⟨negative, mantissa, scale, hm, hs⟩ := d
  cases negative <;> simp [settled]

/-! ## Digits -/

/-- Digits before the point. -/
theorem magnitude_append {ds rest : List Char} {m : Nat} {seen : Bool}
    (hds : ∀ c ∈ ds, c.isDigit = true) (h : Nat.ofDigitChars 10 ds m < limit) :
    magnitude (ds ++ rest) m 0 false seen =
      magnitude rest (Nat.ofDigitChars 10 ds m) 0 false (seen || !ds.isEmpty) := by
  induction ds generalizing m seen with
  | nil => simp [Nat.ofDigitChars_nil]
  | cons c ds ih =>
    rw [Nat.ofDigitChars_cons] at h ⊢
    have hc := hds c List.mem_cons_self
    -- Later digits only add to the mantissa, so it has been below the limit all along.
    have hm : 10 * m + digit c < limit := Nat.lt_of_le_of_lt (Json.le_ofDigitChars ds _) h
    rw [List.cons_append, magnitude]
    simp only [Bool.false_and, Bool.false_eq_true, if_false, hc, if_true, hm]
    rw [digit, ih (fun d hd => hds d (List.mem_cons_of_mem c hd)) h]
    simp

/-- Digits behind the point, no more than there may be places. -/
theorem magnitude_places {ds : List Char} {m s : Nat} (hds : ∀ c ∈ ds, c.isDigit = true)
    (h : Nat.ofDigitChars 10 ds m < limit) (hs : s + ds.length ≤ maxScale) :
    magnitude ds m s true true = some (Nat.ofDigitChars 10 ds m, s + ds.length) := by
  induction ds generalizing m s with
  | nil => simp [magnitude, Nat.ofDigitChars_nil]
  | cons c ds ih =>
    rw [Nat.ofDigitChars_cons] at h ⊢
    rw [List.length_cons] at hs ⊢
    have hc := hds c List.mem_cons_self
    have hm : 10 * m + digit c < limit := Nat.lt_of_le_of_lt (Json.le_ofDigitChars ds _) h
    have hroom : (s == maxScale) = false := beq_eq_false_iff_ne.mpr (by omega)
    rw [magnitude]
    simp only [hroom, Bool.and_false, Bool.false_eq_true, if_false, hc, if_true, hm]
    rw [digit, ih (fun d hd => hds d (List.mem_cons_of_mem c hd)) h (by omega)]
    simp only [Option.some.injEq, Prod.mk.injEq, true_and]
    omega

/-- A point between digits. -/
theorem magnitude_point {ds : List Char} {m : Nat} (hds : ∀ c ∈ ds, c.isDigit = true)
    (h : Nat.ofDigitChars 10 ds m < limit) (hs : ds.length ≤ maxScale) :
    magnitude ('.' :: ds) m 0 false true = some (Nat.ofDigitChars 10 ds m, ds.length) := by
  have hread := magnitude_places (s := 0) hds h (by omega)
  simpa [magnitude] using hread

/-! ## Texts -/

/-- The digits of a decimal, at least one of them before the point. -/
def padded (d : Decimal) : List Char :=
  List.replicate (d.scale + 1 - (Nat.toDigits 10 d.mantissa).length) '0' ++
    Nat.toDigits 10 d.mantissa

def body (d : Decimal) : List Char :=
  let whole := d.padded.take (d.padded.length - d.scale)
  if d.scale = 0 then whole else whole ++ '.' :: d.padded.drop (d.padded.length - d.scale)

theorem chars_eq (d : Decimal) : d.chars = if d.negative then '-' :: d.body else d.body := rfl

theorem isDigit_of_mem_padded (d : Decimal) : ∀ c ∈ d.padded, c.isDigit = true := by
  intro c hc
  rcases List.mem_append.mp hc with hc | hc
  · rw [List.eq_of_mem_replicate hc]
    rfl
  · exact Json.isDigit_of_mem_digits c hc

theorem ofDigitChars_padded (d : Decimal) : Nat.ofDigitChars 10 d.padded 0 = d.mantissa := by
  rw [padded, Nat.ofDigitChars_append, Nat.ofDigitChars_replicate_zero, Nat.mul_zero,
    Nat.ofDigitChars_ten_toDigits]

theorem lt_length_padded (d : Decimal) : d.scale < d.padded.length := by
  rw [padded, List.length_append, List.length_replicate]
  omega

theorem magnitude_body (d : Decimal) :
    magnitude d.body 0 0 false false = some (d.mantissa, d.scale) := by
  have hlen := d.lt_length_padded
  let whole := d.padded.take (d.padded.length - d.scale)
  let places := d.padded.drop (d.padded.length - d.scale)
  have hwhole : ∀ c ∈ whole, c.isDigit = true := fun c hc =>
    d.isDigit_of_mem_padded c (List.mem_of_mem_take hc)
  have hplaces : ∀ c ∈ places, c.isDigit = true := fun c hc =>
    d.isDigit_of_mem_padded c (List.mem_of_mem_drop hc)
  have hne : whole.isEmpty = false := by
    rw [List.isEmpty_eq_false_iff, ne_eq, ← List.length_eq_zero_iff, List.length_take]
    omega
  have hcount : places.length = d.scale := by
    rw [List.length_drop]
    omega
  have hvalue : Nat.ofDigitChars 10 places (Nat.ofDigitChars 10 whole 0) = d.mantissa := by
    rw [← Nat.ofDigitChars_append, List.take_append_drop, d.ofDigitChars_padded]
  have hlimit : Nat.ofDigitChars 10 places (Nat.ofDigitChars 10 whole 0) < limit :=
    hvalue ▸ d.mantissa_lt
  have hfirst : Nat.ofDigitChars 10 whole 0 < limit :=
    Nat.lt_of_le_of_lt (Json.le_ofDigitChars places _) hlimit
  have hbody : d.body = if d.scale = 0 then whole else whole ++ '.' :: places := rfl
  rw [hbody]
  split
  case isTrue hzero =>
    have hnone : places = [] := List.eq_nil_of_length_eq_zero (hcount.trans hzero)
    have hread : magnitude (whole ++ []) 0 0 false false = _ := magnitude_append hwhole hfirst
    rw [hnone, Nat.ofDigitChars_nil] at hvalue
    rw [List.append_nil, hne, hvalue] at hread
    rw [hread, hzero]
    rfl
  case isFalse =>
    have hpoint := magnitude_point hplaces hlimit (hcount.symm ▸ d.scale_le)
    rw [magnitude_append hwhole hfirst, hne, Bool.false_or, Bool.not_false, hpoint, hvalue, hcount]

theorem splitSign_body (d : Decimal) : splitSign d.body = (false, d.body) := by
  have hlen := d.lt_length_padded
  cases hds : d.padded.take (d.padded.length - d.scale) with
  | nil =>
    rw [List.take_eq_nil_iff, ← List.length_eq_zero_iff] at hds
    omega
  | cons c cs =>
    have hc : c.isDigit = true :=
      d.isDigit_of_mem_padded c (List.mem_of_mem_take (hds ▸ List.mem_cons_self))
    have hminus : c ≠ '-' := by rintro rfl; cases hc
    have hplus : c ≠ '+' := by rintro rfl; cases hc
    obtain ⟨rest, hbody⟩ : ∃ rest, d.body = c :: rest := by
      unfold body
      simp only [hds]
      split
      · exact ⟨cs, rfl⟩
      · exact ⟨_, List.cons_append⟩
    rw [hbody, splitSign]
    · exact fun _ h => hminus (List.cons.inj h).1
    · exact fun _ h => hplus (List.cons.inj h).1

theorem splitSign_chars (d : Decimal) : splitSign d.chars = (d.negative, d.body) := by
  rw [chars_eq]
  cases d.negative with
  | true => rfl
  | false => exact d.splitSign_body

/-- A decimal is read back with its places, and a zero without its sign. -/
theorem ofPlain?_chars (d : Decimal) : ofPlain? d.chars = some d.settled := by
  have hmake : ∀ negative, make? negative d.mantissa d.scale =
      some ⟨negative, d.mantissa, d.scale, d.mantissa_lt, d.scale_le⟩ :=
    fun negative => by rw [make?, dif_pos ⟨d.mantissa_lt, d.scale_le⟩]
  rw [ofPlain?, splitSign_chars]
  simp only [magnitude_body, Option.bind_some, hmake]
  rfl

/-- The minus sign of a zero is seen in its text. -/
theorem text_settled_iff {d : Decimal} :
    d.settled.text = d.text ↔ (d.negative = true → d.mantissa ≠ 0) := by
  rw [← settled_eq_iff]
  refine ⟨fun h => ?_, fun h => by rw [h]⟩
  have hchars : d.settled.chars = d.chars := by simpa [text] using congrArg String.toList h
  have hsign : d.settled.negative = d.negative := by
    have hsplit := d.settled.splitSign_chars
    rw [hchars, splitSign_chars] at hsplit
    exact (congrArg Prod.fst hsplit).symm
  exact congrArg (fun negative => { d with negative }) hsign

end Decimal
end MarketWire
