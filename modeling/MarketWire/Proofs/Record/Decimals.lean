import Mathlib
import MarketWire.Proofs.Number.OfNumber
import MarketWire.Proofs.Record.Elements

/-!
# Decimals in rows

A token that stands for a decimal may come as a number or as a string. As a number it goes through a
binary value, which keeps it if it is short, and else keeps its sign and all but a small part of it. As
a string it is kept as long as the number before its exponent is a decimal and the point can be moved
from there.
-/
namespace MarketWire

namespace Json

variable {t : NumberToken}

namespace NumberToken

/-- Whether nothing is lost if a token is sent as a string: the number before the exponent is a
decimal, and the exponent needs neither more zeros nor more places than a decimal has. -/
def KeptAsText (t : NumberToken) : Prop :=
  Decimal.Fits t ∧ t.power ≤ 28 ∧ (0 ≤ t.power ∨ t.fraction.length - t.power ≤ 28)

/-- Without an exponent a decimal is kept as it is written. -/
theorem keptAsText_of_plain {n : ℤ} {s : ℕ} (hexponent : t.exponent = none) (hn : |n| < 2 ^ 96)
    (hs : s ≤ 28) (hvalue : t.value = n / 10 ^ s) : t.KeptAsText := by
  have hpower : t.power = 0 := Decimal.power_of_none hexponent
  refine ⟨⟨n.natAbs, s, ?_, hs, ?_⟩, by omega, .inl hpower.ge⟩
  · have hlimit : Decimal.limit = 2 ^ 96 := rfl
    rw [Int.abs_eq_natAbs] at hn
    rw [hlimit]
    exact_mod_cast hn
  · have hmagnitude := magnitude_of_units hvalue
    rw [magnitude_eq, hpower, zero_sub, zpow_neg, zpow_natCast, ← div_eq_mul_inv,
      div_eq_div_iff (by positivity) (by positivity)] at hmagnitude
    exact_mod_cast hmagnitude

end NumberToken

theorem textOf?_chars (cs : List Char) : textOf? (cs.map .char) = some (.ofList cs) := by
  have hchars : textChars? (cs.map .char) = some cs := by
    induction cs with
    | nil => rfl
    | cons c cs ih => rw [List.map_cons, textChars?, ih, Option.map_some]
  rw [textOf?, hchars, Option.map_some]

namespace Tree

/-- Items that all have values are read in their places. -/
theorem exists_values {depth : ℕ} {items : List Tree}
    (h : ∀ u ∈ items, ∃ v, value? depth u = some v) :
    ∃ vs, values? depth items = some vs ∧
      ∀ (i : ℕ) u, items[i]? = some u → ∃ v, value? depth u = some v ∧ vs[i]? = some v := by
  induction items with
  | nil => exact ⟨[], by rw [values?], nofun⟩
  | cons item items ih =>
    obtain ⟨v, hv⟩ := h item List.mem_cons_self
    obtain ⟨vs, hvs, hplaces⟩ := ih fun u hu => h u (List.mem_cons_of_mem item hu)
    refine ⟨v :: vs, by rw [values?, hv, hvs], fun i u hu => ?_⟩
    cases i with
    | zero =>
      cases hu
      exact ⟨v, hv, rfl⟩
    | succ i => exact hplaces i u hu

end Tree

end Json

namespace Decimal

theorem same_sign {p q : ℚ} (h : |p - q| ≤ 1 / 2 ^ 48 * |q|) : (0 < p ↔ 0 < q) ∧ (p < 0 ↔ q < 0) := by
  obtain ⟨hlow, hhigh⟩ := abs_le.mp h
  rcases lt_trichotomy q 0 with hneg | rfl | hpos
  · rw [abs_of_neg hneg] at hlow hhigh
    constructor <;> constructor <;> intro _ <;> linarith
  · rw [abs_zero] at hlow hhigh
    constructor <;> constructor <;> intro _ <;> linarith
  · rw [abs_of_pos hpos] at hlow hhigh
    constructor <;> constructor <;> intro _ <;> linarith

end Decimal

namespace Row

open Json (Number NumberToken Tree Value)

variable {row : Row} {i : ℕ}

theorem read_decimal_number (field : String) {m : Number} (h : row.values[i]? = some (.number m)) :
    row.read .decimal field i =
      (Decimal.ofNumber? m).elim (.error (.mismatch row.record field i "decimal" (.ofList m.chars)
        (render row.values))) .ok := by
  rw [read, get?_number h]
  simp only [Cell.accept]
  cases Decimal.ofNumber? m <;> rfl

theorem read_decimal_text (field : String) {s : String} (h : row.values[i]? = some (.text s)) :
    row.read .decimal field i =
      (Decimal.ofText? s).elim (.error (.mismatch row.record field i "decimal" s
        (render row.values))) .ok := by
  have hget : row.get? i = some (.text s) := get?_eq_some_iff.mpr ⟨h, by simp⟩
  rw [read, hget]
  simp only [Cell.accept]
  cases Decimal.ofText? s <;> rfl

/-- A token of a decimal is read from a row wherever it stands. As a number it keeps its sign and all
but a small part, unless it is close to the largest decimal and refused; and it is kept exactly if it is
short. As a string it is kept exactly if it has no exponent, or one that can be moved into the number
before it. -/
theorem decimals_exact {w : List Char} {t : NumberToken} (hw : Json.token? w = some (.number t, []))
    {n : ℤ} {s : ℕ} (hn : |n| < 2 ^ 96) (hs : s ≤ 28) (hvalue : t.value = n / 10 ^ s)
    (hpower : t.digits = 0 ∨ |t.power| < 2 ^ 31) {text : String} {items : List Tree}
    (htree : Tree.ofText? text = some (.array items))
    (hitems : ∀ u ∈ items, u = .number t ∨ ∃ v, u.value? (Json.maxDepth - 1) = some v)
    (record field : String) :
    ∃ values, Value.ofText? text = some (.array values) ∧
      (∀ i, items[i]? = some (.number t) →
        (t.KeptAsNumber → ∃ d, read ⟨record, values⟩ .decimal field i = .ok d ∧ d.value = t.value) ∧
        ((∃ d, read ⟨record, values⟩ .decimal field i = .ok d ∧ (0 < d.value ↔ 0 < t.value) ∧
            (d.value < 0 ↔ t.value < 0) ∧ |d.value - t.value| ≤ 1 / 2 ^ 48 * |t.value|) ∨
          (∃ found, read ⟨record, values⟩ .decimal field i =
              .error (.mismatch record field i "decimal" found (render values))) ∧
            79228162514264 * 10 ^ 15 ≤ |t.value|)) ∧
      ∀ i, items[i]? = some (.text (w.map .char)) → t.exponent = none ∨ t.KeptAsText →
        ∃ d, read ⟨record, values⟩ .decimal field i = .ok d ∧ d.value = t.value := by
  obtain ⟨ht, w', hspells, hcs⟩ := Json.token?_eq hw
  obtain rfl : w = w' := by rw [hcs, List.append_nil]
  obtain ⟨m, hm, hread⟩ := Decimal.exists_ofToken ht hn hs hvalue hpower
  have hnumber : Tree.value? (Json.maxDepth - 1) (.number t) = some (.number m) := by
    rw [Tree.value?, hm, Option.map_some]
  obtain ⟨values, hvalues, hplaces⟩ := Tree.exists_values fun u hu =>
    (hitems u hu).elim (fun h => ⟨_, h ▸ hnumber⟩) id
  refine ⟨values, ?_, fun i hi => ?_, fun i hi hkept => ?_⟩
  · rw [Value.ofText?, Value.ofChars?, ← Tree.ofText?, htree, Option.bind_some, Tree.value?,
      if_neg (by decide), hvalues, Option.map_some]
  · obtain ⟨v, hv, hi⟩ := hplaces i _ hi
    obtain rfl := Option.some.inj (hnumber.symm.trans hv)
    rw [read_decimal_number field hi]
    rcases hread with ⟨hnone, hlarge, hlong⟩ | ⟨d, hd, hexact, hnear⟩
    · rw [hnone]
      exact ⟨fun h => absurd h hlong, .inr ⟨⟨_, rfl⟩, hlarge⟩⟩
    · rw [hd]
      obtain ⟨hpos, hneg⟩ := Decimal.same_sign hnear
      exact ⟨fun h => ⟨d, rfl, hexact h⟩, .inl ⟨d, rfl, hpos, hneg, hnear⟩⟩
  · obtain ⟨v, hv, hi⟩ := hplaces i _ hi
    rw [Tree.value?, Json.textOf?_chars, Option.map_some] at hv
    obtain rfl := Option.some.inj hv
    obtain ⟨hfits, hpower, hpoint⟩ : t.KeptAsText :=
      hkept.elim (fun h => NumberToken.keptAsText_of_plain h hn hs hvalue) id
    obtain ⟨d, hd, hexact⟩ := Decimal.exists_ofText ht hfits hspells
      (hvalue ▸ Decimal.abs_units_lt hn s) hpower hpoint
    rw [read_decimal_text field hi, hd]
    exact ⟨d, rfl, hexact⟩

/-- A small amount in scientific notation, once as a number and once as a string. -/
theorem decimals_exact_scientific :
    let w := "-1.25E-9".toList
    let t : NumberToken := ⟨true, ['1'], ['2', '5'], some (true, ['9'])⟩
    let text := "[-1.25E-9,\"-1.25E-9\",null]"
    let items : List Tree := [.number t, .text (w.map .char), .null]
    (Json.token? w = some (.number t, []) ∧ |(-125 : ℤ)| < 2 ^ 96 ∧ 11 ≤ 28 ∧
      t.value = (-125 : ℤ) / 10 ^ 11 ∧ (t.digits = 0 ∨ |t.power| < 2 ^ 31) ∧
      Tree.ofText? text = some (.array items) ∧
      (∀ u ∈ items, u = .number t ∨ ∃ v, u.value? (Json.maxDepth - 1) = some v) ∧
      items[0]? = some (.number t) ∧ items[1]? = some (.text (w.map .char)) ∧
      t.KeptAsNumber ∧ t.KeptAsText) ∧
    ∃ values, Value.ofText? text = some (.array values) ∧
      (∃ d, read ⟨"trade", values⟩ .decimal "amount" 0 = .ok d ∧ d.value = t.value) ∧
      ∃ d, read ⟨"trade", values⟩ .decimal "amount" 1 = .ok d ∧ d.value = t.value := by
  intro w t text items
  have hw : Json.token? w = some (.number t, []) := rfl
  have hdigits : t.digits = 125 := rfl
  have hpower : t.power = -9 := rfl
  have hplaces : t.fraction.length = 2 := rfl
  have hvalue : t.value = (-125 : ℤ) / 10 ^ 11 := by
    have hsign : t.value = -t.magnitude := rfl
    rw [hsign, NumberToken.magnitude_eq, hdigits, hpower, hplaces]
    norm_num
  have htree : Tree.ofText? text = some (.array items) := by cbv
  have hitems : ∀ u ∈ items, u = .number t ∨ ∃ v, u.value? (Json.maxDepth - 1) = some v := by
    intro u hu
    simp only [items, List.mem_cons, List.not_mem_nil, or_false] at hu
    rcases hu with rfl | rfl | rfl
    · exact .inl rfl
    · exact .inr ⟨.text (.ofList w), by rw [Tree.value?, Json.textOf?_chars, Option.map_some]⟩
    · exact .inr ⟨.null, by rw [Tree.value?]⟩
  have hnumber : t.KeptAsNumber := by
    refine .inr (.inl ?_)
    rw [NumberToken.IsShort, hdigits, hpower, hplaces]
    norm_num
  have htext : t.KeptAsText := by
    refine ⟨⟨125, 2, by decide, by decide, rfl⟩, ?_, .inr ?_⟩
    · rw [hpower]
      norm_num
    · rw [hpower, hplaces]
      norm_num
  have hpower' : t.digits = 0 ∨ |t.power| < 2 ^ 31 := by
    rw [hpower]
    norm_num
  obtain ⟨values, hvalues, hnumbers, htexts⟩ := decimals_exact hw (n := -125) (s := 11) (by norm_num)
    (by norm_num) hvalue hpower' htree hitems "trade" "amount"
  exact ⟨⟨hw, by norm_num, by norm_num, hvalue, hpower', htree, hitems, rfl, rfl, hnumber, htext⟩, values,
    hvalues, (hnumbers 0 rfl).1 hnumber, htexts 1 rfl (.inr htext)⟩

/-- A decimal with seventeen digits is kept as a string, and changes its last digit as a number. -/
theorem decimal_rounded :
    let text := "[0.12345678901234567,\"0.12345678901234567\"]"
    let t : NumberToken := ⟨false, ['0'], "12345678901234567".toList, none⟩
    Json.token? "0.12345678901234567".toList = some (.number t, []) ∧
      t.value = 12345678901234567 / 10 ^ 17 ∧
      ∃ values, Value.ofText? text = some (.array values) ∧
        (∃ d, read ⟨"trade", values⟩ .decimal "amount" 0 = .ok d ∧
          d.value = 12345678901234568 / 10 ^ 17 ∧ d.value ≠ t.value) ∧
        ∃ d, read ⟨"trade", values⟩ .decimal "amount" 1 = .ok d ∧ d.value = t.value := by
  let x : Binary64 := ⟨false, 8895999183877727, 1018, by decide, by decide, by decide⟩
  have htree : Tree.ofText? "[0.12345678901234567,\"0.12345678901234567\"]" =
      some (.array [.number ⟨false, ['0'], "12345678901234567".toList, none⟩,
        .text ("0.12345678901234567".toList.map .char)]) := by
    cbv
  have hbinary : Number.ofToken? ⟨false, ['0'], "12345678901234567".toList, none⟩ =
      some (.binary x) := by
    decide +kernel
  have hnumber : Decimal.ofNumber? (.binary x) =
      some ⟨false, 12345678901234568, 17, by decide, by decide⟩ := by
    decide +kernel
  have htext : Decimal.ofText? (.ofList "0.12345678901234567".toList) =
      some ⟨false, 12345678901234567, 17, by decide, by decide⟩ := by
    decide +kernel
  intro text t
  have hvalues : Value.ofText? text = some (.array [.number (.binary x),
      .text (.ofList "0.12345678901234567".toList)]) := by
    rw [Value.ofText?, Value.ofChars?, ← Tree.ofText?, htree, Option.bind_some, Tree.value?,
      if_neg (by decide), Tree.values?, Tree.values?, Tree.values?, Tree.value?, Tree.value?, hbinary,
      Json.textOf?_chars]
    rfl
  have hvalue : t.value = 12345678901234567 / 10 ^ 17 := by
    have hsign : t.value = t.magnitude := rfl
    have hdigits : t.digits = 12345678901234567 := by decide +kernel
    have hpower : t.power = 0 := rfl
    have hplaces : t.fraction.length = 17 := rfl
    rw [hsign, NumberToken.magnitude_eq, hdigits, hpower, hplaces]
    norm_num
  rw [hvalue]
  refine ⟨rfl, rfl, _, hvalues, ?_, ?_⟩
  · rw [read_decimal_number (m := .binary x) "amount" rfl, hnumber]
    exact ⟨_, rfl, by norm_num [Decimal.value, Decimal.units],
      by norm_num [Decimal.value, Decimal.units]⟩
  · rw [read_decimal_text (s := .ofList "0.12345678901234567".toList) "amount" rfl, htext]
    exact ⟨_, rfl, by norm_num [Decimal.value, Decimal.units]⟩

end Row
end MarketWire
