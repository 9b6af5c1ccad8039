import Mathlib
import MarketWire.Text.Case

/-!
# Texts in one case

Whatever the characters of a text are, its capitals hold none of the letters a to z, and no character
is lost on the way to them. In a text of ASCII characters each one has one capital and one small letter,
and the small letter of its capital is its own.
-/
namespace MarketWire
namespace Text

def IsAscii (cs : List Char) : Prop := ∀ c ∈ cs, c.toNat < 128

instance (cs : List Char) : Decidable (IsAscii cs) :=
  List.decidableBAll (fun c : Char => c.toNat < 128) cs

theorem isLower_eq_false {c : Char} (h : c.toNat < 97 ∨ 122 < c.toNat) : c.isLower = false := by
  by_contra hlower
  have hbounds : 97 ≤ c.toNat ∧ c.toNat ≤ 122 := by
    simpa [Char.isLower, UInt32.le_iff_toNat_le] using hlower
  omega

/-- A number beside the letters a to z is that of another character, or of none. -/
theorem isLower_ofNat {n : Nat} (h : n < 97 ∨ 122 < n) : (Char.ofNat n).isLower = false := by
  refine isLower_eq_false ?_
  rw [Char.toNat_ofNat]
  split
  · exact h
  · exact .inl (by decide)

/-! ## Capitals -/

/-- What a character is mapped to: some characters of the one table, one that a run of the other
gives, or itself. -/
theorem mapped_cases (multi : List (Nat × List Nat)) (runs : List CaseRun) (c : Char) :
    (∃ e ∈ multi, mapped multi runs c = e.2.map Char.ofNat) ∨
      (∃ r ∈ runs, r.covers c.toNat = true ∧
        mapped multi runs c = [Char.ofNat (r.image c.toNat)]) ∨
      mapped multi runs c = [c] := by
  unfold mapped
  split
  case h_1 n ns hfound => exact .inl ⟨(n, ns), List.mem_of_find?_eq_some hfound, rfl⟩
  case h_2 =>
    split
    case h_1 r hfound =>
      have hcovers : r.covers c.toNat = true := by simpa using List.find?_some hfound
      exact .inr (.inl ⟨r, List.mem_of_find?_eq_some hfound, hcovers, rfl⟩)
    case h_2 => exact .inr (.inr rfl)

theorem upperMulti_beside : ∀ e ∈ upperMulti, e.2 ≠ [] ∧ ∀ n ∈ e.2, n < 97 ∨ 122 < n := by
  decide +kernel

theorem upperRuns_beside :
    ∀ r ∈ upperRuns, r.last + r.shift < 97 ∨ 122 < r.first + r.shift := by
  decide +kernel

/-- The images of a run lie between those of its ends. -/
theorem image_beside {r : CaseRun} (hr : r ∈ upperRuns) {n : Nat} (h : r.covers n = true) :
    r.image n < 97 ∨ 122 < r.image n := by
  have hends := upperRuns_beside r hr
  have hbounds : r.first ≤ n ∧ n ≤ r.last := by
    simp only [CaseRun.covers, Bool.and_eq_true, decide_eq_true_eq] at h
    exact h.1
  unfold CaseRun.image
  omega

/-- A character becomes one capital or more, and none of the letters a to z is among them. -/
theorem upperChar_capital (c : Char) :
    upperChar c ≠ [] ∧ ∀ d ∈ upperChar c, d.isLower = false := by
  unfold upperChar
  split
  case isTrue => simp
  case isFalse hascii =>
    rcases mapped_cases upperMulti upperRuns c with ⟨e, he, hmapped⟩ | ⟨r, hr, hcovers, hmapped⟩ |
      hmapped <;> rw [hmapped]
    · obtain ⟨hne, hbeside⟩ := upperMulti_beside e he
      refine ⟨mt List.map_eq_nil_iff.mp hne, fun d hd => ?_⟩
      obtain ⟨n, hn, rfl⟩ := List.mem_map.mp hd
      exact isLower_ofNat (hbeside n hn)
    · refine ⟨List.cons_ne_nil _ _, fun d hd => ?_⟩
      rw [List.mem_singleton.mp hd]
      exact isLower_ofNat (image_beside hr hcovers)
    · refine ⟨List.cons_ne_nil _ _, fun d hd => ?_⟩
      rw [List.mem_singleton.mp hd]
      exact isLower_eq_false (.inr (by omega))

theorem isLower_of_mem_upperChars {cs : List Char} {d : Char} (h : d ∈ upperChars cs) :
    d.isLower = false := by
  obtain ⟨c, -, hd⟩ := List.mem_flatMap.mp h
  exact (upperChar_capital c).2 d hd

theorem upperChars_ne_nil {cs : List Char} (h : cs ≠ []) : upperChars cs ≠ [] := by
  obtain ⟨c, rest, rfl⟩ := List.exists_cons_of_ne_nil h
  rw [upperChars, List.flatMap_cons]
  exact List.append_ne_nil_of_left_ne_nil (upperChar_capital c).1 _

/-- The capitals of a text start with a character other than a to z. -/
theorem exists_upperChars {cs : List Char} (h : cs ≠ []) :
    ∃ d ds, upperChars cs = d :: ds ∧ d.isLower = false := by
  obtain ⟨d, ds, hupper⟩ := List.exists_cons_of_ne_nil (upperChars_ne_nil h)
  have hmem : d ∈ upperChars cs := hupper ▸ List.mem_cons_self
  exact ⟨d, ds, hupper, isLower_of_mem_upperChars hmem⟩

/-! ## Letters of ASCII -/

theorem upperChars_of_isAscii {cs : List Char} (h : IsAscii cs) :
    upperChars cs = cs.map Char.toUpper := by
  induction cs with
  | nil => rfl
  | cons c cs ih =>
    have hc : c.toNat < 128 := h c List.mem_cons_self
    have hrest : upperChars cs = cs.map Char.toUpper :=
      ih fun d hd => h d (List.mem_cons_of_mem c hd)
    rw [upperChars, List.flatMap_cons, ← upperChars, hrest, upperChar, if_pos hc]
    rfl

/-- No sigma is among the characters, so the part before them does not matter. -/
theorem lowerAfter_of_isAscii (before : List Char) {cs : List Char} (h : IsAscii cs) :
    lowerAfter before cs = cs.map Char.toLower := by
  induction cs generalizing before with
  | nil => rfl
  | cons c cs ih =>
    have hc : c.toNat < 128 := h c List.mem_cons_self
    have hsigma : c ≠ capitalSigma := by
      rintro rfl
      exact absurd hc (by decide)
    rw [lowerAfter, ih (c :: before) fun d hd => h d (List.mem_cons_of_mem c hd), if_neg hsigma,
      lowerChar, if_pos hc]
    rfl

theorem toNat_toUpper_lt {c : Char} (h : c.toNat < 128) : c.toUpper.toNat < 128 := by
  by_cases hlower : c.isLower = true
  · rw [Char.toUpper_eq_of_isLower hlower, Char.toNat_ofNat]
    split <;> omega
  · rwa [Char.toUpper_eq_of_not_isLower hlower]

/-- The small letters of capitals are those of the text itself. -/
theorem lowerChars_upperChars {cs : List Char} (h : IsAscii cs) :
    lowerChars (upperChars cs) = cs.map Char.toLower := by
  have hupper : IsAscii (cs.map Char.toUpper) := by
    intro d hd
    obtain ⟨c, hc, rfl⟩ := List.mem_map.mp hd
    exact toNat_toUpper_lt (h c hc)
  rw [upperChars_of_isAscii h, lowerChars, lowerAfter_of_isAscii [] hupper, List.map_map]
  exact List.map_congr_left fun c _ => c.toLower_toUpper_eq_toLower

end Text
end MarketWire
