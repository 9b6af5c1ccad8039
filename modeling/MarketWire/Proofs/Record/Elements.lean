import MarketWire.Proofs.Number.Value
import MarketWire.Proofs.Record.Acceptance

/-!
# Numbers in rows

An element of a row is read as an integer exactly if its number is one of 64 bits, and nothing is
rounded on the way. One number is an exception: `2^63`, written so that it comes as a binary value, is
one too many and gives the greatest integer instead of a failure.
-/
namespace MarketWire

namespace Json.Number

/-- Whether a number is the binary value `2^63`. -/
def IsOver (n : Number) : Prop := n.isBinary = true ∧ n.value = 2 ^ 63

theorem integer?_whole (i : Int) (fits) (k : Int64) :
    (whole i fits).integer? = some k ↔ (whole i fits).value = k.toInt := by
  rw [integer?, value]
  norm_cast
  split
  case isTrue hlt =>
    have hread := Int64.toInt_ofInt_of_le (n := i) (by omega) (by omega)
    rw [Option.some.injEq, ← Int64.toInt_inj, hread]
  case isFalse hge =>
    have hk := k.toInt_lt
    constructor
    · intro h
      cases h
    · intro h
      omega

theorem integer?_binary (x : Binary64) (h : x.value ≠ 2 ^ 63) (k : Int64) :
    (binary x).integer? = some k ↔ (binary x).value = k.toInt := by
  have hlow := k.le_toInt
  have hhigh := k.toInt_lt
  rw [value, integer?, ← Binary64.integer?_eq_some_iff]
  cases hx : x.integer? with
  | none => simp
  | some i =>
    have hvalue := (x.integer?_eq_some_iff i).mp hx
    have hi : i ≠ 2 ^ 63 := by
      rintro rfl
      exact h (by rw [hvalue]; norm_num)
    simp only [Option.bind_some, Bool.and_eq_true, decide_eq_true_eq, Option.some.injEq]
    split
    case isTrue hrange =>
      have hread : (Int64.ofIntClamp i).toInt = i :=
        Int64.toInt_ofIntClamp (by rw [Int64.toInt_minValue]; omega)
          (by rw [Int64.toInt_maxValue]; omega)
      rw [Option.some.injEq, ← Int64.toInt_inj, hread]
    case isFalse hrange =>
      constructor
      · intro hk
        cases hk
      · intro hk
        omega

theorem integer?_eq_some_iff {n : Number} (h : ¬n.IsOver) (k : Int64) :
    n.integer? = some k ↔ n.value = k.toInt := by
  cases n with
  | whole i fits => exact integer?_whole i fits k
  | binary x => exact integer?_binary x (fun hx => h ⟨rfl, hx⟩) k

theorem integer?_of_isOver {n : Number} (h : n.IsOver) : n.integer? = some Int64.maxValue := by
  obtain ⟨hbinary, hvalue⟩ := h
  cases n with
  | whole => cases hbinary
  | binary x =>
    have hx : x.integer? = some 0x8000000000000000 := by
      rw [Binary64.integer?_eq_some_iff]
      exact hvalue.trans (by norm_num)
    rw [integer?, hx]
    rfl

end Json.Number

namespace Row

variable {row : Row} {i : Nat} {n : Json.Number}

theorem get?_number (h : row.values[i]? = some (.number n)) : row.get? i = some (.number n) :=
  get?_eq_some_iff.mpr ⟨h, nofun⟩

theorem read_integer (field : String) (h : row.values[i]? = some (.number n)) :
    row.read .integer field i =
      n.integer?.elim (.error (.mismatch row.record field i "integer" (.ofList n.chars)
        (render row.values))) .ok := by
  rw [read, get?_number h]
  simp only [Cell.accept]
  cases n.integer? <;> rfl

/-- A number other than the binary value `2^63` is read as an integer exactly if it is one of 64 bits,
and then as that integer; any other number is refused. The binary value `2^63` is read as the integer
below it. -/
theorem integers_exact (field : String) (h : row.values[i]? = some (.number n)) :
    (¬n.IsOver →
      ((∃ k, row.read .integer field i = .ok k) ↔
        ∃ z : ℤ, -2 ^ 63 ≤ z ∧ z ≤ 2 ^ 63 - 1 ∧ n.value = z) ∧
      (∀ k, row.read .integer field i = .ok k → n.value = k.toInt) ∧
      ((¬∃ z : ℤ, -2 ^ 63 ≤ z ∧ z ≤ 2 ^ 63 - 1 ∧ n.value = z) →
        row.read .integer field i = .error (.mismatch row.record field i "integer" (.ofList n.chars)
          (render row.values)))) ∧
    (n.IsOver → row.read .integer field i = .ok Int64.maxValue) := by
  rw [read_integer field h]
  refine ⟨fun hover => ?_, fun hover => ?_⟩
  · have hread := Json.Number.integer?_eq_some_iff hover
    have hfits : (∃ k, n.integer? = some k) ↔
        ∃ z : ℤ, -2 ^ 63 ≤ z ∧ z ≤ 2 ^ 63 - 1 ∧ n.value = z := by
      constructor
      · rintro ⟨k, hk⟩
        have hlow := k.le_toInt
        have hhigh := k.toInt_lt
        exact ⟨k.toInt, hlow, by omega, (hread k).mp hk⟩
      · rintro ⟨z, hlow, hhigh, hz⟩
        refine ⟨.ofInt z, (hread _).mpr ?_⟩
        rw [hz, Int64.toInt_ofInt_of_le hlow (by omega)]
    rw [← hfits]
    cases hn : n.integer? with
    | none => simp
    | some k => simpa [hn] using (hread k).mp hn
  · rw [Json.Number.integer?_of_isOver hover]
    rfl

/-- A timestamp that is sent with a fraction of zero, and the number that is one too many. -/
theorem integers_exact_timestamp :
    let time : Binary64 := ⟨false, 1574694478808 * 0x1000, 1062, by decide, by decide, by decide⟩
    let beyond : Binary64 := ⟨false, 0x10000000000000, 1085, by decide, by decide, by decide⟩
    let row : Row := ⟨"candle", [.number (.binary time), .number (.binary beyond)]⟩
    (row.values[0]? = some (.number (.binary time)) ∧ ¬(Json.Number.binary time).IsOver ∧
      row.values[1]? = some (.number (.binary beyond)) ∧ (Json.Number.binary beyond).IsOver) ∧
    (∃ k, row.read .integer "mts" 0 = .ok k ∧ time.value = k.toInt) ∧
    row.read .integer "mts" 1 = .ok Int64.maxValue := by
  intro time beyond row
  have htime : time.integer? = some 1574694478808 := by decide +kernel
  have hover : (Json.Number.binary beyond).IsOver := by
    have hinteger : beyond.integer? = some 0x8000000000000000 := by decide +kernel
    refine ⟨rfl, ((beyond.integer?_eq_some_iff _).mp hinteger).trans ?_⟩
    norm_num
  have hinside : ¬(Json.Number.binary time).IsOver := by
    intro h
    have hvalue : time.value = _ := (time.integer?_eq_some_iff _).mp htime
    have hbad := hvalue.symm.trans h.2
    norm_num at hbad
  have hfirst : row.values[0]? = some (.number (.binary time)) := rfl
  have hsecond : row.values[1]? = some (.number (.binary beyond)) := rfl
  have hread : row.read .integer "mts" 0 = .ok 1574694478808 := by
    rw [read_integer "mts" hfirst, Json.Number.integer?, htime]
    rfl
  obtain ⟨-, hexact, -⟩ := (integers_exact "mts" hfirst).1 hinside
  exact ⟨⟨hfirst, hinside, hsecond, hover⟩, ⟨_, hread, hexact _ hread⟩,
    (integers_exact "mts" hsecond).2 hover⟩

/-- One too many is refused as a whole number, and reads as one less where it has a fraction of zero. -/
theorem integer_clamped :
    let digits := "9223372036854775808".toList
    ∃ whole beyond, Json.Number.ofToken? ⟨false, digits, [], none⟩ = some whole ∧
      Json.Number.ofToken? ⟨false, digits, ['0'], none⟩ = some beyond ∧
      whole.value = 2 ^ 63 ∧ beyond.value = 2 ^ 63 ∧
      let row : Row := ⟨"candle", [.number whole, .number beyond]⟩
      (∃ e, row.read .integer "mts" 0 = .error e) ∧
        row.read .integer "mts" 1 = .ok 9223372036854775807 := by
  intro digits
  let beyond : Binary64 := ⟨false, 0x10000000000000, 1085, by decide, by decide, by decide⟩
  have hwhole : Json.Number.ofToken? ⟨false, digits, [], none⟩ =
      some (.whole 0x8000000000000000 (by decide)) := by
    decide +kernel
  have hover : Json.Number.ofToken? ⟨false, digits, ['0'], none⟩ = some (.binary beyond) := by
    decide +kernel
  have hinteger : beyond.integer? = some 0x8000000000000000 := by decide +kernel
  refine ⟨_, _, hwhole, hover, ?_, ((beyond.integer?_eq_some_iff _).mp hinteger).trans ?_, ⟨_, rfl⟩, ?_⟩
  · norm_num [Json.Number.value]
  · norm_num
  · rw [read_integer (n := .binary beyond) "mts" rfl, Json.Number.integer?, hinteger]
    rfl

end Row
end MarketWire
