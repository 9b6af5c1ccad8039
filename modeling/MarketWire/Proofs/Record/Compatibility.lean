import MarketWire.Record.Schema

/-!
# Older and newer rows

A layout reads a row element by element, and an element that is absent reads like one that is
`null`. So nulls at the end of a row change nothing, and what stands behind the last element that is
read changes nothing either. The same holds of failures, but for the text of the whole row that they
keep.
-/
namespace MarketWire

namespace DecodeError

/-- A failure without the text of the row. -/
def cause : DecodeError → DecodeError
  | .tooShort record expected actual _ => .tooShort record expected actual ""
  | .mismatch record field index expected found _ => .mismatch record field index expected found ""
  | .notArray record found => .notArray record found

end DecodeError

theorem mapError_ok (f : ε → ε') (a : α) : (Except.ok a).mapError f = .ok a := rfl

theorem mapError_error (f : ε → ε') (e : ε) :
    (Except.error e : Except ε α).mapError f = .error (f e) := rfl

/-- Equal values, or failures that differ in the text of the row alone. -/
def Alike (r r' : Except DecodeError α) : Prop :=
  r.mapError DecodeError.cause = r'.mapError DecodeError.cause

theorem Alike.refl (r : Except DecodeError α) : Alike r r := rfl

theorem Alike.map {r r' : Except DecodeError α} (h : Alike r r') (f : α → β) :
    Alike (r.map f) (r'.map f) := by
  cases r <;> cases r' <;> simp_all [Alike, Except.map, mapError_ok, mapError_error]

theorem Alike.bind {r r' : Except DecodeError α} {f f' : α → Except DecodeError β} (h : Alike r r')
    (hf : ∀ a, Alike (f a) (f' a)) : Alike (r.bind f) (r'.bind f') := by
  cases r <;> cases r' <;> simp_all [Alike, Except.bind, mapError_ok, mapError_error]

namespace Row

variable {row row' : Row}

theorem get?_append_of_lt (record : String) {v : List Json.Value} {i : Nat} (h : i < v.length)
    (w : List Json.Value) : get? ⟨record, v ++ w⟩ i = get? ⟨record, v⟩ i := by
  simp [get?, List.getElem?_append_left h]

/-- Behind the end there is nothing, and a `null` counts as nothing. -/
theorem get?_append_nulls (record : String) (v : List Json.Value) (k i : Nat) :
    get? ⟨record, v ++ List.replicate k .null⟩ i = get? ⟨record, v⟩ i := by
  by_cases h : i < v.length
  · exact get?_append_of_lt record h _
  · have hge : v.length ≤ i := Nat.le_of_not_lt h
    have hnone : v[i]? = none := List.getElem?_eq_none hge
    by_cases hk : i - v.length < k <;>
      simp [get?, List.getElem?_append_right hge, hk, hnone]

theorem alike_read (hrecord : row.record = row'.record) (c : Cell) (field : String) {index : Nat}
    (h : row.get? index = row'.get? index) :
    Alike (row.read c field index) (row'.read c field index) := by
  unfold read
  rw [h]
  cases row'.get? index with
  | none => exact .refl _
  | some v =>
    cases ha : c.accept v with
    | ok a => simp [ha, Alike, mapError_ok]
    | error found =>
      simp [ha, Alike, mapError_error, mismatch, DecodeError.cause, hrecord]

theorem readAll_cons (row : Row) (c : Column) (cs : List Column) :
    row.readAll (c :: cs) =
      (row.read c.cell c.field c.index).bind fun v => (row.readAll cs).map (v, ·) := by
  rw [readAll]
  cases row.read c.cell c.field c.index <;> rfl

theorem alike_readAll (hrecord : row.record = row'.record) {cs : List Column}
    (h : ∀ c ∈ cs, row.get? c.index = row'.get? c.index) :
    Alike (row.readAll cs) (row'.readAll cs) := by
  induction cs with
  | nil => exact .refl _
  | cons c cs ih =>
    have hread := alike_read hrecord c.cell c.field (h c List.mem_cons_self)
    have hrest := ih fun c hc => h c (List.mem_cons_of_mem _ hc)
    rw [readAll_cons, readAll_cons]
    exact hread.bind fun v => hrest.map _

end Row

namespace Layout

variable (l : Layout α)

theorem decodeRow_eq (row : Row) : l.decodeRow row = (row.readAll l.columns).bind l.build := by
  rw [decodeRow]
  cases row.readAll l.columns <;> rfl

theorem alike_decodeRow {row row' : Row} (hrecord : row.record = row'.record)
    (h : ∀ c ∈ l.columns, row.get? c.index = row'.get? c.index) :
    Alike (l.decodeRow row) (l.decodeRow row') := by
  rw [decodeRow_eq, decodeRow_eq]
  exact (Row.alike_readAll hrecord h).bind fun vs => .refl (l.build vs)

theorem decode_of_lt {v : List Json.Value} (h : v.length < l.least) :
    l.decode v = .error (.tooShort l.record l.least v.length (Row.render v)) := by
  simp [decode, Row.ofValues, h]

theorem decode_of_le {v : List Json.Value} (h : l.least ≤ v.length) :
    l.decode v = l.decodeRow ⟨l.record, v⟩ := by
  simp [decode, Row.ofValues, Nat.not_lt.mpr h]

/-- Whether a row reaches past every element that the layout reads. -/
def Covers (v : List Json.Value) : Prop := ∀ c ∈ l.columns, c.index < v.length

theorem alike_decode_append {v w : List Json.Value} (h : l.least ≤ v.length)
    (hget : ∀ c ∈ l.columns, Row.get? ⟨l.record, v ++ w⟩ c.index = Row.get? ⟨l.record, v⟩ c.index) :
    Alike (l.decode (v ++ w)) (l.decode v) := by
  have hlonger : l.least ≤ (v ++ w).length := by
    rw [List.length_append]
    omega
  rw [l.decode_of_le h, l.decode_of_le hlonger]
  exact l.alike_decodeRow rfl hget

/-- How rows that are too short, padded with nulls or longer than the layout needs are decoded. -/
structure Compatible (decode : List Json.Value → Except DecodeError α) : Prop where
  short : ∀ v, v.length < l.least →
    decode v = .error (.tooShort l.record l.least v.length (Row.render v))
  padded : ∀ v, l.least ≤ v.length → ∀ k, Alike (decode (v ++ List.replicate k .null)) (decode v)
  longer : ∀ v, l.least ≤ v.length → l.Covers v → ∀ w, Alike (decode (v ++ w)) (decode v)

theorem compatible_decode : l.Compatible l.decode where
  short := fun _ h => l.decode_of_lt h
  padded := fun v h k =>
    l.alike_decode_append h fun c _ => Row.get?_append_nulls l.record v k c.index
  longer := fun _ h hcovers w =>
    l.alike_decode_append h fun c hc => Row.get?_append_of_lt l.record (hcovers c hc) w

end Layout

/-- Every schema takes older rows without their tail and newer rows with more behind it, and so does
the profile inside of a post. -/
theorem schemas_compatible :
    (∀ s : Schema, s.layout.Compatible s.decode) ∧
      Profile.layout.Compatible Profile.layout.decode :=
  ⟨fun s => s.layout.compatible_decode, Profile.layout.compatible_decode⟩

end MarketWire
