import MarketWire.Proofs.Json.RoundTrip
import MarketWire.Wire.Frame

/-!
# The grammar of data frames

A text is a data frame just if its value is an array of a channel id, a tag or none, data, and
whatever else. What is no data frame is refused by its kind: arrays, objects, other values, and
texts without a value.
-/
namespace MarketWire

open Json (Value)

theorem map_eq_ok_iff {x : Except ε α} {f : α → β} {b : β} :
    x.map f = .ok b ↔ ∃ a, x = .ok a ∧ f a = b := by
  cases x <;> simp [Except.map]

theorem mapError_eq_ok_iff {x : Except ε α} {f : ε → ε'} {a : α} :
    x.mapError f = .ok a ↔ x = .ok a := by
  cases x with
  | ok b => constructor <;> rintro ⟨⟩ <;> rfl
  | error e => constructor <;> rintro ⟨⟩

namespace Payload

/-- How the data are written. -/
def value : Payload → Value
  | .heartbeat => .text heartbeatName
  | .update row => .array row
  | .snapshot rows => .array (rows.map .array)

/-- One row cannot be told from many if it is empty or starts with an array. -/
def WellFormed : Payload → Prop
  | .update row => ∃ v vs, row = v :: vs ∧ v.array? = none
  | _ => True

theorem eq_array_of_array? {v : Value} {row : List Value} (h : v.array? = some row) :
    v = .array row := by
  cases v <;> cases h
  rfl

theorem rowsOf_eq_ok_iff {items : List Value} {rows : List (List Value)} :
    rowsOf items = .ok rows ↔ items = rows.map .array := by
  induction items generalizing rows with
  | nil => cases rows <;> simp [rowsOf]
  | cons v vs ih =>
    cases v with
    | array row =>
      rw [rowsOf, map_eq_ok_iff]
      cases rows with
      | nil => simp
      | cons row' rows => simpa [ih] using and_comm
    | _ => cases rows <;> simp [rowsOf]

theorem ofItems_rows (row : List Value) {vs : List Value} {p : Payload} :
    ofItems (.array row :: vs) = .ok p ↔
      ∃ rows, .array row :: vs = rows.map .array ∧ .snapshot rows = p := by
  simp only [← rowsOf_eq_ok_iff]
  rw [ofItems]
  cases rowsOf (.array row :: vs) <;> simp

theorem ofItems_row {v : Value} (h : v.array? = none) (vs : List Value) :
    ofItems (v :: vs) = .ok (.update (v :: vs)) := by
  cases v <;> first | rfl | cases h

theorem ofItems_eq_ok_iff {items : List Value} {p : Payload} :
    ofItems items = .ok p ↔ p.WellFormed ∧ .array items = p.value := by
  constructor
  · intro h
    cases items with
    | nil =>
      cases h
      exact ⟨trivial, rfl⟩
    | cons v vs =>
      cases hv : v.array? with
      | none =>
        rw [ofItems_row hv] at h
        cases h
        exact ⟨⟨v, vs, rfl, hv⟩, rfl⟩
      | some row =>
        obtain rfl := eq_array_of_array? hv
        obtain ⟨rows, hrows, rfl⟩ := (ofItems_rows row).mp h
        exact ⟨trivial, by rw [value, hrows]⟩
  · rintro ⟨hp, hitems⟩
    cases p with
    | heartbeat => cases hitems
    | update row =>
      obtain ⟨v, vs, rfl, hv⟩ := hp
      cases hitems
      exact ofItems_row hv vs
    | snapshot rows =>
      cases hitems
      cases rows with
      | nil => rfl
      | cons row rows => exact (ofItems_rows row).mpr ⟨row :: rows, rfl, rfl⟩

theorem ofValue_eq_ok_iff {v : Value} {p : Payload} :
    ofValue v = .ok p ↔ p.WellFormed ∧ v = p.value := by
  cases v with
  | array items => rw [ofValue, ofItems_eq_ok_iff]
  | text s =>
    by_cases hs : s = heartbeatName
    · cases p <;> simp [ofValue, hs, WellFormed, value]
    · cases p <;> simp [ofValue, hs, WellFormed, value]
  | _ => cases p <;> simp [ofValue, WellFormed, value]

end Payload

namespace DataFrame

/-- The items of a frame, with more of them behind the data. -/
def items (d : DataFrame) (more : List Value) : List Value :=
  .ofInt64 d.chanId :: (d.tag.toList.map .text ++ d.payload.value :: more)

/-- A tag cannot have the name of a heartbeat. -/
def WellFormed (d : DataFrame) : Prop :=
  d.tag ≠ some Payload.heartbeatName ∧ d.payload.WellFormed

theorem chanId?_eq_some_iff {v : Value} {c : Int64} :
    chanId? v = some c ↔ v = .ofInt64 c := by
  constructor
  · intro h
    unfold chanId? at h
    split at h
    case h_1 i fits =>
      split at h
      case isTrue hi =>
        cases h
        have hvalue : (Int64.ofInt i).toInt = i :=
          Int64.toInt_ofInt_of_le (by omega) (by omega)
        simp [Value.ofInt64, hvalue]
      case isFalse => cases h
    case h_2 => cases h
  · rintro rfl
    have hlt := c.toInt_lt
    simp [Value.ofInt64, chanId?]
    omega

theorem ofRest_eq_ok_iff {c : Int64} {rest : List Value} {d : DataFrame} :
    ofRest c rest = .ok d ↔ d.WellFormed ∧ d.chanId = c ∧
      ∃ more, rest = d.tag.toList.map .text ++ d.payload.value :: more := by
  constructor
  · intro h
    unfold ofRest at h
    split at h
    case h_1 => cases h
    case h_2 s vs =>
      split at h
      case isTrue hs =>
        cases h
        exact ⟨⟨nofun, trivial⟩, rfl, vs, by rw [hs]; rfl⟩
      case isFalse hs =>
        cases vs with
        | nil => cases h
        | cons v vs =>
          obtain ⟨p, hp, rfl⟩ := map_eq_ok_iff.mp h
          obtain ⟨hwf, rfl⟩ := Payload.ofValue_eq_ok_iff.mp hp
          exact ⟨⟨by simpa using hs, hwf⟩, rfl, vs, rfl⟩
    case h_3 v vs hv =>
      obtain ⟨p, hp, rfl⟩ := map_eq_ok_iff.mp h
      obtain ⟨hwf, rfl⟩ := Payload.ofValue_eq_ok_iff.mp hp
      exact ⟨⟨nofun, hwf⟩, rfl, vs, rfl⟩
  · obtain ⟨chanId, tag, payload⟩ := d
    rintro ⟨⟨htag, hp⟩, rfl, more, rfl⟩
    have hvalue := Payload.ofValue_eq_ok_iff.mpr ⟨hp, rfl⟩
    cases tag with
    | some s =>
      have hs : s ≠ Payload.heartbeatName := by simpa using htag
      simp [ofRest, hs, hvalue, Except.map]
    | none =>
      cases payload <;> simp_all [ofRest, Payload.value, Except.map]

theorem ofItems_eq_ok_iff {items : List Value} {d : DataFrame} :
    ofItems items = .ok d ↔ d.WellFormed ∧ ∃ more, items = d.items more := by
  constructor
  · intro h
    unfold ofItems at h
    split at h
    case h_1 => cases h
    case h_2 c hc =>
      obtain ⟨v, hv, hc⟩ := Option.bind_eq_some_iff.mp hc
      obtain ⟨hwf, rfl, more, hmore⟩ := ofRest_eq_ok_iff.mp h
      refine ⟨hwf, more, ?_⟩
      obtain ⟨vs, rfl⟩ := List.head?_eq_some_iff.mp hv
      rw [chanId?_eq_some_iff.mp hc]
      exact congrArg (Value.ofInt64 d.chanId :: ·) hmore
  · rintro ⟨hwf, more, rfl⟩
    have hc : chanId? (.ofInt64 d.chanId) = some d.chanId := chanId?_eq_some_iff.mpr rfl
    simp only [ofItems, DataFrame.items, List.head?_cons, Option.bind_some, hc, List.tail_cons]
    exact ofRest_eq_ok_iff.mpr ⟨hwf, rfl, more, rfl⟩

end DataFrame

namespace Json.Tree

theorem eq_array_of_value? {depth : Nat} {t : Tree} {vs : List Value}
    (h : t.value? depth = some (.array vs)) :
    ∃ ts, t = .array ts ∧ values? (depth - 1) ts = some vs := by
  cases t with
  | array ts =>
    rw [value?] at h
    split at h
    case isTrue => cases h
    case isFalse =>
      obtain ⟨ws, hws, heq⟩ := Option.map_eq_some_iff.mp h
      cases heq
      exact ⟨ts, rfl, hws⟩
  | _ => simp [value?] at h

theorem exists_cons_of_values? {depth : Nat} {ts : List Tree} {v : Value} {vs : List Value}
    (h : values? depth ts = some (v :: vs)) :
    ∃ t rest, ts = t :: rest ∧ t.value? depth = some v := by
  cases ts with
  | nil => cases h
  | cons t rest =>
    refine ⟨t, rest, rfl, ?_⟩
    rw [values?] at h
    split at h <;> cases h
    assumption

theorem eq_number_of_value? {depth : Nat} {t : Tree} {n : Number}
    (h : t.value? depth = some (.number n)) :
    ∃ token, t = .number token ∧ Number.ofToken? token = some n := by
  cases t with
  | number token =>
    rw [value?] at h
    obtain ⟨m, hm, heq⟩ := Option.map_eq_some_iff.mp h
    cases heq
    exact ⟨token, rfl, hm⟩
  | _ => simp [value?] at h

end Json.Tree
namespace Frame

variable {raw : String}

theorem parse_of_array {items : List Value} (h : Value.ofText? raw = some (.array items)) :
    parse raw = ((DataFrame.ofItems items).map .data).mapError (.malformedData · raw) := by
  rw [parse, h]
  rfl

theorem parse_of_object {fields : Json.Fields} (h : Value.ofText? raw = some (.object fields)) :
    parse raw = (ofFields fields).mapError (.malformedEvent · raw) := by
  rw [parse, h]
  rfl

theorem ofFields_ne_data (fields : Json.Fields) (d : DataFrame) :
    ofFields fields ≠ .ok (.data d) := by
  intro h
  unfold ofFields at h
  split at h
  · cases h
  · split at h <;> cases h

theorem parse_eq_data_iff {d : DataFrame} :
    parse raw = .ok (.data d) ↔
      d.WellFormed ∧ ∃ more, Value.ofText? raw = some (.array (d.items more)) := by
  cases hv : Value.ofText? raw with
  | none => simp [parse, hv]
  | some v =>
    cases v with
    | array items =>
      rw [parse_of_array hv, mapError_eq_ok_iff, map_eq_ok_iff]
      simp [DataFrame.ofItems_eq_ok_iff]
    | object fields =>
      rw [parse_of_object hv, mapError_eq_ok_iff]
      simp [ofFields_ne_data]
    | _ => simp [parse, hv, ofValue]

theorem exists_token_of_parse {d : DataFrame} (h : parse raw = .ok (.data d)) :
    ∃ token rest, Json.Tree.ofText? raw = some (.array (.number token :: rest)) ∧
      token.IsInteger ∧ token.integer = d.chanId.toInt := by
  obtain ⟨-, more, hraw⟩ := parse_eq_data_iff.mp h
  obtain ⟨t, ht, hv⟩ := Option.bind_eq_some_iff.mp hraw
  obtain ⟨ts, rfl, hvs⟩ := Json.Tree.eq_array_of_value? hv
  obtain ⟨t, rest, rfl, hchan⟩ := Json.Tree.exists_cons_of_values? hvs
  obtain ⟨token, rfl, htoken⟩ := Json.Tree.eq_number_of_value? hchan
  exact ⟨token, rest, ht, Json.NumberToken.integer_of_whole htoken⟩

theorem parse_array_cases {items : List Value} (h : Value.ofText? raw = some (.array items)) :
    (∃ d, parse raw = .ok (.data d)) ∨ ∃ m, parse raw = .error (.malformedData m raw) := by
  rw [parse_of_array h]
  cases DataFrame.ofItems items with
  | ok d => exact .inl ⟨d, rfl⟩
  | error m => exact .inr ⟨m, rfl⟩

example : parse "[1,[[2],3]]" =
    .error (.malformedData "snapshot mixes rows and scalars: 3" "[1,[[2],3]]") := by cbv

theorem parse_object_cases {fields : Json.Fields}
    (h : Value.ofText? raw = some (.object fields)) :
    (∃ c, parse raw = .ok (.event c)) ∨ ∃ m, parse raw = .error (.malformedEvent m raw) := by
  rw [parse_of_object h]
  cases hf : ofFields fields with
  | ok f =>
    cases f with
    | event c => exact .inl ⟨c, rfl⟩
    | data d => exact absurd hf (ofFields_ne_data fields d)
  | error m => exact .inr ⟨m, rfl⟩

theorem parse_of_other {v : Value} (h : Value.ofText? raw = some v) (harray : v.array? = none)
    (hobject : ∀ fields, v ≠ .object fields) : parse raw = .error (.unexpectedShape raw) := by
  rw [parse, h]
  cases v with
  | array items => cases harray
  | object fields => exact absurd rfl (hobject fields)
  | _ => rfl

/-- What a text is taken for. -/
structure Classified (raw : String) : Prop where
  data : ∀ d, parse raw = .ok (.data d) ↔
    d.WellFormed ∧ ∃ more, Value.ofText? raw = some (.array (d.items more))
  /-- The channel id of a data frame is written as a whole number. -/
  number : ∀ d, parse raw = .ok (.data d) → ∃ token rest,
    Json.Tree.ofText? raw = some (.array (.number token :: rest)) ∧
      token.IsInteger ∧ token.integer = d.chanId.toInt
  array : ∀ items, Value.ofText? raw = some (.array items) →
    (∃ d, parse raw = .ok (.data d)) ∨ ∃ m, parse raw = .error (.malformedData m raw)
  object : ∀ fields, Value.ofText? raw = some (.object fields) →
    (∃ c, parse raw = .ok (.event c)) ∨ ∃ m, parse raw = .error (.malformedEvent m raw)
  other : ∀ v, Value.ofText? raw = some v → v.array? = none → (∀ fields, v ≠ .object fields) →
    parse raw = .error (.unexpectedShape raw)
  noValue : Value.ofText? raw = none → parse raw = .error (.invalidJson raw)

/-- Data frames are told by their grammar from every other text and read back from their own. -/
theorem frames_classified :
    (∀ raw, Classified raw) ∧
      ∀ (d : DataFrame) (more : List Value), d.WellFormed →
        Value.Plain Json.maxDepth (.array (d.items more)) →
          parse (Value.toText (.array (d.items more))) = .ok (.data d) := by
  refine ⟨fun raw => ?_, fun d more hwf hplain => ?_⟩
  · exact {
      data := fun _ => parse_eq_data_iff
      number := fun _ => exists_token_of_parse
      array := fun _ => parse_array_cases
      object := fun _ => parse_object_cases
      other := fun _ => parse_of_other
      noValue := fun h => by rw [parse, h] }
  · exact parse_eq_data_iff.mpr ⟨hwf, more, hplain.ofText?_toText⟩

theorem frames_classified_snapshot :
    parse "[-17,\"te\",[[1,\"\\u0001\"],[]],null]" =
      .ok (.data ⟨-17, some "te", .snapshot [[.ofInt64 1, .text "\x01"], []]⟩) := by
  have hrow : ∀ v ∈ [Value.ofInt64 1, .text "\x01"], Value.Plain 124 v := by
    simp [Value.Plain.ofInt64, Value.Plain.text]
  have hrows : ∀ v ∈ [Value.array [.ofInt64 1, .text "\x01"], .array []], Value.Plain 125 v := by
    simp [Value.Plain.array hrow, Value.Plain.array]
  have hitems : ∀ v ∈ [Value.ofInt64 (-17), .text "te",
      .array [.array [.ofInt64 1, .text "\x01"], .array []], .null], Value.Plain 126 v := by
    simp [Value.Plain.ofInt64, Value.Plain.text, Value.Plain.null, Value.Plain.array hrows]
  exact frames_classified.2 ⟨-17, some "te", .snapshot [[.ofInt64 1, .text "\x01"], []]⟩ [.null]
    ⟨by decide, trivial⟩ (.array hitems)

end Frame
end MarketWire
