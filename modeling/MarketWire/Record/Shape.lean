import MarketWire.Number.Decimal.Notation
import MarketWire.Json.Printer
import MarketWire.Market.Side

/-!
# Records as JSON objects

A shape lists the fields of a record with the form of each. Records are written as objects with the
fields in that order. They are read from objects with the fields in any order, where fields of other
names do not matter and none may come twice, and from arrays of exactly the fields in order.
-/
namespace MarketWire

/-- How a reader stands in a text: how many levels of containers may still follow, and whether the
part was stored before it was read. -/
structure Reading where
  depth : Nat
  stored : Bool

namespace Reading

/-- The reading inside of a container, if one may follow. -/
def inside? (r : Reading) : Option Reading :=
  if r.depth = 0 then none else some { r with depth := r.depth - 1 }

end Reading

/-- The form of one field. -/
structure Slot where
  Value : Type
  write : Value → Json.Value
  read? : Reading → Json.Tree → Option Value
  /-- What stands for a field that is missing, if it may be. -/
  absent : Option Value

/-- Any token but a number written as a whole one is refused. -/
def Json.Tree.integer? : Json.Tree → Option Int
  | .number t =>
    match Json.Number.ofToken? t with
    | some (.whole i _) => some i
    | _ => none
  | _ => none

def Json.Tree.text? : Json.Tree → Option String
  | .text us => Json.textOf? us
  | _ => none

/-- A name as a text, or as the only key of an object whose value is empty: `null`, or in a stored
part also the empty object. -/
def Json.Tree.tag? (r : Reading) : Json.Tree → Option String
  | .text us => Json.textOf? us
  | .object [(k, .null)] => r.inside?.bind fun _ => Json.textOf? k
  | .object [(k, .object [])] => if r.stored then Json.textOf? k else none
  | _ => none

namespace Slot

/-- Decimals are written as texts and read from texts and numbers. -/
def readDecimal? : Json.Tree → Option Decimal
  | .text us => (Json.textOf? us).bind fun s =>
    match Decimal.ofPlain? s.toList with
    | some d => some d
    | none => Decimal.ofScientific? s.toList
  | .number t =>
    match Json.Number.ofToken? t with
    | some (.whole i _) => Decimal.ofInt? i
    | some (.binary x) => Decimal.ofPlain? x.positional.toList
    | none => none
  | _ => none

def decimal : Slot := ⟨Decimal, fun d => .text d.text, fun _ => readDecimal?, none⟩

def int64? (i : Int) : Option Int64 :=
  if -0x8000000000000000 ≤ i && i < 0x8000000000000000 then some (.ofInt i) else none

def readInteger? (t : Json.Tree) : Option Int64 := t.integer?.bind int64?

def integer : Slot := ⟨Int64, .ofInt64, fun _ => readInteger?, none⟩

def text : Slot := ⟨String, .text, fun _ => Json.Tree.text?, none⟩

def readFlag? : Json.Tree → Option Bool
  | .bool b => some b
  | _ => none

def flag : Slot := ⟨Bool, .bool, fun _ => readFlag?, none⟩

def readTexts? (r : Reading) : Json.Tree → Option (List String)
  | .array items => r.inside?.bind fun _ => items.mapM Json.Tree.text?
  | _ => none

def texts : Slot := ⟨List String, fun ss => .array (ss.map .text), readTexts?, none⟩

/-- Any JSON value. -/
def free : Slot := ⟨Json.Value, id, fun r => Json.Tree.value? r.depth, none⟩

/-- One of several names. -/
def named (all : List α) (name : α → String) : Slot :=
  ⟨α, fun a => .text (name a), fun r t => (t.tag? r).bind fun s => all.find? (name · == s), none⟩

/-- A field that may be `null` or missing. -/
def optional (s : Slot) : Slot where
  Value := Option s.Value
  write := fun v => v.elim .null s.write
  read? := fun r t =>
    match t with
    | .null => some none
    | t => (s.read? r t).map some
  absent := some none

end Slot

/-- The names of a record's fields with their forms. -/
abbrev Slots := List (String × Slot)

namespace Slots

/-- One value for each field. -/
abbrev Values : Slots → Type
  | [] => Unit
  | s :: ss => s.2.Value × Values ss

def write : (ss : Slots) → Values ss → List (String × Json.Value)
  | [], () => []
  | (name, s) :: ss, (v, vs) => (name, s.write v) :: write ss vs

/-- The values of an array's items, as many as there are fields. -/
def readItems? (r : Reading) : (ss : Slots) → List Json.Tree → Option (Values ss)
  | [], [] => some ()
  | (_, s) :: ss, t :: ts =>
    match s.read? r t, readItems? r ss ts with
    | some v, some vs => some (v, vs)
    | _, _ => none
  | _, _ => none

/-- The member of a name, unless there are two. -/
def member? (name : String) (members : List (String × Json.Tree)) : Option (Option Json.Tree) :=
  match members.filter (·.1 == name) with
  | [] => some none
  | [(_, t)] => some (some t)
  | _ => none

def readMembers? (r : Reading) (members : List (String × Json.Tree)) :
    (ss : Slots) → Option (Values ss)
  | [] => some ()
  | (name, s) :: ss =>
    match member? name members with
    | none => none
    | some found =>
      match found.elim s.absent (s.read? r), readMembers? r members ss with
      | some v, some vs => some (v, vs)
      | _, _ => none

end Slots

/-- The members of an object with their keys resolved. -/
def Json.Tree.members? (ms : List (List Json.TextUnit × Json.Tree)) :
    Option (List (String × Json.Tree)) :=
  ms.mapM fun (k, t) => (Json.textOf? k).map (·, t)

/-- A record as the values of its fields. -/
structure Shape (α : Type) where
  slots : Slots
  split : α → slots.Values
  join : slots.Values → α

namespace Shape

def fields (s : Shape α) (a : α) : List (String × Json.Value) := s.slots.write (s.split a)

/-- The object of a record, with the fields in their order. -/
def value (s : Shape α) (a : α) : Json.Value := .object (s.fields a)

def read? (s : Shape α) (r : Reading) : Json.Tree → Option α
  | .array items => r.inside?.bind fun r => (s.slots.readItems? r items).map s.join
  | .object ms =>
    r.inside?.bind fun r =>
      (Json.Tree.members? ms).bind fun ms => (s.slots.readMembers? r ms).map s.join
  | _ => none

/-- A record as a field of another one. -/
def slot (s : Shape α) : Slot := ⟨α, s.value, s.read?, none⟩

end Shape
end MarketWire
