import MarketWire.Json.Printer
import MarketWire.Text.Phrase
import MarketWire.Text.Quoted

/-!
# Members of control frames

A control frame is an object of which each kind of event knows some members. The members present are
checked in the order of their keys and the first fault is the one reported; what is missing matters
only then. Members that an event does not know are skipped.
-/
namespace MarketWire

inductive MemberError where
  | wrongType (found expected : String)
  | wrongValue (found expected : String)
  | wrongCount (count : Nat) (expected : String)
  | missing (name : String)
deriving DecidableEq

namespace MemberError

def message : MemberError → String
  | .wrongType found expected => Text.phrase ["invalid type: ", found, ", expected ", expected]
  | .wrongValue found expected => Text.phrase ["invalid value: ", found, ", expected ", expected]
  | .wrongCount count expected => Text.phrase ["invalid length ", toString count, ", expected ", expected]
  | .missing name => Text.phrase ["missing field `", name, "`"]

end MemberError

/-- How a member is read, and what stands for one that is missing. -/
structure Member where
  Value : Type
  read : Json.Value → Except MemberError Value
  absent : Option Value

namespace Member

/-- What a fault says was found. -/
def found : Json.Value → String
  | .null => "null"
  | .bool b => Text.phrase ["boolean `", Text.yesNo b, "`"]
  | .number (.whole i _) => Text.phrase ["integer `", toString i, "`"]
  | .number (.binary x) => Text.phrase ["floating point `", .ofList (Json.Number.binaryChars x), "`"]
  | .text s => Text.phrase ["string ", Text.quoted s]
  | .array _ => "sequence"
  | .object _ => "map"

/-- A whole number between two bounds. -/
def readWhole (low high : Int) (expected : String) : Json.Value → Except MemberError Int
  | .number (.whole i fits) =>
    if low ≤ i && i < high then .ok i
    else .error (.wrongValue (found (.number (.whole i fits))) expected)
  | v => .error (.wrongType (found v) expected)

def readInteger (v : Json.Value) : Except MemberError Int64 :=
  (readWhole (-0x8000000000000000) 0x8000000000000000 "i64" v).map Int64.ofInt

def readCount (v : Json.Value) : Except MemberError UInt32 :=
  (readWhole 0 0x100000000 "u32" v).map fun i => UInt32.ofNat i.toNat

def readText : Json.Value → Except MemberError String
  | .text s => .ok s
  | v => .error (.wrongType (found v) "a string")

/-- Any value, as text. -/
def readLoose : Json.Value → Except MemberError (Option String)
  | .null => .ok none
  | .text s => .ok (some s)
  | v => .ok (some v.toText)

/-- The platform's status, as a member of an object or as the only item of an array. -/
def readStatus : Json.Value → Except MemberError Int64
  | .object fields =>
    match Json.Fields.get? "status" fields with
    | some v => readInteger v
    | none => .error (.missing "status")
  | .array [] => .error (.wrongCount 0 "struct PlatformStatus with 1 element")
  | .array [v] => readInteger v
  | .array (v :: _ :: vs) =>
    match readInteger v with
    | .error e => .error e
    | .ok _ => .error (.wrongCount (vs.length + 2) "1 element in sequence")
  | v => .error (.wrongType (found v) "struct PlatformStatus")

/-- A member that has to be there. -/
def required (read : Json.Value → Except MemberError α) : Member := ⟨α, read, none⟩

/-- A member with a value of its own where it is missing; `null` is none of its values. -/
def defaulted (read : Json.Value → Except MemberError α) (a : α) : Member := ⟨α, read, some a⟩

/-- A member that may be missing or `null`. -/
def optional (read : Json.Value → Except MemberError α) : Member where
  Value := Option α
  read := fun v => if v.isNull then .ok none else (read v).map some
  absent := some none

def loose : Member := ⟨Option String, readLoose, some none⟩

end Member

/-- The members that an event knows, by name. -/
abbrev Members := List (String × Member)

namespace Members

abbrev Values : Members → Type
  | [] => Unit
  | m :: ms => m.2.Value × Values ms

/-- The fault of a member, if the event knows it and it has one. -/
def fault? (ms : Members) (name : String) (v : Json.Value) : Option MemberError :=
  (ms.lookup name).bind fun m =>
    match m.read v with
    | .error e => some e
    | .ok _ => none

def collect (fields : Json.Fields) : (ms : Members) → Except MemberError (Values ms)
  | [] => .ok ()
  | (name, m) :: ms =>
    match (Json.Fields.get? name fields).elim (m.absent.elim (.error (.missing name)) .ok) m.read with
    | .error e => .error e
    | .ok v => (collect fields ms).map (v, ·)

def read (ms : Members) (fields : Json.Fields) : Except MemberError (Values ms) :=
  match fields.findSome? fun (name, v) => ms.fault? name v with
  | some e => .error e
  | none => ms.collect fields

end Members
end MarketWire
