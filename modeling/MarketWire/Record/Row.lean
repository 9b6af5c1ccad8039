import MarketWire.Json.Printer
import MarketWire.Text.Phrase

/-!
# Rows

Records arrive as arrays whose elements are told apart by their place alone. A row is such an array
under the name of the record it should hold, once it is known to be long enough. Failures keep the
offending row as text.
-/
namespace MarketWire

inductive DecodeError where
  | tooShort (record : String) (expected actual : Nat) (raw : String)
  | mismatch (record field : String) (index : Nat) (expected found raw : String)
  | notArray (record found : String)
deriving DecidableEq

namespace DecodeError

def record : DecodeError → String
  | .tooShort r .. | .mismatch r .. | .notArray r _ => r

/-- The input that caused the failure. -/
def raw : DecodeError → String
  | .tooShort _ _ _ raw | .mismatch _ _ _ _ _ raw | .notArray _ raw => raw

def message : DecodeError → String
  | .tooShort record expected actual raw =>
    Text.phrase [
      record, ": expected at least ", toString expected, " fields, got ", toString actual, " (raw: ",
      raw, ")"]
  | .mismatch record field index expected found raw =>
    Text.phrase [
      record, ".", field, " at index ", toString index, ": expected ", expected, ", found ", found,
      " (raw: ", raw, ")"]
  | .notArray record found =>
    Text.phrase [record, ": expected an array payload, found ", found]

end DecodeError

structure Row where
  record : String
  values : List Json.Value

namespace Row

/-- The text of an array. -/
def render (values : List Json.Value) : String := (Json.Value.array values).toText

def ofValues (record : String) (least : Nat) (values : List Json.Value) : Except DecodeError Row :=
  if values.length < least then .error (.tooShort record least values.length (render values))
  else .ok ⟨record, values⟩

/-- The element at a place; one that is `null` counts as absent. -/
def get? (row : Row) (i : Nat) : Option Json.Value :=
  match row.values[i]? with
  | some .null => none
  | v => v

def mismatch (row : Row) (field : String) (index : Nat) (expected found : String) : DecodeError :=
  .mismatch row.record field index expected found (render row.values)

end Row
end MarketWire
