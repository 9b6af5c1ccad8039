import MarketWire.Number.Decimal.Notation
import MarketWire.Number.Decimal.OfBinary
import MarketWire.Record.Row

/-!
# Layouts

A layout says which elements of a row a record reads, and as what. An absent element gives the zero
of its kind, a present one of another kind fails and names the field, and elements that no column
reads do not matter. Columns are read in the order of the list, so the first failure in that order
is the one reported.
-/
namespace MarketWire

/-- Numbers go by their text where that is a decimal, and else by their binary value. -/
def Decimal.ofNumber? : Json.Number → Option Decimal
  | .whole i _ => ofInt? i
  | .binary x =>
    match ofText? (.ofList (Json.Number.binaryChars x)) with
    | some d => some d
    | none => ofBinary? x

/-- A number as an integer of 64 bits. The binary value `2^63`, one too many, gives the greatest. -/
def Json.Number.integer? : Json.Number → Option Int64
  | .whole i _ => if i < 0x8000000000000000 then some (.ofInt i) else none
  | .binary x =>
    x.integer?.bind fun i =>
      if -0x8000000000000000 ≤ i && i ≤ 0x8000000000000000 then some (.ofIntClamp i) else none

/-- What an element is read as. -/
inductive Cell where
  | decimal
  | integer
  | text
  | flag
  | texts
  | nested
  | raw
deriving DecidableEq

namespace Cell

abbrev Value : Cell → Type
  | .decimal => Decimal
  | .integer => Int64
  | .text => String
  | .flag => Bool
  | .texts => List String
  | .nested => Option (List Json.Value)
  | .raw => Json.Value

/-- What an absent element gives. -/
def zero : (c : Cell) → c.Value
  | .decimal => .zero
  | .integer => 0
  | .text => ""
  | .flag => false
  | .texts => []
  | .nested => none
  | .raw => .null

/-- What a failure says was expected. -/
def expected : Cell → String
  | .decimal => "decimal"
  | .integer => "integer"
  | .text => "string"
  | .flag => "flag"
  | .texts => "string list"
  | .nested => "array"
  | .raw => "value"

/-- The texts of a list, without its nulls; or the first item that is no text. -/
def textList : List Json.Value → Except String (List String)
  | [] => .ok []
  | .null :: vs => textList vs
  | .text s :: vs => (textList vs).map (s :: ·)
  | v :: _ => .error v.toText

/-- Reads a present element, or gives the text that was found instead. -/
def accept : (c : Cell) → Json.Value → Except String c.Value
  | .decimal, .number n => (Decimal.ofNumber? n).elim (.error (.ofList n.chars)) .ok
  | .decimal, .text s => (Decimal.ofText? s).elim (.error s) .ok
  | .integer, .number n => n.integer?.elim (.error (.ofList n.chars)) .ok
  | .text, .text s => .ok s
  | .flag, .bool b => .ok b
  | .flag, .number n => .ok !n.isZero
  | .texts, .array vs => textList vs
  | .nested, .array vs => .ok (some vs)
  | .raw, v => .ok v
  | _, v => .error v.toText

end Cell

/-- Reads the element at a place of a row. -/
def Row.read (row : Row) (c : Cell) (field : String) (index : Nat) : Except DecodeError c.Value :=
  match row.get? index with
  | none => .ok c.zero
  | some v => (c.accept v).mapError (row.mismatch field index c.expected)

structure Column where
  field : String
  index : Nat
  cell : Cell
deriving DecidableEq

/-- One value for each column. -/
abbrev Values : List Column → Type
  | [] => Unit
  | c :: cs => c.cell.Value × Values cs

def Row.readAll (row : Row) : (cs : List Column) → Except DecodeError (Values cs)
  | [] => .ok ()
  | c :: cs =>
    match row.read c.cell c.field c.index with
    | .error e => .error e
    | .ok v => (row.readAll cs).map (v, ·)

/-- How a record is read from rows of at least `least` elements. Building may fail for a record that
holds another one. -/
structure Layout (α : Type) where
  record : String
  least : Nat
  columns : List Column
  build : Values columns → Except DecodeError α

namespace Layout

def decodeRow (l : Layout α) (row : Row) : Except DecodeError α :=
  match row.readAll l.columns with
  | .error e => .error e
  | .ok vs => l.build vs

def decode (l : Layout α) (values : List Json.Value) : Except DecodeError α :=
  match Row.ofValues l.record l.least values with
  | .error e => .error e
  | .ok row => l.decodeRow row

/-- A value that has to be an array. -/
def decodeValue (l : Layout α) : Json.Value → Except DecodeError α
  | .array values => l.decode values
  | v => .error (.notArray l.record v.toText)

/-- One result for each row, in their order. -/
def decodeAll (l : Layout α) (rows : List (List Json.Value)) : List (Except DecodeError α) :=
  rows.map l.decode

def decodeList (l : Layout α) (vs : List Json.Value) : List (Except DecodeError α) :=
  vs.map l.decodeValue

/-- Another record built from the same columns. -/
def map (f : α → β) (l : Layout α) : Layout β :=
  { l with build := fun vs => (l.build vs).map f }

end Layout
end MarketWire
