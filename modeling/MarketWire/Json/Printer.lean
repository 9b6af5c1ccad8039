import MarketWire.Json.Value

/-!
# Compact JSON text

Values are written without blanks and objects in their order. In strings the quote, the backslash
and the control characters below space are escaped, five of them by a letter, and nothing else.
-/
namespace MarketWire
namespace Json

def hexChar (n : Nat) : Char := Nat.digitChar (n % 16)

/-- A character inside a string. -/
def escaped (c : Char) : List Char :=
  match c with
  | '"' => ['\\', '"']
  | '\\' => ['\\', '\\']
  | '\x08' => ['\\', 'b']
  | '\t' => ['\\', 't']
  | '\n' => ['\\', 'n']
  | '\x0c' => ['\\', 'f']
  | '\r' => ['\\', 'r']
  | c =>
    if c.toNat < 0x20 then ['\\', 'u', '0', '0', hexChar (c.toNat / 16), hexChar c.toNat] else [c]

def quotedChars (s : String) : List Char := '"' :: (s.toList.flatMap escaped ++ ['"'])

def quoted (s : String) : String := .ofList (quotedChars s)

/-- Items with commas in between. -/
def joined (sep : List Char) : List (List Char) → List Char
  | [] => []
  | [x] => x
  | x :: y :: xs => x ++ sep ++ joined sep (y :: xs)

namespace Value

mutual

def chars : Value → List Char
  | .null => ['n', 'u', 'l', 'l']
  | .bool true => ['t', 'r', 'u', 'e']
  | .bool false => ['f', 'a', 'l', 's', 'e']
  | .number n => n.chars
  | .text s => quotedChars s
  | .array items => '[' :: (joined [','] (itemChars items) ++ [']'])
  | .object fields => '{' :: (joined [','] (fieldChars fields) ++ ['}'])

def itemChars : List Value → List (List Char)
  | [] => []
  | v :: vs => chars v :: itemChars vs

def fieldChars : List (String × Value) → List (List Char)
  | [] => []
  | (k, v) :: fs => (quotedChars k ++ ':' :: chars v) :: fieldChars fs

end

def toText (v : Value) : String := .ofList v.chars

end Value

/-- An object written in the order of the list. -/
def orderedObject (fields : List (String × Value)) : String :=
  .ofList ('{' :: (joined [','] (Value.fieldChars fields) ++ ['}']))

end Json
end MarketWire
