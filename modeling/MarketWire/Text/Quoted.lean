import MarketWire.Text.GraphicTable

/-!
# Texts in diagnostics

A text is shown between quotes. Quote, backslash, tab, line feed, carriage return and the zero
character have an escape of their own; whatever would not show, or would change the character before
it, is shown by its number.
-/
namespace MarketWire
namespace Text

def isGraphic (c : Char) : Bool := !inRanges hiddenRanges c.toNat

def isExtender (c : Char) : Bool := inRanges extenderRanges c.toNat

/-- A character between quotes. -/
def shownChar (c : Char) : List Char :=
  match c with
  | '\x00' => ['\\', '0']
  | '\t' => ['\\', 't']
  | '\n' => ['\\', 'n']
  | '\r' => ['\\', 'r']
  | '"' => ['\\', '"']
  | '\\' => ['\\', '\\']
  | c =>
    if isGraphic c && !isExtender c then [c]
    else ['\\', 'u', '\x7b'] ++ Nat.toDigits 16 c.toNat ++ ['\x7d']

def quoted (s : String) : String := .ofList ('"' :: (s.toList.flatMap shownChar ++ ['"']))

def quotedList (ss : List String) : String := "[" ++ ", ".intercalate (ss.map quoted) ++ "]"

/-- An optional part of a diagnostic. -/
def optional : Option String → String
  | none => "None"
  | some s => "Some(" ++ s ++ ")"

/-- Named parts of a diagnostic. -/
def named (name : String) (parts : List (String × String)) : String :=
  name ++ " \x7b " ++ ", ".intercalate (parts.map fun (k, v) => k ++ ": " ++ v) ++ " \x7d"

def yesNo (b : Bool) : String := if b then "true" else "false"

end Text
end MarketWire
