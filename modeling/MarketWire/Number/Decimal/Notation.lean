import MarketWire.Number.Decimal.Basic
import MarketWire.Text.Count

/-!
# Reading decimals

Plain notation is digits with at most one point, a sign in front, and underscores after the first
digit. Places behind the point are kept while scale and mantissa allow; the first digit that no
longer fits rounds the last kept one, a five up, and whatever follows must still be digits or
underscores. Underscores in front of that digit do not count, unless the mantissa is a narrow one:
there the first of them ends the number unrounded. Scientific notation moves the point of a plain
number and is exact or refused.
-/
namespace MarketWire
namespace Decimal

def digit (c : Char) : Nat := c.toNat - '0'.toNat

def isFiller (c : Char) : Bool := c.isDigit || c == '_'

/-- Rounds at the digit `d` behind the mantissa `m` with `s` places. A mantissa that rounding lifts
to the limit gives up one more place. -/
def roundAt (m s d : Nat) : Option (Nat × Nat) :=
  if d < 5 then some (m, s)
  else if m + 1 < limit then some (m + 1, s)
  else if s = 0 then none
  else some ((m + 5) / 10, s - 1)

/-- A mantissa is narrow if all but its last digit leave room for one more in a word of 64 bits, with
a margin of one byte. -/
def isNarrow (m : Nat) : Bool := m / 10 + 0xFF < 0xFFFFFFFFFFFFFFFF / 10

/-- Rounds a mantissa with all the places that fit by the text behind them. -/
def roundBy (m s : Nat) : List Char → Option (Nat × Nat)
  | [] => some (m, s)
  | c :: cs =>
    if c.isDigit then if cs.all isFiller then roundAt m s (digit c) else none
    else if c != '_' then none
    else if isNarrow m then if cs.all isFiller then some (m, s) else none
    else roundBy m s cs

/-- Mantissa and scale of unsigned plain notation, read on from `m` and `s`; `point` and `seen` tell
whether the point and some digit have been read. -/
def magnitude : List Char → (m s : Nat) → (point seen : Bool) → Option (Nat × Nat)
  | [], m, s, _, seen => if seen then some (m, s) else none
  | c :: cs, m, s, point, seen =>
    if point && s == maxScale then roundBy m s (c :: cs)
    else if c.isDigit then
      let m' := 10 * m + digit c
      if m' < limit then magnitude cs m' (if point then s + 1 else 0) point true
      else if point then roundBy m s (c :: cs)
      else none
    else if c == '.' && !point then magnitude cs m s true seen
    else if c == '_' && seen then magnitude cs m s point true
    else none

/-- Splits a leading sign off; true for minus. -/
def splitSign : List Char → Bool × List Char
  | '-' :: cs => (true, cs)
  | '+' :: cs => (false, cs)
  | cs => (false, cs)

/-- A zero is read without its sign. -/
def ofPlain? (cs : List Char) : Option Decimal :=
  let (negative, cs) := splitSign cs
  (magnitude cs 0 0 false false).bind fun (m, s) => make? (negative && m != 0) m s

/-- Moves the point `n` places to the right. A scale that runs out is made up by the mantissa. -/
def shiftRight? (d : Decimal) (n : Nat) : Option Decimal :=
  if n ≤ d.scale then make? d.negative d.mantissa (d.scale - n)
  else if maxScale < n then none
  else make? d.negative (d.mantissa * Nat.pow 10 (n - d.scale)) 0

/-- Moves the point `n` places to the left. -/
def shiftLeft? (d : Decimal) (n : Nat) : Option Decimal :=
  if maxScale < n then none else make? d.negative d.mantissa (d.scale + n)

def isMark (c : Char) : Bool := c == 'e' || c == 'E'

/-- A plain number, the mark `e` or `E`, and a power of ten. -/
def ofScientific? (cs : List Char) : Option Decimal :=
  match cs.dropWhile (!isMark ·) with
  | [] => none
  | _ :: power =>
    (ofPlain? (cs.takeWhile (!isMark ·))).bind fun base =>
      match power with
      | '-' :: ds => (Text.count? ds).bind base.shiftLeft?
      | ds => (Text.count? ds).bind base.shiftRight?

/-- Either notation, told apart by the mark. -/
def ofText? (s : String) : Option Decimal :=
  let cs := s.toList
  if cs.any isMark then ofScientific? cs else ofPlain? cs

end Decimal
end MarketWire
