/-!
# Hexadecimal digits

Letters from A to F count from ten on, in either case.
-/
namespace MarketWire
namespace Text

def hexDigit? (c : Char) : Option Nat :=
  if c.isDigit then some (c.toNat - '0'.toNat)
  else if 'a' ≤ c && c ≤ 'f' then some (c.toNat - 'a'.toNat + 10)
  else if 'A' ≤ c && c ≤ 'F' then some (c.toNat - 'A'.toNat + 10)
  else none

/-- The number that some digits write; other characters do not count. -/
def hexNumber (cs : List Char) : Nat := (cs.filterMap hexDigit?).foldl (fun n d => 16 * n + d) 0

end Text
end MarketWire
