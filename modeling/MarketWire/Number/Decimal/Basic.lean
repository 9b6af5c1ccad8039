/-!
# Fixed decimals

An amount or a price is an integer mantissa below `2^96` with a scale of at most 28 decimal places
and a sign. The scale is part of the value as written: `1.50` and `1.5` are equal amounts with
different texts. A zero may carry a minus sign, which only its text shows.
-/
namespace MarketWire

/-- The first mantissa that does not fit, `2^96`. -/
def Decimal.limit : Nat := 0x1000000000000000000000000

/-- The number `mantissa / 10^scale`, negated if `negative`. -/
structure Decimal where
  negative : Bool
  mantissa : Nat
  scale : Nat
  mantissa_lt : mantissa < Decimal.limit
  scale_le : scale ≤ 28
deriving DecidableEq

namespace Decimal

def maxScale : Nat := 28

def make? (negative : Bool) (m s : Nat) : Option Decimal :=
  if h : m < limit ∧ s ≤ 28 then some ⟨negative, m, s, h.1, h.2⟩ else none

def zero : Decimal := ⟨false, 0, 0, by decide, by decide⟩

instance : Inhabited Decimal := ⟨zero⟩

def ofInt? (i : Int) : Option Decimal := make? (i < 0) i.natAbs 0

def isZero (d : Decimal) : Bool := d.mantissa == 0

/-- Strictly above zero. -/
def isPositive (d : Decimal) : Bool := !d.negative && !d.isZero

def abs (d : Decimal) : Decimal := { d with negative := false }

def neg (d : Decimal) : Decimal := { d with negative := !d.negative }

/-- The numerator over `10^scale`, with its sign. -/
def units (d : Decimal) : Int := if d.negative then -(d.mantissa : Int) else d.mantissa

theorem units_abs (d : Decimal) : d.abs.units = d.units.natAbs := by
  cases h : d.negative <;> simp [units, abs, h]

theorem isPositive_iff (d : Decimal) : d.isPositive = true ↔ 0 < d.units := by
  cases h : d.negative <;> grind [isPositive, units, isZero]

/-- Positional notation with exactly `scale` digits behind the point. -/
def chars (d : Decimal) : List Char :=
  let ds := Nat.toDigits 10 d.mantissa
  let ds := List.replicate (d.scale + 1 - ds.length) '0' ++ ds
  let whole := ds.take (ds.length - d.scale)
  let body := if d.scale = 0 then whole else whole ++ '.' :: ds.drop (ds.length - d.scale)
  if d.negative then '-' :: body else body

def text (d : Decimal) : String := .ofList d.chars

end Decimal
end MarketWire
