import MarketWire.Number.Decimal.Basic
import MarketWire.Number.Binary64

/-!
# Differences of decimals

Two decimals are subtracted exactly at the larger of their scales. A difference too large for the
mantissa gives up places, rounding half to even, and overflows when there is none left to give up.
-/
namespace MarketWire
namespace Decimal

/-- The mantissa at scale `s`, which is at least that of `d`. -/
def atScale (d : Decimal) (s : Nat) : Int := d.units * Nat.pow 10 (s - d.scale)

/-- Gives up the fewest of `s` places that make `m` fit; `given` are already given up. -/
def fit (negative : Bool) (m : Nat) : Nat → Nat → Option Decimal
  | s, given =>
    let q := Binary64.nearest m (Nat.pow 10 given)
    if q < limit then make? (negative && q != 0) q s
    else match s with
      | 0 => none
      | s + 1 => fit negative m s (given + 1)

/-- The difference `a - b`, or `none` when no place is left to round away. -/
def sub? (a b : Decimal) : Option Decimal :=
  if a.isZero then some (if b.isZero then b else b.neg)
  else if b.isZero then some a
  else
    let s := max a.scale b.scale
    let d := a.atScale s - b.atScale s
    fit (d < 0) d.natAbs s 0

end Decimal
end MarketWire
