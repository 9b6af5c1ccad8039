import MarketWire.Number.Binary64

/-!
# Shortest decimal digits

The reals that round to a binary64 value form an interval around it, which holds its ends exactly if
the significand is even. Among the decimal grids, coarsest first, the first one with a point in that
interval gives the fewest digits. Only the two neighbours of the value on a grid need a test, since
the interval surrounds the value. Everything is a comparison of natural numbers.
-/
namespace MarketWire

/-- The number `coefficient * 10^exponent`. -/
structure Digits where
  coefficient : Nat
  exponent : Int
deriving DecidableEq

/-- What happens to a value halfway between two grid points. -/
inductive Tie where
  | toEven
  | up
deriving DecidableEq

namespace Shortest

/-- How many decimal digits a number has; zero has none. -/
def digitCount (n : Nat) : Nat := if n = 0 then 0 else (Nat.toDigits 10 n).length

/-- The exponent of the leading decimal digit of `a / b`, for positive `a` and `b`. -/
def leading (a b : Nat) : Int :=
  if b ≤ a then (digitCount (a / b) : Int) - 1 else -(digitCount ((b - 1) / a) : Int)

/-- A value with the interval that rounds to it, as three numerators over `2^1076`. -/
structure Interval where
  low : Nat
  mid : Nat
  high : Nat
  closed : Bool

/-- Below a power of two the spacing is half of that above it. -/
def Interval.of (x : Binary64) : Interval :=
  let m := x.significand
  let below := if m = Binary64.hidden ∧ 0 < x.power then 1 else 2
  { low := (4 * m - below) * Nat.pow 2 x.power
    mid := 4 * m * Nat.pow 2 x.power
    high := (4 * m + 2) * Nat.pow 2 x.power
    closed := m % 2 == 0 }

def denominator : Nat := Nat.pow 2 1076

/-- Whether `c` times `10^k` lies in the interval, where `up / down` is `10^-k` over the unit. -/
def Interval.holds (i : Interval) (up down c : Nat) : Bool :=
  if i.closed then i.low * up ≤ c * down && c * down ≤ i.high * up
  else i.low * up < c * down && c * down < i.high * up

/-- The point of the grid `10^k` in the interval that is nearest to the value. -/
def Interval.onGrid (i : Interval) (tie : Tie) (k : Int) : Option Nat :=
  let up := if k < 0 then Nat.pow 10 (-k).toNat else 1
  let down := if k < 0 then denominator else denominator * Nat.pow 10 k.toNat
  let c := i.mid * up / down
  match i.holds up down c, i.holds up down (c + 1) with
  | true, true =>
    let below := i.mid * up - c * down
    let above := (c + 1) * down - i.mid * up
    if below < above then some c
    else if above < below then some (c + 1)
    else match tie with
      | .up => some (c + 1)
      | .toEven => some (c + c % 2)
  | true, false => some c
  | false, true => some (c + 1)
  | false, false => none

def dropZeros : Nat → Nat → Int → Digits
  | 0, c, k => ⟨c, k⟩
  | n + 1, c, k => if c % 10 = 0 then dropZeros n (c / 10) (k + 1) else ⟨c, k⟩

/-- Tries the grids from `10^k` on down. -/
def search (i : Interval) (tie : Tie) : Nat → Int → Digits
  | 0, k => ⟨i.mid, k⟩
  | n + 1, k =>
    match i.onGrid tie k with
    | some c => dropZeros 20 c k
    | none => search i tie n (k - 1)

/-- The fewest digits that read back as the value, and of those the nearest; zero has none. -/
def digits (tie : Tie) (x : Binary64) : Digits :=
  if x.isZero then ⟨0, 0⟩
  else
    let i := Interval.of x
    search i tie 17 (leading i.mid denominator)

end Shortest

namespace Digits

/-- As many zeros. -/
def zeros (n : Nat) : List Char := List.replicate n '0'

/-- Positional notation; a number without fraction has no point. -/
def plain (d : Digits) : List Char :=
  let ds := Nat.toDigits 10 d.coefficient
  if 0 ≤ d.exponent then ds ++ zeros d.exponent.toNat
  else
    let places := (-d.exponent).toNat
    if places < ds.length then
      ds.take (ds.length - places) ++ '.' :: ds.drop (ds.length - places)
    else '0' :: '.' :: (zeros (places - ds.length) ++ ds)

/-- One digit, the others behind a point, and the power of ten with its sign. -/
def scientific (d : Digits) : List Char :=
  let ds := Nat.toDigits 10 d.coefficient
  let e := d.exponent + (ds.length - 1 : Nat)
  ds.take 1 ++ (if ds.length = 1 then [] else '.' :: ds.drop 1) ++
    'e' :: (if e < 0 then '-' else '+') :: Nat.toDigits 10 e.natAbs

end Digits

namespace Binary64

def signed (negative : Bool) (cs : List Char) : List Char := if negative then '-' :: cs else cs

/-- Positional notation of any length, integers without a point; a tie between digits goes up. -/
def positional (x : Binary64) : String :=
  .ofList (signed x.negative (Shortest.digits .up x).plain)

end Binary64
end MarketWire
