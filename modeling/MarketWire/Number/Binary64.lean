/-!
# Binary floating point

A finite binary64 value is a sign, a significand and the power of two that its last place weighs,
counted in units of `2^-1074`. The magnitude is thus an integer over `2^1074`, and rounding an exact
ratio to the nearest value needs natural numbers only. No machine arithmetic is used.
-/
namespace MarketWire

namespace Binary64

/-- The first significand that does not fit, `2^53`. -/
def limit : Nat := 0x20000000000000

/-- The least significand of a value that is not subnormal, `2^52`. -/
def hidden : Nat := 0x10000000000000

end Binary64

/-- The finite value `significand * 2^power / 2^1074`, negated if `negative`. Zero has both signs.
-/
structure Binary64 where
  negative : Bool
  significand : Nat
  power : Nat
  significand_lt : significand < Binary64.limit
  normal : Binary64.hidden ≤ significand ∨ power = 0
  power_le : power ≤ 2045
deriving DecidableEq

namespace Binary64

/-- One, counted in units of `2^-1074`. -/
def one : Nat := Nat.pow 2 1074

/-- The magnitude in units of `2^-1074`. -/
def scaled (x : Binary64) : Nat := x.significand * Nat.pow 2 x.power

def isZero (x : Binary64) : Bool := x.significand == 0

def zero (negative : Bool) : Binary64 := ⟨negative, 0, 0, by decide, .inr rfl, by decide⟩

def neg (x : Binary64) : Binary64 := { x with negative := !x.negative }

/-- The integer nearest to `a / b`, of two the even one. -/
def nearest (a b : Nat) : Nat :=
  let q := a / b
  let r := a % b
  if 2 * r < b then q else if b < 2 * r then q + 1 else q + q % 2

def ofParts? (negative : Bool) (m p : Nat) : Option Binary64 :=
  if h : m < limit ∧ (hidden ≤ m ∨ p = 0) ∧ p ≤ 2045 then
    some ⟨negative, m, p, h.1, h.2.1, h.2.2⟩
  else none

/-- The value nearest to `a / b` units, a tie to the even significand; `none` beyond the largest. -/
def round? (negative : Bool) (a b : Nat) : Option Binary64 :=
  let p := Nat.log2 (a / b) - 52
  let m := nearest a (b * Nat.pow 2 p)
  if m = limit then ofParts? negative hidden (p + 1) else ofParts? negative m p

def ofNat? (n : Nat) : Option Binary64 := round? false (n * one) 1

def mul? (x y : Binary64) : Option Binary64 :=
  round? (x.negative != y.negative) (x.scaled * y.scaled) one

/-- The rounded quotient; the divisor is not zero. -/
def div? (x y : Binary64) : Option Binary64 :=
  round? (x.negative != y.negative) (x.scaled * one) y.scaled

/-- The integer that the value is, if it is one. -/
def integer? (x : Binary64) : Option Int :=
  if x.scaled % one = 0 then
    let n : Int := (x.scaled / one : Nat)
    some (if x.negative then -n else n)
  else none

end Binary64
end MarketWire
