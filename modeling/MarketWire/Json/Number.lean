import MarketWire.Number.Shortest

/-!
# Numbers in JSON texts

A number is read either as a whole number of 64 bits, signed or unsigned, or as a binary64 value.
The binary value of a token is its digits, as many as 64 bits hold, scaled by one rounded
multiplication or division with a rounded power of ten; it is thus not always the nearest one.
Values are written back with the fewest digits that identify them.
-/
namespace MarketWire
namespace Json

/-- A number token as written. The digits before the point are never empty. -/
structure NumberToken where
  negative : Bool
  whole : List Char
  fraction : List Char
  /-- Sign, true for minus, and digits behind the mark. -/
  exponent : Option (Bool × List Char)
deriving DecidableEq

inductive Number where
  /-- Any signed or unsigned 64-bit integer. -/
  | whole (value : Int) (fits : -0x8000000000000000 ≤ value ∧ value < 0x10000000000000000)
  | binary (value : Binary64)
deriving DecidableEq

namespace Number

def whole? (i : Int) : Option Number :=
  if h : -0x8000000000000000 ≤ i ∧ i < 0x10000000000000000 then some (.whole i h) else none

/-- Appends digits to `n` while the result stays below `2^64`; also how many were taken. -/
def gather : List Char → Nat → Nat × Nat
  | [], n => (n, 0)
  | c :: cs, n =>
    let m := 10 * n + (c.toNat - '0'.toNat)
    if m < 0x10000000000000000 then
      let (n, k) := gather cs m
      (n, k + 1)
    else (n, 0)

def maxPower : Nat := 308

def power? (n : Nat) : Option Binary64 := Binary64.ofNat? (Nat.pow 10 n)

/-- Divides by `10^n` in steps of at most `10^308`. -/
def shrink? (x : Binary64) (n : Nat) : Option Binary64 :=
  if n ≤ maxPower then (power? n).bind x.div?
  else if x.isZero then some x
  else ((power? maxPower).bind x.div?).bind (shrink? · (n - 308))
termination_by n
decreasing_by simp only [maxPower] at *; omega

/-- The value `significand * 10^e`, or `none` if that is beyond the largest. -/
def scale? (significand : Nat) (e : Int) : Option Binary64 :=
  (Binary64.ofNat? significand).bind fun x =>
    if e < 0 then shrink? x (-e).toNat
    else if e ≤ maxPower then (power? e.toNat).bind x.mul?
    else if x.isZero then some x
    else none

/-- The power of ten behind the mark. One that exceeds 31 bits gives zero or nothing at all. -/
def magnitude? (significand : Nat) (start : Int) : Option (Bool × List Char) → Option Binary64
  | none => scale? significand start
  | some (down, ds) =>
    let e := Nat.ofDigitChars 10 ds 0
    if e < 0x80000000 then scale? significand (if down then start - e else start + e)
    else if down || significand == 0 then some (.zero false)
    else none

/-- The value of a token; `none` if it has none in range. -/
def ofToken? (t : NumberToken) : Option Number :=
  let (n, taken) := gather t.whole 0
  let spare := t.whole.length - taken
  let isWhole := spare == 0 && t.fraction.isEmpty && t.exponent.isNone
  if isWhole && !t.negative then whole? n
  else if isWhole && n != 0 && n ≤ 0x8000000000000000 then whole? (-n)
  else
    let (n, places) := gather t.fraction n
    (magnitude? n ((spare : Int) - places) t.exponent).map fun x =>
      .binary (if t.negative then x.neg else x)

/-- Positional between `10^-5` and `10^16`, always with a point; otherwise scientific. -/
def binaryChars (x : Binary64) : List Char :=
  if x.isZero then Binary64.signed x.negative ['0', '.', '0']
  else
    let d := Shortest.digits .toEven x
    let e := d.exponent + (Shortest.digitCount d.coefficient : Int) - 1
    Binary64.signed x.negative <|
      if -5 ≤ e && e < 16 then
        if 0 ≤ d.exponent then d.plain ++ ['.', '0'] else d.plain
      else d.scientific

def wholeChars (i : Int) : List Char :=
  if i < 0 then '-' :: Nat.toDigits 10 i.natAbs else Nat.toDigits 10 i.natAbs

def chars : Number → List Char
  | .whole i _ => wholeChars i
  | .binary x => binaryChars x

def isZero : Number → Bool
  | .whole i _ => i == 0
  | .binary x => x.isZero

end Number
end Json
end MarketWire
