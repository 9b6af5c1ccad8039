import MarketWire.Number.Binary64
import MarketWire.Number.Decimal.Basic

/-!
# Decimals nearest to a binary value

A binary64 value `b * 2^e` is turned into `b * 10^k` by trading factors of two for factors of five
while the mantissa stays below `2^96`. Places beyond the largest scale, and places that would need
more than 52 bits, are rounded away one at a time, a five up; zeros at the end are dropped.
-/
namespace MarketWire
namespace Decimal

/-- A mantissa with its power of ten. -/
structure Scaled where
  mantissa : Nat
  power : Int

/-- Trades `n` halves for fifths of ten; an odd mantissa without room loses its last bit. -/
def tradeHalves : Nat → Scaled → Scaled
  | 0, x => x
  | n + 1, ⟨b, k⟩ =>
    if b % 2 = 0 then tradeHalves n ⟨b / 2, k + 1⟩
    else if 5 * b < limit then tradeHalves n ⟨5 * b, k⟩
    else tradeHalves n ⟨b / 2, k + 1⟩

/-- Trades `n` twos for tens over fives; `none` once the power of ten outweighs what is left. -/
def tradeTwos : Nat → Scaled → Option Scaled
  | 0, x => some x
  | n + 1, ⟨b, k⟩ =>
    if 2 * b < limit then tradeTwos n ⟨2 * b, k - 1⟩
    else if (n + 1 : Int) < 2 * k then none
    else tradeTwos n ⟨b / 5, k⟩

/-- Multiplies `n` tens in. -/
def raise : Nat → Nat → Option Nat
  | 0, b => some b
  | n + 1, b => if limit ≤ 10 * b then none else raise n (10 * b)

/-- Drops `n` of `s` places, rounding each. A mantissa that vanishes has no places. -/
def dropPlaces : Nat → Nat × Nat → Nat × Nat
  | 0, x => x
  | n + 1, (b, s) =>
    let q := b / 10
    if q = 0 then (0, 0)
    else dropPlaces n (if 5 ≤ b % 10 then q + 1 else q, s - 1)

/-- Rounds places away while the mantissa has more than 52 bits. -/
def narrow : Nat → Nat → Nat × Nat
  | 0, b => (b, 0)
  | s + 1, b =>
    if b < Binary64.hidden then (b, s + 1)
    else narrow s (if 5 ≤ b % 10 then b / 10 + 1 else b / 10)

def dropZeros : Nat → Nat → Nat × Nat
  | 0, b => (b, 0)
  | s + 1, b => if b % 10 = 0 then dropZeros s (b / 10) else (b, s + 1)

/-- The decimal near `x`, if its magnitude is in range. -/
def ofBinary? (x : Binary64) : Option Decimal :=
  let e : Int := (x.power : Int) - 1074
  let start : Scaled := ⟨x.significand, e⟩
  let traded := if e < 0 then some (tradeHalves (-e).toNat start) else tradeTwos e.toNat start
  traded.bind fun ⟨b, k⟩ =>
    if 0 < k then (raise k.toNat b).bind fun b => make? x.negative b 0
    else
      let s := (-k).toNat
      let (b, s) := dropPlaces (s - maxScale) (b, s)
      let (b, s) := narrow s b
      let (b, s) := dropZeros s b
      make? x.negative b s

end Decimal
end MarketWire
