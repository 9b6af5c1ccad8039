import Mathlib.Algebra.Order.Field.Basic
import Mathlib.Data.Rat.Cast.Order
import Mathlib.Tactic.NormNum
import MarketWire.Record.Layout

/-!
# What numbers stand for

A binary value, a decimal and a number of a JSON text each stand for one rational number. A binary
value is taken as an integer exactly if it stands for one, and an element of a row is read as an
integer exactly if its number is one of 64 bits. One value is off: `2^63`, where it comes as a binary
value, is taken although it is out of range, and gives the integer below it.
-/
namespace MarketWire

namespace Binary64

theorem one_pos : 0 < one := by decide +kernel

/-- The number that a binary value stands for, without its sign. -/
def magnitude (x : Binary64) : ℚ := x.scaled / one

def value (x : Binary64) : ℚ := if x.negative then -x.magnitude else x.magnitude

theorem magnitude_nonneg (x : Binary64) : 0 ≤ x.magnitude := by
  exact div_nonneg (Nat.cast_nonneg _) (Nat.cast_nonneg _)

theorem magnitude_eq_natCast_iff (x : Binary64) (n : Nat) :
    x.magnitude = n ↔ x.scaled = n * one := by
  have hone : (one : ℚ) ≠ 0 := by exact_mod_cast one_pos.ne'
  rw [magnitude, div_eq_iff hone]
  exact_mod_cast Iff.rfl

theorem integer?_eq_some_iff (x : Binary64) (i : Int) : x.integer? = some i ↔ x.value = i := by
  have habs : x.value = i → x.magnitude = i.natAbs := by
    intro hi
    have hnonneg := x.magnitude_nonneg
    unfold value at hi
    have hsize : |(i : ℚ)| = x.magnitude := by
      rw [← hi]
      split
      · rw [abs_neg, abs_of_nonneg hnonneg]
      · rw [abs_of_nonneg hnonneg]
    rw [← hsize, Nat.cast_natAbs, Int.cast_abs]
  unfold integer?
  split
  case isTrue hdvd =>
    have hscaled : x.magnitude = (x.scaled / one : Nat) := by
      rw [magnitude_eq_natCast_iff]
      exact (Nat.div_mul_cancel (Nat.dvd_of_mod_eq_zero hdvd)).symm
    rw [Option.some.injEq, value, hscaled]
    generalize x.scaled / one = n
    rw [← Int.cast_inj (α := ℚ)]
    cases x.negative <;> simp
  case isFalse hdvd =>
    refine ⟨nofun, fun hi => absurd ?_ hdvd⟩
    have hscaled := (x.magnitude_eq_natCast_iff _).mp (habs hi)
    rw [hscaled]
    exact Nat.mul_mod_left _ _

end Binary64

/-- The number that a decimal stands for. -/
def Decimal.value (d : Decimal) : ℚ := d.units / 10 ^ d.scale

namespace Json.Number

/-- The number that a number of a JSON text stands for once it is read. -/
def value : Number → ℚ
  | .whole i _ => i
  | .binary x => x.value

def isBinary : Number → Bool
  | .whole .. => false
  | .binary _ => true

end Json.Number

end MarketWire
