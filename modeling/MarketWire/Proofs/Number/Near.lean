import Mathlib.Algebra.Order.Field.Basic
import Mathlib.Data.Rat.Cast.Order
import Mathlib.Tactic.FieldSimp
import Mathlib.Tactic.Linarith
import Mathlib.Tactic.Positivity
import Mathlib.Tactic.Ring

/-!
# Relative errors

One number is near another if it is off by at most a given part of it. Errors add up along a chain of
approximations, and in products and quotients, but for a term of second order.
-/
namespace MarketWire

/-- Whether `x` is off from `v` by at most the part `ε` of `v`. -/
def Near (ε x v : ℚ) : Prop := |x - v| ≤ ε * v

namespace Near

variable {ε δ x y v w : ℚ}

theorem refl (h : 0 ≤ ε) (hv : 0 ≤ v) : Near ε v v := by
  rw [Near, sub_self, abs_zero]
  exact mul_nonneg h hv

theorem mono (h : Near ε x v) (hle : ε ≤ δ) (hv : 0 ≤ v) : Near δ x v :=
  le_trans h (mul_le_mul_of_nonneg_right hle hv)

theorem le (h : Near ε x v) : x ≤ (1 + ε) * v := by
  have habs := (abs_le.mp h).2
  linarith

theorem ge (h : Near ε x v) : (1 - ε) * v ≤ x := by
  have habs := (abs_le.mp h).1
  linarith

theorem pos (h : Near ε x v) (hε : ε < 1) (hv : 0 < v) : 0 < x :=
  lt_of_lt_of_le (mul_pos (sub_pos.mpr hε) hv) h.ge

theorem mul_const {c : ℚ} (h : Near ε x v) (hc : 0 ≤ c) : Near ε (x * c) (v * c) := by
  rw [Near, ← sub_mul, abs_mul, abs_of_nonneg hc, ← mul_assoc]
  exact mul_le_mul_of_nonneg_right h hc

theorem trans (h : Near ε x y) (h' : Near δ y v) (hε : 0 ≤ ε) : Near (ε + δ + ε * δ) x v := by
  have hy := mul_le_mul_of_nonneg_left h'.le hε
  calc |x - v| ≤ |x - y| + |y - v| := abs_sub_le x y v
    _ ≤ ε * y + δ * v := add_le_add h h'
    _ ≤ (ε + δ + ε * δ) * v := by linarith

theorem mul (h : Near ε x v) (h' : Near δ y w) (hy : 0 ≤ y) (hv : 0 ≤ v) (hε : 0 ≤ ε) :
    Near (ε + δ + ε * δ) (x * y) (v * w) := by
  have hleft : |x * y - v * y| ≤ ε * v * ((1 + δ) * w) := by
    rw [← sub_mul, abs_mul, abs_of_nonneg hy]
    exact mul_le_mul h h'.le hy (mul_nonneg hε hv)
  have hright : |v * y - v * w| ≤ v * (δ * w) := by
    rw [← mul_sub, abs_mul, abs_of_nonneg hv]
    exact mul_le_mul_of_nonneg_left h' hv
  calc |x * y - v * w| ≤ |x * y - v * y| + |v * y - v * w| := abs_sub_le _ _ _
    _ ≤ ε * v * ((1 + δ) * w) + v * (δ * w) := add_le_add hleft hright
    _ = (ε + δ + ε * δ) * (v * w) := by ring

theorem div (h : Near ε x v) (h' : Near δ y w) (hv : 0 ≤ v) (hw : 0 < w) (hε : 0 ≤ ε) (hδ : 0 ≤ δ)
    (hδ' : δ < 1) : Near ((ε + δ) / (1 - δ)) (x / y) (v / w) := by
  have hδ₁ : 0 < 1 - δ := sub_pos.mpr hδ'
  have hy : 0 < y := h'.pos hδ' hw
  have hleft : |x * w - v * w| ≤ ε * v * w := by
    rw [← sub_mul, abs_mul, abs_of_pos hw]
    exact mul_le_mul_of_nonneg_right h hw.le
  have hright : |v * w - v * y| ≤ v * (δ * w) := by
    rw [← mul_sub, abs_mul, abs_of_nonneg hv, abs_sub_comm]
    exact mul_le_mul_of_nonneg_left h' hv
  have hcross : |x * w - v * y| ≤ (ε + δ) * (v * w) :=
    calc |x * w - v * y| ≤ |x * w - v * w| + |v * w - v * y| := abs_sub_le _ _ _
      _ ≤ ε * v * w + v * (δ * w) := add_le_add hleft hright
      _ = (ε + δ) * (v * w) := by ring
  have hquotient : x / y - v / w = (x * w - v * y) / (y * w) := by
    field_simp
  have hgoal : (ε + δ) / (1 - δ) * (v / w) = (ε + δ) * (v * w) / ((1 - δ) * w * w) := by
    field_simp
  have hnum : 0 ≤ (ε + δ) * (v * w) := by positivity
  rw [Near, hquotient, abs_div, abs_of_pos (mul_pos hy hw), hgoal]
  exact div_le_div₀ hnum hcross (by positivity) (mul_le_mul_of_nonneg_right h'.ge hw.le)

/-- Two numbers of an interval that starts at many times its width. -/
theorem of_mem_Ico {m width : ℚ} (hm : 0 < m)
    (hx : m * width ≤ x ∧ x < (m + 1) * width) (hv : m * width ≤ v ∧ v < (m + 1) * width) :
    Near (1 / m) x v := by
  have hle : width ≤ 1 / m * v := by
    rw [one_div, le_inv_mul_iff₀ hm]
    exact hv.1
  rw [Near, abs_le]
  constructor <;> linarith

end Near
end MarketWire
