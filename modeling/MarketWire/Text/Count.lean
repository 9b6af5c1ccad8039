/-!
# Counts

A count is written in digits, with a plus sign in front or without, and fits 32 bits.
-/
namespace MarketWire
namespace Text

def countDigits? (cs : List Char) : Option Nat :=
  if cs.isEmpty || !cs.all Char.isDigit then none
  else
    let n := Nat.ofDigitChars 10 cs 0
    if n < 0x100000000 then some n else none

def count? : List Char → Option Nat
  | '+' :: cs => countDigits? cs
  | cs => countDigits? cs

theorem countDigits?_toDigits {n : Nat} (h : n < 0x100000000) :
    countDigits? (Nat.toDigits 10 n) = some n := by
  have hne : (Nat.toDigits 10 n).isEmpty = false := by simp [Nat.toDigits_ne_nil]
  have hall : (Nat.toDigits 10 n).all Char.isDigit = true := by
    rw [List.all_eq_true]
    exact fun c hc => Nat.isDigit_of_mem_toDigits (by decide) (by decide) hc
  simp [countDigits?, hne, hall, Nat.ofDigitChars_ten_toDigits, h]

/-- A count is read back as it was written. -/
theorem count?_toDigits {n : Nat} (h : n < 0x100000000) :
    count? (Nat.toDigits 10 n) = some n := by
  rw [← countDigits?_toDigits h]
  unfold count?
  split
  next cs heq =>
    have hplus : '+' ∈ Nat.toDigits 10 n := heq ▸ List.mem_cons_self
    have hdigit := Nat.isDigit_of_mem_toDigits (by decide) (by decide) hplus
    exact absurd hdigit (by decide)
  next => rfl

end Text
end MarketWire
