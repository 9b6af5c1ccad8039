import MarketWire.Json.Token

/-!
# Number tokens as they are written

A token is written as its sign, its digits with a point before those of the fraction, and the mark and
the sign of its exponent. It is read back from that, whatever follows that is no part of a number.
-/
namespace MarketWire
namespace Json

/-- What follows a number: no part of one. -/
def EndsNumber (cs : List Char) : Prop :=
  ∀ c ∈ cs.head?, c.isDigit = false ∧ c ≠ '.' ∧ c ≠ 'e' ∧ c ≠ 'E'

/-- What follows digits: no other one. -/
def EndsDigits (cs : List Char) : Prop := ∀ c ∈ cs.head?, c.isDigit = false

theorem EndsNumber.endsDigits {cs : List Char} (h : EndsNumber cs) : EndsDigits cs :=
  fun c hc => (h c hc).1

theorem endsDigits_cons {c : Char} (h : c.isDigit = false) (cs : List Char) :
    EndsDigits (c :: cs) := by
  rintro _ ⟨⟩
  exact h

theorem splitDigits_append {ds rest : List Char} (hds : ∀ c ∈ ds, c.isDigit = true)
    (hrest : EndsDigits rest) : splitDigits (ds ++ rest) = (ds, rest) := by
  have hstop : rest.takeWhile Char.isDigit = [] ∧ rest.dropWhile Char.isDigit = rest := by
    cases rest with
    | nil => simp
    | cons c cs => simp [hrest c rfl]
  rw [splitDigits, List.takeWhile_append_of_pos hds, List.dropWhile_append_of_pos hds, hstop.1,
    hstop.2, List.append_nil]

namespace NumberToken

def fractionChars : List Char → List Char
  | [] => []
  | d :: ds => '.' :: d :: ds

/-- An exponent always has a sign. -/
def exponentChars : Option (Bool × List Char) → List Char
  | none => []
  | some (down, ds) => 'e' :: (if down then '-' else '+') :: ds

def unsignedChars (t : NumberToken) : List Char :=
  t.whole ++ (fractionChars t.fraction ++ exponentChars t.exponent)

/-- How a token is written. -/
def chars (t : NumberToken) : List Char := Binary64.signed t.negative t.unsignedChars

/-- Tokens that texts may have: digits, without leading zeros before the point. -/
structure Legal (t : NumberToken) : Prop where
  whole_digits : ∀ c ∈ t.whole, c.isDigit = true
  whole_ne : t.whole ≠ []
  no_zero : t.whole.head? = some '0' → t.whole.length = 1
  fraction_digits : ∀ c ∈ t.fraction, c.isDigit = true
  exponent_digits : ∀ e ∈ t.exponent, e.2 ≠ [] ∧ ∀ c ∈ e.2, c.isDigit = true

end NumberToken

open NumberToken

variable {rest : List Char}

theorem endsDigits_exponentChars (e : Option (Bool × List Char)) (h : EndsNumber rest) :
    EndsDigits (exponentChars e ++ rest) := by
  cases e with
  | none => exact h.endsDigits
  | some e => exact endsDigits_cons rfl _

theorem fraction?_fractionChars {ds : List Char} (hds : ∀ c ∈ ds, c.isDigit = true)
    (e : Option (Bool × List Char)) (h : EndsNumber rest) :
    fraction? (fractionChars ds ++ (exponentChars e ++ rest)) =
      some (ds, exponentChars e ++ rest) := by
  cases ds with
  | nil =>
    cases e with
    | none =>
      cases rest with
      | nil => rfl
      | cons c cs => simp [fractionChars, exponentChars, fraction?, (h c rfl).2.1]
    | some e => simp [fractionChars, exponentChars, fraction?]
  | cons d ds =>
    have hsplit := splitDigits_append hds (endsDigits_exponentChars e h)
    rw [List.cons_append] at hsplit
    simp [fractionChars, fraction?, hsplit]

theorem exponent?_exponentChars {e : Option (Bool × List Char)}
    (he : ∀ p ∈ e, p.2 ≠ [] ∧ ∀ c ∈ p.2, c.isDigit = true) (h : EndsNumber rest) :
    exponent? (exponentChars e ++ rest) = some (e, rest) := by
  cases e with
  | none =>
    cases rest with
    | nil => rfl
    | cons c cs => simp [exponentChars, exponent?, (h c rfl).2.2]
  | some p =>
    obtain ⟨down, ds⟩ := p
    obtain ⟨hne, hds⟩ := he _ rfl
    cases down <;> simp [exponentChars, exponent?, splitDigits_append hds h.endsDigits, hne]

theorem NumberToken.Legal.unsigned? {t : NumberToken} (ht : t.Legal) (h : EndsNumber rest) :
    unsigned? t.negative (t.unsignedChars ++ rest) = some (t, rest) := by
  have hends : EndsDigits (fractionChars t.fraction ++ (exponentChars t.exponent ++ rest)) := by
    cases t.fraction with
    | nil => exact endsDigits_exponentChars t.exponent h
    | cons d ds => exact endsDigits_cons rfl _
  have hsplit := splitDigits_append ht.whole_digits hends
  have hzero : (t.whole.head? == some '0' && t.whole.length != 1) = false := by
    simpa using ht.no_zero
  have hne : t.whole.isEmpty = false := by simpa using ht.whole_ne
  simp [Json.unsigned?, unsignedChars, hsplit, hne, hzero,
    fraction?_fractionChars ht.fraction_digits t.exponent h,
    exponent?_exponentChars ht.exponent_digits h]

theorem token?_digit {c : Char} (h : c.isDigit = true) (cs : List Char) :
    token? (c :: cs) = (unsigned? false (c :: cs)).map fun (t, rest) => (.number t, rest) := by
  have hmark : mark? c = none := by
    unfold mark?
    split <;> first | rfl | exact absurd h (by decide)
  have hquote : (c == '"') = false := beq_eq_false_iff_ne.mpr (by rintro rfl; cases h)
  have hminus : (c == '-') = false := beq_eq_false_iff_ne.mpr (by rintro rfl; cases h)
  simp [token?, hmark, hquote, hminus, h]

/-- A legal token is read back from its text. -/
theorem NumberToken.Legal.token? {t : NumberToken} (ht : t.Legal) (h : EndsNumber rest) :
    token? (t.chars ++ rest) = some (.number t, rest) := by
  have hread := ht.unsigned? h
  unfold chars Binary64.signed
  cases hsign : t.negative with
  | true =>
    rw [hsign] at hread
    simp [Json.token?, mark?, hread]
  | false =>
    cases hds : t.whole with
    | nil => exact absurd hds ht.whole_ne
    | cons d ds =>
      have hd : d.isDigit = true := ht.whole_digits d (hds ▸ List.mem_cons_self)
      rw [hsign, unsignedChars, hds] at hread
      simp only [List.cons_append, List.append_assoc] at hread
      simp [unsignedChars, hds, token?_digit hd, hread]

end Json
end MarketWire
