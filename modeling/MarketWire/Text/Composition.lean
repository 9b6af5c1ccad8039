import MarketWire.Text.CompositionTable

/-!
# Composed text

Letters with marks have one composed form. All characters are taken apart, the marks behind a letter
are put into the order of their classes, and marks go back onto their letter where one character
stands for both, unless a mark of the same or a higher class stands between. The syllables of Korean
are composed by arithmetic.
-/
namespace MarketWire
namespace Text

/-- The class by which a mark is ordered; 0 for all that is no mark. -/
def markClass (c : Char) : Nat :=
  match markClasses.find? fun (first, last, _) => first ≤ c.toNat && c.toNat ≤ last with
  | some (_, _, n) => n
  | none => 0

/-- The parts of a Korean syllable: leading consonant and vowel, or these and a final consonant. -/
def syllableParts? (n : Nat) : Option (Nat × Nat) :=
  if n < 0xAC00 || 0xD7A3 < n then none
  else
    let i := n - 0xAC00
    if i % 28 == 0 then some (0x1100 + i / 588, 0x1161 + i / 28 % 21)
    else some (n - i % 28, 0x11A7 + i % 28)

def syllable? (a b : Nat) : Option Nat :=
  if 0x1100 ≤ a && a ≤ 0x1112 && 0x1161 ≤ b && b ≤ 0x1175 then
    some (0xAC00 + ((a - 0x1100) * 21 + (b - 0x1161)) * 28)
  else if 0xAC00 ≤ a && a ≤ 0xD7A3 && (a - 0xAC00) % 28 == 0 && 0x11A8 ≤ b && b ≤ 0x11C2 then
    some (a + (b - 0x11A7))
  else none

/-- The two characters that one stands for. -/
def parts? (n : Nat) : Option (Nat × Nat) :=
  (syllableParts? n).or ((composites.find? (·.1 == n)).map (·.2))

/-- The character that stands for two. -/
def composite? (a b : Char) : Option Char :=
  ((syllable? a.toNat b.toNat).or
    ((composites.find? (·.2 == (a.toNat, b.toNat))).map (·.1))).map Char.ofNat

/-- Takes a character apart and its letter again, at most `depth` times in all. -/
def decomposedTo : (depth : Nat) → Nat → List Char
  | 0, n => [Char.ofNat n]
  | depth + 1, n =>
    match parts? n with
    | none => [Char.ofNat n]
    | some (a, b) => decomposedTo depth a ++ [Char.ofNat b]

/-- A letter with all its marks. No character stands for a letter with more than three of them. -/
def decomposed (c : Char) : List Char := decomposedTo 4 c.toNat

/-- Puts a character behind others, which come last first, but in front of marks of a higher
class. -/
def insertMark (c : Char) : List Char → List Char
  | [] => [c]
  | d :: ds =>
    if markClass c != 0 && markClass c < markClass d then d :: insertMark c ds else c :: d :: ds

def arranged (cs : List Char) : List Char := (cs.foldl (fun done c => insertMark c done) []).reverse

/-- Composes what stands behind the letter `base` with it; `between` are the marks, last first, that
stay in between. -/
def composeOn (base : Char) (between : List Char) : List Char → List Char
  | [] => base :: between.reverse
  | c :: cs =>
    let whole :=
      if between.any fun d => markClass c ≤ markClass d then none else composite? base c
    match whole with
    | some b => composeOn b between cs
    | none =>
      if markClass c == 0 then base :: (between.reverse ++ composeOn c [] cs)
      else composeOn base (c :: between) cs

def compose : List Char → List Char
  | [] => []
  | c :: cs => if markClass c == 0 then composeOn c [] cs else c :: compose cs

def composed (cs : List Char) : List Char :=
  compose (arranged (cs.flatMap decomposed))

end Text
end MarketWire
