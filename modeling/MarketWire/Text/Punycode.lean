/-!
# Punycode

A text written in ASCII alone. Its ASCII characters come first, in order and with a hyphen behind
them. The others follow as insertions, sorted by character and then by place: each is one number,
the distance from the insertion before it when all places are counted for all characters from U+0080
on. Numbers are written to base 36, lowest digit first, with thresholds that follow the size of the
numbers before.
-/
namespace MarketWire
namespace Punycode

/-- Where the next insertion is counted from: character, place, and the number of characters that
are already there. -/
structure Cursor where
  code : Nat
  place : Nat
  size : Nat
  bias : Nat
  first : Bool

namespace Cursor

def start (size : Nat) : Cursor := ⟨0x80, 0, size, 72, true⟩

/-- Divides a distance until it is small; counts the divisions in steps of 36. -/
def settle (delta k : Nat) : Nat × Nat :=
  if 455 < delta then settle (delta / 35) (k + 36) else (delta, k)
termination_by delta
decreasing_by omega

/-- The thresholds behind a number. -/
def nextBias (c : Cursor) (delta : Nat) : Nat :=
  let scaled := delta / (if c.first then 700 else 2)
  let (d, k) := settle (scaled + scaled / (c.size + 1)) 0
  k + 36 * d / (d + 38)

/-- The cursor behind an insertion at `delta`. -/
def next (c : Cursor) (delta : Nat) : Cursor where
  code := c.code + (c.place + delta) / (c.size + 1)
  place := (c.place + delta) % (c.size + 1) + 1
  size := c.size + 1
  bias := c.nextBias delta
  first := false

/-- The distance to a character at a place. -/
def distance (c : Cursor) (code place : Nat) : Nat :=
  (code - c.code) * (c.size + 1) + place - c.place

end Cursor

/-- From 1 to 26. A digit below its threshold ends a number. -/
def threshold (bias k : Nat) : Nat := min 26 (max 1 (k - bias))

theorem threshold_pos (bias k : Nat) : 0 < threshold bias k := by
  simp only [threshold]; omega

def digitChar (d : Nat) : Char :=
  if d < 26 then Char.ofNat (d + 'a'.toNat) else Char.ofNat (d - 26 + '0'.toNat)

def digit? (c : Char) : Option Nat :=
  if c.isLower then some (c.toNat - 'a'.toNat)
  else if c.isUpper then some (c.toNat - 'A'.toNat)
  else if c.isDigit then some (c.toNat - '0'.toNat + 26)
  else none

def writeNumber (bias k n : Nat) : List Char :=
  let t := threshold bias k
  if n < t then [digitChar n]
  else digitChar (t + (n - t) % (36 - t)) :: writeNumber bias (k + 36) ((n - t) / (36 - t))
termination_by n
decreasing_by
  have := threshold_pos bias k
  have := Nat.div_le_self (n - threshold bias k) (36 - threshold bias k)
  omega

/-- A number and what follows it; `weight` is what the next digit counts for. -/
def readNumber? (bias : Nat) : (k weight n : Nat) → List Char → Option (Nat × List Char)
  | _, _, _, [] => none
  | k, weight, n, c :: cs =>
    (digit? c).bind fun d =>
      if d < threshold bias k then some (n + d * weight, cs)
      else readNumber? bias (k + 36) (weight * (36 - threshold bias k)) (n + d * weight) cs

theorem readNumber?_length {bias k weight n m : Nat} {cs rest : List Char}
    (h : readNumber? bias k weight n cs = some (m, rest)) : rest.length < cs.length := by
  induction cs generalizing k weight n with
  | nil => simp [readNumber?] at h
  | cons c cs ih =>
    simp only [readNumber?, Option.bind_eq_some_iff] at h
    obtain ⟨d, -, h⟩ := h
    split at h
    · simp only [Option.some.injEq, Prod.mk.injEq] at h
      simp [← h.2]
    · have := ih h
      simp only [List.length_cons]; omega

def isAscii (c : Char) : Bool := c.toNat < 0x80

/-- The insertions of a text in their order: each character beyond ASCII with its place among those
that are inserted before it. -/
def insertions (cs : List Char) : List (Nat × Nat) :=
  let found := (cs.zipIdx.filter fun (c, _) => !isAscii c).map fun (c, i) =>
    (c.toNat, ((cs.take i).filter (·.toNat ≤ c.toNat)).length)
  found.mergeSort fun a b => a.1 < b.1 || (a.1 == b.1 && a.2 ≤ b.2)

def writeInsertions : Cursor → List (Nat × Nat) → List Char
  | _, [] => []
  | c, (code, place) :: rest =>
    let delta := c.distance code place
    writeNumber c.bias 36 delta ++ writeInsertions (c.next delta) rest

def encode (cs : List Char) : List Char :=
  let plain := cs.filter isAscii
  plain ++ (if plain.isEmpty then [] else ['-']) ++
    writeInsertions (.start plain.length) (insertions cs)

/-- Whether a number is that of a character. -/
def isCharacter (n : Nat) : Bool := n < 0xD800 || (0xDFFF < n && n < 0x110000)

def readInsertions? (c : Cursor) (out : List Char) (cs : List Char) : Option (List Char) :=
  if cs.isEmpty then some out
  else match h : readNumber? c.bias 36 1 0 cs with
    | none => none
    | some (delta, rest) =>
      let c' := c.next delta
      if isCharacter c'.code then
        readInsertions? c' (out.insertIdx (c'.place - 1) (Char.ofNat c'.code)) rest
      else none
termination_by cs.length
decreasing_by exact readNumber?_length h

/-- The plain characters and the numbers behind the last hyphen. A hyphen at the start is none. -/
def splitPlain (cs : List Char) : List Char × List Char :=
  let numbers := (cs.reverse.takeWhile (· != '-')).reverse
  let plain := (cs.reverse.dropWhile (· != '-')).reverse.dropLast
  if plain.isEmpty then ([], cs) else (plain, numbers)

def decode? (cs : List Char) : Option (List Char) :=
  let (plain, numbers) := splitPlain cs
  if plain.all isAscii then readInsertions? (.start plain.length) plain numbers else none

end Punycode
end MarketWire
