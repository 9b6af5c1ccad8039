import MarketWire.Rest.Host.NameTable
import MarketWire.Text.Composition
import MarketWire.Text.Punycode
import MarketWire.Text.Quoted

/-!
# Host names

Names in any script have one form in ASCII. All characters are first mapped: capitals to small
letters, variants to what they stand for, some to nothing. A label that then holds more than ASCII
is written in Punycode behind `xn--`; one that comes in that form must be what its text would be
written as. No label starts with a mark, joiners stand only where they join, and as soon as one
character of a name is written from right to left, every label has to keep one direction.
-/
namespace MarketWire
namespace HostName

/-- ASCII characters that no name may hold. -/
def isForbidden (c : Char) : Bool :=
  c.toNat ≤ 0x20 || c.toNat == 0x7F || "%#/:<>?@[\\]^|".toList.contains c

def joiner : Char := '\u200d'

def nonJoiner : Char := '\u200c'

def isJoiner (c : Char) : Bool := c == joiner || c == nonJoiner

def isRefused (c : Char) : Bool :=
  (!Text.isGraphic c && !isJoiner c) || Text.inRanges refusedRanges c.toNat

/-- What a character becomes, unless it may not stand in a name. -/
def image? (c : Char) : Option (List Char) :=
  if Punycode.isAscii c then if isForbidden c then none else some [c.toLower]
  else if Text.inRanges droppedRanges c.toNat then some []
  else match movedRuns.find? (·.covers c.toNat), images.find? (·.1 == c.toNat) with
    | some r, _ => some [Char.ofNat (r.image c.toNat)]
    | none, some (_, ns) => some (ns.map Char.ofNat)
    | none, none => if isRefused c then none else some [c]

/-- Maps all characters and composes them. -/
def mapped? (cs : List Char) : Option (List Char) :=
  (cs.mapM image?).map fun images => Text.composed images.flatten

/-- Whether mapping leaves a text as it is. -/
def isStable (cs : List Char) : Bool :=
  cs.all (fun c => image? c == some [c]) && Text.composed cs == cs

/-! ## Labels -/

def punycodeMark : List Char := "xn--".toList

/-- The text of a mapped label. -/
def labelText? (cs : List Char) : Option (List Char) :=
  if !punycodeMark.isPrefixOf cs then some cs
  else if cs.getLast? == some '-' || !cs.all Punycode.isAscii then none
  else (Punycode.decode? (cs.drop punycodeMark.length)).filter isStable

def labelForm (cs : List Char) : List Char :=
  if cs.all Punycode.isAscii then cs else punycodeMark ++ Punycode.encode cs

/-! ## Marks and joiners -/

def isSpacing (c : Char) : Bool := Text.inRanges spacingRanges c.toNat

/-- Marks that take no space. -/
def isFlat (c : Char) : Bool := Text.isExtender c && !isSpacing c && !isJoiner c

def isMark (c : Char) : Bool := isFlat c || isSpacing c

/-- Characters that joining looks through. -/
def isTransparent (c : Char) : Bool := isFlat c || c.toNat == 0x1E94B

def joinsBoth (c : Char) : Bool := Text.inRanges bothRanges c.toNat

def joinsNext (c : Char) : Bool := joinsBoth c || Text.inRanges forwardRanges c.toNat

def joinsPrevious (c : Char) : Bool := joinsBoth c || Text.inRanges backwardRanges c.toNat

/-- The class of the signs that take its vowel from a letter. -/
def vowelKiller : Nat := 9

/-- A joiner stands behind a sign that takes a vowel; a non-joiner also between letters that would
join. What stands before comes last first. -/
def mayStand (c : Char) (before after : List Char) : Bool :=
  match before with
  | [] => false
  | p :: _ =>
    Text.markClass p == vowelKiller ||
      (c == nonJoiner && (before.dropWhile isTransparent).head?.any joinsNext &&
        (after.dropWhile isTransparent).head?.any joinsPrevious)

def joinersFit (before : List Char) : List Char → Bool
  | [] => true
  | c :: cs => (!isJoiner c || mayStand c before cs) && joinersFit (c :: before) cs

def isLabel (cs : List Char) : Bool := !cs.head?.any isMark && joinersFit [] cs

/-! ## Direction -/

inductive Direction where
  | left
  | right
  | digit
  | arabicDigit
  | mark
  | neutral
deriving DecidableEq

/-- Flat marks that are written like letters from left to right. -/
def leftMarks : List Nat := [0xCBF, 0xCC6, 0x11A07, 0x11A08, 0x11C3F]

def digitRanges : List (Nat × Nat) := [(0x30, 0x39), (0x6F0, 0x6F9), (0x102E1, 0x102FB)]

def arabicDigitRanges : List (Nat × Nat) :=
  [(0x660, 0x669), (0x66B, 0x66C), (0x10D30, 0x10D49), (0x10E60, 0x10E7E)]

def direction (c : Char) : Direction :=
  let n := c.toNat
  if Text.inRanges digitRanges n then .digit
  else if Punycode.isAscii c then if c.isAlpha then .left else .neutral
  else if isMark c then if isFlat c && !leftMarks.contains n then .mark else .left
  else if Text.inRanges arabicDigitRanges n then .arabicDigit
  else if isJoiner c || Text.inRanges neutralRanges n then .neutral
  else if Text.inRanges rightRanges n then .right
  else .left

/-- Whether a character makes its name one with two directions. -/
def isRightward (c : Char) : Bool := direction c == .right || direction c == .arabicDigit

/-- A label starts with a letter. Behind it no letter of the other direction stands; from right to
left there are not two kinds of digits, from left to right no Arabic ones. Flat marks apart, a
letter or a digit ends it. -/
def keepsDirection (cs : List Char) : Bool :=
  match cs.map direction with
  | [] => true
  | first :: rest =>
    let last := (rest.reverse.dropWhile (· == .mark)).head?
    match first with
    | .left =>
      rest.all (fun d => d != .right && d != .arabicDigit) &&
        last.all fun d => d == .left || d == .digit
    | .right =>
      rest.all (· != .left) && !(rest.contains .digit && rest.contains .arabicDigit) &&
        last.all fun d => d == .right || d == .digit || d == .arabicDigit
    | _ => false

/-! ## Names -/

/-- The form of a name in ASCII. -/
def ascii? (cs : List Char) : Option (List Char) := do
  let labels ← (Text.parts (· == '.') (← mapped? cs)).mapM labelText?
  let directed := !labels.any (·.any isRightward) || labels.all keepsDirection
  if labels.all isLabel && directed then some (Text.joined ['.'] (labels.map labelForm)) else none

end HostName
end MarketWire
