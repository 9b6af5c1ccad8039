import MarketWire.Text.Hex
import MarketWire.Text.Parts

/-!
# Addresses of hosts

A host may be given by its number. An address of four bytes has up to four parts between points, of
which the last fills the bytes that are left; each part is decimal, octal behind a zero, or
hexadecimal behind `0x`, all in small letters. An address of sixteen bytes has eight parts of two
bytes between colons. A double colon stands for one or more parts that are zero, and the last two
parts may be written like an address of four bytes.
-/
namespace MarketWire
namespace Address

/-! ## Four bytes -/

/-- The digits of a number in a base, of which there may be none. -/
def digits? (base : Nat) (cs : List Char) : Option Nat :=
  (cs.mapM fun c => (Text.hexDigit? c).filter (· < base)).map fun ds =>
    ds.foldl (fun n d => base * n + d) 0

def number? : List Char → Option Nat
  | [] => none
  | '0' :: 'x' :: cs => digits? 16 cs
  | '0' :: c :: cs => digits? 8 (c :: cs)
  | cs => digits? 10 cs

/-- The parts between points. A point at the end closes the last one. -/
def pointParts (cs : List Char) : List (List Char) :=
  let ps := Text.parts (· == '.') cs
  if 1 < ps.length && ps.getLast? == some [] then ps.dropLast else ps

/-- Names that end in a number are addresses or nothing. -/
def endsInNumber (cs : List Char) : Bool :=
  (pointParts cs).getLast?.any fun p =>
    (!p.isEmpty && p.all Char.isDigit) || (number? p).isSome

/-- All numbers but the last count for one byte. -/
def fold? : (room : Nat) → List Nat → Option Nat
  | 0, _ => none
  | _, [] => none
  | room + 1, [n] => if n < Nat.pow 256 (room + 1) then some n else none
  | room + 1, n :: ns =>
    if n < 256 then (fold? room ns).map (n * Nat.pow 256 room + ·) else none

/-- The address that a name with a number at its end stands for. -/
def v4? (cs : List Char) : Option Nat := ((pointParts cs).mapM number?).bind (fold? 4)

def v4Text (n : Nat) : List Char :=
  Text.joined ['.'] ([24, 16, 8, 0].map fun shift => Nat.toDigits 10 (n >>> shift % 256))

/-! ## Sixteen bytes -/

def group? (cs : List Char) : Option Nat :=
  if cs.isEmpty || 4 < cs.length then none else digits? 16 cs

/-- A decimal number without a needless zero. -/
def byte? (cs : List Char) : Option Nat :=
  if cs.isEmpty || (cs.head? == some '0' && 1 < cs.length) then none
  else (digits? 10 cs).filter (· < 256)

/-- Two parts, written as four bytes. -/
def bytePair? (cs : List Char) : Option (List Nat) :=
  match (Text.parts (· == '.') cs).mapM byte? with
  | some [a, b, c, d] => some [a * 256 + b, c * 256 + d]
  | _ => none

def lastGroups? : List (List Char) → Option (List Nat)
  | [] => some []
  | [g] => ((group? g).map ([·])).or (bytePair? g)
  | g :: gs => (group? g).bind fun n => (lastGroups? gs).map (n :: ·)

/-- The parts of a text, of which an empty one has none. -/
def groups (cs : List Char) : List (List Char) :=
  if cs.isEmpty then [] else Text.parts (· == ':') cs

/-- What stands before and behind the first double colon. -/
def splitGap? : List Char → Option (List Char × List Char)
  | ':' :: ':' :: cs => some ([], cs)
  | c :: cs => (splitGap? cs).map fun (before, after) => (c :: before, after)
  | [] => none

def v6? (cs : List Char) : Option (List Nat) :=
  match splitGap? cs with
  | none => (lastGroups? (groups cs)).filter (·.length == 8)
  | some (before, after) =>
    ((groups before).mapM group?).bind fun ms =>
      (lastGroups? (groups after)).bind fun ns =>
        if ms.length + ns.length < 8 then
          some (ms ++ List.replicate (8 - ms.length - ns.length) 0 ++ ns)
        else none

/-- How many zeros a list begins with. -/
def zeroRun (ns : List Nat) : Nat := (ns.takeWhile (· == 0)).length

/-- The first of the longest runs of zeros: its start and its length. -/
def longestRun : List Nat → Nat × Nat
  | [] => (0, 0)
  | n :: ns =>
    let (start, length) := longestRun ns
    if length ≤ zeroRun (n :: ns) then (0, zeroRun (n :: ns)) else (start + 1, length)

/-- A single zero is written out. -/
def v6Text (ns : List Nat) : List Char :=
  let written (ns : List Nat) : List Char := Text.joined [':'] (ns.map (Nat.toDigits 16))
  let (start, length) := longestRun ns
  if length < 2 then written ns
  else written (ns.take start) ++ [':', ':'] ++ written (ns.drop (start + length))

end Address
end MarketWire
