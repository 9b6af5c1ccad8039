import MarketWire.Json.Number
import MarketWire.Text.Hex

/-!
# Tokens of JSON texts

A text is cut into brackets, commas, colons, literals, numbers and strings. Numbers and strings stay
as written, because a part of a text that nobody reads has to be well formed but need not have a
value. Blanks are space, tab, line feed and carriage return; control characters in strings, unknown
escapes and leading zeros are refused.
-/
namespace MarketWire
namespace Json

/-- A character of a string as written: itself, or a code unit of sixteen bits. -/
inductive TextUnit where
  | char (c : Char)
  | code (n : Nat)
deriving DecidableEq

inductive Token where
  | openArray
  | closeArray
  | openObject
  | closeObject
  | comma
  | colon
  | null
  | bool (b : Bool)
  | number (t : NumberToken)
  | text (us : List TextUnit)
deriving DecidableEq

def code? (a b c d : Char) : Option Nat :=
  match Text.hexDigit? a, Text.hexDigit? b, Text.hexDigit? c, Text.hexDigit? d with
  | some a, some b, some c, some d => some (((a * 16 + b) * 16 + c) * 16 + d)
  | _, _, _, _ => none

def escape? : Char → Option Char
  | '"' => some '"'
  | '\\' => some '\\'
  | '/' => some '/'
  | 'b' => some '\x08'
  | 'f' => some '\x0c'
  | 'n' => some '\n'
  | 'r' => some '\r'
  | 't' => some '\t'
  | _ => none

def push (u : TextUnit) (r : List TextUnit × List Char) : List TextUnit × List Char :=
  (u :: r.1, r.2)

/-- The units of a string behind its opening quote, and what follows its closing quote. -/
def units? : List Char → Option (List TextUnit × List Char)
  | [] => none
  | '"' :: cs => some ([], cs)
  | '\\' :: 'u' :: a :: b :: c :: d :: cs =>
    match code? a b c d with
    | some n => (units? cs).map (push (.code n))
    | none => none
  | '\\' :: e :: cs =>
    match escape? e with
    | some c => (units? cs).map (push (.char c))
    | none => none
  | c :: cs => if c.toNat < 0x20 then none else (units? cs).map (push (.char c))

theorem units?_length {cs rest : List Char} {us : List TextUnit} (h : units? cs = some (us, rest)) :
    rest.length < cs.length := by
  fun_induction units? cs generalizing us rest <;>
    simp_all only [Option.map_eq_some_iff, push, Prod.mk.injEq, reduceCtorEq, Option.some.injEq,
      List.length_cons] <;> grind

/-- The digits that a list starts with, and the rest. -/
def splitDigits (cs : List Char) : List Char × List Char :=
  (cs.takeWhile Char.isDigit, cs.dropWhile Char.isDigit)

theorem splitDigits_length (cs : List Char) :
    (splitDigits cs).1.length + (splitDigits cs).2.length = cs.length := by
  rw [← List.length_append, splitDigits, List.takeWhile_append_dropWhile]

def exponent? : List Char → Option (Option (Bool × List Char) × List Char)
  | [] => some (none, [])
  | c :: cs =>
    if c == 'e' || c == 'E' then
      let (down, ds) := match cs with
        | '-' :: ds => (true, ds)
        | '+' :: ds => (false, ds)
        | ds => (false, ds)
      let (ds, rest) := splitDigits ds
      if ds.isEmpty then none else some (some (down, ds), rest)
    else some (none, c :: cs)

def fraction? : List Char → Option (List Char × List Char)
  | '.' :: cs =>
    let (ds, rest) := splitDigits cs
    if ds.isEmpty then none else some (ds, rest)
  | cs => some ([], cs)

/-- A number without its sign. -/
def unsigned? (negative : Bool) (cs : List Char) : Option (NumberToken × List Char) :=
  let (whole, rest) := splitDigits cs
  if whole.isEmpty || (whole.head? == some '0' && whole.length != 1) then none
  else
    (fraction? rest).bind fun (fraction, rest) =>
      (exponent? rest).map fun (exponent, rest) => (⟨negative, whole, fraction, exponent⟩, rest)

theorem exponent?_length {cs rest : List Char} {e} (h : exponent? cs = some (e, rest)) :
    rest.length ≤ cs.length := by
  unfold exponent? at h
  split at h
  · grind
  · split at h
    · rename_i c cs _
      split at h
      all_goals
        rename_i ds _
        have := splitDigits_length ds
        grind
    · grind

theorem fraction?_length {cs rest ds : List Char} (h : fraction? cs = some (ds, rest)) :
    rest.length ≤ cs.length := by
  unfold fraction? at h
  split at h
  · rename_i cs
    have := splitDigits_length cs
    grind
  · grind

theorem unsigned?_length {negative : Bool} {cs rest : List Char} {t}
    (h : unsigned? negative cs = some (t, rest)) : rest.length < cs.length := by
  simp only [unsigned?] at h
  split at h
  · exact absurd h (by simp)
  · rename_i hw
    obtain ⟨⟨ds, r⟩, hf, h⟩ := Option.bind_eq_some_iff.1 h
    obtain ⟨⟨e, r'⟩, he, h⟩ := Option.map_eq_some_iff.1 h
    obtain ⟨-, rfl⟩ := Prod.mk.inj h
    have h1 : r.length ≤ (splitDigits cs).2.length := fraction?_length hf
    have h2 : r'.length ≤ r.length := exponent?_length he
    have h3 := splitDigits_length cs
    have : (splitDigits cs).1.length ≠ 0 := by
      intro h0
      simp [List.length_eq_zero_iff.1 h0] at hw
    change r'.length < cs.length
    omega

def literal? (cs : List Char) : Option (Token × List Char) :=
  match cs with
  | 'n' :: 'u' :: 'l' :: 'l' :: cs => some (.null, cs)
  | 't' :: 'r' :: 'u' :: 'e' :: cs => some (.bool true, cs)
  | 'f' :: 'a' :: 'l' :: 's' :: 'e' :: cs => some (.bool false, cs)
  | _ => none

def mark? : Char → Option Token
  | '[' => some .openArray
  | ']' => some .closeArray
  | '{' => some .openObject
  | '}' => some .closeObject
  | ',' => some .comma
  | ':' => some .colon
  | _ => none

def isBlank (c : Char) : Bool := c == ' ' || c == '\t' || c == '\n' || c == '\r'

/-- The token at the start of a list that starts with no blank, and the rest. -/
def token? : List Char → Option (Token × List Char)
  | [] => none
  | c :: cs =>
    match mark? c with
    | some t => some (t, cs)
    | none =>
      if c == '"' then (units? cs).map fun (us, rest) => (.text us, rest)
      else if c == '-' then (unsigned? true cs).map fun (t, rest) => (.number t, rest)
      else if c.isDigit then (unsigned? false (c :: cs)).map fun (t, rest) => (.number t, rest)
      else literal? (c :: cs)

theorem literal?_length {cs rest : List Char} {t} (h : literal? cs = some (t, rest)) :
    rest.length < cs.length := by
  unfold literal? at h
  split at h <;> simp at h <;> simp [← h.2] <;> omega

theorem token?_length {cs rest : List Char} {t} (h : token? cs = some (t, rest)) :
    rest.length < cs.length := by
  unfold token? at h
  split at h
  · simp at h
  · split at h
    · grind
    · split at h
      · obtain ⟨⟨us, r⟩, hu, h⟩ := Option.map_eq_some_iff.1 h
        have := units?_length hu
        grind
      · split at h
        · obtain ⟨⟨us, r⟩, hu, h⟩ := Option.map_eq_some_iff.1 h
          have := unsigned?_length hu
          grind
        · split at h
          · obtain ⟨⟨us, r⟩, hu, h⟩ := Option.map_eq_some_iff.1 h
            have := unsigned?_length hu
            grind
          · exact literal?_length h

/-- All tokens of a text, or `none` if it cannot be cut into tokens. -/
def tokens? (cs : List Char) : Option (List Token) :=
  match cs with
  | [] => some []
  | c :: cs =>
    if isBlank c then tokens? cs
    else
      match _h : token? (c :: cs) with
      | some (t, rest) => (tokens? rest).map (t :: ·)
      | none => none
termination_by cs.length
decreasing_by
  · simp
  · have := token?_length _h
    simpa using this

end Json
end MarketWire
