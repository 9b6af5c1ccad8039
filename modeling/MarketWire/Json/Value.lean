import MarketWire.Json.Tree

/-!
# JSON values

A value has resolved numbers and strings, and objects sorted by key with each key once; of repeated
keys the last one counts. Code units of a string pair up to characters, and a lone surrogate has no
value. Arrays and objects nest at most 127 deep.
-/
namespace MarketWire
namespace Json

inductive Value where
  | null
  | bool (b : Bool)
  | number (n : Number)
  | text (s : String)
  | array (items : List Value)
  | object (fields : List (String × Value))

instance : Inhabited Value := ⟨.null⟩

namespace Value

def isNull : Value → Bool
  | .null => true
  | _ => false

def text? : Value → Option String
  | .text s => some s
  | _ => none

def array? : Value → Option (List Value)
  | .array items => some items
  | _ => none

def ofInt64 (i : Int64) : Value :=
  .number (.whole i.toInt ⟨i.minValue_le_toInt, by have := i.toInt_lt; omega⟩)

def ofUInt64 (n : UInt64) : Value :=
  .number (.whole n.toNat ⟨by omega, by have := n.toNat_lt; omega⟩)

/-- A count; one beyond 64 bits has no value. -/
def ofNat (n : Nat) : Value := (Number.whole? n).elim .null .number

def orNull (f : α → Value) : Option α → Value
  | none => .null
  | some a => f a

def list (f : α → Value) (as : List α) : Value := .array (as.map f)

end Value

/-- The fields of an object, sorted by key. -/
abbrev Fields := List (String × Value)

namespace Fields

/-- Puts a field in its place; an old one with that key goes. -/
def insert (k : String) (v : Value) : Fields → Fields
  | [] => [(k, v)]
  | (k', v') :: fs =>
    if k < k' then (k, v) :: (k', v') :: fs
    else if k = k' then (k, v) :: fs
    else (k', v') :: insert k v fs

def ofList (kvs : List (String × Value)) : Fields := kvs.foldl (fun fs (k, v) => insert k v fs) []

def get? (k : String) : Fields → Option Value
  | [] => none
  | (k', v) :: fs => if k' = k then some v else get? k fs

theorem get?_insert_self (k : String) (v : Value) (fs : Fields) : get? k (insert k v fs) = some v := by
  induction fs with
  | nil => simp [insert, get?]
  | cons f fs ih => grind [insert, get?]

theorem get?_insert_of_ne {k k' : String} (h : k' ≠ k) (v : Value) (fs : Fields) :
    get? k (insert k' v fs) = get? k fs := by
  induction fs with
  | nil => simp [insert, get?, h]
  | cons f fs ih => grind [insert, get?]

end Fields

def isHighSurrogate (n : Nat) : Bool := 0xD800 ≤ n && n < 0xDC00

def isLowSurrogate (n : Nat) : Bool := 0xDC00 ≤ n && n < 0xE000

/-- The characters of a string as written. -/
def textChars? : List TextUnit → Option (List Char)
  | [] => some []
  | .char c :: us => (textChars? us).map (c :: ·)
  | .code h :: .code l :: us =>
    if isHighSurrogate h then
      if isLowSurrogate l then
        (textChars? us).map (Char.ofNat (0x10000 + (h - 0xD800) * 0x400 + (l - 0xDC00)) :: ·)
      else none
    else if isLowSurrogate h then none
    else (textChars? (.code l :: us)).map (Char.ofNat h :: ·)
  | .code n :: us =>
    if isHighSurrogate n || isLowSurrogate n then none
    else (textChars? us).map (Char.ofNat n :: ·)

def textOf? (us : List TextUnit) : Option String := (textChars? us).map String.ofList

namespace Tree

mutual

/-- The value of a tree in which `depth` more levels of containers may follow. -/
def value? : Nat → Tree → Option Value
  | _, .null => some .null
  | _, .bool b => some (.bool b)
  | _, .number t => (Number.ofToken? t).map .number
  | _, .text us => (textOf? us).map .text
  | depth, .array items =>
    if depth = 0 then none else (values? (depth - 1) items).map .array
  | depth, .object members =>
    if depth = 0 then none
    else (fields? (depth - 1) members).map fun kvs => .object (Fields.ofList kvs)

def values? : Nat → List Tree → Option (List Value)
  | _, [] => some []
  | depth, v :: vs =>
    match value? depth v, values? depth vs with
    | some v, some vs => some (v :: vs)
    | _, _ => none

def fields? : Nat → List (List TextUnit × Tree) → Option (List (String × Value))
  | _, [] => some []
  | depth, (k, v) :: ms =>
    match textOf? k, value? depth v, fields? depth ms with
    | some k, some v, some kvs => some ((k, v) :: kvs)
    | _, _, _ => none

end

end Tree

/-- How deep containers may nest. -/
def maxDepth : Nat := 127

namespace Value

def ofChars? (cs : List Char) : Option Value := (Tree.ofChars? cs).bind (Tree.value? maxDepth)

def ofText? (s : String) : Option Value := ofChars? s.toList

end Value
end Json
end MarketWire
