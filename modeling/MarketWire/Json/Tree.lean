import MarketWire.Json.Token

/-!
# JSON texts as trees

Tokens are put together by a machine that keeps the containers still open, innermost first, and says
what may come next. A tree keeps numbers, strings, repeated keys and the order of keys as written.
-/
namespace MarketWire
namespace Json

inductive Tree where
  | null
  | bool (b : Bool)
  | number (t : NumberToken)
  | text (us : List TextUnit)
  | array (items : List Tree)
  | object (members : List (List TextUnit × Tree))

namespace Tree

/-- A container still open; its finished parts come last first. -/
inductive Open where
  | array (done : List Tree)
  | object (done : List (List TextUnit × Tree)) (key : List TextUnit)

/-- What may come next. -/
inductive Expect where
  | value
  | valueOrClose
  | key (done : List (List TextUnit × Tree))
  | keyOrClose
  | colon (done : List (List TextUnit × Tree)) (key : List TextUnit)
  | more
  | nothing (v : Tree)

structure State where
  opened : List Open
  expect : Expect

def start : State := ⟨[], .value⟩

/-- A finished value goes into the innermost container, or is the whole text. -/
def put (v : Tree) : List Open → State
  | [] => ⟨[], .nothing v⟩
  | .array done :: os => ⟨.array (v :: done) :: os, .more⟩
  | .object done key :: os => ⟨.object ((key, v) :: done) [] :: os, .more⟩

def scalar? : Token → Option Tree
  | .null => some .null
  | .bool b => some (.bool b)
  | .number t => some (.number t)
  | .text us => some (.text us)
  | _ => none

def beginValue (os : List Open) : Token → Option State
  | .openArray => some ⟨.array [] :: os, .valueOrClose⟩
  | .openObject => some ⟨os, .keyOrClose⟩
  | t => (scalar? t).map (put · os)

/-- An array may close before its first item. -/
def beginItem (os : List Open) : Token → Option State
  | .closeArray =>
    match os with
    | .array _ :: os => some (put (.array []) os)
    | _ => none
  | t => beginValue os t

/-- An object may close before its first key. -/
def beginMember (os : List Open) : Token → Option State
  | .closeObject => some (put (.object []) os)
  | .text us => some ⟨os, .colon [] us⟩
  | _ => none

def readKey (os : List Open) (done : List (List TextUnit × Tree)) : Token → Option State
  | .text us => some ⟨os, .colon done us⟩
  | _ => none

def readColon (os : List Open) (done : List (List TextUnit × Tree)) (key : List TextUnit) :
    Token → Option State
  | .colon => some ⟨.object done key :: os, .value⟩
  | _ => none

def afterItem (done : List Tree) (os : List Open) : Token → Option State
  | .comma => some ⟨.array done :: os, .value⟩
  | .closeArray => some (put (.array done.reverse) os)
  | _ => none

def afterMember (done : List (List TextUnit × Tree)) (os : List Open) : Token → Option State
  | .comma => some ⟨os, .key done⟩
  | .closeObject => some (put (.object done.reverse) os)
  | _ => none

/-- After a part of the innermost container. -/
def afterPart : List Open → Token → Option State
  | .array done :: os, t => afterItem done os t
  | .object done _ :: os, t => afterMember done os t
  | [], _ => none

def step (s : State) (t : Token) : Option State :=
  match s.expect with
  | .value => beginValue s.opened t
  | .valueOrClose => beginItem s.opened t
  | .keyOrClose => beginMember s.opened t
  | .key done => readKey s.opened done t
  | .colon done key => readColon s.opened done key t
  | .more => afterPart s.opened t
  | .nothing _ => none

def run : State → List Token → Option State
  | s, [] => some s
  | s, t :: ts => (step s t).bind (run · ts)

/-- The tree of a text, or `none` if it is no JSON text. -/
def ofChars? (cs : List Char) : Option Tree :=
  (tokens? cs).bind fun ts =>
    match run start ts with
    | some ⟨_, .nothing v⟩ => some v
    | _ => none

def ofText? (s : String) : Option Tree := ofChars? s.toList

end Tree
end Json
end MarketWire
