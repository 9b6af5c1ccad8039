import MarketWire.Rest.Host
import MarketWire.Text.Bytes

/-!
# Addresses on the network

An address is put into its normal form when it is read: scheme and host in lower case, no port where
it is the usual one, dot segments resolved, and characters that may not stand in their part written
with percent signs. Only an absolute address with a host has one.
-/
namespace MarketWire

structure Url where
  scheme : List Char
  username : List Char
  password : Option (List Char)
  host : Host
  port : Option Nat
  path : List Char
  query : Option (List Char)
  fragment : Option (List Char)
deriving DecidableEq

namespace Url

/-! ## Schemes -/

/-- The scheme of files, which have no port and no login. -/
def fileScheme : List Char := "file".toList

/-- Schemes of the network with their usual ports. -/
def usualPorts : List (String × Nat) :=
  [("http", 80), ("https", 443), ("ws", 80), ("wss", 443), ("ftp", 21)]

def usualPort? (scheme : List Char) : Option Nat := usualPorts.lookup (.ofList scheme)

/-- Addresses of usual schemes always have a path, whose slashes may be leaning back. -/
def isUsual (scheme : List Char) : Bool := (usualPort? scheme).isSome || scheme == fileScheme

def isSchemeChar (c : Char) : Bool := c.isAlphanum || c == '+' || c == '-' || c == '.'

/-- The scheme in lower case and what follows its colon. -/
def splitScheme? (cs : List Char) : Option (List Char × List Char) :=
  match cs.head?, cs.dropWhile isSchemeChar with
  | some c, ':' :: rest =>
    if c.isAlpha then some ((cs.takeWhile isSchemeChar).map Char.toLower, rest) else none
  | _, _ => none

/-! ## Encoded characters -/

def fragmentSet : List Char := [' ', '"', '<', '>', '\x60']

def pathSet : List Char := fragmentSet ++ ['#', '?', '\x7b', '\x7d']

def loginSet : List Char := pathSet ++ ['/', ':', ';', '=', '@', '[', '\\', ']', '^', '|']

def querySet (usual : Bool) : List Char :=
  [' ', '"', '#', '<', '>'] ++ if usual then ['\''] else []

/-! ## Paths -/

def isSlash (usual : Bool) (c : Char) : Bool := c == '/' || (usual && c == '\\')

def isDot (s : List Char) : Bool := ['.'] == s || "%2e".toList == s.map Char.toLower

def isDoubleDot (s : List Char) : Bool :=
  ["..", ".%2e", "%2e.", "%2e%2e"].any (·.toList == s.map Char.toLower)

/-- The letter of a drive: a letter and a colon or a bar, alone or in front of a backslash. -/
def isDrive : List Char → Bool
  | [a, b] => a.isAlpha && (b == ':' || b == '|')
  | a :: b :: c :: _ => a.isAlpha && (b == ':' || b == '|') && c == '\\'
  | _ => false

/-- Goes up by one segment, but stays on a drive. -/
def parent : List (List Char) → List (List Char)
  | [] => []
  | s :: ss => if isDrive s then s :: ss else ss

/-- Resolves dot segments; `done` comes last first. -/
def resolve : (done : List (List Char)) → List (List Char) → List (List Char)
  | done, [] => done.reverse
  | done, [s] =>
    if isDoubleDot s then ([] :: parent done).reverse
    else if isDot s then ([] :: done).reverse
    else (Percent.encode pathSet s :: done).reverse
  | done, s :: ss =>
    if isDoubleDot s then resolve (parent done) ss
    else if isDot s then resolve done ss
    else resolve (Percent.encode pathSet s :: done) ss

def segments (usual : Bool) (cs : List Char) : List (List Char) :=
  resolve [] (Text.parts (isSlash usual) (match cs with
    | c :: rest => if isSlash usual c then rest else cs
    | [] => []))

def pathText (ss : List (List Char)) : List Char := ss.flatMap ('/' :: ·)

def normalPath (usual : Bool) (cs : List Char) : List Char :=
  if cs.isEmpty && !usual then [] else pathText (segments usual cs)

/-- The path to a file has one slash at its start. A path that starts on a drive takes the place of
a host. -/
def filePath? (cs : List Char) : Option (List Char) :=
  let ss := segments true cs
  if ss.head?.any isDrive then none
  else some ('/' :: (pathText ss).dropWhile (· == '/'))

/-! ## Login, host and port -/

/-- What stands before and behind the last `@`. -/
def splitLogin (cs : List Char) : List Char × List Char :=
  if cs.contains '@' then
    ((cs.reverse.dropWhile (· != '@')).reverse.dropLast, (cs.reverse.takeWhile (· != '@')).reverse)
  else ([], cs)

/-- Name and password of a login; an empty password is none. -/
def login (cs : List Char) : List Char × Option (List Char) :=
  let password := (cs.dropWhile (· != ':')).drop 1
  (Percent.encode loginSet (cs.takeWhile (· != ':')),
    if password.isEmpty then none else some (Percent.encode loginSet password))

/-- Splits a host from what follows it. Colons between brackets are part of it. -/
def splitHost (inside : Bool) : List Char → List Char × List Char
  | [] => ([], [])
  | c :: cs =>
    if c == ':' && !inside then ([], c :: cs)
    else
      let (host, rest) := splitHost (c == '[' || (inside && c != ']')) cs
      (c :: host, rest)

/-- The port behind a host, if it is not the usual one, and what follows it. -/
def splitPort? (usual : Option Nat) : List Char → Option (Option Nat × List Char)
  | ':' :: cs =>
    let digits := cs.takeWhile Char.isDigit
    let rest := cs.dropWhile Char.isDigit
    let n := Nat.ofDigitChars 10 digits 0
    if 0xFFFF < n || !rest.head?.all (['/', '\\', '?', '#'].contains ·) then none
    else some (if digits.isEmpty || usual == some n then none else some n, rest)
  | cs => some (none, cs)

/-! ## Addresses -/

/-- Blanks and control characters at the ends and line breaks and tabs anywhere do not count. -/
def cleaned (cs : List Char) : List Char :=
  let dropped := (cs.dropWhile (·.toNat ≤ 0x20)).reverse.dropWhile (·.toNat ≤ 0x20)
  dropped.reverse.filter fun c => c != '\t' && c != '\n' && c != '\r'

/-- What stands behind a mark. -/
def behind (mark : Char) (cs : List Char) : Option (List Char) :=
  match cs.dropWhile (· != mark) with
  | [] => none
  | _ :: rest => some rest

/-- Adds path, query and fragment; `path` puts a path into its normal form. -/
def finish? (u : Url) (path : List Char → Option (List Char)) (rest : List Char) : Option Url :=
  let beforeFragment := rest.takeWhile (· != '#')
  (path (beforeFragment.takeWhile (· != '?'))).map fun path => { u with
    path
    query := (behind '?' beforeFragment).map (Percent.encode (querySet (isUsual u.scheme)))
    fragment := (behind '#' rest).map (Percent.encode fragmentSet) }

/-- Reads on behind the slashes of an address that is no file's. -/
def network? (scheme cs : List Char) : Option Url := do
  let usual := isUsual scheme
  let ends (c : Char) : Bool := isSlash usual c || c == '?' || c == '#'
  let (loginText, place) := splitLogin (cs.takeWhile (!ends ·))
  let (hostText, portText) := splitHost false place
  let host ← if usual then Host.usual? hostText else Host.other? hostText
  let (port, rest) ← splitPort? (usualPort? scheme) (portText ++ cs.dropWhile (!ends ·))
  let (username, password) := login loginText
  finish? ⟨scheme, username, password, host, port, [], none, none⟩ (some <| normalPath usual ·) rest

/-- Reads on behind the slashes of a file's address. The machine itself is no host. -/
def file? (cs : List Char) : Option Url :=
  let ends (c : Char) : Bool := isSlash true c || c == '?' || c == '#'
  let hostText := cs.takeWhile (!ends ·)
  if isDrive hostText then none
  else (Host.usual? hostText).bind fun host =>
    if host == .name "localhost".toList then none
    else finish? ⟨fileScheme, [], none, host, none, [], none, none⟩ filePath?
      (cs.dropWhile (!ends ·))

def ofText? (s : String) : Option Url :=
  (splitScheme? (cleaned s.toList)).bind fun (scheme, rest) =>
    if (usualPort? scheme).isSome then network? scheme (rest.dropWhile (isSlash true))
    else
      let isFile := scheme == fileScheme
      match rest with
      | a :: b :: cs =>
        if isSlash isFile a && isSlash isFile b then
          if isFile then file? cs else network? scheme cs
        else none
      | _ => none

def part (mark : Char) : Option (List Char) → List Char
  | none => []
  | some cs => mark :: cs

def loginText (u : Url) : List Char :=
  if u.username.isEmpty && u.password.isNone then []
  else u.username ++ part ':' u.password ++ ['@']

/-- The address without its fragment, which is not sent. -/
def sentText (u : Url) : String :=
  .ofList (u.scheme ++ [':', '/', '/'] ++ u.loginText ++ u.host.text ++
    part ':' (u.port.map (Nat.toDigits 10)) ++ u.path ++ part '?' u.query)

def text (u : Url) : String := u.sentText ++ .ofList (part '#' u.fragment)

/-- The login as meant. A password that is no text is left out; without a name that is one there is
no login. -/
def login? (u : Url) : Option (List Char × Option (List Char)) :=
  (Percent.decode? u.username).bind fun name =>
    let password := u.password.bind Percent.decode?
    if name.isEmpty && password.isNone then none else some (name, password)

def withoutLogin (u : Url) : Url := { u with username := [], password := none }

/-- Characters that names may hold but requests may not. -/
def unsentSet : List Char := ['"', '\x60', '\x7b', '\x7d']

/-- Whether requests can be sent to it. -/
def isHttp (u : Url) : Bool :=
  (u.scheme == "http".toList || u.scheme == "https".toList) && !u.host.text.any unsentSet.contains

end Url
end MarketWire
