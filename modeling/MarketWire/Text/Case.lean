import MarketWire.Text.CaseTable

/-!
# Upper and lower case

Texts change case character by character, where one character may become several. Only the capital
sigma looks at its neighbours: at the end of a word it has a lowercase form of its own. Comparing
without case is about the letters A to Z alone.
-/
namespace MarketWire
namespace Text

def mapped (multi : List (Nat × List Nat)) (runs : List CaseRun) (c : Char) : List Char :=
  match multi.find? (·.1 == c.toNat) with
  | some (_, ns) => ns.map Char.ofNat
  | none =>
    match runs.find? (·.covers c.toNat) with
    | some r => [Char.ofNat (r.image c.toNat)]
    | none => [c]

def upperChar (c : Char) : List Char :=
  if c.toNat < 128 then [c.toUpper] else mapped upperMulti upperRuns c

def lowerChar (c : Char) : List Char :=
  if c.toNat < 128 then [c.toLower] else mapped lowerMulti lowerRuns c

def upperChars (cs : List Char) : List Char := cs.flatMap upperChar

def isCaseIgnorable (c : Char) : Bool := inRanges caseIgnorableRanges c.toNat

def isCased (c : Char) : Bool := inRanges casedRanges c.toNat

/-- Whether the first character that case rules do not look through is cased. -/
def meetsCased (cs : List Char) : Bool :=
  match cs.dropWhile isCaseIgnorable with
  | [] => false
  | c :: _ => isCased c

def capitalSigma : Char := 'Σ'

def smallSigma : Char := 'σ'

def finalSigma : Char := 'ς'

/-- Lowercase of a text whose part before, last character first, is known. -/
def lowerAfter (before : List Char) : List Char → List Char
  | [] => []
  | c :: cs =>
    (if c = capitalSigma then
      [if meetsCased before && !meetsCased cs then finalSigma else smallSigma]
    else lowerChar c) ++ lowerAfter (c :: before) cs

def lowerChars (cs : List Char) : List Char := lowerAfter [] cs

/-- Equality up to the case of the letters A to Z. -/
def sameLetters (s t : String) : Bool := s.toList.map Char.toLower == t.toList.map Char.toLower

end Text
end MarketWire
