import MarketWire.Text.Case

/-!
# Symbols

A symbol names an instrument behind a one-letter tag: `t` before a trading pair, `f` before a
funding currency. Callers may leave the tag away. On the wire it is always there, and records carry
symbols without it and in lower case.
-/
namespace MarketWire
namespace Symbol

inductive Kind where
  | trading
  | funding
deriving DecidableEq

/-- A symbol without a tag counts as a trading pair. -/
def kind (s : String) : Kind := if s.toList.head? = some 'f' then .funding else .trading

def isTag (c : Char) : Bool := c == 't' || c == 'f'

def normalizeChars : List Char → List Char
  | c :: d :: cs => Text.lowerChars (if isTag c then d :: cs else c :: d :: cs)
  | cs => Text.lowerChars cs

/-- Lower case without the tag: `tBTCUSD` gives `btcusd`. -/
def normalize (s : String) : String := .ofList (normalizeChars s.toList)

def wireChars : List Char → List Char
  | [] => []
  | c :: d :: cs =>
    if isTag c && !d.isLower then c :: d :: cs else 't' :: Text.upperChars (c :: d :: cs)
  | cs => 't' :: Text.upperChars cs

/-- The form sent: `BTCUSD` and `btcusd` give `tBTCUSD`. A letter counts as a tag unless a lowercase
letter follows, so that a pair such as `thbusd` keeps its first letter. -/
def wire (s : String) : String := .ofList (wireChars s.toList)

end Symbol
end MarketWire
