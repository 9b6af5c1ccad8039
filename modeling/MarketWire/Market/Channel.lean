import MarketWire.Text.Phrase

/-!
# Channels

Feeds come over channels of five kinds. A book is sent at one of six precisions; the raw one lists
single orders, the others add the orders of a price level up.
-/
namespace MarketWire

inductive Channel where
  | ticker
  | trades
  | book
  | candles
  /-- Orders, positions, wallets and notices of the account; needs authentication. -/
  | account
deriving DecidableEq

namespace Channel

def all : List Channel := [.ticker, .trades, .book, .candles, .account]

def name : Channel → String
  | .ticker => "ticker"
  | .trades => "trades"
  | .book => "book"
  | .candles => "candles"
  | .account => "account"

def isPrivate : Channel → Bool
  | .account => true
  | _ => false

def ofName? (s : String) : Option Channel := all.find? (·.name == s)

theorem ofName?_name (c : Channel) : ofName? c.name = some c := by cases c <;> decide

end Channel

/-- The order of the elements of a book row. -/
inductive BookLayout where
  | raw
  | aggregated
deriving DecidableEq

inductive Precision where
  | r0
  | p0
  | p1
  | p2
  | p3
  | p4
deriving DecidableEq

namespace Precision

def all : List Precision := [.r0, .p0, .p1, .p2, .p3, .p4]

def name : Precision → String
  | .r0 => "R0"
  | .p0 => "P0"
  | .p1 => "P1"
  | .p2 => "P2"
  | .p3 => "P3"
  | .p4 => "P4"

def layout : Precision → BookLayout
  | .r0 => .raw
  | _ => .aggregated

def ofName? (s : String) : Option Precision := all.find? (·.name == s)

theorem ofName?_name (p : Precision) : ofName? p.name = some p := by cases p <;> decide

/-- What is said about a text that names no precision. -/
def unknownMessage (s : String) : String := Text.labelled "unknown book precision" s

end Precision

/-- How often book changes are sent: at once, or every two seconds. -/
inductive Frequency where
  | f0
  | f1
deriving DecidableEq

namespace Frequency

def all : List Frequency := [.f0, .f1]

def name : Frequency → String
  | .f0 => "F0"
  | .f1 => "F1"

def ofName? (s : String) : Option Frequency := all.find? (·.name == s)

end Frequency
end MarketWire
