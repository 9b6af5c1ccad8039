import MarketWire.Number.Decimal.Basic

/-!
# Sides

The sign of an amount says who trades: a positive amount buys, anything else sells. Book levels have
sides of their own and say what they do to the book.
-/
namespace MarketWire

inductive Side where
  | buy
  | sell
deriving DecidableEq

namespace Side

def all : List Side := [.buy, .sell]

def name : Side → String
  | .buy => "buy"
  | .sell => "sell"

def ofAmount (d : Decimal) : Side := if d.isPositive then .buy else .sell

def opposite : Side → Side
  | .buy => .sell
  | .sell => .buy

end Side

inductive BookSide where
  | bid
  | ask
deriving DecidableEq

namespace BookSide

def all : List BookSide := [.bid, .ask]

def name : BookSide → String
  | .bid => "bid"
  | .ask => "ask"

def ofAmount (d : Decimal) : BookSide := if d.isPositive then .bid else .ask

end BookSide

/-- Whether a level is put into the book or taken out of it. -/
inductive BookAction where
  | upsert
  | remove
deriving DecidableEq

namespace BookAction

def all : List BookAction := [.upsert, .remove]

def name : BookAction → String
  | .upsert => "upsert"
  | .remove => "remove"

end BookAction
end MarketWire
