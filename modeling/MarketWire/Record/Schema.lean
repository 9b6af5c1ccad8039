import MarketWire.Record.Event

/-!
# Schemas

Nothing in a row says what it holds. The schema that decodes it follows from the feed it came over
or, on the account channel, from the tag in front of it.
-/
namespace MarketWire

inductive Schema where
  /-- Rows without the symbol, which the feed knows. -/
  | ticker (symbol : String)
  | fundingTicker (symbol : String)
  | trade
  | fundingTrade
  | book (layout : BookLayout)
  | candle
  | order
  | position
  | wallet
  | fundingOffer
  | execution
  | notification
  | post
deriving DecidableEq

namespace Schema

/-- The schema of a public channel. The account channel has none of its own. -/
def ofChannel? (channel : Channel) (symbol : String) (precision : Precision) : Option Schema :=
  match channel, Symbol.kind symbol with
  | .ticker, .trading => some (.ticker symbol)
  | .ticker, .funding => some (.fundingTicker symbol)
  | .trades, .trading => some .trade
  | .trades, .funding => some .fundingTrade
  | .book, _ => some (.book precision.layout)
  | .candles, _ => some .candle
  | .account, _ => none

/-- The tags of the account channel. -/
def accountTags : List (String × Schema) := [
  ("os", .order), ("on", .order), ("ou", .order), ("oc", .order),
  ("ps", .position), ("pn", .position), ("pu", .position), ("pc", .position),
  ("ws", .wallet), ("wu", .wallet),
  ("fos", .fundingOffer), ("fon", .fundingOffer), ("fou", .fundingOffer), ("foc", .fundingOffer),
  ("te", .execution), ("tu", .execution),
  ("n", .notification)]

def ofAccountTag? (tag : String) : Option Schema := accountTags.lookup tag

def layout : Schema → Layout Event
  | .ticker symbol => (Ticker.streamLayout symbol).map .ticker
  | .fundingTicker symbol => (FundingTicker.streamLayout symbol).map .fundingTicker
  | .trade => Trade.layout.map .trade
  | .fundingTrade => FundingTrade.layout.map .fundingTrade
  | .book l => (BookLevel.layout l).map .bookLevel
  | .candle => Candle.layout.map .candle
  | .order => Order.layout.map .order
  | .position => Position.layout.map .position
  | .wallet => WalletEntry.layout.map .wallet
  | .fundingOffer => FundingOffer.layout.map .fundingOffer
  | .execution => Execution.layout.map .execution
  | .notification => Notification.layout.map .notification
  | .post => Post.layout.map .post

def decode (s : Schema) (values : List Json.Value) : Except DecodeError Event :=
  s.layout.decode values

def decodeAll (s : Schema) (rows : List (List Json.Value)) : List (Except DecodeError Event) :=
  rows.map s.decode

end Schema
end MarketWire
