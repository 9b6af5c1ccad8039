import MarketWire.Market.Channel
import MarketWire.Market.Symbol
import MarketWire.Number.Decimal.Difference
import MarketWire.Record.Layout
import MarketWire.Record.Shape

/-!
# Public market records

Tickers, trades, candles and book levels. Rows of the first kind come in two forms, with the symbol
in front or without it, and both are read by one table. The sign of an amount gives the side and is
then dropped.
-/
namespace MarketWire

structure Ticker where
  symbol : String
  bid : Decimal
  bidSize : Decimal
  ask : Decimal
  askSize : Decimal
  dailyChange : Decimal
  dailyChangeRelative : Decimal
  lastPrice : Decimal
  volume : Decimal
  high : Decimal
  low : Decimal

namespace Ticker

/-- The columns behind the symbol, from place `i` on. -/
def columns (i : Nat) : List Column := [
  ⟨"bid", i, .decimal⟩,
  ⟨"bid_size", i + 1, .decimal⟩,
  ⟨"ask", i + 2, .decimal⟩,
  ⟨"ask_size", i + 3, .decimal⟩,
  ⟨"daily_change", i + 4, .decimal⟩,
  ⟨"daily_change_relative", i + 5, .decimal⟩,
  ⟨"last_price", i + 6, .decimal⟩,
  ⟨"volume", i + 7, .decimal⟩,
  ⟨"high", i + 8, .decimal⟩,
  ⟨"low", i + 9, .decimal⟩]

def ofValues (symbol : String) : Values (columns i) → Ticker
  | (bid, bidSize, ask, askSize, dailyChange, dailyChangeRelative, lastPrice, volume, high, low, ()) =>
    ⟨Symbol.normalize symbol, bid, bidSize, ask, askSize, dailyChange, dailyChangeRelative, lastPrice,
      volume, high, low⟩

/-- Rows that start with the symbol. -/
def layout : Layout Ticker where
  record := "ticker"
  least := 11
  columns := ⟨"symbol", 0, .text⟩ :: columns 1
  build := fun (symbol, vs) => .ok (ofValues symbol vs)

/-- Rows of a feed, whose symbol is known. -/
def streamLayout (symbol : String) : Layout Ticker where
  record := "ticker"
  least := 10
  columns := columns 0
  build := fun vs => .ok (ofValues symbol vs)

def shape : Shape Ticker where
  slots := [
    ("symbol", .text), ("bid", .decimal), ("bid_size", .decimal), ("ask", .decimal),
    ("ask_size", .decimal), ("daily_change", .decimal), ("daily_change_relative", .decimal),
    ("last_price", .decimal), ("volume", .decimal), ("high", .decimal), ("low", .decimal)]
  split := fun t =>
    (t.symbol, t.bid, t.bidSize, t.ask, t.askSize, t.dailyChange, t.dailyChangeRelative, t.lastPrice,
      t.volume, t.high, t.low, ())
  join := fun (symbol, bid, bidSize, ask, askSize, dailyChange, dailyChangeRelative, lastPrice, volume,
      high, low, ()) =>
    ⟨symbol, bid, bidSize, ask, askSize, dailyChange, dailyChangeRelative, lastPrice, volume, high, low⟩

/-- How far the best ask lies above the best bid; `none` if that is out of range. -/
def spread? (t : Ticker) : Option Decimal := t.ask.sub? t.bid

end Ticker

structure FundingTicker where
  symbol : String
  frr : Decimal
  bid : Decimal
  bidPeriod : Int64
  bidSize : Decimal
  ask : Decimal
  askPeriod : Int64
  askSize : Decimal
  dailyChange : Decimal
  dailyChangeRelative : Decimal
  lastPrice : Decimal
  volume : Decimal
  high : Decimal
  low : Decimal
  frrAmountAvailable : Decimal

namespace FundingTicker

/-- The columns behind the symbol, from place `i` on; the last one is often not sent. -/
def columns (i : Nat) : List Column := [
  ⟨"frr", i, .decimal⟩,
  ⟨"bid", i + 1, .decimal⟩,
  ⟨"bid_period", i + 2, .integer⟩,
  ⟨"bid_size", i + 3, .decimal⟩,
  ⟨"ask", i + 4, .decimal⟩,
  ⟨"ask_period", i + 5, .integer⟩,
  ⟨"ask_size", i + 6, .decimal⟩,
  ⟨"daily_change", i + 7, .decimal⟩,
  ⟨"daily_change_relative", i + 8, .decimal⟩,
  ⟨"last_price", i + 9, .decimal⟩,
  ⟨"volume", i + 10, .decimal⟩,
  ⟨"high", i + 11, .decimal⟩,
  ⟨"low", i + 12, .decimal⟩,
  ⟨"frr_amount_available", i + 15, .decimal⟩]

def ofValues (symbol : String) : Values (columns i) → FundingTicker
  | (frr, bid, bidPeriod, bidSize, ask, askPeriod, askSize, dailyChange, dailyChangeRelative, lastPrice,
      volume, high, low, frrAmountAvailable, ()) =>
    ⟨Symbol.normalize symbol, frr, bid, bidPeriod, bidSize, ask, askPeriod, askSize, dailyChange,
      dailyChangeRelative, lastPrice, volume, high, low, frrAmountAvailable⟩

def layout : Layout FundingTicker where
  record := "funding_ticker"
  least := 14
  columns := ⟨"symbol", 0, .text⟩ :: columns 1
  build := fun (symbol, vs) => .ok (ofValues symbol vs)

def streamLayout (symbol : String) : Layout FundingTicker where
  record := "funding_ticker"
  least := 13
  columns := columns 0
  build := fun vs => .ok (ofValues symbol vs)

def shape : Shape FundingTicker where
  slots := [
    ("symbol", .text), ("frr", .decimal), ("bid", .decimal), ("bid_period", .integer),
    ("bid_size", .decimal), ("ask", .decimal), ("ask_period", .integer), ("ask_size", .decimal),
    ("daily_change", .decimal), ("daily_change_relative", .decimal), ("last_price", .decimal),
    ("volume", .decimal), ("high", .decimal), ("low", .decimal), ("frr_amount_available", .decimal)]
  split := fun t =>
    (t.symbol, t.frr, t.bid, t.bidPeriod, t.bidSize, t.ask, t.askPeriod, t.askSize, t.dailyChange,
      t.dailyChangeRelative, t.lastPrice, t.volume, t.high, t.low, t.frrAmountAvailable, ())
  join := fun (symbol, frr, bid, bidPeriod, bidSize, ask, askPeriod, askSize, dailyChange,
      dailyChangeRelative, lastPrice, volume, high, low, frrAmountAvailable, ()) =>
    ⟨symbol, frr, bid, bidPeriod, bidSize, ask, askPeriod, askSize, dailyChange, dailyChangeRelative,
      lastPrice, volume, high, low, frrAmountAvailable⟩

end FundingTicker

/-- A public trade of a pair. The amount is absolute. -/
structure Trade where
  id : Int64
  mts : Int64
  side : Side
  amount : Decimal
  price : Decimal

namespace Trade

def layout : Layout Trade where
  record := "trade"
  least := 4
  columns := [
    ⟨"amount", 2, .decimal⟩,
    ⟨"id", 0, .integer⟩,
    ⟨"mts", 1, .integer⟩,
    ⟨"price", 3, .decimal⟩]
  build := fun (amount, id, mts, price, ()) =>
    .ok ⟨id, mts, .ofAmount amount, amount.abs, price⟩

def shape : Shape Trade where
  slots := [
    ("id", .integer), ("mts", .integer), ("side", .named Side.all Side.name), ("amount", .decimal),
    ("price", .decimal)]
  split := fun t => (t.id, t.mts, t.side, t.amount, t.price, ())
  join := fun (id, mts, side, amount, price, ()) => ⟨id, mts, side, amount, price⟩

end Trade

/-- A public trade of a funding currency; the period is in days. -/
structure FundingTrade where
  id : Int64
  mts : Int64
  side : Side
  amount : Decimal
  rate : Decimal
  period : Int64

namespace FundingTrade

def layout : Layout FundingTrade where
  record := "funding_trade"
  least := 5
  columns := [
    ⟨"amount", 2, .decimal⟩,
    ⟨"id", 0, .integer⟩,
    ⟨"mts", 1, .integer⟩,
    ⟨"rate", 3, .decimal⟩,
    ⟨"period", 4, .integer⟩]
  build := fun (amount, id, mts, rate, period, ()) =>
    .ok ⟨id, mts, .ofAmount amount, amount.abs, rate, period⟩

def shape : Shape FundingTrade where
  slots := [
    ("id", .integer), ("mts", .integer), ("side", .named Side.all Side.name), ("amount", .decimal),
    ("rate", .decimal), ("period", .integer)]
  split := fun t => (t.id, t.mts, t.side, t.amount, t.rate, t.period, ())
  join := fun (id, mts, side, amount, rate, period, ()) => ⟨id, mts, side, amount, rate, period⟩

end FundingTrade

structure Candle where
  mts : Int64
  opening : Decimal
  closing : Decimal
  high : Decimal
  low : Decimal
  volume : Decimal

namespace Candle

def layout : Layout Candle where
  record := "candle"
  least := 6
  columns := [
    ⟨"mts", 0, .integer⟩,
    ⟨"open", 1, .decimal⟩,
    ⟨"close", 2, .decimal⟩,
    ⟨"high", 3, .decimal⟩,
    ⟨"low", 4, .decimal⟩,
    ⟨"volume", 5, .decimal⟩]
  build := fun (mts, opening, closing, high, low, volume, ()) =>
    .ok ⟨mts, opening, closing, high, low, volume⟩

def shape : Shape Candle where
  slots := [
    ("mts", .integer), ("open", .decimal), ("close", .decimal), ("high", .decimal),
    ("low", .decimal), ("volume", .decimal)]
  split := fun c => (c.mts, c.opening, c.closing, c.high, c.low, c.volume, ())
  join := fun (mts, opening, closing, high, low, volume, ()) =>
    ⟨mts, opening, closing, high, low, volume⟩

end Candle

/-- A change to one level of a book. Price and amount are absolute; only a raw book has order ids, and
its levels hold one order each. -/
structure BookLevel where
  id : Option Int64
  price : Decimal
  count : Int64
  amount : Decimal
  side : BookSide
  action : BookAction

namespace BookLevel

def rawLayout : Layout BookLevel where
  record := "book_level"
  least := 3
  columns := [
    ⟨"id", 0, .integer⟩,
    ⟨"price", 1, .decimal⟩,
    ⟨"amount", 2, .decimal⟩]
  build := fun (id, price, amount, ()) =>
    .ok ⟨some id, price.abs, 1, amount.abs, .ofAmount amount,
      if price.isPositive then .upsert else .remove⟩

def aggregatedLayout : Layout BookLevel where
  record := "book_level"
  least := 3
  columns := [
    ⟨"price", 0, .decimal⟩,
    ⟨"count", 1, .integer⟩,
    ⟨"amount", 2, .decimal⟩]
  build := fun (price, count, amount, ()) =>
    .ok ⟨none, price.abs, count, amount.abs, .ofAmount amount,
      if 0 < count then .upsert else .remove⟩

def layout : BookLayout → Layout BookLevel
  | .raw => rawLayout
  | .aggregated => aggregatedLayout

def shape : Shape BookLevel where
  slots := [
    ("id", .optional .integer), ("price", .decimal), ("count", .integer), ("amount", .decimal),
    ("side", .named BookSide.all BookSide.name), ("action", .named BookAction.all BookAction.name)]
  split := fun l => (l.id, l.price, l.count, l.amount, l.side, l.action, ())
  join := fun (id, price, count, amount, side, action, ()) => ⟨id, price, count, amount, side, action⟩

def isRemoval (l : BookLevel) : Bool := l.action = .remove

end BookLevel
end MarketWire
