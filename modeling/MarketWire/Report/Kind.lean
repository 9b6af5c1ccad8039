import MarketWire.Report.Record

/-!
# Kinds of records

Of a record are reported its fields and what follows from them. The kinds that are read by name give
reports instead of records.
-/
namespace MarketWire
open Json (Value)

structure Reported where
  fields : List (String × Value)
  /-- What follows from the fields; a difference may not fit a decimal. -/
  derived : List (String × Option Value)

namespace Reported

/-- A kind from whose records nothing more follows. -/
def plain (layout : Layout α) (shape : Shape α) : Layout Reported :=
  layout.map fun a => ⟨shape.fields a, []⟩

def decimal? (d : Option Decimal) : Option Value := d.map fun d => .text d.text

def ticker (layout : Layout Ticker) : Layout Reported :=
  layout.map fun t => ⟨Ticker.shape.fields t, [("spread", decimal? t.spread?)]⟩

def fundingTicker (layout : Layout FundingTicker) : Layout Reported :=
  plain layout FundingTicker.shape

def trade : Layout Reported :=
  Trade.layout.map fun t =>
    ⟨Trade.shape.fields t, [("opposite", some (.text t.side.opposite.name))]⟩

def order : Layout Reported :=
  Order.layout.map fun o => ⟨Order.shape.fields o, [
    ("side", some (.text o.side.name)), ("status_kind", some (.text o.statusKind.name)),
    ("is_active", some (.bool o.statusKind.isActive)), ("filled", decimal? o.filled?)]⟩

def position : Layout Reported :=
  Position.layout.map fun p => ⟨Position.shape.fields p, [
    ("side", some (.text p.side.name)), ("is_active", some (.bool p.isActive))]⟩

def notification : Layout Reported :=
  Notification.layout.map fun n =>
    ⟨Notification.shape.fields n, [("is_success", some (.bool n.isSuccess))]⟩

/-- The kinds by name. -/
def kinds : List (String × Layout Reported) := [
  ("ticker", ticker Ticker.layout),
  ("funding_ticker", fundingTicker FundingTicker.layout),
  ("trade", trade),
  ("funding_trade", plain FundingTrade.layout FundingTrade.shape),
  ("candle", plain Candle.layout Candle.shape),
  ("order", order),
  ("position", position),
  ("wallet", plain WalletEntry.layout WalletEntry.shape),
  ("funding_offer", plain FundingOffer.layout FundingOffer.shape),
  ("execution", plain Execution.layout Execution.shape),
  ("notification", notification),
  ("profile", plain Profile.layout Profile.shape),
  ("post", plain Post.layout Post.shape)]

end Reported
end MarketWire
