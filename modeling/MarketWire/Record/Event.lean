import MarketWire.Record.Account
import MarketWire.Record.Public
import MarketWire.Record.Pulse

/-!
# Decoded events

An event is one decoded row of any kind. Its JSON form is an object with the kind under `type` and
the record under `data`. It is read back from such an object, where other members do not matter, and
from an array of kind and record. A record that stands before its kind has to be stored first.
-/
namespace MarketWire

inductive Event where
  | ticker (t : Ticker)
  | fundingTicker (t : FundingTicker)
  | trade (t : Trade)
  | fundingTrade (t : FundingTrade)
  | bookLevel (l : BookLevel)
  | candle (c : Candle)
  | order (o : Order)
  | position (p : Position)
  | wallet (w : WalletEntry)
  | fundingOffer (o : FundingOffer)
  | execution (e : Execution)
  | notification (n : Notification)
  | post (p : Post)

namespace Event

inductive Kind where
  | ticker
  | fundingTicker
  | trade
  | fundingTrade
  | bookLevel
  | candle
  | order
  | position
  | wallet
  | fundingOffer
  | execution
  | notification
  | post
deriving DecidableEq

namespace Kind

def all : List Kind := [
  .ticker, .fundingTicker, .trade, .fundingTrade, .bookLevel, .candle, .order, .position, .wallet,
  .fundingOffer, .execution, .notification, .post]

def name : Kind → String
  | .ticker => "ticker"
  | .fundingTicker => "funding_ticker"
  | .trade => "trade"
  | .fundingTrade => "funding_trade"
  | .bookLevel => "book_level"
  | .candle => "candle"
  | .order => "order"
  | .position => "position"
  | .wallet => "wallet"
  | .fundingOffer => "funding_offer"
  | .execution => "execution"
  | .notification => "notification"
  | .post => "post"

def ofName? (s : String) : Option Kind := all.find? (·.name == s)

theorem ofName?_name (k : Kind) : ofName? k.name = some k := by cases k <;> decide

end Kind

def kind : Event → Kind
  | .ticker _ => .ticker
  | .fundingTicker _ => .fundingTicker
  | .trade _ => .trade
  | .fundingTrade _ => .fundingTrade
  | .bookLevel _ => .bookLevel
  | .candle _ => .candle
  | .order _ => .order
  | .position _ => .position
  | .wallet _ => .wallet
  | .fundingOffer _ => .fundingOffer
  | .execution _ => .execution
  | .notification _ => .notification
  | .post _ => .post

/-- The record's fields in their order. -/
def fields : Event → List (String × Json.Value)
  | .ticker t => Ticker.shape.fields t
  | .fundingTicker t => FundingTicker.shape.fields t
  | .trade t => Trade.shape.fields t
  | .fundingTrade t => FundingTrade.shape.fields t
  | .bookLevel l => BookLevel.shape.fields l
  | .candle c => Candle.shape.fields c
  | .order o => Order.shape.fields o
  | .position p => Position.shape.fields p
  | .wallet w => WalletEntry.shape.fields w
  | .fundingOffer o => FundingOffer.shape.fields o
  | .execution e => Execution.shape.fields e
  | .notification n => Notification.shape.fields n
  | .post p => Post.shape.fields p

def value (e : Event) : Json.Value :=
  .object [("type", .text e.kind.name), ("data", .object e.fields)]

def toText (e : Event) : String := e.value.toText

/-- Reads the record of a kind. -/
def readRecord? (r : Reading) (t : Json.Tree) : Kind → Option Event
  | .ticker => (Ticker.shape.read? r t).map .ticker
  | .fundingTicker => (FundingTicker.shape.read? r t).map .fundingTicker
  | .trade => (Trade.shape.read? r t).map .trade
  | .fundingTrade => (FundingTrade.shape.read? r t).map .fundingTrade
  | .bookLevel => (BookLevel.shape.read? r t).map .bookLevel
  | .candle => (Candle.shape.read? r t).map .candle
  | .order => (Order.shape.read? r t).map .order
  | .position => (Position.shape.read? r t).map .position
  | .wallet => (WalletEntry.shape.read? r t).map .wallet
  | .fundingOffer => (FundingOffer.shape.read? r t).map .fundingOffer
  | .execution => (Execution.shape.read? r t).map .execution
  | .notification => (Notification.shape.read? r t).map .notification
  | .post => (Post.shape.read? r t).map .post

def readKind? (r : Reading) (t : Json.Tree) : Option Kind := (t.tag? r).bind Kind.ofName?

/-- The reading of a record that had to be stored, which needs a value of its own. -/
def stored? (r : Reading) (t : Json.Tree) : Option Reading :=
  (t.value? r.depth).map fun _ => { r with stored := true }

/-- The members that matter, in their order. -/
def relevant (members : List (String × Json.Tree)) : List (String × Json.Tree) :=
  members.filter fun m => m.1 == "type" || m.1 == "data"

def ofTree? (r : Reading) : Json.Tree → Option Event
  | .array [tag, data] => r.inside?.bind fun r => (readKind? r tag).bind (readRecord? r data)
  | .object ms =>
    r.inside?.bind fun r =>
      (Json.Tree.members? ms).bind fun ms =>
        match relevant ms with
        | [("type", tag), ("data", data)] => (readKind? r tag).bind (readRecord? r data)
        | [("data", data), ("type", tag)] =>
          (stored? r data).bind fun s => (readKind? r tag).bind (readRecord? s data)
        | _ => none
  | _ => none

/-- How a text is read from its start. -/
def reading : Reading := ⟨Json.maxDepth, false⟩

def ofText? (s : String) : Option Event := (Json.Tree.ofText? s).bind (ofTree? reading)

end Event
end MarketWire
