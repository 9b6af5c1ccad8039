import MarketWire.Record.Schema

/-!
# Reports on records

A report is a JSON object for logs and for other programs. Records are reported by the names of
their fields; what has no fixed form inside a record, and whole rows, are reported as JSON text.
-/
namespace MarketWire
open Json (Value)

/-- The fields whose values have no fixed form. -/
def looseFields : List String := ["meta", "info", "trade_details"]

def recordReport (fields : List (String × Value)) : Value :=
  .object (fields.map fun (k, v) => (k, if looseFields.contains k then .text v.toText else v))

def Event.report (e : Event) : Value :=
  .object [
    ("type", .text e.kind.name), ("kind", .text e.kind.name), ("data", recordReport e.fields)]

def DecodeError.kindName : DecodeError → String
  | .tooShort .. => "TooShort"
  | .mismatch .. => "TypeMismatch"
  | .notArray .. => "NotAnArray"

def DecodeError.report (e : DecodeError) : Value :=
  .object [
    ("error", .text e.kindName), ("message", .text e.message), ("record", .text e.record),
    ("raw", .text e.raw)]

def BookLayout.name : BookLayout → String
  | .raw => "raw"
  | .aggregated => "aggregated"

namespace Schema

def name : Schema → String
  | .ticker _ => "Ticker"
  | .fundingTicker _ => "FundingTicker"
  | .trade => "Trade"
  | .fundingTrade => "FundingTrade"
  | .book _ => "Book"
  | .candle => "Candle"
  | .order => "Order"
  | .position => "Position"
  | .wallet => "Wallet"
  | .fundingOffer => "FundingOffer"
  | .execution => "Execution"
  | .notification => "Notification"
  | .post => "Post"

/-- What a schema is given besides its kind. -/
def details : Schema → List (String × Value)
  | .ticker symbol | .fundingTicker symbol => [("symbol", .text symbol)]
  | .book layout => [("layout", .text layout.name)]
  | _ => []

def reportFields (s : Schema) : List (String × Value) := ("schema", .text s.name) :: s.details

def report (s : Schema) : Value := .object s.reportFields

end Schema
end MarketWire
