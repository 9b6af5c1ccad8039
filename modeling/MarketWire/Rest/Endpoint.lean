import MarketWire.Record.Account
import MarketWire.Record.Public
import MarketWire.Record.Pulse
import MarketWire.Rest.Client

/-!
# Endpoints

Responses are arrays of rows, of which each is decoded by itself, so that one bad row hides no
other. Balances alone come as objects.
-/
namespace MarketWire

structure Balance where
  walletType : String
  currency : String
  amount : Decimal
  available : Decimal
deriving DecidableEq

namespace Balance

def shape : Shape Balance where
  slots := [("type", .text), ("currency", .text), ("amount", .decimal), ("available", .decimal)]
  split := fun b => (b.walletType, b.currency, b.amount, b.available, ())
  join := fun (walletType, currency, amount, available, ()) =>
    ⟨walletType, currency, amount, available⟩

def listOfTree? (r : Reading) : Json.Tree → Option (List Balance)
  | .array items => r.inside?.bind fun r => items.mapM (shape.read? r)
  | _ => none

def listOfText? (s : String) : Option (List Balance) :=
  (Json.Tree.ofText? s).bind (listOfTree? ⟨Json.maxDepth, false⟩)

end Balance

namespace Client

def rows? (body : String) : Option (List Json.Value) :=
  (Json.Value.ofText? body).bind Json.Value.array?

/-- Sends what was built and decodes the rows of the response. -/
def fetch (c : Client) (exchange : Exchange) (layout : Layout α)
    (r : Except RestError HttpRequest) :
    Except RestError (List (Except DecodeError α)) :=
  (r.bind (c.execute exchange rows?)).map layout.decodeList

def tickersPath (symbols : List String) : String := "tickers?symbols=" ++ ",".intercalate symbols

def tickers (c : Client) (exchange : Exchange) (symbols : List String) :
    Except RestError (List (Except DecodeError Ticker)) :=
  c.fetch exchange Ticker.layout (c.publicRequest (tickersPath symbols))

def fundingTickers (c : Client) (exchange : Exchange) (currencies : List String) :
    Except RestError (List (Except DecodeError FundingTicker)) :=
  c.fetch exchange FundingTicker.layout (c.publicRequest (tickersPath currencies))

def pulsePath (limit : Option UInt32) : String :=
  "pulse/hist" ++ limit.elim "" fun n => "?limit=" ++ toString n.toNat

def pulseHistory (c : Client) (exchange : Exchange) (limit : Option UInt32) :
    Except RestError (List (Except DecodeError Post)) :=
  c.fetch exchange Post.layout (c.publicRequest (pulsePath limit))

def ordersPath (symbol : Option String) : String :=
  "auth/r/orders/" ++ symbol.elim "" (· ++ "/") ++ "hist"

def limitBody (limit : Option UInt32) : Json.Value :=
  .object (limit.elim [] fun n => [("limit", .ofUInt64 n.toUInt64)])

/-- Closed orders of one symbol or of all. -/
def orderHistory (c : Client) (exchange : Exchange) (source : NonceSource σ) (st : σ)
    (symbol : Option String) (limit : Option UInt32) :
    Except RestError (List (Except DecodeError Order)) × σ :=
  let (r, st) := c.v2Request source st (ordersPath symbol) (limitBody limit)
  (c.fetch exchange Order.layout r, st)

def wallets (c : Client) (exchange : Exchange) (source : NonceSource σ) (st : σ) :
    Except RestError (List (Except DecodeError WalletEntry)) × σ :=
  let (r, st) := c.v2Request source st "auth/r/wallets" (.object [])
  (c.fetch exchange WalletEntry.layout r, st)

def balances (c : Client) (exchange : Exchange) (source : NonceSource σ) (st : σ) :
    Except RestError (List Balance) × σ :=
  let (r, st) := c.v1Request source st "balances" []
  (r.bind (c.execute exchange Balance.listOfText?), st)

end Client
end MarketWire
