import MarketWire.Number.Decimal.Difference
import MarketWire.Record.Layout
import MarketWire.Record.Shape
import MarketWire.Text.Blank
import MarketWire.Text.Case

/-!
# Account records

Orders, positions, wallets, funding offers, executions and notifications. Amounts of orders and
positions keep their sign, those of executions do not. Free parts, whose form depends on the record,
are kept as JSON values.
-/
namespace MarketWire

inductive OrderStatus where
  | active
  | executed
  | partiallyFilled
  | canceled
  | insufficientMargin
  | rsnDust
  | rsnPause
  | unknown
deriving DecidableEq

namespace OrderStatus

def name : OrderStatus → String
  | .active => "Active"
  | .executed => "Executed"
  | .partiallyFilled => "PartiallyFilled"
  | .canceled => "Canceled"
  | .insufficientMargin => "InsufficientMargin"
  | .rsnDust => "RsnDust"
  | .rsnPause => "RsnPause"
  | .unknown => "Unknown"

/-- The words that a status text starts with. -/
def words : List (String × OrderStatus) := [
  ("ACTIVE", .active),
  ("EXECUTED", .executed),
  ("PARTIALLY FILLED", .partiallyFilled),
  ("CANCELED", .canceled),
  ("INSUFFICIENT MARGIN", .insufficientMargin),
  ("RSN_DUST", .rsnDust),
  ("RSN_PAUSE", .rsnPause)]

/-- Goes by the first words, whatever their case: `EXECUTED @ 7245.3(0.005)` was executed. -/
def ofText (s : String) : OrderStatus :=
  let cs := Text.upperChars (Text.trimChars s.toList)
  match words.find? fun (w, _) => w.toList.isPrefixOf cs with
  | some (_, status) => status
  | none => .unknown

/-- Whether the order can still be filled. -/
def isActive : OrderStatus → Bool
  | .active | .partiallyFilled => true
  | _ => false

end OrderStatus

/-- The remaining and the first amount are positive for a buy and negative for a sale. -/
structure Order where
  id : Int64
  gid : Int64
  cid : Int64
  symbol : String
  mtsCreate : Int64
  mtsUpdate : Int64
  amount : Decimal
  amountOrig : Decimal
  orderType : String
  typePrev : String
  mtsTif : Int64
  flags : Int64
  status : String
  price : Decimal
  priceAvg : Decimal
  priceTrailing : Decimal
  priceAuxLimit : Decimal
  notify : Bool
  hidden : Bool
  placedId : Int64
  routing : String
  details : Json.Value

namespace Order

def layout : Layout Order where
  record := "order"
  least := 26
  columns := [
    ⟨"id", 0, .integer⟩,
    ⟨"gid", 1, .integer⟩,
    ⟨"cid", 2, .integer⟩,
    ⟨"symbol", 3, .text⟩,
    ⟨"mts_create", 4, .integer⟩,
    ⟨"mts_update", 5, .integer⟩,
    ⟨"amount", 6, .decimal⟩,
    ⟨"amount_orig", 7, .decimal⟩,
    ⟨"order_type", 8, .text⟩,
    ⟨"type_prev", 9, .text⟩,
    ⟨"mts_tif", 10, .integer⟩,
    ⟨"flags", 12, .integer⟩,
    ⟨"status", 13, .text⟩,
    ⟨"price", 16, .decimal⟩,
    ⟨"price_avg", 17, .decimal⟩,
    ⟨"price_trailing", 18, .decimal⟩,
    ⟨"price_aux_limit", 19, .decimal⟩,
    ⟨"notify", 23, .flag⟩,
    ⟨"hidden", 24, .flag⟩,
    ⟨"placed_id", 25, .integer⟩,
    ⟨"routing", 28, .text⟩,
    ⟨"meta", 31, .raw⟩]
  build := fun (id, gid, cid, symbol, mtsCreate, mtsUpdate, amount, amountOrig, orderType, typePrev,
      mtsTif, flags, status, price, priceAvg, priceTrailing, priceAuxLimit, notify, hidden, placedId,
      routing, details, ()) =>
    .ok ⟨id, gid, cid, symbol, mtsCreate, mtsUpdate, amount, amountOrig, orderType, typePrev, mtsTif,
      flags, status, price, priceAvg, priceTrailing, priceAuxLimit, notify, hidden, placedId, routing,
      details⟩

def shape : Shape Order where
  slots := [
    ("id", .integer), ("gid", .integer), ("cid", .integer), ("symbol", .text),
    ("mts_create", .integer), ("mts_update", .integer), ("amount", .decimal),
    ("amount_orig", .decimal), ("order_type", .text), ("type_prev", .text), ("mts_tif", .integer),
    ("flags", .integer), ("status", .text), ("price", .decimal), ("price_avg", .decimal),
    ("price_trailing", .decimal), ("price_aux_limit", .decimal), ("notify", .flag),
    ("hidden", .flag), ("placed_id", .integer), ("routing", .text), ("meta", .free)]
  split := fun o =>
    (o.id, o.gid, o.cid, o.symbol, o.mtsCreate, o.mtsUpdate, o.amount, o.amountOrig, o.orderType,
      o.typePrev, o.mtsTif, o.flags, o.status, o.price, o.priceAvg, o.priceTrailing, o.priceAuxLimit,
      o.notify, o.hidden, o.placedId, o.routing, o.details, ())
  join := fun (id, gid, cid, symbol, mtsCreate, mtsUpdate, amount, amountOrig, orderType, typePrev,
      mtsTif, flags, status, price, priceAvg, priceTrailing, priceAuxLimit, notify, hidden, placedId,
      routing, details, ()) =>
    ⟨id, gid, cid, symbol, mtsCreate, mtsUpdate, amount, amountOrig, orderType, typePrev, mtsTif,
      flags, status, price, priceAvg, priceTrailing, priceAuxLimit, notify, hidden, placedId, routing,
      details⟩

def side (o : Order) : Side := .ofAmount o.amountOrig

def statusKind (o : Order) : OrderStatus := .ofText o.status

/-- The absolute amount filled so far; `none` if that is out of range. -/
def filled? (o : Order) : Option Decimal := (o.amountOrig.sub? o.amount).map Decimal.abs

end Order

/-- A margin position, long with a positive amount and short with a negative one. -/
structure Position where
  symbol : String
  status : String
  amount : Decimal
  basePrice : Decimal
  marginFunding : Decimal
  marginFundingType : Int64
  profitLoss : Decimal
  profitLossPercent : Decimal
  liquidationPrice : Decimal
  leverage : Decimal
  id : Int64
  mtsCreate : Int64
  mtsUpdate : Int64
  positionType : Int64
  collateral : Decimal
  collateralMin : Decimal
  details : Json.Value

namespace Position

def layout : Layout Position where
  record := "position"
  least := 6
  columns := [
    ⟨"symbol", 0, .text⟩,
    ⟨"status", 1, .text⟩,
    ⟨"amount", 2, .decimal⟩,
    ⟨"base_price", 3, .decimal⟩,
    ⟨"margin_funding", 4, .decimal⟩,
    ⟨"margin_funding_type", 5, .integer⟩,
    ⟨"profit_loss", 6, .decimal⟩,
    ⟨"profit_loss_percent", 7, .decimal⟩,
    ⟨"liquidation_price", 8, .decimal⟩,
    ⟨"leverage", 9, .decimal⟩,
    ⟨"id", 11, .integer⟩,
    ⟨"mts_create", 12, .integer⟩,
    ⟨"mts_update", 13, .integer⟩,
    ⟨"position_type", 15, .integer⟩,
    ⟨"collateral", 17, .decimal⟩,
    ⟨"collateral_min", 18, .decimal⟩,
    ⟨"meta", 19, .raw⟩]
  build := fun (symbol, status, amount, basePrice, marginFunding, marginFundingType, profitLoss,
      profitLossPercent, liquidationPrice, leverage, id, mtsCreate, mtsUpdate, positionType,
      collateral, collateralMin, details, ()) =>
    .ok ⟨symbol, status, amount, basePrice, marginFunding, marginFundingType, profitLoss,
      profitLossPercent, liquidationPrice, leverage, id, mtsCreate, mtsUpdate, positionType,
      collateral, collateralMin, details⟩

def shape : Shape Position where
  slots := [
    ("symbol", .text), ("status", .text), ("amount", .decimal), ("base_price", .decimal),
    ("margin_funding", .decimal), ("margin_funding_type", .integer), ("profit_loss", .decimal),
    ("profit_loss_percent", .decimal), ("liquidation_price", .decimal), ("leverage", .decimal),
    ("id", .integer), ("mts_create", .integer), ("mts_update", .integer), ("position_type", .integer),
    ("collateral", .decimal), ("collateral_min", .decimal), ("meta", .free)]
  split := fun p =>
    (p.symbol, p.status, p.amount, p.basePrice, p.marginFunding, p.marginFundingType, p.profitLoss,
      p.profitLossPercent, p.liquidationPrice, p.leverage, p.id, p.mtsCreate, p.mtsUpdate,
      p.positionType, p.collateral, p.collateralMin, p.details, ())
  join := fun (symbol, status, amount, basePrice, marginFunding, marginFundingType, profitLoss,
      profitLossPercent, liquidationPrice, leverage, id, mtsCreate, mtsUpdate, positionType,
      collateral, collateralMin, details, ()) =>
    ⟨symbol, status, amount, basePrice, marginFunding, marginFundingType, profitLoss,
      profitLossPercent, liquidationPrice, leverage, id, mtsCreate, mtsUpdate, positionType,
      collateral, collateralMin, details⟩

def side (p : Position) : Side := .ofAmount p.amount

def isActive (p : Position) : Bool := Text.sameLetters p.status "ACTIVE"

end Position

/-- The balance of one currency in one wallet. -/
structure WalletEntry where
  walletType : String
  currency : String
  balance : Decimal
  unsettledInterest : Decimal
  availableBalance : Decimal
  lastChange : String
  tradeDetails : Json.Value

namespace WalletEntry

def layout : Layout WalletEntry where
  record := "wallet"
  least := 4
  columns := [
    ⟨"wallet_type", 0, .text⟩,
    ⟨"currency", 1, .text⟩,
    ⟨"balance", 2, .decimal⟩,
    ⟨"unsettled_interest", 3, .decimal⟩,
    ⟨"available_balance", 4, .decimal⟩,
    ⟨"last_change", 5, .text⟩,
    ⟨"trade_details", 6, .raw⟩]
  build := fun (walletType, currency, balance, unsettledInterest, availableBalance, lastChange,
      tradeDetails, ()) =>
    .ok ⟨walletType, currency, balance, unsettledInterest, availableBalance, lastChange, tradeDetails⟩

def shape : Shape WalletEntry where
  slots := [
    ("wallet_type", .text), ("currency", .text), ("balance", .decimal),
    ("unsettled_interest", .decimal), ("available_balance", .decimal), ("last_change", .text),
    ("trade_details", .free)]
  split := fun w =>
    (w.walletType, w.currency, w.balance, w.unsettledInterest, w.availableBalance, w.lastChange,
      w.tradeDetails, ())
  join := fun (walletType, currency, balance, unsettledInterest, availableBalance, lastChange,
      tradeDetails, ()) =>
    ⟨walletType, currency, balance, unsettledInterest, availableBalance, lastChange, tradeDetails⟩

end WalletEntry

/-- An offer on the funding market; the period is in days. -/
structure FundingOffer where
  id : Int64
  symbol : String
  mtsCreate : Int64
  mtsUpdate : Int64
  amount : Decimal
  amountOrig : Decimal
  offerType : String
  flags : Int64
  status : String
  rate : Decimal
  period : Int64
  notify : Bool
  hidden : Bool
  renew : Bool

namespace FundingOffer

def layout : Layout FundingOffer where
  record := "funding_offer"
  least := 16
  columns := [
    ⟨"id", 0, .integer⟩,
    ⟨"symbol", 1, .text⟩,
    ⟨"mts_create", 2, .integer⟩,
    ⟨"mts_update", 3, .integer⟩,
    ⟨"amount", 4, .decimal⟩,
    ⟨"amount_orig", 5, .decimal⟩,
    ⟨"offer_type", 6, .text⟩,
    ⟨"flags", 9, .integer⟩,
    ⟨"status", 10, .text⟩,
    ⟨"rate", 14, .decimal⟩,
    ⟨"period", 15, .integer⟩,
    ⟨"notify", 16, .flag⟩,
    ⟨"hidden", 17, .flag⟩,
    ⟨"renew", 19, .flag⟩]
  build := fun (id, symbol, mtsCreate, mtsUpdate, amount, amountOrig, offerType, flags, status, rate,
      period, notify, hidden, renew, ()) =>
    .ok ⟨id, symbol, mtsCreate, mtsUpdate, amount, amountOrig, offerType, flags, status, rate, period,
      notify, hidden, renew⟩

def shape : Shape FundingOffer where
  slots := [
    ("id", .integer), ("symbol", .text), ("mts_create", .integer), ("mts_update", .integer),
    ("amount", .decimal), ("amount_orig", .decimal), ("offer_type", .text), ("flags", .integer),
    ("status", .text), ("rate", .decimal), ("period", .integer), ("notify", .flag),
    ("hidden", .flag), ("renew", .flag)]
  split := fun o =>
    (o.id, o.symbol, o.mtsCreate, o.mtsUpdate, o.amount, o.amountOrig, o.offerType, o.flags, o.status,
      o.rate, o.period, o.notify, o.hidden, o.renew, ())
  join := fun (id, symbol, mtsCreate, mtsUpdate, amount, amountOrig, offerType, flags, status, rate,
      period, notify, hidden, renew, ()) =>
    ⟨id, symbol, mtsCreate, mtsUpdate, amount, amountOrig, offerType, flags, status, rate, period,
      notify, hidden, renew⟩

end FundingOffer

/-- A fill of one of the account's orders. The amount is absolute, and a fee that was charged is
negative. -/
structure Execution where
  id : Int64
  symbol : String
  mts : Int64
  orderId : Int64
  side : Side
  amount : Decimal
  price : Decimal
  orderType : String
  orderPrice : Decimal
  maker : Bool
  fee : Decimal
  feeCurrency : String
  cid : Int64

namespace Execution

/-- The element for the maker is `1` or `-1`. -/
def layout : Layout Execution where
  record := "execution"
  least := 6
  columns := [
    ⟨"exec_amount", 4, .decimal⟩,
    ⟨"id", 0, .integer⟩,
    ⟨"symbol", 1, .text⟩,
    ⟨"mts", 2, .integer⟩,
    ⟨"order_id", 3, .integer⟩,
    ⟨"exec_price", 5, .decimal⟩,
    ⟨"order_type", 6, .text⟩,
    ⟨"order_price", 7, .decimal⟩,
    ⟨"maker", 8, .integer⟩,
    ⟨"fee", 9, .decimal⟩,
    ⟨"fee_currency", 10, .text⟩,
    ⟨"cid", 11, .integer⟩]
  build := fun (amount, id, symbol, mts, orderId, price, orderType, orderPrice, maker, fee,
      feeCurrency, cid, ()) =>
    .ok ⟨id, symbol, mts, orderId, .ofAmount amount, amount.abs, price, orderType, orderPrice,
      decide (0 < maker), fee, feeCurrency, cid⟩

def shape : Shape Execution where
  slots := [
    ("id", .integer), ("symbol", .text), ("mts", .integer), ("order_id", .integer),
    ("side", .named Side.all Side.name), ("amount", .decimal), ("price", .decimal),
    ("order_type", .text), ("order_price", .decimal), ("maker", .flag), ("fee", .decimal),
    ("fee_currency", .text), ("cid", .integer)]
  split := fun e =>
    (e.id, e.symbol, e.mts, e.orderId, e.side, e.amount, e.price, e.orderType, e.orderPrice, e.maker,
      e.fee, e.feeCurrency, e.cid, ())
  join := fun (id, symbol, mts, orderId, side, amount, price, orderType, orderPrice, maker, fee,
      feeCurrency, cid, ()) =>
    ⟨id, symbol, mts, orderId, side, amount, price, orderType, orderPrice, maker, fee, feeCurrency,
      cid⟩

end Execution

/-- What the server says about a request, such as one to place an order. -/
structure Notification where
  mts : Int64
  kind : String
  messageId : Int64
  info : Json.Value
  code : Int64
  status : String
  text : String

namespace Notification

def layout : Layout Notification where
  record := "notification"
  least := 8
  columns := [
    ⟨"mts", 0, .integer⟩,
    ⟨"type", 1, .text⟩,
    ⟨"message_id", 2, .integer⟩,
    ⟨"info", 4, .raw⟩,
    ⟨"code", 5, .integer⟩,
    ⟨"status", 6, .text⟩,
    ⟨"text", 7, .text⟩]
  build := fun (mts, kind, messageId, info, code, status, text, ()) =>
    .ok ⟨mts, kind, messageId, info, code, status, text⟩

def shape : Shape Notification where
  slots := [
    ("mts", .integer), ("kind", .text), ("message_id", .integer), ("info", .free),
    ("code", .integer), ("status", .text), ("text", .text)]
  split := fun n => (n.mts, n.kind, n.messageId, n.info, n.code, n.status, n.text, ())
  join := fun (mts, kind, messageId, info, code, status, text, ()) =>
    ⟨mts, kind, messageId, info, code, status, text⟩

def isSuccess (n : Notification) : Bool := Text.sameLetters n.status "SUCCESS"

end Notification
end MarketWire
