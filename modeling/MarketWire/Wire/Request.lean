import MarketWire.Json.Printer
import MarketWire.Market.Channel
import MarketWire.Text.Quoted

/-!
# Requests

Requests are objects whose members come in a fixed order; optional members are left out where there
is nothing to say. An authentication shows neither key nor signature in diagnostics.
-/
namespace MarketWire

/-- A member that is left out where there is no value. -/
def optionalMember (name : String) (v : Option Json.Value) : List (String × Json.Value) :=
  v.elim [] fun v => [(name, v)]

structure SubscribeRequest where
  channel : Channel
  symbol : Option String
  key : Option String
  prec : Option Precision
  freq : Option Frequency
  /-- The length of a book, which is sent as text. -/
  len : Option String
deriving DecidableEq

namespace SubscribeRequest

def ofChannel (channel : Channel) : SubscribeRequest := ⟨channel, none, none, none, none, none⟩

def withBook (r : SubscribeRequest) (prec : Precision) (freq : Frequency) (len : UInt32) :
    SubscribeRequest :=
  { r with prec := some prec, freq := some freq, len := some (toString len.toNat) }

def members (r : SubscribeRequest) : List (String × Json.Value) :=
  [("event", .text "subscribe"), ("channel", .text r.channel.name)] ++
    optionalMember "symbol" (r.symbol.map .text) ++
    optionalMember "key" (r.key.map .text) ++
    optionalMember "prec" (r.prec.map (.text ·.name)) ++
    optionalMember "freq" (r.freq.map (.text ·.name)) ++
    optionalMember "len" (r.len.map .text)

def wire (r : SubscribeRequest) : String := Json.orderedObject r.members

end SubscribeRequest

/-- Asks for the end of a channel. -/
def unsubscribeWire (chanId : Int64) : String :=
  Json.orderedObject [("event", .text "unsubscribe"), ("chanId", .ofInt64 chanId)]

/-- Asks for a sign of life that repeats `cid`. -/
def pingWire (cid : UInt64) : String :=
  Json.orderedObject [("event", .text "ping"), ("cid", .ofUInt64 cid)]

structure AuthRequest where
  apiKey : String
  authSig : String
  authPayload : String
  authNonce : UInt64
  /-- Whether all orders are cancelled when the connection ends. -/
  deadManSwitch : Bool
  /-- The kinds of account messages to send; all if there is none. -/
  filter : Option (List String)
deriving DecidableEq

namespace AuthRequest

/-- The number that switches the cancelling of orders on. -/
def deadManSwitchCode : Nat := 4

def members (r : AuthRequest) : List (String × Json.Value) :=
  [("event", .text "auth"), ("apiKey", .text r.apiKey), ("authSig", .text r.authSig),
    ("authPayload", .text r.authPayload), ("authNonce", .ofUInt64 r.authNonce)] ++
    optionalMember "dms" (if r.deadManSwitch then some (.number (.whole deadManSwitchCode (by decide)))
      else none) ++
    optionalMember "filter" (r.filter.map fun ss => .array (ss.map .text))

def wire (r : AuthRequest) : String := Json.orderedObject r.members

def shown (r : AuthRequest) : String :=
  Text.named "AuthRequest" [
    ("api_key", Text.quoted "[REDACTED]"),
    ("auth_nonce", toString r.authNonce.toNat),
    ("dms", Text.optional (if r.deadManSwitch then some (toString deadManSwitchCode) else none)),
    ("filter", Text.optional (r.filter.map Text.quotedList))]

end AuthRequest
end MarketWire
