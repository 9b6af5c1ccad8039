import MarketWire.Text.Case
import MarketWire.Wire.Member

/-!
# Control events

Frames that are objects carry an event, told by its name. Acknowledgements and refusals echo the
fields of the request they answer. An event of another name is known only as that.
-/
namespace MarketWire

/-- An acknowledged subscription. -/
structure Subscribed where
  channel : String
  chanId : Int64
  symbol : Option String
  pair : Option String
  currency : Option String
  key : Option String
  prec : Option String
  freq : Option String
  len : Option String
deriving DecidableEq

/-- The answer to an authentication. -/
structure AuthReply where
  status : String
  chanId : Option Int64
  userId : Option Int64
  code : Option Int64
  msg : Option String
deriving DecidableEq

namespace AuthReply

def isOk (r : AuthReply) : Bool := Text.sameLetters r.status "OK"

end AuthReply

/-- A refused request. -/
structure Refusal where
  code : Option Int64
  msg : String
  channel : Option String
  symbol : Option String
  key : Option String
deriving DecidableEq

/-- Sent on connecting and when maintenance starts or ends. -/
structure Info where
  version : Option UInt32
  serverId : Option String
  platformStatus : Option Int64
  code : Option Int64
  msg : Option String
deriving DecidableEq

inductive Control where
  | info (i : Info)
  | subscribed (s : Subscribed)
  | unsubscribed (status : String) (chanId : Int64)
  | auth (r : AuthReply)
  | error (r : Refusal)
  | pong (cid ts : Option Int64)
  | conf (status : Option String) (flags : Option Int64)
  | unknown
deriving DecidableEq

namespace Control

open Member

def infoMembers : Members := [
  ("version", optional readCount), ("serverId", optional readText),
  ("platform", optional readStatus), ("code", optional readInteger), ("msg", optional readText)]

def subscribedMembers : Members := [
  ("channel", required readText), ("chanId", required readInteger), ("symbol", optional readText),
  ("pair", optional readText), ("currency", optional readText), ("key", optional readText),
  ("prec", optional readText), ("freq", optional readText), ("len", loose)]

def unsubscribedMembers : Members := [
  ("status", defaulted readText ""), ("chanId", required readInteger)]

def authMembers : Members := [
  ("status", required readText), ("chanId", optional readInteger), ("userId", optional readInteger),
  ("code", optional readInteger), ("msg", optional readText)]

def errorMembers : Members := [
  ("code", optional readInteger), ("msg", defaulted readText ""), ("channel", optional readText),
  ("symbol", optional readText), ("key", optional readText)]

def pongMembers : Members := [("cid", optional readInteger), ("ts", optional readInteger)]

def confMembers : Members := [("status", optional readText), ("flags", optional readInteger)]

def readInfo (fields : Json.Fields) : Except MemberError Control :=
  (infoMembers.read fields).map fun (version, serverId, platformStatus, code, msg, ()) =>
    .info ⟨version, serverId, platformStatus, code, msg⟩

def readSubscribed (fields : Json.Fields) : Except MemberError Control :=
  (subscribedMembers.read fields).map
    fun (channel, chanId, symbol, pair, currency, key, prec, freq, len, ()) =>
      .subscribed ⟨channel, chanId, symbol, pair, currency, key, prec, freq, len⟩

def readUnsubscribed (fields : Json.Fields) : Except MemberError Control :=
  (unsubscribedMembers.read fields).map fun (status, chanId, ()) => .unsubscribed status chanId

def readAuth (fields : Json.Fields) : Except MemberError Control :=
  (authMembers.read fields).map fun (status, chanId, userId, code, msg, ()) =>
    .auth ⟨status, chanId, userId, code, msg⟩

def readError (fields : Json.Fields) : Except MemberError Control :=
  (errorMembers.read fields).map fun (code, msg, channel, symbol, key, ()) =>
    .error ⟨code, msg, channel, symbol, key⟩

def readPong (fields : Json.Fields) : Except MemberError Control :=
  (pongMembers.read fields).map fun (cid, ts, ()) => .pong cid ts

def readConf (fields : Json.Fields) : Except MemberError Control :=
  (confMembers.read fields).map fun (status, flags, ()) => .conf status flags

/-- The event of a name with the members of its frame. -/
def read (event : String) (fields : Json.Fields) : Except MemberError Control :=
  match event with
  | "info" => readInfo fields
  | "subscribed" => readSubscribed fields
  | "unsubscribed" => readUnsubscribed fields
  | "auth" => readAuth fields
  | "error" => readError fields
  | "pong" => readPong fields
  | "conf" => readConf fields
  | _ => .ok .unknown

/-- Whether an authentication is acknowledged. -/
def isAuthOk : Control → Bool
  | .auth r => r.isOk
  | _ => false

end Control
end MarketWire
