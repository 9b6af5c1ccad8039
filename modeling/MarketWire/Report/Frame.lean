import MarketWire.Record.Row
import MarketWire.Wire.Frame

/-!
# Reports on frames
-/
namespace MarketWire
open Json (Value)

/-- The members of an event by name. -/
def Control.reportFields : Control → List (String × Value)
  | .info i => [
      ("event", .text "info"), ("version", .orNull (.ofNat ·.toNat) i.version),
      ("server_id", .orNull .text i.serverId),
      ("platform_status", .orNull .ofInt64 i.platformStatus), ("code", .orNull .ofInt64 i.code),
      ("msg", .orNull .text i.msg)]
  | .subscribed s => [
      ("event", .text "subscribed"), ("channel", .text s.channel), ("chan_id", .ofInt64 s.chanId),
      ("symbol", .orNull .text s.symbol), ("pair", .orNull .text s.pair),
      ("currency", .orNull .text s.currency), ("key", .orNull .text s.key),
      ("prec", .orNull .text s.prec), ("freq", .orNull .text s.freq), ("len", .orNull .text s.len)]
  | .unsubscribed status chanId => [
      ("event", .text "unsubscribed"), ("status", .text status), ("chan_id", .ofInt64 chanId)]
  | .auth r => [
      ("event", .text "auth"), ("status", .text r.status), ("chan_id", .orNull .ofInt64 r.chanId),
      ("user_id", .orNull .ofInt64 r.userId), ("code", .orNull .ofInt64 r.code),
      ("msg", .orNull .text r.msg)]
  | .error r => [
      ("event", .text "error"), ("code", .orNull .ofInt64 r.code), ("msg", .text r.msg),
      ("channel", .orNull .text r.channel), ("symbol", .orNull .text r.symbol),
      ("key", .orNull .text r.key)]
  | .pong cid ts => [
      ("event", .text "pong"), ("cid", .orNull .ofInt64 cid), ("ts", .orNull .ofInt64 ts)]
  | .conf status flags => [
      ("event", .text "conf"), ("status", .orNull .text status), ("flags", .orNull .ofInt64 flags)]
  | .unknown => [("event", .text "unknown")]

namespace Payload

def contentFields : Payload → List (String × Value)
  | .heartbeat => [("payload", .text "heartbeat")]
  | .update row => [("payload", .text "update"), ("row", .text (Row.render row))]
  | .snapshot rows =>
    [("payload", .text "snapshot"), ("rows", .list (fun r => .text (Row.render r)) rows)]

def report (p : Payload) : Value :=
  .object (p.contentFields ++ [("len", .ofNat p.length), ("is_empty", .bool p.isEmpty)])

end Payload

def Frame.report : Frame → Value
  | .event c => .object [
      ("frame", .text "event"), ("is_auth_ok", .bool c.isAuthOk), ("event", .object c.reportFields)]
  | .data d => .object [
      ("frame", .text "data"), ("chan_id", .ofInt64 d.chanId), ("tag", .orNull .text d.tag),
      ("is_heartbeat", .bool d.payload.isHeartbeat), ("data", d.payload.report)]

/-- A text that is no JSON is reported as such and not described. -/
def ProtocolError.report (e : ProtocolError) : Value :=
  match e with
  | .invalidJson raw => .object [("error", .text "InvalidJson"), ("raw", .text raw)]
  | .malformedEvent .. => .object [("error", .text "MalformedEvent"), ("message", .text e.message)]
  | .malformedData .. => .object [("error", .text "MalformedData"), ("message", .text e.message)]
  | .unexpectedShape _ => .object [("error", .text "UnexpectedShape"), ("message", .text e.message)]

end MarketWire
