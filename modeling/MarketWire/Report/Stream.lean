import MarketWire.Report.Failure
import MarketWire.Report.Record
import MarketWire.Stream.Session.Basic

/-!
# Reports on feeds, streams and connections
-/
namespace MarketWire
open Json (Value)

/-- How a subscription is named. -/
def subscriptionName (id : Nat) : Value := .text s!"sub-{id}"

def Feed.report (f : Feed) : List (String × Value) := [
  ("channel", .text f.channel.name), ("symbol", .orNull .text f.symbol),
  ("key", .orNull .text f.key), ("precision", .text f.precision.name),
  ("frequency", .text f.frequency.name), ("length", .ofNat f.length.toNat),
  ("is_private", .bool f.isPrivate), ("label", .text f.label), ("display", .text f.text),
  ("schema", .orNull Schema.report f.schema?),
  ("request", .orNull (fun r => .text r.wire) f.request?)]

namespace StreamMessage

def reportFields : StreamMessage → List (String × Value)
  | .update chanId kind e => [
      ("message", .text "update"), ("chan_id", .ofInt64 chanId), ("kind", .text kind.name),
      ("event", e.report)]
  | .decodeFailed chanId e => [
      ("message", .text "decode_failed"), ("chan_id", .ofInt64 chanId), ("error", e.report)]
  | .rejected code message => [
      ("message", .text "rejected"), ("code", .orNull .ofInt64 code), ("text", .text message)]
  | .terminated e => [("message", .text "terminated"), ("terminal", e.report)]

def report (m : StreamMessage) : Value := .object (m.reportFields ++ [("is_final", .bool m.isFinal)])

end StreamMessage

def Receipt.report : Receipt StreamMessage → Value
  | .message m => m.report
  | .waiting => .text "pending"
  | .ended => .text "ended"

/-- What can be seen of a sink by its subscriber. -/
def Sink.report (s : Sink StreamMessage) (id : Nat) (feed : Feed) : Value :=
  .object [
    ("id", subscriptionName id), ("feed", .text feed.text), ("chan_id", .orNull .ofInt64 s.chanId),
    ("dropped", .ofNat s.dropped), ("len", .ofNat s.queue.length),
    ("is_empty", .bool s.queue.isEmpty)]

def Active.report (a : Active) (isClosed : Bool) : Value :=
  .object [
    ("id", subscriptionName a.id), ("schema", .orNull Schema.report a.schema?),
    ("is_closed", .bool isClosed)]

def ConnectionEvent.report : ConnectionEvent → Value
  | .stateChanged before after => .object [
      ("event", .text "state_changed"), ("from", .text before.name), ("to", .text after.name)]
  | .info version code message => .object [
      ("event", .text "info"), ("version", .orNull (.ofNat ·.toNat) version),
      ("code", .orNull .ofInt64 code), ("message", .orNull .text message)]
  | .authenticated userId => .object [
      ("event", .text "authenticated"), ("user_id", .orNull .ofInt64 userId)]
  | .subscribed id chanId channel symbol => .object [
      ("event", .text "subscribed"), ("id", subscriptionName id), ("chan_id", .ofInt64 chanId),
      ("channel", .text channel.name), ("symbol", .orNull .text symbol)]
  | .unsubscribed chanId => .object [
      ("event", .text "unsubscribed"), ("chan_id", .ofInt64 chanId)]
  | .notice code message => .object [
      ("event", .text "notice"), ("code", .orNull .ofInt64 code), ("message", .text message)]
  | .terminated e => .object [("event", .text "terminated"), ("terminal", e.report)]

def ConnectionConfig.report (c : ConnectionConfig) : List (String × Value) := [
  ("endpoint", .text c.endpoint.url), ("connect_timeout_ms", .ofNat c.connectTimeout.millis),
  ("idle_timeout_ms", .orNull (.ofNat ·.millis) c.idleTimeout),
  ("auth_timeout_ms", .orNull (.ofNat ·.millis) c.authTimeout),
  ("sink_capacity", .ofNat c.sinkCapacity), ("overflow_policy", .text c.overflow.name),
  ("batch_error_policy", .text c.batch.name), ("dead_man_switch", .bool c.deadManSwitch),
  ("auth_filter", .orNull (.list .text) c.authFilter)]

end MarketWire
