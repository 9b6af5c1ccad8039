import MarketWire.Stream.Endpoint
import MarketWire.Stream.Sink
import MarketWire.Text.Span

/-!
# Settings of a connection
-/
namespace MarketWire

/-- Whether the rest of a batch is delivered after a row that cannot be decoded. -/
inductive BatchPolicy where
  | isolate
  | abort
deriving DecidableEq

namespace BatchPolicy

def name : BatchPolicy → String
  | .isolate => "Isolate"
  | .abort => "Abort"

end BatchPolicy

namespace Overflow

def name : Overflow → String
  | .block => "Block"
  | .dropOldest => "DropOldest"
  | .dropNewest => "DropNewest"

end Overflow

structure ConnectionConfig where
  endpoint : Endpoint
  connectTimeout : Span
  /-- The silence after which the other side is asked for a sign of life. -/
  idleTimeout : Option Span
  /-- How long an authentication may take; without end if there is no such span. -/
  authTimeout : Option Span
  sinkCapacity : Nat
  overflow : Overflow
  batch : BatchPolicy
  /-- Whether all orders are cancelled when the connection ends. -/
  deadManSwitch : Bool
  /-- The kinds of account messages to send; all if there is none. -/
  authFilter : Option (List String)
deriving DecidableEq

namespace ConnectionConfig

def standard : ConnectionConfig where
  endpoint := .standard
  connectTimeout := .ofSeconds 10
  idleTimeout := some (.ofSeconds 30)
  authTimeout := some (.ofSeconds 15)
  sinkCapacity := 1024
  overflow := .block
  batch := .isolate
  deadManSwitch := false
  authFilter := none

def shown (c : ConnectionConfig) : String :=
  Text.named "ConnectionConfig" [
    ("endpoint", c.endpoint.shown),
    ("connect_timeout", c.connectTimeout.text),
    ("idle_timeout", Text.optional (c.idleTimeout.map Span.text)),
    ("auth_timeout", Text.optional (c.authTimeout.map Span.text)),
    ("sink_capacity", toString c.sinkCapacity),
    ("overflow_policy", c.overflow.name),
    ("batch_error_policy", c.batch.name),
    ("dead_man_switch", Text.yesNo c.deadManSwitch),
    ("auth_filter", Text.optional (c.authFilter.map Text.quotedList))]

end ConnectionConfig
end MarketWire
