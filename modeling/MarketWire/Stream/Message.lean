import MarketWire.Record.Event
import MarketWire.Stream.Failure
import MarketWire.Wire.Frame

/-!
# Messages

What subscribers receive, and what is told about the connection as a whole. A refusal and the ending
are final: nothing follows them.
-/
namespace MarketWire

/-- How an update relates to what was known. -/
inductive UpdateKind where
  | snapshot
  | new
  | update
  | close
  | executed
  | notification
deriving DecidableEq

namespace UpdateKind

def name : UpdateKind → String
  | .snapshot => "Snapshot"
  | .new => "New"
  | .update => "Update"
  | .close => "Close"
  | .executed => "Executed"
  | .notification => "Notification"

/-- The tags that tell the kind. -/
def tags : List (String × UpdateKind) := [
  ("os", .snapshot), ("ps", .snapshot), ("ws", .snapshot), ("fos", .snapshot),
  ("on", .new), ("pn", .new), ("fon", .new),
  ("ou", .update), ("pu", .update), ("wu", .update), ("fou", .update), ("tu", .update),
  ("oc", .close), ("pc", .close), ("foc", .close),
  ("te", .executed),
  ("n", .notification)]

def ofPayload : Payload → UpdateKind
  | .snapshot _ => .snapshot
  | _ => .update

/-- By the tag, or else by the form of the data. -/
def of (tag : Option String) (p : Payload) : UpdateKind :=
  (tag.bind fun t => tags.lookup t).getD (ofPayload p)

end UpdateKind

inductive StreamMessage where
  | update (chanId : Int64) (kind : UpdateKind) (event : Event)
  /-- One row could not be decoded; others may follow. -/
  | decodeFailed (chanId : Int64) (error : DecodeError)
  | rejected (code : Option Int64) (message : String)
  | terminated (e : Ending)

namespace StreamMessage

def isFinal : StreamMessage → Bool
  | .rejected .. | .terminated _ => true
  | _ => false

end StreamMessage

inductive ConnectionState where
  | disconnected
  | connecting
  | authenticating
  | subscribing
  | streaming
  | terminated
deriving DecidableEq

def ConnectionState.name : ConnectionState → String
  | .disconnected => "Disconnected"
  | .connecting => "Connecting"
  | .authenticating => "Authenticating"
  | .subscribing => "Subscribing"
  | .streaming => "Streaming"
  | .terminated => "Terminated"

/-- What happens to a connection; subscriptions are named by their numbers. -/
inductive ConnectionEvent where
  | stateChanged (before after : ConnectionState)
  | info (version : Option UInt32) (code : Option Int64) (message : Option String)
  | authenticated (userId : Option Int64)
  | subscribed (id : Nat) (chanId : Int64) (channel : Channel) (symbol : Option String)
  | unsubscribed (chanId : Int64)
  /-- A refusal that concerns no pending subscription. -/
  | notice (code : Option Int64) (message : String)
  | terminated (e : Ending)
deriving DecidableEq

end MarketWire
