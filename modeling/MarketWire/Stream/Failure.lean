import MarketWire.Auth.Credentials
import MarketWire.Text.Phrase
import MarketWire.Text.Span
import MarketWire.Wire.Frame

/-!
# Failures of connections

What can go wrong on a link, what can go wrong with a connection, and the ending that subscribers
are told of.
-/
namespace MarketWire

inductive LinkError where
  | connectionFailed (reason : String)
  | connectionClosed
  /-- The server closed the link with a status that says something went wrong. -/
  | closedByServer (code : Nat) (reason : String)
  | sendFailed (reason : String)
  | receiveFailed (reason : String)
  | timeout (limit : Span)
  | notConnected
  | protocol (reason : String)
deriving DecidableEq

namespace LinkError

def message : LinkError → String
  | .connectionFailed reason => Text.labelled "connection failed" reason
  | .connectionClosed => "connection closed"
  | .closedByServer code reason =>
    Text.phrase ["closed by server: ", toString code, " ", reason]
  | .sendFailed reason => Text.labelled "send failed" reason
  | .receiveFailed reason => Text.labelled "receive failed" reason
  | .timeout limit => Text.phrase ["timeout after ", limit.text]
  | .notConnected => "not connected"
  | .protocol reason => Text.labelled "protocol error" reason

end LinkError

inductive EndingKind where
  | auth
  | transport
  | closed
deriving DecidableEq

def EndingKind.name : EndingKind → String
  | .auth => "auth"
  | .transport => "transport"
  | .closed => "closed"

/-- How a connection ended. -/
structure Ending where
  kind : EndingKind
  message : String
deriving DecidableEq

namespace Ending

def text (e : Ending) : String :=
  Text.phrase ["connection terminated (", e.kind.name, "): ", e.message]

/-- The ending on request. -/
def closed : Ending := ⟨.closed, "connection closed"⟩

end Ending

inductive ConnectionError where
  | link (e : LinkError)
  | auth (e : AuthError)
  | protocol (e : ProtocolError)
  /-- An authentication was not answered in time. -/
  | authTimeout (limit : Span)
  | serialize (reason : String)
  | alreadyRunning
  | terminated
  | channelClosed
deriving DecidableEq

namespace ConnectionError

def message : ConnectionError → String
  | .link e => Text.labelled "transport error" e.message
  | .auth e => Text.labelled "auth error" e.message
  | .protocol e => Text.labelled "protocol error" e.message
  | .authTimeout limit => Text.phrase ["no auth acknowledgement within ", limit.text]
  | .serialize reason => Text.labelled "serialization failed" reason
  | .alreadyRunning => "connection is already running"
  | .terminated => "connection terminated"
  | .channelClosed => "command channel closed"

/-- Whether it ends the connection. -/
def isTerminal : ConnectionError → Bool
  | .link _ | .auth _ | .authTimeout _ | .terminated => true
  | _ => false

def endingKind : ConnectionError → EndingKind
  | .auth _ | .authTimeout _ => .auth
  | .terminated => .closed
  | _ => .transport

def ending (e : ConnectionError) : Ending := ⟨e.endingKind, e.message⟩

end ConnectionError
end MarketWire
