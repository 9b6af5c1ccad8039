import MarketWire.Rest.Failure
import MarketWire.Stream.Failure

/-!
# Reports on failures
-/
namespace MarketWire
open Json (Value)

def AuthError.kindName : AuthError → String
  | .credentialsNotSet => "CredentialsNotSet"
  | .invalidCredentials _ => "InvalidCredentials"
  | .envVarNotSet _ => "EnvVarNotSet"
  | .rejected .. => "Rejected"
  | .serialize _ => "Serialize"

def AuthError.report (e : AuthError) : Value :=
  .object [("error", .text e.kindName), ("message", .text e.message)]

namespace RestError

def kindName : RestError → String
  | .http _ => "Http"
  | .auth _ => "Auth"
  | .status .. => "Status"
  | .parse _ => "Parse"

/-- What is said beyond the kind; the words of a failed exchange or body are not this library's. -/
def details (e : RestError) : List (String × Value) :=
  match e with
  | .auth _ => [("message", .text e.message)]
  | .status _ _ _ m => [("message", .text e.message), ("server_message", .text m)]
  | .http _ | .parse _ => []

def report (e : RestError) : Value :=
  .object ([
    ("error", .text e.kindName), ("status", .orNull .ofNat e.status?),
    ("is_retryable", .bool e.isRetryable)] ++ e.details)

end RestError

def LinkError.report (e : LinkError) : Value :=
  .object [("error", .text "TransportError"), ("message", .text e.message)]

def Ending.report (e : Ending) : Value :=
  .object [
    ("kind", .text e.kind.name), ("message", .text e.message), ("display", .text e.text)]

namespace ConnectionError

def kindName : ConnectionError → String
  | .link _ => "Transport"
  | .auth _ => "Auth"
  | .protocol _ => "Protocol"
  | .authTimeout _ => "AuthTimeout"
  | .serialize _ => "Serialize"
  | .alreadyRunning => "AlreadyRunning"
  | .terminated => "Terminated"
  | .channelClosed => "ChannelClosed"

def report (e : ConnectionError) : Value :=
  .object [
    ("error", .text e.kindName), ("message", .text e.message), ("is_terminal", .bool e.isTerminal),
    ("terminal", e.ending.report)]

end ConnectionError
end MarketWire
