import MarketWire.Auth.Credentials
import MarketWire.Json.Value
import MarketWire.Text.Blank
import MarketWire.Text.Phrase

/-!
# Failed requests

A request fails before it is sent, on its way, by the status of its response, or because the body of
the response is not what it should be. Bodies of refusals come in two forms with a message inside;
any other body is its own message.
-/
namespace MarketWire

/-- What kept a response from arriving. -/
inductive HttpFailure where
  /-- The request has an address or a header that cannot be sent. -/
  | invalid
  | connect
  | timeout
  | other
deriving DecidableEq

inductive RestError where
  | http (f : HttpFailure)
  | auth (e : AuthError)
  | status (method url : String) (status : Nat) (message : String)
  | parse (body : String)
deriving DecidableEq

namespace RestError

/-- The message of an array such as `["error", 10020, "limit: invalid"]`. -/
def arrayMessage? (items : List Json.Value) : Option String :=
  match items with
  | .text "error" :: _ :: .text message :: _ => some message
  | _ => none

/-- The message of an object; `error` counts only where there is no `message`. -/
def objectMessage? (fields : Json.Fields) : Option String :=
  ((fields.get? "message").or (fields.get? "error")).bind Json.Value.text?

def serverMessage (body : String) : String :=
  let found := match Json.Value.ofText? body with
    | some (.array items) => arrayMessage? items
    | some (.object fields) => objectMessage? fields
    | _ => none
  found.getD (Text.trim body)

def ofResponse (method url : String) (code : Nat) (body : String) : RestError :=
  .status method url code (serverMessage body)

def status? : RestError → Option Nat
  | .status _ _ code _ => some code
  | _ => none

/-- Limits on the rate, failures of the server, and connections that fail may pass. -/
def isRetryable : RestError → Bool
  | .status _ _ code _ => code == 429 || 500 ≤ code
  | .http f => f == .connect || f == .timeout
  | .auth _ | .parse _ => false

def message : RestError → String
  | .http _ => "HTTP error"
  | .auth e => Text.labelled "Auth error" e.message
  | .status method url code message =>
    Text.phrase [method, " ", url, " failed with status ", toString code, ": ", message]
  | .parse body => Text.labelled "Parse error" body

end RestError
end MarketWire
