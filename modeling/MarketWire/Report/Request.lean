import MarketWire.Auth.Signer
import MarketWire.Rest.Client

/-!
# Reports on requests
-/
namespace MarketWire
open Json (Value)

def pairReport (kv : String × String) : Value := .array [.text kv.1, .text kv.2]

/-- Headers are reported in the order in which they are sent. -/
def SignedHeaders.report (h : SignedHeaders) : List (String × Value) := [
  ("headers", .list pairReport h.headers), ("nonce", .ofUInt64 h.nonce), ("body", .text h.body)]

namespace HttpRequest

/-- Whether one header stands before another in a report. -/
def precedes (a b : String × String) : Bool := a.1 < b.1 || (a.1 == b.1 && a.2 ≤ b.2)

/-- Headers are reported in small letters and in the order of their names. -/
def report (r : HttpRequest) : Value :=
  .object [
    ("method", .text r.method.name), ("url", .text r.url.text),
    ("headers", .list pairReport ((r.headers.map fun (k, v) => (k.toLower, v)).mergeSort precedes)),
    ("body", .orNull .text r.body)]

end HttpRequest

/-- What a client was made with. -/
def Client.report (c : Client) : Value :=
  .object [
    ("public_url", .text c.config.publicUrl), ("auth_url", .text c.config.authUrl),
    ("timeout_ms", .ofNat c.config.timeout.millis), ("user_agent", .orNull .text c.config.userAgent),
    ("has_credentials", .bool c.hasCredentials), ("debug", .text c.shown)]

end MarketWire
