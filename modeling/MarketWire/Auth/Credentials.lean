import MarketWire.Digest.Hmac
import MarketWire.Text.Blank
import MarketWire.Text.Bytes
import MarketWire.Text.Phrase
import MarketWire.Text.Quoted

/-!
# Credentials

A key names the account and is sent; a secret signs and is never shown. Neither may be missing, and
a key of blanks counts as missing.
-/
namespace MarketWire

inductive AuthError where
  | credentialsNotSet
  | invalidCredentials (reason : String)
  | envVarNotSet (name : String)
  /-- The server refused. -/
  | rejected (code : Option Int64) (message : String)
  | serialize (reason : String)
deriving DecidableEq

namespace AuthError

def message : AuthError → String
  | .credentialsNotSet => "Credentials not set: private operations require an API key and secret"
  | .invalidCredentials reason => Text.labelled "Invalid credentials" reason
  | .envVarNotSet name => Text.labelled "Environment variable not set" name
  | .rejected code message =>
    Text.phrase [
      "Authentication rejected (code ", Text.optional (code.map fun i => toString i.toInt), "): ",
      message]
  | .serialize reason => Text.labelled "Serialize error" reason

end AuthError

structure Credentials where
  apiKey : String
  secret : String
  apiKey_filled : (Text.trimChars apiKey.toList).isEmpty = false
  secret_filled : secret.toList.isEmpty = false
deriving DecidableEq

namespace Credentials

def create (apiKey secret : String) : Except AuthError Credentials :=
  if hk : (Text.trimChars apiKey.toList).isEmpty = false then
    if hs : secret.toList.isEmpty = false then .ok ⟨apiKey, secret, hk, hs⟩
    else .error (.invalidCredentials "API secret is empty")
  else .error (.invalidCredentials "API key is empty")

def apiKeyVariable : String := "BFX_API_KEY"

def secretVariable : String := "BFX_API_SECRET"

/-- Credentials of an environment, whose variables `lookup` knows. -/
def ofEnvironment (lookup : String → Option String) : Except AuthError Credentials :=
  match lookup apiKeyVariable, lookup secretVariable with
  | none, _ => .error (.envVarNotSet apiKeyVariable)
  | _, none => .error (.envVarNotSet secretVariable)
  | some key, some secret => create key secret

/-- The keyed digest of a message under the secret. -/
def sign (c : Credentials) (message : String) : String :=
  Bytes.hex (Hmac.sha384 (Bytes.ofText c.secret) (Bytes.ofText message))

/-- The start of the key, and nothing of the secret. -/
def shown (c : Credentials) : String :=
  Text.named "Credentials" [
    ("api_key", Text.quoted (.ofList (c.apiKey.toList.take 8) ++ "...")),
    ("secret", Text.quoted "[REDACTED]")]

end Credentials
end MarketWire
