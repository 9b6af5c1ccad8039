import MarketWire.Auth.Credentials
import MarketWire.Auth.Nonce
import MarketWire.Json.Printer
import MarketWire.Text.Case

/-!
# Signing

One rule serves every transport: the signature is the keyed digest of path, nonce and body. Requests
of the second version carry it over the path as such, requests of the first version over a JSON
envelope in base64, and connections over a word and the nonce. A signer may lack credentials; it
then fails before it draws a nonce. Signers that share a source of nonces are given its state in
turn.
-/
namespace MarketWire

/-- Headers of a signed request, the nonce they spend, and the body they cover. -/
structure SignedHeaders where
  headers : List (String × String)
  nonce : UInt64
  body : String
deriving DecidableEq

namespace SignedHeaders

/-- A header by name, whatever the case of its letters. -/
def get? (h : SignedHeaders) (name : String) : Option String :=
  (h.headers.find? fun kv => Text.sameLetters kv.1 name).map (·.2)

end SignedHeaders

/-- What authenticates a connection. -/
structure WsAuth where
  apiKey : String
  authSig : String
  authPayload : String
  authNonce : UInt64
deriving DecidableEq

namespace WsAuth

def wire (a : WsAuth) : String :=
  Json.orderedObject [
    ("apiKey", .text a.apiKey), ("authSig", .text a.authSig), ("authPayload", .text a.authPayload),
    ("authNonce", .ofUInt64 a.authNonce)]

end WsAuth

/-- A path without the slashes it starts with. -/
def withoutLeadingSlashes (s : String) : String := .ofList (s.toList.dropWhile (· == '/'))

namespace Signature

def nonceText (nonce : UInt64) : String := toString nonce.toNat

/-- The text that is signed. -/
def payload (path : String) (nonce : UInt64) (body : String) : String :=
  path ++ nonceText nonce ++ body

/-- The path that requests of the second version sign. -/
def v2Path (path : String) : String := "/api/v2/" ++ withoutLeadingSlashes path

def wsWord : String := "AUTH"

/-- The members of the first version's envelope; `request` and `nonce` are the signer's own. -/
def envelopeFields (request : String) (nonce : UInt64) (extra : Json.Fields) : Json.Fields :=
  ((Json.Fields.ofList extra).insert "request" (.text request)).insert "nonce" (.ofUInt64 nonce)

/-- The envelope, with its members sorted. -/
def envelope (request : String) (nonce : UInt64) (extra : Json.Fields) : String :=
  (Json.Value.object (envelopeFields request nonce extra)).toText

def v2 (c : Credentials) (path body : String) (nonce : UInt64) : SignedHeaders where
  headers := [
    ("bfx-apikey", c.apiKey),
    ("bfx-nonce", nonceText nonce),
    ("bfx-signature", c.sign (payload (v2Path path) nonce body))]
  nonce := nonce
  body := body

def v1 (c : Credentials) (request : String) (extra : Json.Fields) (nonce : UInt64) :
    SignedHeaders :=
  let body := envelope request nonce extra
  let encoded := Bytes.base64 (Bytes.ofText body)
  { headers := [
      ("X-BFX-APIKEY", c.apiKey),
      ("X-BFX-PAYLOAD", encoded),
      ("X-BFX-SIGNATURE", c.sign encoded)]
    nonce := nonce
    body := body }

def ws (c : Credentials) (nonce : UInt64) : WsAuth where
  apiKey := c.apiKey
  authSig := c.sign (payload wsWord nonce "")
  authPayload := wsWord ++ nonceText nonce
  authNonce := nonce

end Signature

structure Signer where
  credentials : Option Credentials
deriving DecidableEq

namespace Signer

/-- Signs with the credentials, if there are any. -/
def signing (s : Signer) (f : Credentials → α) : Except AuthError α :=
  match s.credentials with
  | none => .error .credentialsNotSet
  | some c => .ok (f c)

/-- Draws a nonce and signs with it, or fails without drawing. -/
def drawing (s : Signer) (source : NonceSource σ) (st : σ) (f : Credentials → UInt64 → α) :
    Except AuthError α × σ :=
  match s.credentials with
  | none => (.error .credentialsNotSet, st)
  | some c =>
    let (nonce, st) := source st
    (.ok (f c nonce), st)

def apiKey (s : Signer) : Except AuthError String := s.signing (·.apiKey)

def signPayload (s : Signer) (payload : String) : Except AuthError String :=
  s.signing (·.sign payload)

def sign (s : Signer) (path : String) (nonce : UInt64) (body : String) : Except AuthError String :=
  s.signPayload (Signature.payload path nonce body)

def v2Headers (s : Signer) (source : NonceSource σ) (st : σ) (path body : String) :
    Except AuthError SignedHeaders × σ :=
  s.drawing source st (Signature.v2 · path body)

def v2HeadersAt (s : Signer) (nonce : UInt64) (path body : String) : Except AuthError SignedHeaders :=
  s.signing (Signature.v2 · path body nonce)

def v1Headers (s : Signer) (source : NonceSource σ) (st : σ) (request : String)
    (extra : Json.Fields) : Except AuthError SignedHeaders × σ :=
  s.drawing source st (Signature.v1 · request extra)

def v1HeadersAt (s : Signer) (nonce : UInt64) (request : String) (extra : Json.Fields) :
    Except AuthError SignedHeaders :=
  s.signing (Signature.v1 · request extra nonce)

def wsAuth (s : Signer) (source : NonceSource σ) (st : σ) : Except AuthError WsAuth × σ :=
  s.drawing source st Signature.ws

def wsAuthAt (s : Signer) (nonce : UInt64) : Except AuthError WsAuth :=
  s.signing (Signature.ws · nonce)

/-- The signer with the state of the counter it shares. -/
def shown (s : Signer) (counter : Counter) : String :=
  Text.named "Signer" [
    ("credentials", Text.optional (s.credentials.map Credentials.shown)),
    ("nonce", counter.shown)]

end Signer
end MarketWire
