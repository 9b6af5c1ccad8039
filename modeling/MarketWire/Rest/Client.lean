import MarketWire.Auth.Signer
import MarketWire.Rest.Failure
import MarketWire.Rest.Url
import MarketWire.Text.Span

/-!
# Requests over HTTP

Public requests are read from one base address, signed ones posted to another. The path is signed as
it is sent, up to the normal form of the address. A nonce is drawn as soon as there are credentials,
even if the request can then not be built.
-/
namespace MarketWire

inductive HttpMethod where
  | get
  | post
deriving DecidableEq

def HttpMethod.name : HttpMethod → String
  | .get => "GET"
  | .post => "POST"

structure HttpRequest where
  method : HttpMethod
  url : Url
  headers : List (String × String)
  body : Option String
deriving DecidableEq

structure HttpResponse where
  status : Nat
  body : String
deriving DecidableEq

/-- What answers requests. -/
abbrev Exchange := HttpRequest → Except HttpFailure HttpResponse

structure ClientConfig where
  publicUrl : String
  authUrl : String
  timeout : Span
  userAgent : Option String
deriving DecidableEq

namespace ClientConfig

def standard : ClientConfig where
  publicUrl := "https://api-pub.bitfinex.com/v2/"
  authUrl := "https://api.bitfinex.com/"
  timeout := .ofSeconds 30
  userAgent := none

/-- The name that requests carry unless another is set. -/
def standardUserAgent : String := "bitfinex-rest/0.1.0"

def shown (c : ClientConfig) : String :=
  Text.named "ClientConfig" [
    ("public_url", Text.quoted c.publicUrl),
    ("auth_url", Text.quoted c.authUrl),
    ("timeout", c.timeout.text),
    ("user_agent", Text.optional (c.userAgent.map Text.quoted))]

end ClientConfig

/-- Control characters may not stand in a header, tabs apart. -/
def isHeaderText (s : String) : Bool :=
  s.toList.all fun c => (0x20 ≤ c.toNat && c.toNat != 0x7F) || c == '\t'

structure Client where
  config : ClientConfig
  signer : Signer
  agent_valid : config.userAgent.all isHeaderText = true
deriving DecidableEq

namespace Client

def create (config : ClientConfig) (signer : Signer) : Except RestError Client :=
  if h : config.userAgent.all isHeaderText = true then .ok ⟨config, signer, h⟩
  else .error (.http .invalid)

def hasCredentials (c : Client) : Bool := c.signer.credentials.isSome

def withCredentials (c : Client) (credentials : Credentials) : Client :=
  { c with signer := ⟨some credentials⟩ }

def shown (c : Client) : String :=
  Text.named "RestClient" [
    ("config", c.config.shown), ("has_credentials", Text.yesNo c.hasCredentials)]

def withoutTrailingSlashes (s : String) : String :=
  .ofList (s.toList.reverse.dropWhile (· == '/')).reverse

/-- Base and path with exactly one slash in between. -/
def join (base path : String) : String :=
  withoutTrailingSlashes base ++ "/" ++ withoutLeadingSlashes path

/-- The header that carries a login. -/
def loginHeader (name : List Char) (password : Option (List Char)) : String × String :=
  let login := name ++ [':'] ++ password.getD []
  ("authorization", Text.phrase ["Basic ", Bytes.base64 (Bytes.ofText (.ofList login))])

/-- A login in the address moves into a header. -/
def addressed (method : HttpMethod) (url : Url) (headers : List (String × String))
    (body : Option String) : HttpRequest :=
  match url.login? with
  | none => ⟨method, url, headers, body⟩
  | some (name, password) =>
    ⟨method, url.withoutLogin, loginHeader name password :: headers, body⟩

def build (method : HttpMethod) (url : String) (headers : List (String × String))
    (body : Option String) : Except RestError HttpRequest :=
  match Url.ofText? url with
  | none => .error (.http .invalid)
  | some url =>
    if headers.all fun kv => isHeaderText kv.2 then .ok (addressed method url headers body)
    else .error (.http .invalid)

def publicRequest (c : Client) (path : String) : Except RestError HttpRequest :=
  build .get (join c.config.publicUrl path) [] none

def signedRequest (url : String) : Except AuthError SignedHeaders → Except RestError HttpRequest
  | .error e => .error (.auth e)
  | .ok h => build .post url (("content-type", "application/json") :: h.headers) (some h.body)

/-- Where requests of the second version go. -/
def v2Url (c : Client) (path : String) : String :=
  join c.config.authUrl ("v2/" ++ withoutLeadingSlashes path)

def v2Request (c : Client) (source : NonceSource σ) (st : σ) (path : String) (body : Json.Value) :
    Except RestError HttpRequest × σ :=
  let (h, st) := c.signer.v2Headers source st (withoutLeadingSlashes path) body.toText
  (signedRequest (c.v2Url path) h, st)

/-- The path that requests of the first version sign. -/
def v1Path (path : String) : String := "/v1/" ++ withoutLeadingSlashes path

def v1Request (c : Client) (source : NonceSource σ) (st : σ) (path : String) (extra : Json.Fields) :
    Except RestError HttpRequest × σ :=
  let (h, st) := c.signer.v1Headers source st (v1Path path) extra
  (signedRequest (join c.config.authUrl (v1Path path)) h, st)

/-- The name of the client goes with each request. -/
def named (c : Client) (r : HttpRequest) : HttpRequest :=
  { r with headers :=
      r.headers ++ [("user-agent", c.config.userAgent.getD ClientConfig.standardUserAgent)] }

/-- Sends a request and reads the body of a response with a status of success. -/
def execute (c : Client) (exchange : Exchange) (parse : String → Option α) (r : HttpRequest) :
    Except RestError α :=
  if !r.url.isHttp then .error (.http .invalid)
  else match exchange (c.named r) with
    | .error f => .error (.http f)
    | .ok response =>
      if 200 ≤ response.status && response.status < 300 then
        (parse response.body).elim (.error (.parse response.body)) .ok
      else .error (.ofResponse r.method.name r.url.text response.status response.body)

end Client
end MarketWire
