import MarketWire.Text.Quoted

/-!
# Endpoints

Where a connection goes: to the public feeds, to the ones that take authentication, or elsewhere.
-/
namespace MarketWire

inductive Endpoint where
  | standard
  | authenticated
  | custom (url : String)
deriving DecidableEq

namespace Endpoint

def url : Endpoint → String
  | .standard => "wss://api-pub.bitfinex.com/ws/2"
  | .authenticated => "wss://api.bitfinex.com/ws/2"
  | .custom url => url

/-- The public endpoint alone takes no authentication. -/
def supportsAuth : Endpoint → Bool
  | .standard => false
  | _ => true

def shown : Endpoint → String
  | .standard => "Public"
  | .authenticated => "Authenticated"
  | .custom url => "Custom(" ++ Text.quoted url ++ ")"

end Endpoint
end MarketWire
