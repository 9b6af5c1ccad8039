import MarketWire.Rest.Host.Address
import MarketWire.Rest.Host.Name
import MarketWire.Text.Percent

/-!
# Hosts

Where the scheme is a usual one, a host is a name in ASCII form or an address, and percent signs are
read before. Elsewhere it is any text without separators, kept as it stands, or an address in
brackets.
-/
namespace MarketWire

inductive Host where
  | name (cs : List Char)
  | v4 (address : Nat)
  | v6 (parts : List Nat)
deriving DecidableEq

namespace Host

def text : Host → List Char
  | name cs => cs
  | v4 n => Address.v4Text n
  | v6 ns => '[' :: (Address.v6Text ns ++ [']'])

/-- An address in brackets, the first of which has been read. -/
def bracketed? (cs : List Char) : Option Host :=
  if cs.getLast? == some ']' then (Address.v6? cs.dropLast).map v6 else none

/-- A host under a usual scheme. -/
def usual? : List Char → Option Host
  | '[' :: cs => bracketed? cs
  | cs =>
    ((Percent.decode? cs).bind HostName.ascii?).bind fun ascii =>
      if ascii.isEmpty then none
      else if Address.endsInNumber ascii then (Address.v4? ascii).map v4
      else some (name ascii)

def isSeparator (c : Char) : Bool := "\x00\t\n\r #/:<>?@[\\]^|".toList.contains c

/-- A host under any other scheme. -/
def other? : List Char → Option Host
  | '[' :: cs => bracketed? cs
  | cs => if cs.isEmpty || cs.any isSeparator then none else some (name (Percent.encode [] cs))

end Host
end MarketWire
