import MarketWire.Stream.Failure

/-!
# Links

A link carries texts between a connection and the other side. What comes in lies in an inbox; when
that is empty, a link that is held open waits for more, and another one is closed. Connecting and
sending fail where a fault has been set.
-/
namespace MarketWire

/-- What comes in: a text, a close without complaint, or a failure. -/
inductive Inbound where
  | text (s : String)
  | close
  | fault (e : LinkError)
deriving DecidableEq

structure Link where
  url : String
  connected : Bool
  heldOpen : Bool
  connectFault : Option LinkError
  sendFault : Option LinkError
  inbox : List Inbound
deriving DecidableEq

namespace Link

def create (url : String) (heldOpen : Bool) (connectFault sendFault : Option LinkError) : Link :=
  ⟨url, false, heldOpen, connectFault, sendFault, []⟩

def push (l : Link) (i : Inbound) : Link := { l with inbox := l.inbox ++ [i] }

def connect (l : Link) : Except LinkError Link :=
  match l.connectFault with
  | some e => .error e
  | none => .ok { l with connected := true }

/-- Whether a text can be sent, and what is in the way. -/
def send (l : Link) : Except LinkError Unit :=
  if l.connected then l.sendFault.elim (.ok ()) .error else .error .notConnected

/-- What comes in next; `none` if it has to be waited for. -/
def receive (l : Link) : Option Inbound × Link :=
  if l.connected then
    match l.inbox with
    | i :: is => (some i, { l with inbox := is })
    | [] => (if l.heldOpen then none else some (.fault .connectionClosed), l)
  else (some (.fault .notConnected), l)

def close (l : Link) : Link := { l with connected := false }

end Link
end MarketWire
