import MarketWire.Stream.Failure
import MarketWire.Wire.Request

/-!
# Sockets that are kept alive

Who waits for a text on a socket waits in windows of one length. After a silent window the other
side is sent a ping, and if the next window is silent too, the socket is given up. Any frame at all
shows that the other side is alive. Without a window nothing is sent and nothing is given up.
-/
namespace MarketWire

/-- The status of a close and its reason. -/
structure CloseStatus where
  code : Nat
  reason : String
deriving DecidableEq

namespace CloseStatus

def normal : Nat := 1000

def goingAway : Nat := 1001

/-- Whether the status is no complaint. -/
def isGraceful (c : CloseStatus) : Bool := c.code == normal || c.code == goingAway

end CloseStatus

/-- What a wait for a frame ends with. -/
inductive Wait where
  /-- A window went by; a ping that is sent then fails for the reason, if there is one. -/
  | silence (fault : Option String)
  | text (s : String)
  | binary (bytes : List UInt8)
  /-- A frame of the transport itself. -/
  | control
  | close (status : Option CloseStatus)
  | fault (reason : String)
  | ended
deriving DecidableEq

namespace Wait

def isSilence : Wait → Bool
  | .silence _ => true
  | _ => false

/-- Whether something came from the other side. -/
def isFrame : Wait → Bool
  | .text _ | .binary _ | .control | .close _ => true
  | _ => false

end Wait

structure Socket where
  url : String
  connectTimeout : Span
  /-- The window, if the socket is kept alive. -/
  idle : Option Span
  connected : Bool
  /-- The number of the next ping. -/
  nextCid : UInt64
  /-- A ping has been sent, and nothing has come since. -/
  awaitingPong : Bool
deriving DecidableEq

/-- What comes of a wait: the answer to who waits, unless the wait goes on, and the ping that was
attempted, with whether it was sent. -/
structure Waited where
  answer : Option (Except LinkError (Option String))
  ping : Option (UInt64 × Bool)

namespace Socket

def standardConnectTimeout : Span := .ofSeconds 10

def standardIdle : Span := .ofSeconds 30

def create (url : String) : Socket :=
  ⟨url, standardConnectTimeout, some standardIdle, false, 1, false⟩

/-- What an attempt to connect ends with. -/
inductive Attempt where
  | established
  | refused (reason : String)
  /-- Nothing came of it in time. -/
  | unanswered
deriving DecidableEq

def connect (s : Socket) : Attempt → Except LinkError Unit × Socket
  | .established => (.ok (), { s with connected := true, awaitingPong := false })
  | .refused reason => (.error (.connectionFailed reason), s)
  | .unanswered => (.error (.timeout s.connectTimeout), s)

/-- Whether a text can be sent; something may be in the way. -/
def send (s : Socket) (fault : Option String) : Except LinkError Unit :=
  if s.connected then fault.elim (.ok ()) (.error <| .sendFailed ·) else .error .notConnected

def close (s : Socket) : Socket := { s with connected := false }

/-- A text that came as bytes. -/
def textOfBytes (bytes : List UInt8) : Except LinkError String :=
  match String.fromUTF8? ⟨bytes.toArray⟩ with
  | some t => .ok t
  | none => .error (.protocol "the bytes are no text")

def closeAnswer : Option CloseStatus → Except LinkError (Option String)
  | none => .ok none
  | some c => if c.isGraceful then .ok none else .error (.closedByServer c.code c.reason)

def answered (a : Except LinkError (Option String)) : Waited := ⟨some a, none⟩

/-- After a silent window: a ping, or the end if one is outstanding. -/
def handleSilence (s : Socket) (idle : Span) (fault : Option String) : Waited × Socket :=
  if s.awaitingPong then (answered (.error (.timeout idle)), s.close)
  else
    let cid := s.nextCid
    let s := { s with nextCid := cid + 1 }
    match s.send fault with
    | .error e => (⟨some (.error e), some (cid, false)⟩, s)
    | .ok () => (⟨none, some (cid, true)⟩, { s with awaitingPong := true })

/-- What comes of a wait on a connected socket. Without a window there is no silence to speak of. -/
def handle (s : Socket) : Wait → Waited × Socket
  | .silence fault =>
    match s.idle with
    | none => (⟨none, none⟩, s)
    | some idle => s.handleSilence idle fault
  | .text t => (answered (.ok (some t)), { s with awaitingPong := false })
  | .binary bytes => (answered ((textOfBytes bytes).map some), { s with awaitingPong := false })
  | .control => (⟨none, none⟩, { s with awaitingPong := false })
  | .close status => (answered (closeAnswer status), { s.close with awaitingPong := false })
  | .fault reason => (answered (.error (.receiveFailed reason)), { s with awaitingPong := false })
  | .ended => (answered (.error .connectionClosed), { s.close with awaitingPong := false })

/-- One wait of who asks for a text. -/
def wait (s : Socket) (w : Wait) : Waited × Socket :=
  if s.connected then s.handle w else (answered (.error .notConnected), s)

/-- The outcomes of waits in turn, over as many receipts as they answer. -/
def waitAll (s : Socket) : List Wait → List Waited × Socket
  | [] => ([], s)
  | w :: ws =>
    let (r, s) := s.wait w
    let (rs, s) := s.waitAll ws
    (r :: rs, s)

end Socket
end MarketWire
