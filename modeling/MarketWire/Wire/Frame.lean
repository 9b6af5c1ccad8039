import MarketWire.Text.Phrase
import MarketWire.Wire.Control

/-!
# Inbound frames

A frame is a JSON text: an object is a control event, and an array is data for the channel whose id
comes first, with a tag in between or none. The data are one row, an array of rows, or a heartbeat.
Whatever is neither is refused with the text it came in.
-/
namespace MarketWire

/-- Why a text is no frame. -/
inductive ProtocolError where
  | invalidJson (raw : String)
  | malformedEvent (message raw : String)
  | malformedData (message raw : String)
  | unexpectedShape (raw : String)
deriving DecidableEq

namespace ProtocolError

def frameMessage (label message raw : String) : String :=
  Text.phrase [label, ": ", message, " (raw: ", raw, ")"]

def message : ProtocolError → String
  | .invalidJson raw => Text.labelled "invalid JSON" raw
  | .malformedEvent message raw => frameMessage "malformed event frame" message raw
  | .malformedData message raw => frameMessage "malformed data frame" message raw
  | .unexpectedShape raw => Text.labelled "unexpected frame shape" raw

end ProtocolError

inductive Payload where
  | heartbeat
  /-- One row. -/
  | update (row : List Json.Value)
  | snapshot (rows : List (List Json.Value))

namespace Payload

/-- The rows in their order. -/
def rows : Payload → List (List Json.Value)
  | .heartbeat => []
  | .update row => [row]
  | .snapshot rows => rows

def length (p : Payload) : Nat := p.rows.length

def isEmpty (p : Payload) : Bool := p.length == 0

def isHeartbeat : Payload → Bool
  | .heartbeat => true
  | _ => false

/-- The name that stands for a heartbeat. -/
def heartbeatName : String := "hb"

/-- All items as rows, or the first that is none. -/
def rowsOf : List Json.Value → Except Json.Value (List (List Json.Value))
  | [] => .ok []
  | .array row :: vs => (rowsOf vs).map (row :: ·)
  | v :: _ => .error v

/-- The first item decides between one row and many; without items there are no rows. -/
def ofItems : List Json.Value → Except String Payload
  | [] => .ok (.snapshot [])
  | .array row :: vs =>
    match rowsOf (.array row :: vs) with
    | .ok rows => .ok (.snapshot rows)
    | .error v => .error (Text.labelled "snapshot mixes rows and scalars" v.toText)
  | v :: vs => .ok (.update (v :: vs))

def ofValue : Json.Value → Except String Payload
  | .array items => ofItems items
  | .text s => if s = heartbeatName then .ok .heartbeat else .error (notArray (.text s))
  | v => .error (notArray v)
where
  notArray (v : Json.Value) : String := Text.labelled "payload is not an array" v.toText

end Payload

structure DataFrame where
  chanId : Int64
  tag : Option String
  payload : Payload

namespace DataFrame

/-- The channel id, which is written as a whole number. -/
def chanId? : Json.Value → Option Int64
  | .number (.whole i _) => if i < 0x8000000000000000 then some (.ofInt i) else none
  | _ => none

/-- What follows the channel id: a tag and the data behind it, or the data alone. -/
def ofRest (chanId : Int64) : List Json.Value → Except String DataFrame
  | [] => .error "missing payload"
  | .text s :: vs =>
    if s = Payload.heartbeatName then .ok ⟨chanId, none, .heartbeat⟩
    else match vs with
      | [] => .error (Text.phrase ["tag ", s, " without payload"])
      | v :: _ => (Payload.ofValue v).map (⟨chanId, some s, ·⟩)
  | v :: _ => (Payload.ofValue v).map (⟨chanId, none, ·⟩)

def ofItems (items : List Json.Value) : Except String DataFrame :=
  match items.head?.bind chanId? with
  | none => .error "first element is not a channel id"
  | some chanId => ofRest chanId items.tail

end DataFrame

inductive Frame where
  | event (c : Control)
  | data (d : DataFrame)

namespace Frame

/-- An object needs the name of its event as a text. -/
def ofFields (fields : Json.Fields) : Except String Frame :=
  match (Json.Fields.get? "event" fields).bind Json.Value.text? with
  | none => .error "missing event field"
  | some name =>
    match Control.read name fields with
    | .ok c => .ok (.event c)
    | .error e => .error e.message

def ofValue (raw : String) : Json.Value → Except ProtocolError Frame
  | .object fields => (ofFields fields).mapError (.malformedEvent · raw)
  | .array items => ((DataFrame.ofItems items).map .data).mapError (.malformedData · raw)
  | _ => .error (.unexpectedShape raw)

def parse (raw : String) : Except ProtocolError Frame :=
  match Json.Value.ofText? raw with
  | none => .error (.invalidJson raw)
  | some v => ofValue raw v

end Frame
end MarketWire
