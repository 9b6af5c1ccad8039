import MarketWire.Record.Schema
import MarketWire.Text.Count
import MarketWire.Wire.Control
import MarketWire.Wire.Request

/-!
# Feeds

A feed is what a subscriber asks for. Answers of the server carry no number of the request; they
echo its fields, and an answer belongs to a feed if the echo agrees with it.
-/
namespace MarketWire

structure Feed where
  channel : Channel
  symbol : Option String
  key : Option String
  precision : Precision
  frequency : Frequency
  length : UInt32
deriving DecidableEq

/-- The fields that an answer echoes. -/
structure Ack where
  channel : String
  symbol : Option String
  key : Option String
  prec : Option String
  len : Option String
deriving DecidableEq

def Ack.ofSubscribed (s : Subscribed) : Ack := ⟨s.channel, s.symbol, s.key, s.prec, s.len⟩

/-- A refusal echoes no parameters of a book. -/
def Ack.ofRefusal? (r : Refusal) : Option Ack :=
  r.channel.map fun channel => ⟨channel, r.symbol, r.key, none, none⟩

namespace Feed

/-- Levels on each side of a book unless another number is asked for. -/
def standardLength : UInt32 := 25

def ofChannel (channel : Channel) : Feed := ⟨channel, none, none, .p0, .f0, standardLength⟩

def ticker (symbol : String) : Feed :=
  { ofChannel .ticker with symbol := some (Symbol.wire symbol) }

def trades (symbol : String) : Feed :=
  { ofChannel .trades with symbol := some (Symbol.wire symbol) }

def book (symbol : String) (precision : Precision) : Feed :=
  { ofChannel .book with symbol := some (Symbol.wire symbol), precision := precision }

/-- Candles of a key such as `trade:1m:tBTCUSD`. -/
def candles (key : String) : Feed := { ofChannel .candles with key := some key }

def account : Feed := ofChannel .account

def withFrequency (f : Feed) (frequency : Frequency) : Feed := { f with frequency := frequency }

def withLength (f : Feed) (length : UInt32) : Feed := { f with length := length }

def isPrivate (f : Feed) : Bool := f.channel.isPrivate

/-- What tells the feed from others of its channel. -/
def label (f : Feed) : String := (f.symbol.or f.key).getD f.channel.name

def text (f : Feed) : String := f.channel.name ++ ":" ++ f.label

/-- Symbols agree whatever their tag and case. -/
def symbolAgrees (f : Feed) (symbol : Option String) : Bool :=
  match f.symbol, symbol with
  | some a, some b => Symbol.normalize a == Symbol.normalize b
  | _, _ => false

/-- Parameters of a book agree where the echo has them; a length that is no number counts as none.
-/
def bookAgrees (f : Feed) (a : Ack) : Bool :=
  a.prec.all (· == f.precision.name) &&
    (a.len.bind fun s => Text.count? s.toList).all (· == f.length.toNat)

/-- Whether an answer with these fields belongs to the feed. -/
def agrees (f : Feed) (a : Ack) : Bool :=
  f.channel.name == a.channel &&
    match f.channel with
    | .candles => f.key.isSome && f.key == a.key
    | .book => f.symbolAgrees a.symbol && f.bookAgrees a
    | _ => f.symbolAgrees a.symbol

/-- The schema of the feed's rows, if it has one. -/
def schema? (f : Feed) : Option Schema := Schema.ofChannel? f.channel (f.symbol.getD "") f.precision

/-- The request that opens the feed. The account feed opens by authentication. -/
def request? (f : Feed) : Option SubscribeRequest :=
  let r := SubscribeRequest.ofChannel f.channel
  match f.channel with
  | .account => none
  | .candles => f.key.map fun key => { r with key := some key }
  | .book =>
    f.symbol.map fun s => { r with symbol := some s }.withBook f.precision f.frequency f.length
  | .ticker | .trades => f.symbol.map fun s => { r with symbol := some s }

end Feed
end MarketWire
