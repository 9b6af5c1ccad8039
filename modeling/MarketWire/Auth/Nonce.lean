import MarketWire.Text.Quoted

/-!
# Nonces

Each signed request spends a number that no other request of the key has spent. One source counts
up. Another follows a clock and stays ahead of itself where the clock does not advance: it reads its
last number, proposes the next, and tries again if somebody else was faster.
-/
namespace MarketWire

/-- Draws a nonce from a state. -/
abbrev NonceSource (σ : Type) := σ → UInt64 × σ

/-- Counts up and starts over at the end of 64 bits. -/
structure Counter where
  next : UInt64
deriving DecidableEq

namespace Counter

def draw : NonceSource Counter := fun c => (c.next, ⟨c.next + 1⟩)

def shown (c : Counter) : String :=
  Text.named "SequenceNonce" [("next", toString c.next.toNat)]

end Counter

/-- The number written last by a source that follows a clock, in microseconds. -/
structure Clock where
  last : UInt64
deriving DecidableEq

namespace Clock

/-- What a caller proposes that reads `now` and expects `expected` to be the last number. -/
def candidate (now expected : UInt64) : UInt64 := max now (expected + 1)

/-- A draw that nobody else interferes with. -/
def draw (now : UInt64) : NonceSource Clock := fun c =>
  let n := candidate now c.last
  (n, ⟨n⟩)

def drawAll : List UInt64 → Clock → List UInt64
  | [], _ => []
  | now :: rest, c => (draw now c).1 :: drawAll rest (draw now c).2

/-- Several callers of one source. Each expects some number while it draws, and `returned` holds the
nonces handed out, last one first. -/
structure Race where
  clock : Clock
  expected : Nat → Option UInt64
  returned : List UInt64

inductive Move where
  /-- A caller starts to draw and reads the last number. -/
  | start (caller : Nat)
  /-- A caller that draws reads the clock and tries to write its proposal, which may also fail for no
  reason. -/
  | attempt (caller : Nat) (now : UInt64) (fails : Bool)

namespace Race

def set (r : Race) (caller : Nat) (e : Option UInt64) : Nat → Option UInt64 :=
  fun c => if c = caller then e else r.expected c

def step (r : Race) : Move → Race
  | .start caller =>
    match r.expected caller with
    | some _ => r
    | none => { r with expected := r.set caller (some r.clock.last) }
  | .attempt caller now fails =>
    match r.expected caller with
    | none => r
    | some e =>
      if e = r.clock.last && !fails then
        { clock := ⟨candidate now e⟩
          expected := r.set caller none
          returned := candidate now e :: r.returned }
      else { r with expected := r.set caller (some r.clock.last) }

def start : Race := ⟨⟨0⟩, fun _ => none, []⟩

def run (r : Race) (ms : List Move) : Race := ms.foldl step r

end Race
end Clock

/-- Each number is above the one before it. -/
def strictlyIncreasing : List UInt64 → Bool
  | a :: b :: rest => a < b && strictlyIncreasing (b :: rest)
  | _ => true

end MarketWire
