import MarketWire.Stream.Mailbox

/-!
# Subscribers

A subscriber holds one end of a mailbox. It takes messages one by one, or turns the end into a
sequence, which it can only follow; a sequence lets the mailbox go when it ends.
-/
namespace MarketWire

inductive Holding where
  | messages
  | sequence
  | nothing
deriving DecidableEq

structure Subscriber (α : Type) where
  mailbox : Mailbox α
  holding : Holding

namespace Subscriber

def create (capacity : Nat) (overflow : Overflow) : Subscriber α :=
  ⟨.create capacity overflow, .messages⟩

/-- Lets go of whatever is held. -/
def leave (s : Subscriber α) : Subscriber α :=
  match s.holding with
  | .nothing => s
  | _ => ⟨s.mailbox.leave, .nothing⟩

/-- Asks for a message and gives up if there is none; `none` without anything to ask. -/
def receive (s : Subscriber α) : Option (Receipt α) × Subscriber α :=
  match s.holding with
  | .nothing => (none, s)
  | .messages => (some s.mailbox.receive.1, { s with mailbox := s.mailbox.receive.2 })
  | .sequence =>
    match s.mailbox.receive with
    | (.ended, b) => (some .ended, { s with mailbox := b }.leave)
    | (r, b) => (some r, { s with mailbox := b })

/-- Takes a message that is there; `none` if messages cannot be taken one by one. -/
def tryReceive (s : Subscriber α) : Option (Option α) × Subscriber α :=
  match s.holding with
  | .messages => (some s.mailbox.tryReceive.1, { s with mailbox := s.mailbox.tryReceive.2 })
  | _ => (none, s)

/-- Turns the messages into a sequence; `none` if they cannot be taken one by one any more. -/
def toSequence? (s : Subscriber α) : Option (Subscriber α) :=
  match s.holding with
  | .messages => some { s with holding := .sequence }
  | _ => none

end Subscriber
end MarketWire
