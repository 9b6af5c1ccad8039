import MarketWire.Stream.Session.Loop

/-!
# Runs of a session

A run is any sequence of acts: steps of the loop, acts of the owner, and what the surroundings do. A
subscription is registered in one act and announced to the loop in another, and the loop may act in
between. A session comes to rest when the loop has no step left until somebody else acts.
-/
namespace MarketWire
namespace Session

inductive Act where
  /-- The loop's next step. -/
  | step
  | start
  | register (feed : Feed)
  | announce
  | unsubscribe (chanId : Int64)
  | close
  | receive (id : Nat)
  | leave (id : Nat)
  | push (i : Inbound)
  /-- Sends fail from now on, or no longer. -/
  | obstruct (e : Option LinkError)
  | advance (t : Span)

/-- What an act makes of a session; one that is refused or impossible changes nothing. -/
def act (s : Session) : Act → Session
  | .step => s.step?.getD s
  | .start => s.start.toOption.getD s
  | .register feed => (s.register feed).toOption.elim s (·.2)
  | .announce => if s.unannounced = 0 then s else s.announce
  | .unsubscribe chanId => (s.unsubscribe chanId).toOption.getD s
  | .close => s.close.toOption.getD s
  | .receive id => (s.receive id).2
  | .leave id => s.leave id
  | .push i => s.push i
  | .obstruct e => { s with link := { s.link with sendFault := e } }
  | .advance t => s.advance t

def run (s : Session) (acts : List Act) : Session := acts.foldl act s

/-- Whether the loop has to wait for somebody else. -/
def isAtRest (s : Session) : Bool := s.step?.isNone

/-- Makes as many steps of the loop, or fewer if it comes to rest. -/
def stepFor : Nat → Session → Session
  | 0, s => s
  | n + 1, s =>
    match s.step? with
    | none => s
    | some s => stepFor n s

/-- The steps that frames may take: a frame has no more rows than characters. -/
def inboundSteps : List Inbound → Nat
  | [] => 0
  | .text t :: is => t.length + 2 + inboundSteps is
  | _ :: is => 1 + inboundSteps is

def phaseSteps : Phase → Nat
  | .delivering b _ => b.rows.length
  | .sending _ feeds => feeds.length
  | _ => 0

/-- As many steps as it can take to come to rest. -/
def stepsToRest (s : Session) : Nat :=
  phaseSteps s.phase + inboundSteps s.link.inbox +
    (s.commands.length + 1) * (s.registry.pending.length + 8) + 16

/-- Makes steps of the loop until it comes to rest. -/
def settle (s : Session) : Session := stepFor s.stepsToRest s

end Session
end MarketWire
