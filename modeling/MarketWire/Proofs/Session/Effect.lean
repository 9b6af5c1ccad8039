import MarketWire.Proofs.Registry.Passage
import MarketWire.Proofs.Session.Turn

/-!
# What an act does to the registry

An act performs operations on the registry, each of which it is permitted for a reason: a frame that
the loop reads, a row that it delivers, a subscriber that it finds gone, the end of the session, or
the owner's wish.
-/
namespace MarketWire

theorem Batch.isFinal_message (b : Batch) (policy : BatchPolicy) (row : List Json.Value) :
    (b.message policy row).1.isFinal = false := by
  unfold message
  split <;> rfl

namespace Registry

/-- Offers are never final, and farewells are. -/
def Op.Fitting : Op → Prop
  | .offer _ m => m.isFinal = false
  | .reject _ m | .drain m => m.isFinal = true
  | _ => True

theorem Op.Fitting.farewell {op : Op} (h : op.Fitting) {m : StreamMessage}
    (hm : op.farewell? = some m) : m.isFinal = true := by
  cases op with
  | bind a chanId => cases hm; rfl
  | bindAccount chanId => cases hm; rfl
  | reject a m => cases hm; exact h
  | drain m => cases hm; exact h
  | _ => cases hm

end Registry

namespace Session

open Registry (Op)

/-- Why an act may perform an operation on a registry that it has brought as far as `r`. -/
inductive Permits (s : Session) (r : Registry) : Act → Op → Prop where
  | register {feed : Feed} (hs : s.state ≠ .terminated)
      (hc : feed.isPrivate = true → s.signer.credentials.isSome = true) :
      Permits s r (.register feed) (.subscribe feed s.config.sinkCapacity s.config.overflow)
  | receive {id : Nat} : Permits s r (.receive id) (.receive id)
  | leave {id : Nat} : Permits s r (.leave id) (.detach id)
  | requesting {p : Purpose} (hp : s.phase = .requesting p) : Permits s r .step .takeUnsent
  | acknowledged {a : Subscribed} (hf : s.nextFrame? = some (.event (.subscribed a))) :
      Permits s r .step (.bind (.ofSubscribed a) a.chanId)
  | authenticated {p : Purpose} {d : Option Deadline} {a : AuthReply}
      (hp : s.phase = .listening (.handshake p d)) (hf : s.nextFrame? = some (.event (.auth a)))
      (ha : a.isOk = true) : Permits s r .step (.bindAccount (a.chanId.getD accountChanId))
  | joined {chanId : Int64} {cs : List Command} (hp : s.phase = .listening .serving)
      (hc : s.commands = .flush :: cs) (ha : s.accountChan = some chanId) :
      Permits s r .step (.bindAccount chanId)
  | refused {a : Refusal} {ack : Ack} (hf : s.nextFrame? = some (.event (.error a)))
      (ha : Ack.ofRefusal? a = some ack) : Permits s r .step (.reject ack (.rejected a.code a.msg))
  | unsubscribed {status : String} {chanId : Int64}
      (hf : s.nextFrame? = some (.event (.unsubscribed status chanId)))
      (ho : r.owner? chanId = s.registry.owner? chanId) : Permits s r .step (.close chanId)
  | released {b : Batch} {l : Listening} (hp : s.phase = .delivering b l)
      (hd : (r.sink? b.id).any (·.detached) = true)
      (ho : r.owner? b.chanId = s.registry.owner? b.chanId) : Permits s r .step (.close b.chanId)
  | offered {b : Batch} {l : Listening} {row : List Json.Value} {m : StreamMessage}
      (hp : s.phase = .delivering b l) (hm : (b.message s.config.batch row).1 = m) :
      Permits s r .step (.offer b.id m)
  | concluded {s' : Session} {result : Except ConnectionError Unit} (hs : s.step? = some s')
      (hp : s'.phase = .ended result) : Permits s r .step (.drain (.terminated (endingOf result)))

theorem Permits.fitting {s : Session} {r : Registry} {a : Act} {op : Op}
    (h : s.Permits r a op) : op.Fitting := by
  cases h with
  | offered hp hm => exact hm ▸ Batch.isFinal_message ..
  | refused hf ha => rfl
  | concluded hs hp => rfl
  | _ => trivial

/-- The registries that an act brings about. -/
inductive Performs (s : Session) (a : Act) : Registry → Prop where
  | start : Performs s a s.registry
  | perform {r : Registry} {op : Op} (h : Performs s a r) (hop : s.Permits r a op) :
      Performs s a (r.perform op)

theorem Performs.single {s : Session} {a : Act} {op : Op} (hop : s.Permits s.registry a op) :
    s.Performs a (s.registry.perform op) :=
  .perform .start hop

/-! ## Steps -/

theorem owner?_offering (s : Session) (id : Nat) (m : StreamMessage) (chanId : Int64) :
    (s.offering id m).registry.owner? chanId = s.registry.owner? chanId := by
  simp [offering, Registry.perform, Registry.owner?]

theorem detached_offering (s : Session) (id : Nat) (m : StreamMessage) (k : Nat) :
    ((s.offering id m).registry.sink? k).any (·.detached) =
      (s.registry.sink? k).any (·.detached) := by
  have hs := Registry.sink?_offer s.registry id m k
  simp only [offering, Registry.perform]
  rw [hs]
  split
  · rw [Option.any_map]
    exact congrArg (fun f => (s.registry.sink? k).any f)
      (funext fun k => (Sink.fields_offer k m).2.1)
  · rfl

/-- What a closing row does: it meets a closed sink, and its channel is closed. -/
theorem performs_release {s : Session} {b : Batch} {l : Listening} {row : List Json.Value}
    {m : StreamMessage} (hp : s.phase = .delivering b l)
    (hm : (b.message s.config.batch row).1 = m)
    (hd : (s.registry.sink? b.id).any (·.detached) = true) :
    s.Performs .step ((s.offering b.id m).closeChannel b.chanId).registry := by
  rw [closeChannel_eq]
  refine .perform (.single (.offered hp hm)) (.released hp ?_ (owner?_offering ..))
  rw [← hd]
  exact detached_offering s b.id m b.id

theorem performs_halt {s s₁ : Session} {result : Except ConnectionError Unit}
    (h : s.Halt s₁ result) : s.Performs .step s₁.registry := by
  cases h with
  | connecting hp hl => rw [setState_eq]; exact .start
  | signing hp ha => rw [setState_eq]; exact .start
  | authenticating hp ha hl => rw [setState_eq]; exact .start
  | releasing hp hm hd hl => exact performs_release hp hm hd
  | _ => exact .start

theorem performs_turn {s s' : Session} (hs : s.step? = some s') (h : s.Turn s') :
    s.Performs .step s'.registry := by
  cases h with
  | halt h =>
    rw [conclude_eq]
    exact .perform (performs_halt h) (.concluded hs (by rw [conclude_eq]))
  | connected hp hl => simp only [setState_eq]; exact .start
  | publicly hp hr => simp only [setState_eq]; exact .start
  | authenticating hp ha hl => simp only [setState_eq]; exact .start
  | opened hp => simp only [setState_eq]; exact .start
  | requesting hp => exact .single (.requesting hp)
  | joined hp hc hr ha =>
    simp only [bindAccount_eq]
    exact .single (.joined hp hc ha)
  | authenticated hp hf hr =>
    simp only [concludeHandshake, hr, if_true, setState_eq, bindAccount_eq, emit]
    exact .single (.authenticated hp hf hr)
  | acknowledged hp hf =>
    rw [acknowledge_eq]
    exact .single (.acknowledged hf)
  | unsubscribed hp hf =>
    rw [closeChannel_eq]
    exact .single (.unsubscribed hf rfl)
  | @refused l r hp hf =>
    rcases refuse_eq s.read r with ⟨a, p, ha, -, he⟩ | ⟨-, he⟩
    · rw [he]
      exact .single (.refused hf ha)
    · rw [he]
      exact .start
  | delivered hp hr hm ho => exact .single (.offered hp (by rw [hm]))
  | abandoned hp hm ho hd => exact .single (.offered hp hm)
  | released hp hm ho hd hc => exact performs_release hp hm hd
  | releasing hp hm ho hd hc hl => exact performs_release hp hm hd
  | _ => exact .start

/-! ## Acts -/

theorem performs_act (s : Session) (a : Act) : s.Performs a (s.act a).registry := by
  cases a with
  | step =>
    simp only [act]
    cases hs : s.step? with
    | none => exact .start
    | some s' => exact performs_turn hs (turn_of_step? hs)
  | start =>
    simp only [act, start]
    split
    · split <;> exact .start
    · exact .start
  | register feed =>
    simp only [act, register]
    split
    · exact .start
    · rename_i hpriv
      split
      · exact .start
      · rename_i hstate
        refine .single (.register hstate fun hp => ?_)
        rw [Option.isSome_iff_ne_none]
        intro hnone
        simp [hp, hnone] at hpriv
  | announce =>
    simp only [act]
    split <;> exact .start
  | unsubscribe chanId =>
    simp only [act, unsubscribe, command]
    split <;> exact .start
  | close =>
    simp only [act, close, command]
    split <;> exact .start
  | receive id => exact .single .receive
  | leave id => exact .single .leave
  | _ => exact .start

end Session
end MarketWire
