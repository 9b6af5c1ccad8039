import Mathlib.Data.List.Induction
import MarketWire.Proofs.Session.Effect

/-!
# The order of a session

The registry of a session is in order, rows are delivered to the owner of their channel, and once
the session is over nobody waits and nobody comes any more. Every act keeps this, whoever makes it
and wherever the loop stands, so it holds at every point of every run.
-/
namespace MarketWire

def Phase.batch? : Phase → Option Batch
  | .delivering b _ => some b
  | _ => none

/-- How the session went, once it is over. -/
def Phase.result? : Phase → Option (Except ConnectionError Unit)
  | .ended result => some result
  | _ => none

theorem Phase.ended_of_isOk {p : Phase} (h : p.result?.any Except.isOk = true) :
    p = .ended (.ok ()) := by
  cases p with
  | ended result =>
    cases result with
    | ok u => rfl
    | error failure => cases h
  | _ => cases h

namespace Session

open Registry (Op)

/-! ## Acts and runs -/

theorem run_append (s : Session) (before after : List Act) :
    s.run (before ++ after) = (s.run before).run after := List.foldl_append

theorem run_concat (s : Session) (acts : List Act) (a : Act) :
    s.run (acts ++ [a]) = (s.run acts).act a := run_append s acts [a]

theorem run_induction {P : Session → Prop} {s : Session} (h : P s)
    (hact : ∀ s a, P s → P (s.act a)) (acts : List Act) : P (s.run acts) := by
  induction acts generalizing s with
  | nil => exact h
  | cons a acts ih => exact ih (hact s a h)

theorem act_step {s s' : Session} (h : s.step? = some s') : s.act .step = s' := by
  simp [act, h]

theorem act_step_of_none {s : Session} (h : s.step? = none) : s.act .step = s := by
  simp [act, h]

/-- A step leaves the session as it is, or is one of the turns. -/
theorem act_step_cases (s : Session) :
    s.act .step = s ∨ s.step? = some (s.act .step) ∧ s.Turn (s.act .step) := by
  cases hs : s.step? with
  | none => exact Or.inl (act_step_of_none hs)
  | some s' =>
    rw [act_step hs]
    exact Or.inr ⟨rfl, turn_of_step? hs⟩

theorem register_eq_ok {s s' : Session} {feed : Feed} {id : Nat}
    (h : s.register feed = .ok (id, s')) :
    s.state ≠ .terminated ∧ id = s.registry.nextId ∧ s' = { s with
      registry := s.registry.perform (.subscribe feed s.config.sinkCapacity s.config.overflow)
      unannounced := s.unannounced + 1 } := by
  unfold register at h
  split at h
  · cases h
  · split at h
    · cases h
    · cases h
      exact ⟨‹_›, rfl, rfl⟩

theorem act_of_register {s s' : Session} {feed : Feed} {id : Nat}
    (h : s.register feed = .ok (id, s')) : s.act (.register feed) = s' := by
  simp [act, h, Except.toOption]

/-- A registration is refused, or it enters a subscription under the next number. -/
theorem act_register (s : Session) (feed : Feed) :
    s.act (.register feed) = s ∨
      s.register feed = .ok (s.registry.nextId, s.act (.register feed)) := by
  cases h : s.register feed with
  | error e => exact Or.inl (by simp [act, h, Except.toOption])
  | ok q =>
    obtain ⟨id, s'⟩ := q
    refine Or.inr ?_
    rw [(register_eq_ok h).2.1]
    simp [act, h, Except.toOption]

/-- What a session is given at its start and keeps. -/
def givens (s : Session) : ConnectionConfig × Signer := (s.config, s.signer)

/-- The owner and the surroundings leave the loop in its place, unless they start it. -/
theorem fields_act (s : Session) {a : Act} (ha : a ≠ .step) :
    ((s.act a).phase = s.phase ∨ s.phase = .idle ∧ (s.act a).phase = .connecting) ∧
      (s.act a).state = s.state ∧ (s.act a).events = s.events ∧ (s.act a).givens = s.givens ∧
      (s.act a).sent = s.sent := by
  cases a with
  | step => exact absurd rfl ha
  | start =>
    simp only [act, start]
    split
    · split
      · exact ⟨Or.inl rfl, rfl, rfl, rfl, rfl⟩
      · exact ⟨Or.inr ⟨‹_›, rfl⟩, rfl, rfl, rfl, rfl⟩
    · exact ⟨Or.inl rfl, rfl, rfl, rfl, rfl⟩
  | register feed =>
    rcases s.act_register feed with he | he
    · rw [he]
      exact ⟨Or.inl rfl, rfl, rfl, rfl, rfl⟩
    · rw [(register_eq_ok he).2.2]
      exact ⟨Or.inl rfl, rfl, rfl, rfl, rfl⟩
  | announce =>
    simp only [act]
    split <;> exact ⟨Or.inl rfl, rfl, rfl, rfl, rfl⟩
  | unsubscribe chanId =>
    simp only [act, unsubscribe, command]
    split <;> exact ⟨Or.inl rfl, rfl, rfl, rfl, rfl⟩
  | close =>
    simp only [act, close, command]
    split <;> exact ⟨Or.inl rfl, rfl, rfl, rfl, rfl⟩
  | _ => exact ⟨Or.inl rfl, rfl, rfl, rfl, rfl⟩

/-- Without the loop, channels keep their owners, and subscriptions come only before the end. -/
theorem entries_act (s : Session) {a : Act} (ha : a ≠ .step) :
    (s.act a).registry.active = s.registry.active ∧
      (s.state = .terminated → (s.act a).registry.pending = s.registry.pending) := by
  cases a with
  | step => exact absurd rfl ha
  | start =>
    simp only [act, start]
    split
    · split <;> exact ⟨rfl, fun _ => rfl⟩
    · exact ⟨rfl, fun _ => rfl⟩
  | register feed =>
    rcases s.act_register feed with he | he
    · rw [he]
      exact ⟨rfl, fun _ => rfl⟩
    · obtain ⟨hs, -, he⟩ := register_eq_ok he
      rw [he]
      exact ⟨rfl, fun ht => absurd ht hs⟩
  | announce =>
    simp only [act]
    split <;> exact ⟨rfl, fun _ => rfl⟩
  | unsubscribe chanId =>
    simp only [act, unsubscribe, command]
    split <;> exact ⟨rfl, fun _ => rfl⟩
  | close =>
    simp only [act, close, command]
    split <;> exact ⟨rfl, fun _ => rfl⟩
  | receive id =>
    have he := Registry.entries_receive s.registry id
    exact ⟨he.2.1, fun _ => he.1⟩
  | _ => exact ⟨rfl, fun _ => rfl⟩

theorem givens_halt {s s₁ : Session} {result : Except ConnectionError Unit}
    (h : s.Halt s₁ result) : s₁.givens = s.givens := by
  cases h with
  | connecting => rw [setState_eq]; rfl
  | signing => rw [setState_eq]; rfl
  | authenticating => rw [setState_eq]; rfl
  | releasing =>
    rw [closeChannel_eq]
    rfl
  | _ => rfl

theorem givens_turn {s s' : Session} (h : s.Turn s') : s'.givens = s.givens := by
  cases h with
  | @halt s₁ result h =>
    have hc : (s₁.conclude result).givens = s₁.givens := by rw [conclude_eq]; rfl
    exact hc.trans (givens_halt h)
  | connected => rw [setState_eq]; rfl
  | publicly => rw [setState_eq]; rfl
  | authenticating => rw [setState_eq]; rfl
  | opened => rw [setState_eq]; rfl
  | joined => rw [bindAccount_eq]; rfl
  | authenticated hp hf hr =>
    simp only [concludeHandshake, hr, if_true, setState_eq, bindAccount_eq, emit]
    rfl
  | acknowledged => rw [acknowledge_eq]; rfl
  | unsubscribed => rw [closeChannel_eq]; rfl
  | @refused l r =>
    rcases refuse_eq s.read r with ⟨a, p, -, -, he⟩ | ⟨-, he⟩
    · rw [he]
      rfl
    · rw [he]
      rfl
  | routed => rfl
  | released => rw [closeChannel_eq]; rfl
  | releasing => rw [closeChannel_eq]; rfl
  | _ => rfl

theorem givens_act (s : Session) (a : Act) : (s.act a).givens = s.givens := by
  by_cases ha : a = .step
  · subst ha
    rcases s.act_step_cases with he | ⟨-, ht⟩
    · rw [he]
    · exact givens_turn ht
  · exact (s.fields_act ha).2.2.2.1

theorem givens_run (s : Session) (acts : List Act) : (s.run acts).givens = s.givens :=
  run_induction (P := fun s' => s'.givens = s.givens) rfl
    (fun s' a h => (s'.givens_act a).trans h) acts

theorem config_run (s : Session) (acts : List Act) : (s.run acts).config = s.config :=
  congrArg Prod.fst (s.givens_run acts)

/-! ## The invariant -/

structure Sound (s : Session) : Prop where
  registry : s.registry.Sound
  delivering : ∀ b l, s.phase = .delivering b l →
    ∃ a, s.registry.owner? b.chanId = some a ∧ a.id = b.id
  ended : ∀ result, s.phase = .ended result →
    s.state = .terminated ∧ s.registry.pending = [] ∧ s.registry.active = []

theorem sound_create (config : ConnectionConfig) (signer : Signer) (counter : Counter)
    (link : Link) : (create config signer counter link).Sound where
  registry := Registry.sound_empty
  delivering := nofun
  ended := nofun

/-- Whatever an act does to a registry in order leaves it in order. -/
theorem Performs.sound {s : Session} {a : Act} {r : Registry} (h : s.Performs a r)
    (hs : s.registry.Sound) : r.Sound := by
  induction h with
  | start => exact hs
  | perform h hop ih => exact ih.perform _

theorem batch?_eq_none {s : Session} {d : DataFrame} (h : s.batch? d = none) {a : Active}
    (ha : s.registry.owner? d.chanId = some a) :
    a.schema?.or (d.tag.bind Schema.ofAccountTag?) = none := by
  cases hschema : a.schema?.or (d.tag.bind Schema.ofAccountTag?) with
  | none => rfl
  | some schema => simp [batch?, ha, hschema] at h

theorem batch?_eq_some {s : Session} {d : DataFrame} {b : Batch} (h : s.batch? d = some b) :
    ∃ a schema, s.registry.owner? d.chanId = some a ∧
      a.schema?.or (d.tag.bind Schema.ofAccountTag?) = some schema ∧
      b = ⟨d.chanId, a.id, schema, UpdateKind.of d.tag d.payload, d.payload.rows⟩ := by
  unfold batch? at h
  simp only [Option.bind_eq_bind, Option.bind_eq_some_iff, Option.pure_def, Option.some.injEq] at h
  obtain ⟨a, ho, schema, hs, rfl⟩ := h
  exact ⟨a, schema, ho, hs, rfl⟩

/-- Rows come from a frame that has just been read, or are left of an earlier step. -/
inductive Delivers (s s' : Session) (b : Batch) (l : Listening) : Prop where
  | routed {d : DataFrame} (hf : s.nextFrame? = some (.data d)) (hb : s.batch? d = some b)
      (he : s' = s.read.deliverRows b l)
  | delivered {c : Batch} {m : StreamMessage} {rows : List (List Json.Value)}
      (hp : s.phase = .delivering c l) (hr : b = { c with rows := rows })
      (he : s' = (s.offering c.id m).deliverRows b l)

theorem deliverRows_phase (s : Session) (b : Batch) (l : Listening) :
    (s.deliverRows b l).phase = .delivering b l ∨ (s.deliverRows b l).phase = .listening l := by
  simp only [deliverRows]
  split
  · exact Or.inr rfl
  · exact Or.inl rfl

/-- A turn concludes the session, leads to the delivery of rows, or does neither. -/
theorem phase_of_turn {s s' : Session} (h : s.Turn s') :
    (∃ s₁ result, s.Halt s₁ result ∧ s' = s₁.conclude result) ∨
      (∃ b l, s'.phase = .delivering b l ∧ s.Delivers s' b l) ∨
      s'.phase.batch? = none ∧ s'.phase.result? = none := by
  have hlist : ∀ {s' : Session} {l : Listening}, s'.phase = .listening l →
      s'.phase.batch? = none ∧ s'.phase.result? = none := by
    intro s' l hl
    rw [hl]
    exact ⟨rfl, rfl⟩
  cases h with
  | @halt s₁ result h => exact Or.inl ⟨s₁, result, h, rfl⟩
  | @routed l d b hp hf hh hb =>
    rcases s.read.deliverRows_phase b l with he | he
    · exact Or.inr (Or.inl ⟨b, l, he, .routed hf hb rfl⟩)
    · exact Or.inr (Or.inr (hlist he))
  | @delivered c l row rows m goesOn hp hr hm ho =>
    rcases (s.offering c.id m).deliverRows_phase { c with rows := if goesOn then rows else [] } l
      with he | he
    · exact Or.inr (Or.inl ⟨_, l, he, .delivered hp rfl rfl⟩)
    · exact Or.inr (Or.inr (hlist he))
  | noise hp hf => exact Or.inr (Or.inr (hlist hp))
  | informed hp hf => exact Or.inr (Or.inr (hlist hp))
  | ignored hp hf hc ha => exact Or.inr (Or.inr (hlist hp))
  | unrouted hp hf hb => exact Or.inr (Or.inr (hlist hp))
  | acknowledged hp hf =>
    rw [acknowledge_eq]
    exact Or.inr (Or.inr (hlist hp))
  | unsubscribed hp hf =>
    rw [closeChannel_eq]
    exact Or.inr (Or.inr (hlist hp))
  | @refused l r hp hf =>
    rcases refuse_eq s.read r with ⟨a, p, -, -, he⟩ | ⟨-, he⟩
    · rw [he]
      exact Or.inr (Or.inr (hlist hp))
    · rw [he]
      exact Or.inr (Or.inr (hlist hp))
  | authenticated hp hf hr =>
    simp only [concludeHandshake, hr, if_true]
    exact Or.inr (Or.inr ⟨rfl, rfl⟩)
  | _ => exact Or.inr (Or.inr ⟨rfl, rfl⟩)

theorem delivers_of_turn {s s' : Session} (h : s.Turn s') {b : Batch} {l : Listening}
    (hp : s'.phase = .delivering b l) : s.Delivers s' b l := by
  rcases phase_of_turn h with ⟨s₁, result, -, rfl⟩ | ⟨b', l', hp', hd⟩ | ⟨hno, -⟩
  · rw [conclude_eq] at hp
    cases hp
  · rw [hp'] at hp
    cases hp
    exact hd
  · rw [hp] at hno
    cases hno

/-- A step ends the session by concluding it. -/
theorem halt_of_turn {s s' : Session} (h : s.Turn s') {result : Except ConnectionError Unit}
    (hp : s'.phase = .ended result) : ∃ s₁, s.Halt s₁ result ∧ s' = s₁.conclude result := by
  rcases phase_of_turn h with ⟨s₁, result', hh, rfl⟩ | ⟨b, l, hp', -⟩ | ⟨-, hno⟩
  · rw [conclude_eq] at hp
    cases hp
    exact ⟨s₁, hh, rfl⟩
  · cases hp'.symm.trans hp
  · rw [hp] at hno
    cases hno

namespace Sound

variable {s : Session}

theorem turn (h : s.Sound) {s' : Session} (hs : s.step? = some s') (ht : s.Turn s') :
    s'.Sound where
  registry := (performs_turn hs ht).sound h.registry
  delivering := by
    intro b l hp
    rcases delivers_of_turn ht hp with ⟨-, hb, rfl⟩ | @⟨c, m, rows, hc, rfl, rfl⟩
    · obtain ⟨a, schema, ho, -, rfl⟩ := batch?_eq_some hb
      exact ⟨a, ho, rfl⟩
    · obtain ⟨a, ho, hid⟩ := h.delivering c l hc
      exact ⟨a, (owner?_offering s c.id m c.chanId).trans ho, hid⟩
  ended := by
    intro result hp
    obtain ⟨s₁, -, rfl⟩ := halt_of_turn ht hp
    rw [conclude_eq]
    simp [Registry.perform, Registry.drain]

theorem act (h : s.Sound) (a : Act) : (s.act a).Sound := by
  by_cases ha : a = .step
  · subst ha
    rcases s.act_step_cases with he | ⟨hs, ht⟩
    · rw [he]
      exact h
    · exact h.turn hs ht
  · obtain ⟨hphase, hstate, -⟩ := s.fields_act ha
    obtain ⟨hactive, hpending⟩ := s.entries_act ha
    constructor
    · exact (performs_act s a).sound h.registry
    · intro b l hp
      rcases hphase with he | ⟨-, he⟩
      · obtain ⟨o, ho, hid⟩ := h.delivering b l (he.symm.trans hp)
        refine ⟨o, ?_, hid⟩
        unfold Registry.owner? at ho ⊢
        rw [hactive]
        exact ho
      · cases he.symm.trans hp
    · intro result hp
      rcases hphase with he | ⟨-, he⟩
      · obtain ⟨hs, hp', ha'⟩ := h.ended result (he.symm.trans hp)
        exact ⟨hstate.trans hs, (hpending hs).trans hp', hactive.trans ha'⟩
      · cases he.symm.trans hp

theorem run (h : s.Sound) (acts : List Act) : (s.run acts).Sound :=
  run_induction h (fun _ a hs => hs.act a) acts

end Sound
end Session
end MarketWire
