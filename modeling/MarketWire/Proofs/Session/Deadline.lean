import MarketWire.Proofs.Session.Inbox
import MarketWire.Proofs.Session.Release

/-!
# The deadline of an authentication

When its request is sent, an authentication is given an instant at which patience ends, and nothing
that comes before the answer moves it. What comes is handled as it would be while streaming, until
something decides: the answer, the end of the link, or that instant.
-/
namespace MarketWire

/-- Where the loop would be if it streamed already. -/
def Phase.streaming : Phase → Phase
  | .listening _ => .listening .serving
  | .delivering b _ => .delivering b .serving
  | p => p

theorem Phase.ended_of_result? {p : Phase} {result : Except ConnectionError Unit}
    (h : p.result? = some result) : p = .ended result := by
  cases p with
  | ended r =>
    cases h
    rfl
  | _ => cases h

theorem Phase.of_listening? {p : Phase} {l : Listening} (h : p.listening? = some l) :
    p = .listening l ∨ ∃ b, p = .delivering b l := by
  cases p with
  | listening k =>
    cases h
    exact .inl rfl
  | delivering b k =>
    cases h
    exact .inr ⟨b, rfl⟩
  | _ => cases h

/-- Where the loop goes when it hears this as the answer that it awaits; most things are none. -/
def Inbound.verdict? (p : Purpose) : Inbound → Option Phase
  | .fault e => some (.ended (.error (.link e)))
  | .close => some (.ended (.error (.link .connectionClosed)))
  | .text t =>
    match Frame.parse t with
    | .ok (.event (.auth r)) => some <|
      if r.isOk then .requesting p
      else .ended (.error (.auth (.rejected r.code (r.msg.getD r.status))))
    | _ => none

theorem Link.receive_cases {link : Link} (hc : link.connected = true) :
    (∃ i is, link.inbox = i :: is ∧ link.receive = (some i, { link with inbox := is })) ∨
      link.inbox = [] ∧
        (link.receive.1 = none ∨ link.receive.1 = some (.fault .connectionClosed)) := by
  cases hi : link.inbox with
  | cons i is => exact .inl ⟨i, is, rfl, by simp [receive, hc, hi]⟩
  | nil =>
    refine .inr ⟨rfl, ?_⟩
    cases hh : link.heldOpen <;> simp [receive, hc, hi, hh]

namespace Session

variable {s s' : Session} {p : Purpose} {deadline : Option Deadline} {l : Listening} {i : Inbound}

/-- The session as it would be if it streamed already and nothing were asked of its loop. -/
def streaming (s : Session) : Session :=
  { s with phase := s.phase.streaming, state := .streaming, commands := [] }

/-! ## Frames before the answer -/

/-- A frame has been handled as it would be while streaming, and the loop has stayed in its
place. -/
structure Handled (s s' t : Session) (l : Listening) : Prop where
  phase : s'.phase.listening? = some l
  link : s'.link = s.link
  now : s'.now = s.now
  streaming : t = s'.streaming

theorem handled_control (hp : s.phase = .listening l) (c : Control) :
    s.Handled (s.handleControl c) (s.streaming.handleControl c) l := by
  have hl := listening?_reading hp
  cases c with
  | info i => exact ⟨hl, rfl, rfl, rfl⟩
  | subscribed a =>
    simp only [handleControl, acknowledge_eq]
    exact ⟨hl, rfl, rfl, rfl⟩
  | unsubscribed status chanId =>
    simp only [handleControl, closeChannel_eq]
    exact ⟨hl, rfl, rfl, rfl⟩
  | error r =>
    have hregistry : s.streaming.registry = s.registry := rfl
    simp only [handleControl, refuse, hregistry]
    split <;> exact ⟨hl, rfl, rfl, rfl⟩
  | _ => exact ⟨hl, rfl, rfl, rfl⟩

theorem deliverRows_streaming (s : Session) (b : Batch) (l : Listening) :
    s.streaming.deliverRows b .serving = (s.deliverRows b l).streaming := by
  simp only [deliverRows, streaming]
  split <;> rfl

theorem handled_data (hp : s.phase = .listening l) (d : DataFrame) :
    s.Handled (s.handleData d l) (s.streaming.handleData d .serving) l := by
  have hl := listening?_reading hp
  have hb : s.streaming.batch? d = s.batch? d := rfl
  unfold handleData
  rw [hb]
  split
  · exact ⟨hl, rfl, rfl, rfl⟩
  · cases s.batch? d with
    | none => exact ⟨hl, rfl, rfl, rfl⟩
    | some b => exact ⟨listening?_deliverRows s b l, rfl, rfl, s.deliverRows_streaming b l⟩

/-- What decides nothing is handled as it would be while streaming. -/
theorem handled_inbound (hp : s.phase = .listening (.handshake p deadline))
    (hi : i.verdict? p = none) :
    s.Handled (s.handleInbound (.handshake p deadline) i) (s.streaming.handleInbound .serving i)
      (.handshake p deadline) := by
  cases i with
  | fault e => cases hi
  | close => cases hi
  | text t =>
    simp only [handleInbound]
    simp only [Inbound.verdict?] at hi
    cases hf : Frame.parse t with
    | error e => exact ⟨listening?_reading hp, rfl, rfl, rfl⟩
    | ok f =>
      cases f with
      | data d => exact handled_data hp d
      | event c =>
        have hcontrol := handled_control hp c
        cases c with
        | auth r => simp [hf] at hi
        | _ => exact hcontrol

theorem phase_handleInbound {next : Phase} (hi : i.verdict? p = some next) :
    (s.handleInbound (.handshake p deadline) i).phase = next := by
  have hfail (e : ConnectionError) : (s.fail e).phase = .ended (.error e) := (s.fields_fail e).1
  cases i with
  | fault e =>
    cases hi
    exact hfail _
  | close =>
    cases hi
    exact hfail _
  | text t =>
    simp only [Inbound.verdict?] at hi
    split at hi
    case h_1 r hf =>
      cases hi
      simp only [handleInbound, hf, handleFrame]
      cases hr : r.isOk with
      | true =>
        rw [concludeHandshake_eq hr]
        rfl
      | false =>
        simp only [concludeHandshake, hr, Bool.false_eq_true, if_false]
        exact hfail _
    case h_2 => cases hi

/-! ## Rows before the answer -/

theorem release_streaming {chanId : Int64} (h : (s.release chanId l).phase.listening? = some l) :
    s.streaming.release chanId .serving = (s.release chanId l).streaming := by
  have hregistry : s.streaming.registry = s.registry := rfl
  have haccount : s.streaming.accountChan = s.accountChan := rfl
  rw [release_eq] at h ⊢
  rw [release_eq, hregistry, haccount]
  simp only [closeChannel_eq] at h ⊢
  by_cases hc : s.registry.owner? chanId = none ∨ some chanId = s.accountChan
  · simp only [if_pos hc]
    rfl
  · simp only [if_neg hc, send] at h ⊢
    have hlink : s.streaming.link = s.link := rfl
    rw [hlink]
    cases hl : s.link.send with
    | ok _ => rfl
    | error e =>
      simp only [hl] at h
      rw [(fields_fail _ _).1] at h
      cases h

/-- A row is delivered as it would be while streaming, unless its delivery ends the session. -/
theorem deliver?_streaming {b : Batch}
    (h : ∀ s', s.deliver? b l = some s' → s'.phase.listening? = some l) :
    s.streaming.deliver? b .serving = (s.deliver? b l).map streaming := by
  have hconfig : s.streaming.config = s.config := rfl
  have hregistry : s.streaming.registry = s.registry := rfl
  unfold deliver? at h ⊢
  rw [hconfig, hregistry]
  cases hr : b.rows with
  | nil => rfl
  | cons row rows =>
    simp only [hr] at h ⊢
    rcases ho : s.registry.offer b.id (b.message s.config.batch row).1 with ⟨_ | d, registry⟩
    · rfl
    · cases d with
      | closed =>
        simp only [ho] at h ⊢
        split
        · rename_i hd
          simp only [if_pos hd] at h
          exact congrArg some (release_streaming (s := { s with registry := registry }) (h _ rfl))
        · rfl
      | _ => exact congrArg some (deliverRows_streaming { s with registry := registry } _ l)

/-! ## Steps before the answer -/

/-- How the loop's next step ends a handshake, and where it goes from there. -/
inductive Verdict (s : Session) (p : Purpose) (deadline : Option Deadline) : Phase → Prop where
  /-- The answer is there, or the link has come to its end. -/
  | heard {i : Inbound} {next : Phase} (hp : s.phase = .listening (.handshake p deadline))
      (hl : s.link.receive.1 = some i) (hi : i.verdict? p = some next) : Verdict s p deadline next
  | overdue {x : Deadline} (hp : s.phase = .listening (.handshake p deadline))
      (hl : s.link.receive.1 = none) (hx : x ∈ deadline) (ht : s.now = x.instant) :
      Verdict s p deadline (.ended (.error (.authTimeout x.limit)))
  /-- The link does not take the request that releases the channel of a subscriber who has left. -/
  | broken {b : Batch} {e : LinkError} (hp : s.phase = .delivering b (.handshake p deadline))
      (hleft : s.registry.Left b.id) (hc : some b.chanId ≠ s.accountChan)
      (hl : s.link.send = .error e) : Verdict s p deadline (.ended (.error (.link e)))

/-- The loop's next step decides nothing, does what it would do while streaming, and takes from the
inbox no more than the item that it handles. -/
structure Undecided (s : Session) (p : Purpose) (deadline : Option Deadline) : Prop where
  phase : (s.act .step).phase.listening? = some (.handshake p deadline)
  streaming : (s.act .step).streaming = s.streaming.act .step
  now : (s.act .step).now = s.now
  link : (s.act .step).link = s.link ∨ ∃ i is, s.link.inbox = i :: is ∧ i.verdict? p = none ∧
    (s.act .step).link = { s.link with inbox := is }

theorem step?_of_receive (hp : s.phase = .listening l) (hc : l = .serving → s.commands = [])
    (hl : s.link.receive.1 = some i) : s.step? = some (s.read.handleInbound l i) := by
  rcases hr : s.link.receive with ⟨j, link⟩
  rw [hr] at hl
  cases hl
  simp only [step?, hp, listen?_idle hc, readFrame?, read, hr]

theorem step?_of_waiting (hp : s.phase = .listening l) (hc : l = .serving → s.commands = [])
    (hl : s.link.receive.1 = none) :
    s.step? = (s.overdue? l).map fun limit => s.fail (.authTimeout limit) := by
  rcases hr : s.link.receive with ⟨j, link⟩
  rw [hr] at hl
  cases hl
  simp only [step?, hp, listen?_idle hc, readFrame?, hr]

theorem overdue?_handshake (s : Session) (p : Purpose) (deadline : Option Deadline) :
    s.overdue? (.handshake p deadline) = none ↔ ∀ x ∈ deadline, s.now < x.instant := by
  cases deadline with
  | none => simp [overdue?]
  | some x => simp [overdue?]

theorem Verdict.act {next : Phase} (h : s.Verdict p deadline next) (hs : s.Sound)
    (he : s.registry.Emptied) (hr : s.HasRows) : (s.act .step).phase = next := by
  cases h with
  | heard hp hl hi =>
    rw [act_step (step?_of_receive hp nofun hl)]
    exact phase_handleInbound hi
  | @overdue x hp hl hx ht =>
    have hover : s.overdue? (.handshake p deadline) = some x.limit := by
      cases hx
      simp [overdue?, ht]
    have hstep := step?_of_waiting hp nofun hl
    rw [hover] at hstep
    rw [act_step hstep]
    exact (s.fields_fail _).1
  | broken hp hleft hc hl =>
    exact ((released_of_left hs he hp (hr _ _ hp) hleft).failed _ hc hl).2

theorem undecided_listening (hc : s.link.connected = true)
    (hp : s.phase = .listening (.handshake p deadline)) (ht : ∀ x ∈ deadline, s.now ≤ x.instant)
    (h : ∀ next, ¬s.Verdict p deadline next) : s.Undecided p deadline := by
  have hp' : s.streaming.phase = .listening .serving := by
    rw [streaming, hp]
    rfl
  cases hl : s.link.receive.1 with
  | none =>
    have hover : s.overdue? (.handshake p deadline) = none := by
      refine (s.overdue?_handshake p deadline).mpr fun x hx => ?_
      exact lt_of_le_of_ne (ht x hx) fun heq => h _ (.overdue hp hl hx heq)
    have hact : s.act .step = s :=
      act_step_of_none (by rw [step?_of_waiting hp nofun hl, hover]; rfl)
    have hact' : s.streaming.act .step = s.streaming :=
      act_step_of_none (by rw [step?_of_waiting hp' (fun _ => rfl) hl]; rfl)
    constructor <;> rw [hact]
    · exact listening?_reading hp
    · exact hact'.symm
    · exact .inl rfl
  | some i =>
    have hi : i.verdict? p = none :=
      Option.eq_none_iff_forall_ne_some.mpr fun next hi => h next (.heard hp hl hi)
    have hread : s.read.phase = .listening (.handshake p deadline) := hp
    have hh := handled_inbound hread hi
    have hact := act_step (step?_of_receive hp nofun hl)
    have hact' : s.streaming.act .step = s.read.streaming.handleInbound .serving i :=
      act_step (step?_of_receive hp' (fun _ => rfl) hl)
    constructor <;> rw [hact]
    · exact hh.phase
    · exact hh.streaming.symm.trans hact'.symm
    · exact hh.now
    · rw [hh.link]
      rcases Link.receive_cases hc with ⟨j, is, hbox, hr⟩ | ⟨-, hr | hr⟩
      · rw [hr] at hl
        cases hl
        exact .inr ⟨i, is, hbox, hi, by rw [read, hr]⟩
      · rw [hr] at hl
        cases hl
      · rw [hr] at hl
        cases hl
        cases hi

theorem undecided_delivering {b : Batch} (hs : s.Sound) (hr : s.HasRows)
    (hp : s.phase = .delivering b (.handshake p deadline))
    (h : ∀ next, ¬s.Verdict p deadline next) : s.Undecided p deadline := by
  have hstays : (s.act .step).phase.listening? = some (.handshake p deadline) ∧
      (s.act .step).now = s.now ∧ (s.act .step).link = s.link := by
    rcases left_or_attached hs hp with hleft | hatt
    · obtain ⟨m, ⟨-, he⟩ | ⟨-, -, he⟩ | ⟨hc, e, hl, -⟩⟩ :=
        act_of_left_cases hs hp (hr b _ hp) hleft
      · rw [he]
        exact ⟨rfl, rfl, rfl⟩
      · rw [he]
        exact ⟨rfl, rfl, rfl⟩
      · exact absurd (.broken hp hleft hc hl) (h _)
    · rcases act_of_attached hs hp (hr b _ hp) hatt with he | ⟨m, rows, -, he⟩
      · rw [he]
        exact ⟨listening?_delivering hp, rfl, rfl⟩
      · rw [he]
        exact ⟨listening?_deliverRows .., rfl, rfl⟩
  have hstep : s.step? = s.deliver? b (.handshake p deadline) := by simp only [step?, hp]
  have hstep' : s.streaming.step? = s.streaming.deliver? b .serving := by
    have hp' : s.streaming.phase = .delivering b .serving := by
      rw [streaming, hp]
      rfl
    simp only [step?, hp']
  have hstreams := deliver?_streaming fun s' hd => by
    rw [← act_step (hstep.trans hd)]
    exact hstays.1
  refine ⟨hstays.1, ?_, hstays.2.1, .inl hstays.2.2⟩
  simp only [act, hstep, hstep', hstreams]
  cases s.deliver? b (.handshake p deadline) <;> rfl

/-- What the loop does next while the answer is awaited. -/
structure Attends (s : Session) (p : Purpose) (deadline : Option Deadline) : Prop where
  /-- It waits for the link only if everything has been read, and not at the deadline. -/
  waits : s.phase = .listening (.handshake p deadline) → s.step? = none →
    s.link.inbox = [] ∧ ∀ x ∈ deadline, s.now < x.instant
  decides : ∀ next, s.Verdict p deadline next → (s.act .step).phase = next
  goesOn : (∀ next, ¬s.Verdict p deadline next) → s.Undecided p deadline

theorem waiting_of_step?_eq_none (hp : s.phase = .listening (.handshake p deadline))
    (h : s.step? = none) :
    s.link.receive.1 = none ∧ ∀ x ∈ deadline, s.now < x.instant := by
  cases hl : s.link.receive.1 with
  | some i =>
    rw [step?_of_receive hp nofun hl] at h
    cases h
  | none =>
    rw [step?_of_waiting hp nofun hl, Option.map_eq_none_iff] at h
    exact ⟨rfl, (s.overdue?_handshake p deadline).mp h⟩

theorem attends (hs : s.Sound) (he : s.registry.Emptied) (hr : s.HasRows)
    (hp : s.phase.listening? = some (.handshake p deadline)) (hc : s.link.connected = true)
    (ht : ∀ x ∈ deadline, s.now ≤ x.instant) : s.Attends p deadline where
  waits hp h := by
    obtain ⟨hl, hbefore⟩ := waiting_of_step?_eq_none hp h
    refine ⟨?_, hbefore⟩
    rcases Link.receive_cases hc with ⟨i, is, -, hi⟩ | ⟨hnil, -⟩
    · rw [hi] at hl
      cases hl
    · exact hnil
  decides next h := h.act hs he hr
  goesOn h := by
    rcases Phase.of_listening? hp with hp | ⟨b, hp⟩
    · exact undecided_listening hc hp ht h
    · exact undecided_delivering hs hr hp h

/-! ## Runs before the answer -/

namespace Act

def arrival? : Act → Option Inbound
  | .push i => some i
  | _ => none

/-- The time that passes. -/
def lapse : Act → Nat
  | .advance t => t.millis
  | _ => 0

end Act

/-- The loop is not late: time passes only as long as it has nothing to do, and no row waits for
room. -/
def isPrompt (s : Session) : Act → Bool
  | .advance t =>
    s.phase.batch?.isNone && (List.range t.millis).all fun n => (s.advance ⟨n⟩).isAtRest
  | _ => true

/-- The loop is never late in a run. -/
def runsPromptly (s : Session) : List Act → Bool
  | [] => true
  | a :: acts => s.isPrompt a && (s.act a).runsPromptly acts

theorem runsPromptly_concat (s : Session) (acts : List Act) (a : Act) :
    s.runsPromptly (acts ++ [a]) = (s.runsPromptly acts && (s.run acts).isPrompt a) := by
  induction acts generalizing s with
  | nil => simp [runsPromptly, run]
  | cons c acts ih => simp [runsPromptly, ih, run, Bool.and_assoc]

/-- Without the loop, things arrive and time passes. -/
theorem surroundings_act (s : Session) {a : Act} (ha : a ≠ .step) :
    (s.act a).link.connected = s.link.connected ∧
      (s.act a).link.inbox = s.link.inbox ++ a.arrival?.toList ∧
      (s.act a).now = s.now + a.lapse := by
  have hnone {is : List Inbound} : is = is ++ [] := (List.append_nil is).symm
  cases a with
  | step => exact absurd rfl ha
  | push i => exact ⟨rfl, rfl, rfl⟩
  | advance t => exact ⟨rfl, hnone, rfl⟩
  | start =>
    simp only [act, start]
    split
    · split <;> exact ⟨rfl, hnone, rfl⟩
    · exact ⟨rfl, hnone, rfl⟩
  | register feed =>
    rcases s.act_register feed with he | he
    · rw [he]
      exact ⟨rfl, hnone, rfl⟩
    · rw [(register_eq_ok he).2.2]
      exact ⟨rfl, hnone, rfl⟩
  | announce =>
    simp only [act]
    split <;> exact ⟨rfl, hnone, rfl⟩
  | unsubscribe chanId =>
    simp only [act, unsubscribe, command]
    split <;> exact ⟨rfl, hnone, rfl⟩
  | close =>
    simp only [act, close, command]
    split <;> exact ⟨rfl, hnone, rfl⟩
  | _ => exact ⟨rfl, hnone, rfl⟩

/-- A run has brought no answer: the deadline is what it was, it has not passed, and whatever has
been read decides nothing. -/
structure Awaiting (s : Session) (p : Purpose) (deadline : Option Deadline) (acts : List Act) :
    Prop where
  phase : (s.run acts).phase.listening? = some (.handshake p deadline)
  connected : (s.run acts).link.connected = true
  early : ∀ x ∈ deadline, (s.run acts).now ≤ x.instant
  heard : ∃ heard, s.link.inbox ++ acts.filterMap Act.arrival? = heard ++ (s.run acts).link.inbox ∧
    ∀ i ∈ heard, i.verdict? p = none

/-- Some step of a run ended the handshake, and nothing had ended it before. -/
def Decided (s : Session) (p : Purpose) (deadline : Option Deadline) (acts : List Act) : Prop :=
  ∃ during after next, acts = during ++ .step :: after ∧ s.Awaiting p deadline during ∧
    (s.run during).Verdict p deadline next ∧ ((s.run during).act .step).phase = next

theorem Decided.concat {acts : List Act} (h : s.Decided p deadline acts) (a : Act) :
    s.Decided p deadline (acts ++ [a]) := by
  obtain ⟨during, after, next, rfl, h⟩ := h
  exact ⟨during, after ++ [a], next, by simp, h⟩

/-- The deadline is not passed by, since the loop has something to do when it comes. -/
theorem early_of_isPrompt (hp : s.phase.listening? = some (.handshake p deadline)) {a : Act}
    (ha : s.isPrompt a = true) {x : Deadline} (hx : x ∈ deadline) (ht : s.now ≤ x.instant) :
    s.now + a.lapse ≤ x.instant := by
  cases a with
  | advance t =>
    simp only [isPrompt, Bool.and_eq_true, Option.isNone_iff_eq_none, List.all_eq_true,
      List.mem_range] at ha
    obtain ⟨hb, hrest⟩ := ha
    have hp : s.phase = .listening (.handshake p deadline) := by
      rcases Phase.of_listening? hp with hp | ⟨b, hp⟩
      · exact hp
      · rw [hp] at hb
        cases hb
    cases hn : t.millis with
    | zero => simpa [Act.lapse, hn] using ht
    | succ n =>
      -- the loop has nothing to do at the last instant that passes, so that is before the deadline
      have hstep : (s.advance ⟨n⟩).step? = none :=
        Option.isNone_iff_eq_none.mp (hrest n (by omega))
      have hbefore : s.now + n < x.instant :=
        (waiting_of_step?_eq_none (s := s.advance ⟨n⟩) hp hstep).2 x hx
      simp only [Act.lapse, hn]
      omega
  | _ => exact ht

theorem Awaiting.surroundings {acts : List Act} (h : s.Awaiting p deadline acts) {a : Act}
    (ha : a ≠ .step) (hprompt : (s.run acts).isPrompt a = true) :
    s.Awaiting p deadline (acts ++ [a]) := by
  obtain ⟨hconnected, hinbox, hnow⟩ := (s.run acts).surroundings_act ha
  obtain ⟨heard, heq, hheard⟩ := h.heard
  constructor <;> rw [run_concat]
  · rcases ((s.run acts).fields_act ha).1 with he | ⟨hidle, -⟩
    · rw [he]
      exact h.phase
    · have hp := h.phase
      rw [hidle] at hp
      cases hp
  · exact hconnected.trans h.connected
  · intro x hx
    rw [hnow]
    exact early_of_isPrompt h.phase hprompt hx (h.early x hx)
  · refine ⟨heard, ?_, hheard⟩
    rw [hinbox, List.filterMap_append, ← List.append_assoc, heq, List.append_assoc]
    cases a <;> rfl

theorem Awaiting.undecided {acts : List Act} (h : s.Awaiting p deadline acts)
    (hu : (s.run acts).Undecided p deadline) : s.Awaiting p deadline (acts ++ [.step]) := by
  obtain ⟨heard, heq, hheard⟩ := h.heard
  have harrivals : (acts ++ [Act.step]).filterMap Act.arrival? = acts.filterMap Act.arrival? := by
    simp [Act.arrival?]
  constructor <;> rw [run_concat]
  · exact hu.phase
  · rcases hu.link with hl | ⟨i, is, -, -, hl⟩
    · rw [hl]
      exact h.connected
    · rw [hl]
      exact h.connected
  · intro x hx
    rw [hu.now]
    exact h.early x hx
  · rw [harrivals]
    rcases hu.link with hl | ⟨i, is, hi, hv, hl⟩
    · rw [hl]
      exact ⟨heard, heq, hheard⟩
    · refine ⟨heard ++ [i], ?_, ?_⟩
      · rw [heq, hi, hl]
        simp
      · intro j hj
        rcases List.mem_append.mp hj with hj | hj
        · exact hheard j hj
        · exact (List.mem_singleton.mp hj).symm ▸ hv

theorem Awaiting.attends {acts : List Act} (h : s.Awaiting p deadline acts) (hs : s.Sound)
    (he : s.registry.Emptied) (hr : s.HasRows) : (s.run acts).Attends p deadline :=
  Session.attends (hs.run acts) (emptied_run hs he acts)
    (hasRows_run hr acts) h.phase h.connected h.early

/-- As long as the loop is never late, the answer is awaited until something decides. -/
theorem awaiting_or_decided (hs : s.Sound) (he : s.registry.Emptied) (hr : s.HasRows)
    (h : s.Awaiting p deadline []) {acts : List Act} (hacts : s.runsPromptly acts = true) :
    s.Awaiting p deadline acts ∨ s.Decided p deadline acts := by
  -- acts are added at the end, since what has been read is counted from the start
  induction acts using List.reverseRecOn with
  | nil => exact .inl h
  | append_singleton acts a ih =>
    rw [runsPromptly_concat, Bool.and_eq_true] at hacts
    obtain ⟨hacts, ha⟩ := hacts
    rcases ih hacts with h | h
    · by_cases hstep : a = .step
      · subst hstep
        have hnext := h.attends hs he hr
        by_cases hv : ∃ next, (s.run acts).Verdict p deadline next
        · obtain ⟨next, hv⟩ := hv
          exact .inr ⟨acts, [], next, rfl, h, hv, hnext.decides next hv⟩
        · exact .inl (h.undecided (hnext.goesOn (not_exists.mp hv)))
      · exact .inl (h.surroundings hstep ha)
    · exact .inr (h.concat a)

/-- A request for authentication is sent in one step, which sets the deadline. -/
theorem asked_of_sent {r : AuthRequest} (h : (s.act .step).sent = s.sent ++ [.auth r]) :
    ∃ p, (s.act .step).phase = .listening (.handshake p s.deadline?) ∧
      (s.act .step).link.connected = true ∧ (s.act .step).now = s.now := by
  have hne : (s.act .step).sent ≠ s.sent := by
    rw [h]
    simp
  have hout {out : List Outbound} (hs : (s.act .step).sent = s.sent ++ out) :
      .auth r ∈ out := by
    rw [h] at hs
    exact List.append_cancel_left hs ▸ List.mem_singleton_self _
  have hasking : ∃ p, s.phase = .authenticating p := by
    rcases s.course_act .step with ⟨hk, -⟩ | ⟨-, hc⟩
    · exact absurd hk.sent hne
    · cases hc with
      | asked hp => exact ⟨_, hp⟩
      | waits _ _ hs ho => exact Bool.noConfusion (ho _ (hout hs)).1
      | serves _ _ hs ho => exact Bool.noConfusion (ho _ (hout hs))
      | ended _ _ hs => exact absurd hs hne
      | granted _ _ _ _ hs => exact absurd hs hne
      | connected _ _ hk | privately _ _ _ hk | publicly _ _ _ hk | asks _ _ _ hk =>
        exact absurd hk.sent hne
  obtain ⟨p, hp⟩ := hasking
  have hstep : s.step? = some (s.authenticate p) := by simp only [step?, hp]
  rw [act_step hstep] at hne ⊢
  simp only [authenticate, setState_eq, send] at hne ⊢
  rcases hw : s.signer.wsAuth Counter.draw s.counter with ⟨e | a, counter⟩
  · simp only [hw] at hne
    exact absurd (fields_fail _ _).2.1 hne
  · simp only [hw] at hne ⊢
    cases hl : s.link.send with
    | error e =>
      simp only [hl] at hne
      exact absurd (fields_fail _ _).2.1 hne
    | ok _ =>
      refine ⟨p, rfl, ?_, rfl⟩
      by_contra hc
      simp [Link.send, hc] at hl

/-- Without a limit, no authentication runs out of time. -/
theorem not_overdue (hidle : s.phase = .idle) (h : s.config.authTimeout = none) (acts : List Act)
    (limit : Span) : (s.run acts).phase ≠ .ended (.error (.authTimeout limit)) := by
  induction acts using List.reverseRecOn with
  | nil =>
    rw [run, List.foldl_nil, hidle]
    intro hp
    cases hp
  | append_singleton acts a ih =>
    rw [run_concat]
    intro hp
    by_cases ha : a = .step
    · subst ha
      rcases (s.run acts).act_step_cases with he | ⟨-, ht⟩
      · exact ih (he ▸ hp)
      · obtain ⟨s₁, hhalt, -⟩ := halt_of_turn ht hp
        cases hhalt with
        | @overdue l _ hp' hl ho =>
          cases l with
          | serving => cases ho
          | handshake p deadline =>
            obtain ⟨before, -, -, -, hdeadline⟩ :=
              asked_run hidle (listening?_reading hp')
            have hnone : deadline = none := by
              simp [hdeadline, deadline?, config_run, h]
            rw [hnone] at ho
            cases ho
    · rcases ((s.run acts).fields_act ha).1 with he | ⟨-, he⟩
      · exact ih (he ▸ hp)
      · rw [he] at hp
        cases hp

/-- The deadline of an authentication is absolute. It is set when the request is sent, and as long
as the loop is never late, the answer is awaited until something decides: the answer itself, the end
of the link, or the deadline. Without a limit there is none. -/
theorem handshake_deadline (config : ConnectionConfig) (signer : Signer) (counter : Counter)
    (link : Link) :
    let s₀ := create config signer counter link
    (∀ before r,
      let s := (s₀.run before).act .step
      let deadline : Option Deadline :=
        config.authTimeout.map fun limit => ⟨limit, (s₀.run before).now + limit.millis⟩
      s.sent = (s₀.run before).sent ++ [.auth r] →
        ∃ p, (∀ acts, s.runsPromptly acts = true →
            s.Awaiting p deadline acts ∨ s.Decided p deadline acts) ∧
          ∀ acts, s.Awaiting p deadline acts → (s.run acts).Attends p deadline) ∧
    (config.authTimeout = none → ∀ acts limit,
      (s₀.run acts).phase ≠ .ended (.error (.authTimeout limit))) := by
  intro s₀
  have hs₀ : s₀.Sound := sound_create config signer counter link
  refine ⟨?_, fun hnone acts limit => not_overdue rfl hnone acts limit⟩
  intro before r s deadline hsent
  obtain ⟨p, hp, hconnected, hnow⟩ := asked_of_sent hsent
  have hdeadline : (s₀.run before).deadline? = deadline := by
    rw [deadline?, config_run]
    rfl
  rw [hdeadline] at hp
  have hs : s.Sound := (hs₀.run before).act .step
  have hempty : s.registry.Emptied := by
    have hrun := emptied_run hs₀ Registry.emptied_empty (before ++ [.step])
    rwa [run_concat] at hrun
  have hrows : s.HasRows :=
    hasRows_act (hasRows_run (hasRows_create config signer counter link) before) .step
  have hstart : s.Awaiting p deadline [] := by
    refine ⟨listening?_reading hp, hconnected, fun x hx => ?_, [], by simp [run], by simp⟩
    obtain ⟨limit, -, rfl⟩ := Option.map_eq_some_iff.mp hx
    exact hnow ▸ Nat.le_add_right _ _
  exact ⟨p, fun acts hacts => awaiting_or_decided hs hempty hrows hstart hacts,
    fun acts h => h.attends hs hempty hrows⟩

/-- Two items come while an authentication that may take three milliseconds is under way; neither
answers it. -/
theorem handshake_deadline_missed :
    let config := { ConnectionConfig.standard with authTimeout := some ⟨3⟩ }
    let signer : Signer := ⟨some ⟨"abc", "123", by decide, by decide⟩⟩
    let s₀ := create config signer ⟨1000⟩ (.create "" true none none)
    let before := [.register .account, .start, .step, .step]
    let s := (s₀.run before).act .step
    let acts := [.push (.text "["), .step, .advance ⟨2⟩,
      .push (.text "\x7b\"event\":\"info\",\"version\":2\x7d"), .step, .advance ⟨1⟩, .step]
    let deadline : Option Deadline := some ⟨⟨3⟩, 3⟩
    let patient := { config with authTimeout := none }
    let t₀ := create patient signer ⟨1000⟩ (.create "" true none none)
    let t := t₀.run (before ++ .step :: acts)
    (∃ p r, s.sent = (s₀.run before).sent ++ [.auth r] ∧ s.runsPromptly acts = true ∧
      s.Awaiting p deadline [] ∧ s.Attends p deadline ∧ s.Decided p deadline acts) ∧
    (s.run acts).phase = .ended (.error (.authTimeout ⟨3⟩)) ∧
    t.phase ≠ .ended (.error (.authTimeout ⟨3⟩)) := by
  intro config signer s₀ before s acts deadline patient t₀ t
  have hasked : s.sent.map Outbound.isAuth = [true] := by decide +kernel
  have hprompt : s.runsPromptly acts = true := by decide +kernel
  have hended : (s.run acts).phase.result? = some (.error (.authTimeout ⟨3⟩)) := by decide +kernel
  have hpatient : t.phase ≠ .ended (.error (.authTimeout ⟨3⟩)) :=
    (handshake_deadline patient signer ⟨1000⟩ (.create "" true none none)).2 rfl _ _
  obtain ⟨o, hsent, ho⟩ := List.map_eq_singleton_iff.mp hasked
  cases o with
  | auth r =>
    have hsent : s.sent = (s₀.run before).sent ++ [.auth r] := hsent
    obtain ⟨p, hruns, hattends⟩ :=
      (handshake_deadline config signer ⟨1000⟩ (.create "" true none none)).1 before r hsent
    have hstart : s.Awaiting p deadline [] := by
      rcases hruns [] rfl with h | ⟨during, after, next, h, -⟩
      · exact h
      · simp at h
    have hdecided : s.Decided p deadline acts := by
      rcases hruns acts hprompt with h | h
      · have hp := h.phase
        rw [Phase.ended_of_result? hended] at hp
        cases hp
      · exact h
    exact ⟨⟨p, r, hsent, hprompt, hstart, hattends [] hstart, hdecided⟩,
      Phase.ended_of_result? hended, hpatient⟩
  | _ => cases ho

end Session
end MarketWire
