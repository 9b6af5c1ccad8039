import MarketWire.Proofs.Session.Challenge
import MarketWire.Proofs.Session.Ending
import MarketWire.Proofs.Registry.Channel

/-!
# The life of a session

The state that a session shows is told by the place of its loop, and whatever the loop, the owner
and the other side do, it changes along a few edges only. `News` says of every turn which events it
adds: words about subscriptions and the other side, then changes of the state, and the ending behind
them when the turn is the last one.
-/
namespace MarketWire

/-! ## States -/

namespace ConnectionState

/-- The states that may follow a state. -/
def successors : ConnectionState → List ConnectionState
  | .disconnected => [.connecting]
  | .connecting => [.authenticating, .subscribing, .terminated]
  | .authenticating => [.subscribing, .streaming, .terminated]
  | .subscribing => [.streaming, .terminated]
  | .streaming => [.authenticating, .terminated]
  | .terminated => []

theorem ne_of_mem_successors {a b : ConnectionState} (h : b ∈ a.successors) : a ≠ b := by
  rintro rfl
  cases a <;> simp [successors] at h

/-- Changes that follow each other from one state to another. -/
inductive Path : ConnectionState → List (ConnectionState × ConnectionState) → ConnectionState → Prop
  where
  | nil (a : ConnectionState) : Path a [] a
  | cons {a b c : ConnectionState} {changes : List (ConnectionState × ConnectionState)}
      (h : b ∈ a.successors) (hp : Path b changes c) : Path a ((a, b) :: changes) c

theorem Path.append {a b c : ConnectionState}
    {changes changes' : List (ConnectionState × ConnectionState)} (h : Path a changes b)
    (h' : Path b changes' c) : Path a (changes ++ changes') c := by
  induction h with
  | nil => exact h'
  | cons hb _ ih => exact .cons hb (ih h')

theorem Path.single {a b : ConnectionState} (h : b ∈ a.successors) : Path a [(a, b)] b :=
  .cons h (.nil b)

end ConnectionState

open ConnectionState (Path)

def Listening.standing : Listening → ConnectionState
  | .handshake .. => .authenticating
  | .serving => .streaming

theorem Listening.terminated_mem (l : Listening) : .terminated ∈ l.standing.successors := by
  cases l <;> simp [standing, ConnectionState.successors]

theorem Purpose.terminated_mem (p : Purpose) : .terminated ∈ p.standing.successors := by
  cases p <;> decide

/-- The state of a session by the place of its loop. -/
def Phase.standing : Phase → ConnectionState
  | .idle | .connecting => .disconnected
  | .connected | .authenticating .opening => .connecting
  | .authenticating .later => .streaming
  | .listening l | .delivering _ l => l.standing
  | .requesting p | .sending p _ => p.standing
  | .ended _ => .terminated

theorem Phase.standing_of_listening {p : Phase} {l : Listening} (h : p.listening? = some l) :
    p.standing = l.standing := by
  cases p with
  | listening l' => cases h; rfl
  | delivering b l' => cases h; rfl
  | _ => cases h

/-! ## Events -/

namespace ConnectionEvent

def change? : ConnectionEvent → Option (ConnectionState × ConnectionState)
  | .stateChanged a b => some (a, b)
  | _ => none

def bound? : ConnectionEvent → Option Nat
  | .subscribed id _ _ _ => some id
  | _ => none

end ConnectionEvent

namespace Session

variable {s s' s₁ : Session}

def changes (s : Session) : List (ConnectionState × ConnectionState) :=
  s.events.filterMap ConnectionEvent.change?

def bound (s : Session) : List Nat := s.events.filterMap ConnectionEvent.bound?

/-- Events that change no state and end nothing; a channel is given to somebody who waited. -/
structure Words (s s' : Session) (words : List ConnectionEvent) : Prop where
  change : words.filterMap ConnectionEvent.change? = []
  bound : words.filterMap ConnectionEvent.bound? = [] ∨
    ∃ p ∈ s.registry.pending, words.filterMap ConnectionEvent.bound? = [p.id] ∧
      ∃ a ∈ s'.registry.active, a.id = p.id

theorem words_nil (s s' : Session) : s.Words s' [] := ⟨rfl, .inl rfl⟩

theorem words_single {e : ConnectionEvent} (hc : e.change? = none) (hb : e.bound? = none) :
    s.Words s' [e] :=
  ⟨by simp [hc], .inl (by simp [hb])⟩

/-- The events that a turn adds. -/
structure News (s s' : Session) : Prop where
  exists_events : ∃ words changes, s'.events = s.events ++ (words ++
      changes.map (fun c => .stateChanged c.1 c.2) ++
      s'.phase.result?.toList.map (.terminated <| endingOf ·)) ∧
    s.Words s' words ∧ Path s.state changes s'.state ∧
    changes.countP (·.2 = .authenticating) ≤ s.asks .step
  standing : s'.state = s'.phase.standing
  isTerminal : ∀ e, s'.phase = .ended (.error e) → e.isTerminal = true

theorem news_words {words : List ConnectionEvent} (h : s.state = s.phase.standing)
    (hstate : s'.state = s.state) (hphase : s'.phase.standing = s.phase.standing)
    (hresult : s'.phase.result? = none) (he : s'.events = s.events ++ words)
    (hw : s.Words s' words) : s.News s' where
  exists_events := ⟨words, [], by simp [he, hresult], hw, by rw [hstate]; exact .nil _,
    Nat.zero_le _⟩
  standing := hstate.trans (h.trans hphase.symm)
  isTerminal e hp := by rw [hp] at hresult; cases hresult

theorem news_quiet (h : s.state = s.phase.standing) (hstate : s'.state = s.state)
    (hphase : s'.phase.standing = s.phase.standing) (hresult : s'.phase.result? = none)
    (he : s'.events = s.events) : s.News s' :=
  news_words h hstate hphase hresult (he.trans (List.append_nil _).symm) (words_nil s s')

theorem news_reading {l : Listening} {words : List ConnectionEvent}
    (h : s.state = s.phase.standing) (hp : s.phase.listening? = some l)
    (hp' : s'.phase.listening? = some l) (hstate : s'.state = s.state)
    (he : s'.events = s.events ++ words) (hw : s.Words s' words) : s.News s' := by
  refine news_words h hstate ?_ ?_ he hw
  · rw [Phase.standing_of_listening hp, Phase.standing_of_listening hp']
  · cases hph : s'.phase with
    | ended => rw [hph] at hp'; cases hp'
    | _ => rfl

theorem news_moved (after : ConnectionState) (hs : after ∈ s.state.successors)
    (ha : after ≠ .authenticating ∨ s.phase.stage = .asking) (hstate : s'.state = after)
    (hphase : s'.phase.standing = after) (hresult : s'.phase.result? = none)
    (he : s'.events = (s.setState after).events) : s.News s' where
  exists_events := by
    refine ⟨[], [(s.state, after)], ?_, words_nil s s', by rw [hstate]; exact .single hs, ?_⟩
    · rw [he, setState_eq, hresult]
      simp [ConnectionState.ne_of_mem_successors hs]
    · rcases ha with ha | ha
      · simp [ha]
      · by_cases hafter : after = .authenticating <;> simp [hafter, asks, ha]
  standing := hstate.trans hphase.symm
  isTerminal e hp := by rw [hp] at hresult; cases hresult

/-! ## Words -/

theorem mem_active_of_owner? {r : Registry} {chanId : Int64} {a : Active}
    (h : r.owner? chanId = some a) : ∃ b ∈ r.active, b.id = a.id :=
  ⟨a, (Registry.owner?_eq_some h).1, rfl⟩

theorem words_bindAccount {chanId : Int64}
    (hr : s'.registry = s.registry.perform (.bindAccount chanId)) :
    s.Words s' ((s.registry.bindAccount chanId).1.map fun id =>
      .subscribed id chanId .account none).toList := by
  rcases s.registry.owner?_bindAccount chanId with ⟨hnone, -⟩ | ⟨p, hp, hsome, ho⟩
  · rw [hnone]
    exact words_nil s s'
  · rw [hsome]
    refine ⟨rfl, .inr ⟨p, hp, rfl, ?_⟩⟩
    rw [hr]
    exact mem_active_of_owner? ((ho chanId).trans (if_pos rfl))

theorem words_acknowledge {a : Subscribed}
    (hr : s'.registry = s.registry.perform (.bind (.ofSubscribed a) a.chanId)) :
    s.Words s' ((s.registry.bind (.ofSubscribed a) a.chanId).1.map fun p =>
      .subscribed p.id a.chanId p.feed.channel p.feed.symbol).toList := by
  cases hp : (s.registry.takeAgreeing (.ofSubscribed a)).1 with
  | none =>
    rw [Registry.bind_of_none hp]
    exact words_nil s s'
  | some p =>
    have ho := s.registry.owner?_bind (.ofSubscribed a) a.chanId a.chanId
    rw [Registry.bind_of_some hp] at ho ⊢
    obtain ⟨-, before, after, hs, -⟩ := Registry.takeAgreeing_eq_some hp
    refine ⟨rfl, .inr ⟨p, by rw [hs]; exact List.mem_append_right _ List.mem_cons_self, rfl, ?_⟩⟩
    rw [hr, Registry.perform, Registry.bind_of_some hp]
    exact mem_active_of_owner? (ho.trans (if_pos rfl))

theorem Words.cons {words : List ConnectionEvent} (h : s.Words s' words) {e : ConnectionEvent}
    (hc : e.change? = none) (hb : e.bound? = none) : s.Words s' (e :: words) :=
  ⟨by simp [hc, h.change], by simpa [hb] using h.bound⟩

/-! ## The events of a turn -/

/-- Before a session is concluded it has entered one state more at most. -/
structure Closing (s s₁ : Session) (result : Except ConnectionError Unit) : Prop where
  exists_events : ∃ changes, s₁.events = s.events ++ changes.map (fun c => .stateChanged c.1 c.2) ∧
    Path s.state changes s₁.state ∧
    changes.countP (·.2 = .authenticating) ≤ s.asks .step
  successors : .terminated ∈ s₁.state.successors
  isTerminal : ∀ e, result = .error e → e.isTerminal = true

theorem closing_quiet {result : Except ConnectionError Unit} (hstate : s₁.state = s.state)
    (he : s₁.events = s.events) (hs : .terminated ∈ s.state.successors)
    (hr : ∀ e, result = .error e → e.isTerminal = true) : s.Closing s₁ result where
  exists_events := ⟨[], by simp [he], by rw [hstate]; exact .nil _, Nat.zero_le _⟩
  successors := by rw [hstate]; exact hs
  isTerminal := hr

theorem closing_moved {result : Except ConnectionError Unit} (after : ConnectionState)
    (hs : after ∈ s.state.successors) (ha : after ≠ .authenticating ∨ s.phase.stage = .asking)
    (hstate : s₁.state = after) (he : s₁.events = (s.setState after).events)
    (ht : .terminated ∈ after.successors)
    (hr : ∀ e, result = .error e → e.isTerminal = true) : s.Closing s₁ result where
  exists_events := by
    refine ⟨[(s.state, after)], ?_, by rw [hstate]; exact .single hs, ?_⟩
    · rw [he, setState_eq]
      simp [ConnectionState.ne_of_mem_successors hs]
    · rcases ha with ha | ha
      · simp [ha]
      · by_cases hafter : after = .authenticating <;> simp [hafter, asks, ha]
  successors := by rw [hstate]; exact ht
  isTerminal := hr

theorem closing_halt (h : s.state = s.phase.standing) {result : Except ConnectionError Unit}
    (hh : s.Halt s₁ result) : s.Closing s₁ result := by
  have hauth : ∀ {p}, s.phase = .authenticating p → .authenticating ∈ s.state.successors := by
    rintro (_ | _) hp <;> rw [h, hp] <;> decide
  cases hh with
  | connecting hp hl =>
    refine closing_moved .connecting ?_ (.inl (by decide)) ?_ rfl (by decide) ?_
    · rw [h, hp]; decide
    · rw [setState_eq]
    · rintro e ⟨⟩; rfl
  | signing hp hf =>
    refine closing_moved .authenticating (hauth hp) (.inr (by rw [hp]; rfl)) ?_ rfl (by decide) ?_
    · rw [setState_eq]
    · rintro e ⟨⟩; rfl
  | authenticating hp hf hl =>
    refine closing_moved .authenticating (hauth hp) (.inr (by rw [hp]; rfl)) ?_ rfl (by decide) ?_
    · simp only [setState_eq]
    · rintro e ⟨⟩; rfl
  | @requesting p id feed feeds e hp hl =>
    refine closing_quiet rfl rfl ?_ ?_
    · rw [h, hp]; exact p.terminated_mem
    · rintro e ⟨⟩; rfl
  | unsubscribing hp hc hl =>
    refine closing_quiet rfl rfl (by rw [h, hp]; decide) ?_
    rintro e ⟨⟩; rfl
  | closing hp hc =>
    exact closing_quiet rfl rfl (by rw [h, hp]; decide) nofun
  | @overdue l limit hp hl ho =>
    refine closing_quiet rfl rfl ?_ ?_
    · rw [h, hp]; exact l.terminated_mem
    · rintro e ⟨⟩; rfl
  | @broken l e hp =>
    refine closing_quiet rfl rfl ?_ ?_
    · rw [h, hp]; exact l.terminated_mem
    · rintro e ⟨⟩; rfl
  | @refused p d r hp hf hr =>
    refine closing_quiet rfl rfl ?_ ?_
    · rw [h, hp]; exact (Listening.handshake p d).terminated_mem
    · rintro e ⟨⟩; rfl
  | @releasing b l row m e hp hm hd hl =>
    refine closing_quiet ?_ ?_ ?_ ?_
    · rw [closeChannel_eq]; rfl
    · rw [closeChannel_eq]; rfl
    · rw [h, hp]; exact l.terminated_mem
    · rintro e ⟨⟩; rfl

theorem Closing.news {result : Except ConnectionError Unit} (h : s.Closing s₁ result) :
    s.News (s₁.conclude result) := by
  obtain ⟨⟨changes, he, hpath, hcount⟩, hs, hr⟩ := h
  rw [conclude_eq]
  refine ⟨⟨[], changes ++ [(s₁.state, .terminated)], ?_, words_nil _ _,
    hpath.append (.single hs), ?_⟩, rfl, ?_⟩
  · simp [setState_eq, he, ConnectionState.ne_of_mem_successors hs, Phase.result?]
  · simpa using hcount
  · rintro e ⟨⟩
    exact hr e rfl

theorem news_turn (h : s.state = s.phase.standing) (ht : s.Turn s') : s.News s' := by
  cases ht with
  | halt hh => exact (closing_halt h hh).news
  | connected hp hl =>
    refine news_moved .connecting (by rw [h, hp]; decide) (.inl (by decide)) ?_ rfl rfl rfl
    simp only [setState_eq]
  | privately hp hr => exact news_quiet h rfl (by rw [hp]; rfl) rfl rfl
  | publicly hp hr =>
    refine news_moved .subscribing (by rw [h, hp]; decide) (.inl (by decide)) ?_ rfl rfl
      rfl
    simp only [setState_eq]
  | @authenticating p a counter hp hf hl =>
    refine news_moved .authenticating ?_ (.inr (by rw [hp]; rfl)) ?_ rfl rfl rfl
    · rw [h, hp]; cases p <;> decide
    · simp only [setState_eq]
  | requesting hp => exact news_quiet h rfl (by rw [hp]; rfl) rfl rfl
  | opened hp =>
    refine news_moved .streaming (by rw [h, hp]; decide) (.inl (by decide)) ?_ rfl rfl rfl
    simp only [setState_eq]
  | flushed hp => exact news_quiet h rfl (by rw [hp]; rfl) rfl rfl
  | skipped hp hf => exact news_quiet h rfl (by rw [hp]; rfl) rfl rfl
  | requested hp hf hl => exact news_quiet h rfl (by rw [hp]; rfl) rfl rfl
  | @joined chanId cs hp hc hr ha =>
    rw [bindAccount_eq]
    exact news_words h rfl (by rw [hp]; rfl) rfl rfl (words_bindAccount rfl)
  | challenged hp hc hr ha => exact news_quiet h rfl (by rw [hp]; rfl) rfl rfl
  | asked hp hc hr => exact news_quiet h rfl (by rw [hp]; rfl) rfl rfl
  | unsubscribing hp hc hl => exact news_quiet h rfl (by rw [hp]) rfl rfl
  | @authenticated p d r hp hf hr =>
    have hstate : s.state = .authenticating := by rw [h, hp]; rfl
    have hs : p.standing ∈ s.state.successors := by rw [hstate]; cases p <;> decide
    have hne : s.read.state ≠ p.standing := ConnectionState.ne_of_mem_successors hs
    rw [concludeHandshake_eq hr]
    refine ⟨⟨.authenticated r.userId :: _, [(s.state, p.standing)], ?_,
      (words_bindAccount rfl).cons rfl rfl, .single hs, ?_⟩, rfl, nofun⟩
    · simp only [if_neg hne, Phase.result?, Option.toList_none, List.map_nil, List.append_nil,
        List.append_assoc, List.cons_append, List.nil_append]
      rfl
    · cases p <;> simp [Purpose.standing]
  | acknowledged hp hf =>
    rw [acknowledge_eq]
    exact news_reading h (listening?_reading hp) (listening?_reading hp) rfl rfl
      (words_acknowledge rfl)
  | unsubscribed hp hf =>
    rw [closeChannel_eq]
    exact news_reading h (listening?_reading hp) (listening?_reading hp) rfl rfl
      (words_single rfl rfl)
  | @refused l r hp hf =>
    rcases refuse_eq s.read r with ⟨a, p, -, -, he⟩ | ⟨-, he⟩
    · rw [he]
      exact news_reading h (listening?_reading hp) (listening?_reading hp) rfl
        (List.append_nil _).symm (words_nil _ _)
    · rw [he]
      exact news_reading h (listening?_reading hp) (listening?_reading hp) rfl rfl
        (words_single rfl rfl)
  | informed hp hf =>
    exact news_reading h (listening?_reading hp) (listening?_reading hp) rfl rfl
      (words_single rfl rfl)
  | routed hp hf hh hb =>
    exact news_reading h (listening?_reading hp) (listening?_deliverRows ..) rfl
      (List.append_nil _).symm
      (words_nil _ _)
  | delivered hp hr hm ho =>
    exact news_reading h (listening?_delivering hp) (listening?_deliverRows ..) rfl
      (List.append_nil _).symm
      (words_nil _ _)
  | noise hp | ignored hp | unrouted hp =>
    exact news_reading h (listening?_reading hp) (listening?_reading hp) rfl
      (List.append_nil _).symm (words_nil _ _)
  | drained hp | abandoned hp =>
    exact news_reading h (listening?_delivering hp) rfl rfl (List.append_nil _).symm (words_nil _ _)
  | released hp =>
    rw [closeChannel_eq]
    exact news_reading h (listening?_delivering hp) rfl rfl (List.append_nil _).symm (words_nil _ _)
  | releasing hp =>
    rw [closeChannel_eq]
    exact news_reading h (listening?_delivering hp) rfl rfl (List.append_nil _).symm (words_nil _ _)

/-! ## Runs -/

theorem standing_act (h : s.state = s.phase.standing) (a : Act) :
    (s.act a).state = (s.act a).phase.standing := by
  by_cases ha : a = .step
  · subst ha
    rcases s.act_step_cases with he | ⟨-, ht⟩
    · rw [he]
      exact h
    · exact (news_turn h ht).standing
  · obtain ⟨hphase, hstate, -⟩ := s.fields_act ha
    rw [hstate, h]
    rcases hphase with he | ⟨hidle, he⟩
    · rw [he]
    · rw [he, hidle]
      rfl

theorem standing_run (h : s.state = s.phase.standing) (acts : List Act) :
    (s.run acts).state = (s.run acts).phase.standing :=
  run_induction (P := fun s => s.state = s.phase.standing) h (fun _ a hs => standing_act hs a) acts

theorem changes_of_map (changes : List (ConnectionState × ConnectionState)) :
    (changes.map fun c => ConnectionEvent.stateChanged c.1 c.2).filterMap
      ConnectionEvent.change? = changes := by
  simp [List.filterMap_map, Function.comp_def, ConnectionEvent.change?]

theorem bound_of_map (changes : List (ConnectionState × ConnectionState)) :
    (changes.map fun c => ConnectionEvent.stateChanged c.1 c.2).filterMap
      ConnectionEvent.bound? = [] := by
  simp [ConnectionEvent.bound?]

theorem News.changes_eq (h : s.News s') : ∃ changes, s'.changes = s.changes ++ changes ∧
    Path s.state changes s'.state ∧ changes.countP (·.2 = .authenticating) ≤ s.asks .step := by
  obtain ⟨words, changes, he, hw, hpath, hcount⟩ := h.exists_events
  refine ⟨changes, ?_, hpath, hcount⟩
  have hend : (s'.phase.result?.toList.map (ConnectionEvent.terminated <| endingOf ·)).filterMap
      ConnectionEvent.change? = [] := by simp [ConnectionEvent.change?]
  simp only [Session.changes, he, List.filterMap_append, hw.change, changes_of_map, hend,
    List.nil_append, List.append_nil]

theorem News.bound_eq (h : s.News s') : s'.bound = s.bound ∨ ∃ p ∈ s.registry.pending,
    s'.bound = s.bound ++ [p.id] ∧ ∃ o ∈ s'.registry.active, o.id = p.id := by
  obtain ⟨words, changes, he, hw, -⟩ := h.exists_events
  have hend : (s'.phase.result?.toList.map (ConnectionEvent.terminated <| endingOf ·)).filterMap
      ConnectionEvent.bound? = [] := by simp [ConnectionEvent.bound?]
  have hb : s'.bound = s.bound ++ words.filterMap ConnectionEvent.bound? := by
    simp only [Session.bound, he, List.filterMap_append, bound_of_map, hend, List.append_nil]
  rcases hw.bound with hnone | ⟨p, hp, hsome, ho⟩
  · exact .inl (by rw [hb, hnone, List.append_nil])
  · exact .inr ⟨p, hp, by rw [hb, hsome], ho⟩

theorem changes_kept (he : s'.events = s.events) (hs : s'.state = s.state) (n : Nat) :
    ∃ changes, s'.changes = s.changes ++ changes ∧ Path s.state changes s'.state ∧
      changes.countP (·.2 = .authenticating) ≤ n := by
  refine ⟨[], ?_, ?_, Nat.zero_le n⟩
  · rw [changes, he, List.append_nil]
    rfl
  · rw [hs]
    exact .nil _

theorem changes_act (h : s.state = s.phase.standing) (a : Act) :
    ∃ changes, (s.act a).changes = s.changes ++ changes ∧ Path s.state changes (s.act a).state ∧
      changes.countP (·.2 = .authenticating) ≤ s.asks a := by
  by_cases ha : a = .step
  · subst ha
    rcases s.act_step_cases with he | ⟨-, ht⟩
    · exact changes_kept (congrArg events he) (congrArg state he) _
    · exact (news_turn h ht).changes_eq
  · obtain ⟨-, hstate, hevents, -⟩ := s.fields_act ha
    exact changes_kept hevents hstate _

/-- The changes of a run follow each other, and each time the loop asks for authentication is one
that leads to `authenticating`. -/
theorem changes_run (h : s.state = s.phase.standing) (acts : List Act) :
    ∃ changes, (s.run acts).changes = s.changes ++ changes ∧
      Path s.state changes (s.run acts).state ∧
      changes.countP (·.2 = .authenticating) ≤ s.challenges acts := by
  induction acts generalizing s with
  | nil => exact ⟨[], (List.append_nil _).symm, .nil _, Nat.zero_le _⟩
  | cons a acts ih =>
    obtain ⟨before, he, hpath, hcount⟩ := changes_act h a
    obtain ⟨after, he', hpath', hcount'⟩ := ih (standing_act h a)
    refine ⟨before ++ after, ?_, hpath.append hpath', ?_⟩
    · rw [← List.append_assoc, ← he]
      exact he'
    · rw [List.countP_append, challenges]
      omega

/-! ## Who got a channel -/

theorem bound_act (h : s.state = s.phase.standing) (a : Act) :
    (s.act a).bound = s.bound ∨ ∃ p ∈ s.registry.pending, (s.act a).bound = s.bound ++ [p.id] ∧
      ∃ o ∈ (s.act a).registry.active, o.id = p.id := by
  by_cases ha : a = .step
  · subst ha
    rcases s.act_step_cases with he | ⟨-, ht⟩
    · exact .inl (congrArg bound he)
    · exact (news_turn h ht).bound_eq
  · obtain ⟨-, -, hevents, -⟩ := s.fields_act ha
    exact .inl (congrArg (List.filterMap ConnectionEvent.bound?) hevents)

/-- A number that was given out does not come to wait again. -/
theorem not_pending_performs {a : Act} {r : Registry} (h : s.Performs a r) {id : Nat}
    (hlt : id < s.registry.nextId) (hid : ∀ p ∈ s.registry.pending, p.id ≠ id) :
    ∀ p ∈ r.pending, p.id ≠ id := by
  induction h with
  | start => exact hid
  | @perform r op h _ ih =>
    intro p hp he
    rcases Registry.mem_pending_perform hp with ⟨q, hq, hqid, -⟩ | ⟨-, -, -, hnew⟩
    · exact ih q hq (hqid.trans he)
    · have hle := le_nextId_performs h
      omega

/-- Subscriptions that got a channel do not wait for one any more. -/
structure Bound (s : Session) : Prop where
  nodup : s.bound.Nodup
  settled : ∀ id ∈ s.bound, id < s.registry.nextId ∧ ∀ p ∈ s.registry.pending, p.id ≠ id

theorem Bound.act (h : s.Bound) (hs : s.Sound) (hstate : s.state = s.phase.standing) (a : Act) :
    (s.act a).Bound := by
  have hperforms := performs_act s a
  have hle := le_nextId_performs hperforms
  have hold : ∀ id ∈ s.bound, id < (s.act a).registry.nextId ∧
      ∀ p ∈ (s.act a).registry.pending, p.id ≠ id := by
    intro id hid
    obtain ⟨hlt, hout⟩ := h.settled id hid
    exact ⟨Nat.lt_of_lt_of_le hlt hle, not_pending_performs hperforms hlt hout⟩
  rcases bound_act hstate a with he | ⟨p, hp, he, o, ho, hop⟩
  · exact ⟨he ▸ h.nodup, he ▸ hold⟩
  · constructor
    · rw [he, List.nodup_append]
      refine ⟨h.nodup, List.nodup_singleton _, ?_⟩
      rintro id hid _ hmem rfl
      exact (h.settled id hid).2 p hp (List.mem_singleton.mp hmem).symm
    · intro id hid
      rw [he, List.mem_append, List.mem_singleton] at hid
      rcases hid with hid | rfl
      · exact hold id hid
      · refine ⟨Nat.lt_of_lt_of_le ?_ hle, fun q hq => ?_⟩
        · exact hs.registry.issued _ (Registry.mem_ids_of_pending hp)
        · rw [← hop]
          exact (hs.act a).registry.apart q hq o ho

theorem bound_run (h : s.Bound) (hs : s.Sound) (hstate : s.state = s.phase.standing)
    (acts : List Act) : (s.run acts).Bound := by
  induction acts generalizing s with
  | nil => exact h
  | cons a acts ih => exact ih (h.act hs hstate a) (hs.act a) (standing_act hstate a)

/-! ## The end -/

/-- A session that is over has told so last, and if it failed, then for a reason that ends it. -/
def Finished (s : Session) : Prop :=
  ∀ result, s.phase = .ended result →
    (∃ before, s.events = before ++ [.terminated (endingOf result)]) ∧
      ∀ e, result = .error e → e.isTerminal = true

theorem News.finished (h : s.News s') : s'.Finished := by
  intro result hp
  obtain ⟨words, changes, he, -⟩ := h.exists_events
  refine ⟨⟨s.events ++ (words ++ changes.map fun c => .stateChanged c.1 c.2), ?_⟩, ?_⟩
  · rw [he, hp]
    simp [Phase.result?]
  · rintro e rfl
    exact h.isTerminal e hp

theorem Finished.act (h : s.Finished) (hstate : s.state = s.phase.standing) (a : Act) :
    (s.act a).Finished := by
  by_cases ha : a = .step
  · subst ha
    rcases s.act_step_cases with he | ⟨-, ht⟩
    · rw [he]
      exact h
    · exact (news_turn hstate ht).finished
  · obtain ⟨hphase, -, hevents, -⟩ := s.fields_act ha
    intro result hp
    rw [hevents]
    rcases hphase with he | ⟨-, he⟩
    · exact h result (he.symm.trans hp)
    · cases he.symm.trans hp

theorem finished_run (h : s.Finished) (hstate : s.state = s.phase.standing) (acts : List Act) :
    (s.run acts).Finished := by
  induction acts generalizing s with
  | nil => exact h
  | cons a acts ih => exact ih (h.act hstate a) (standing_act hstate a)

theorem ended_of_terminated (hstate : s.state = s.phase.standing) (h : s.state = .terminated) :
    ∃ result, s.phase = .ended result := by
  rw [h] at hstate
  cases hp : s.phase with
  | ended result => exact ⟨result, rfl⟩
  | authenticating p => rw [hp] at hstate; cases p <;> cases hstate
  | requesting p => rw [hp] at hstate; cases p <;> cases hstate
  | sending p feeds => rw [hp] at hstate; cases p <;> cases hstate
  | listening l => rw [hp] at hstate; cases l <;> cases hstate
  | delivering b l => rw [hp] at hstate; cases l <;> cases hstate
  | _ => rw [hp] at hstate; cases hstate

theorem events_over {result : Except ConnectionError Unit} (h : s.phase = .ended result)
    (later : List Act) :
    (s.run later).phase = .ended result ∧ (s.run later).events = s.events := by
  induction later generalizing s with
  | nil => exact ⟨h, rfl⟩
  | cons a later ih =>
    obtain ⟨hp, he⟩ := ih (ended_act h a)
    refine ⟨hp, he.trans ?_⟩
    by_cases ha : a = .step
    · subst ha
      rw [act_step_of_none (by simp only [step?, h])]
    · exact (s.fields_act ha).2.2.1

/-! ## The loop runs once -/

theorem start_act (h : s.state = s.phase.standing) : (s.act .start).phase ≠ .idle := by
  cases hp : s.phase with
  | idle =>
    have hstate : s.state ≠ .terminated := by rw [h, hp]; decide
    simp [act, start, hp, hstate, Except.toOption]
  | _ => simp [act, start, hp, Except.toOption]

theorem start_of_running (h : s.phase ≠ .idle) :
    s.start = .error (if s.state = .terminated then .terminated else .alreadyRunning) ∧
      s.act .start = s := by
  cases hp : s.phase with
  | idle => exact absurd hp h
  | _ => simp [act, start, hp, Except.toOption]

theorem running_act (h : s.phase ≠ .idle) (a : Act) : (s.act a).phase ≠ .idle := by
  by_cases ha : a = .step
  · subst ha
    rcases s.act_step_cases with he | ⟨-, ht⟩
    · rw [he]
      exact h
    · have hc := course_of_turn ht
      generalize s.act .step = s' at hc ⊢
      intro he
      cases hc with
      | ended hp' | connected _ hp' | privately _ _ hp' | publicly _ _ hp' | asked _ hp'
      | waits _ hp' | granted _ _ _ hp' | serves _ hp' | asks _ _ hp' => rw [he] at hp'; cases hp'
  · rcases (s.fields_act ha).1 with he | ⟨hidle, -⟩
    · rw [he]
      exact h
    · exact absurd hidle h

theorem running_run (h : s.phase ≠ .idle) (acts : List Act) : (s.run acts).phase ≠ .idle := by
  induction acts generalizing s with
  | nil => exact h
  | cons a acts ih => exact ih (running_act h a)

theorem refused_over (h : s.state = .terminated) :
    (∀ feed, (∃ e, s.register feed = .error e) ∧ (∃ e, s.subscribe feed = .error e) ∧
      s.act (.register feed) = s) ∧
    (∀ chanId, s.unsubscribe chanId = .error .terminated ∧ s.act (.unsubscribe chanId) = s) ∧
    s.close = .error .terminated ∧ s.act .close = s := by
  refine ⟨fun feed => ?_, fun chanId => ?_, ?_⟩
  · have hreg : ∃ e, s.register feed = .error e := by
      unfold register
      split <;> exact ⟨_, rfl⟩
    obtain ⟨e, he⟩ := hreg
    refine ⟨⟨e, he⟩, ⟨e, ?_⟩, ?_⟩
    · rw [subscribe, he]
      rfl
    · simp [act, he, Except.toOption]
  · have he : s.unsubscribe chanId = .error .terminated := by simp [unsubscribe, command, h]
    exact ⟨he, by simp [act, he, Except.toOption]⟩
  · have he : s.close = .error .terminated := by simp [close, command, h]
    exact ⟨he, by simp [act, he, Except.toOption]⟩

/-- The states of a session follow each other along the allowed edges, authentication is entered
once at most, and each subscription gets a channel once at most. A session that is over says so
last, and if it failed then for a reason that ends sessions. The loop runs once, and nothing is
asked of a session that is over. -/
theorem lifecycle_run (config : ConnectionConfig) (signer : Signer) (counter : Counter)
    (link : Link) (acts : List Act) :
    let s := (create config signer counter link).run acts
    Path .disconnected (s.events.filterMap ConnectionEvent.change?) s.state ∧
    (s.events.filterMap ConnectionEvent.change?).countP (·.2 = .authenticating) ≤ 1 ∧
    (s.events.filterMap ConnectionEvent.bound?).Nodup ∧
    (s.state = .terminated ↔ ∃ result, s.phase = .ended result) ∧
    s.events.filterMap ConnectionEvent.ending? = s.phase.result?.toList.map endingOf ∧
    (∀ result, s.phase = .ended result →
      (∃ before, s.events = before ++ [.terminated (endingOf result)]) ∧
      (∀ e, result = .error e → e.isTerminal = true) ∧
      ∀ later, (s.run later).phase = .ended result ∧ (s.run later).events = s.events) ∧
    (.start ∈ acts → s.act .start = s ∧
      s.start = .error (if s.state = .terminated then .terminated else .alreadyRunning)) ∧
    (s.state = .terminated →
      (∀ feed, (∃ e, s.register feed = .error e) ∧ (∃ e, s.subscribe feed = .error e) ∧
        s.act (.register feed) = s) ∧
      (∀ chanId, s.unsubscribe chanId = .error .terminated ∧ s.act (.unsubscribe chanId) = s) ∧
      s.close = .error .terminated ∧ s.act .close = s) := by
  intro s
  let s₀ := create config signer counter link
  have hs₀ : s₀.Sound := sound_create config signer counter link
  have hstanding : s₀.state = s₀.phase.standing := rfl
  have hbound : s₀.Bound := ⟨List.nodup_nil, fun _ hid => absurd hid List.not_mem_nil⟩
  have hstate : s.state = s.phase.standing := standing_run hstanding acts
  obtain ⟨changes, hchanges, hpath, hcount⟩ := changes_run hstanding acts
  have hchanges : s.events.filterMap ConnectionEvent.change? = changes := hchanges
  refine ⟨hchanges ▸ hpath, ?_, ?_, ⟨ended_of_terminated hstate, ?_⟩,
    endings_run (s := s₀) rfl acts, fun result hp => ?_, fun hstart => ?_, refused_over⟩
  · rw [hchanges]
    exact Nat.le_trans hcount (s₀.challenges_le_one acts)
  · exact (bound_run hbound hs₀ hstanding acts).nodup
  · rintro ⟨result, hp⟩
    rw [hstate, hp]
    rfl
  · have hfinished : s.Finished := finished_run (s := s₀) (by rintro _ ⟨⟩) hstanding acts
    obtain ⟨hlast, hterminal⟩ := hfinished result hp
    exact ⟨hlast, hterminal, events_over hp⟩
  · have hrunning : s.phase ≠ .idle := by
      obtain ⟨before, after, rfl⟩ := List.append_of_mem hstart
      change (s₀.run (before ++ .start :: after)).phase ≠ .idle
      rw [run_append]
      exact running_run (start_act (standing_run hstanding before)) after
    exact (start_of_running hrunning).symm

/-- A session without subscriptions that its owner closes. -/
theorem lifecycle_run_closed :
    let s := (create .standard ⟨none⟩ ⟨1⟩ (.create "" true none none)).run
      [.start, .step, .step, .step, .step, .close, .step]
    s.events.filterMap ConnectionEvent.change? = [(.disconnected, .connecting),
      (.connecting, .subscribing), (.subscribing, .streaming), (.streaming, .terminated)] ∧
      s.phase = .ended (.ok ()) ∧ s.close = .error .terminated ∧
      ∀ later, (s.run later).events = s.events := by
  intro s
  have hp : s.phase = .ended (.ok ()) := rfl
  obtain ⟨-, -, -, hterminated, -, hended, -, hover⟩ :=
    lifecycle_run .standard ⟨none⟩ ⟨1⟩ (.create "" true none none)
      [.start, .step, .step, .step, .step, .close, .step]
  obtain ⟨-, -, hlater⟩ := hended _ hp
  exact ⟨by decide +kernel, hp, (hover (hterminated.mpr ⟨_, hp⟩)).2.2.1,
    fun later => (hlater later).2⟩

end Session
end MarketWire
