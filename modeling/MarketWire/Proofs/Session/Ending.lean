import MarketWire.Proofs.Session.History

/-!
# How a session ends for its subscribers

When the loop is over, every subscriber that has not left has a closed sink, and has been told by
one last message or by the other side's word that its channel is closed. Everybody is told of the
same ending. The invariant is on one subscription at a time: while it is in the registry, nothing
final has been said to it, and it leaves the registry with its sink closed.
-/
namespace MarketWire

def StreamMessage.ending? : StreamMessage → Option Ending
  | .terminated e => some e
  | _ => none

def ConnectionEvent.ending? : ConnectionEvent → Option Ending
  | .terminated e => some e
  | _ => none

def NoFinal (ms : List StreamMessage) : Prop := ∀ m ∈ ms, m.isFinal = false

/-- The last message of a history is final, and only that one. -/
def EndsFinal (ms : List StreamMessage) : Prop :=
  ∃ before m, ms = before ++ [m] ∧ m.isFinal = true ∧ NoFinal before

theorem noFinal_nil : NoFinal [] := fun _ hm => absurd hm List.not_mem_nil

theorem NoFinal.append {ms ms' : List StreamMessage} (h : NoFinal ms) (h' : NoFinal ms') :
    NoFinal (ms ++ ms') := by
  intro m hm
  rcases List.mem_append.mp hm with hm | hm
  · exact h m hm
  · exact h' m hm

theorem NoFinal.left {ms ms' : List StreamMessage} (h : NoFinal (ms ++ ms')) : NoFinal ms :=
  fun m hm => h m (List.mem_append_left ms' hm)

namespace Registry

/-- What has become of a subscription, in terms of its sink and of what its subscriber has `past`
received; `u` tells whether the other side closed its channel. -/
inductive Fate (r : Registry) (id : Nat) (past : List StreamMessage) (u : Prop) :
    Option (Sink StreamMessage) → Prop where
  | unborn (h : NoFinal past) : Fate r id past u none
  | present {k : Sink StreamMessage} (hid : id ∈ r.ids) (h : NoFinal (past ++ k.queue)) :
      Fate r id past u (some k)
  | settled {k : Sink StreamMessage} (hid : id ∉ r.ids) (hc : k.closed = true)
      (h : k.detached = true ∨ EndsFinal (past ++ k.queue) ∨ u ∧ NoFinal (past ++ k.queue)) :
      Fate r id past u (some k)

namespace Fate

variable {r : Registry} {op : Op} {id : Nat} {past : List StreamMessage} {u : Prop}
  {k k' : Sink StreamMessage}

theorem mono (h : r.Fate id past u (r.sink? id)) {u' : Prop} (hu : u → u') :
    r.Fate id past u' (r.sink? id) := by
  generalize r.sink? id = k at h ⊢
  cases h with
  | unborn hno => exact .unborn hno
  | present hin hno => exact .present hin hno
  | settled hout hc hend => exact .settled hout hc (hend.imp_right (Or.imp_right (And.imp_left hu)))

theorem offer (h : r.Fate id past u (some k)) (hid : id ∈ (r.perform op).ids ↔ id ∈ r.ids)
    {m : StreamMessage} (hm : m.isFinal = false) :
    (r.perform op).Fate id past u (some (k.offer m).2) := by
  cases h with
  | present hin hno =>
    refine .present (hid.mpr hin) (hno.left.append fun m' hm' => ?_)
    rcases Sink.mem_queue_offer hm' with hm' | rfl
    · exact hno m' (List.mem_append_right past hm')
    · exact hm
  | settled hout hc hend =>
    have hclosed : k.isClosed = true := by simp [Sink.isClosed, hc]
    rw [Sink.offer_of_isClosed hclosed]
    exact .settled (fun hin => hout (hid.mp hin)) hc hend

theorem detach (h : r.Fate id past u (some k)) (hid : id ∈ (r.perform op).ids ↔ id ∈ r.ids) :
    (r.perform op).Fate id past u (some k.detach) := by
  cases h with
  | present hin hno => exact .present (hid.mpr hin) (hno.left.append noFinal_nil)
  | settled hout hc hend => exact .settled (fun hin => hout (hid.mp hin)) hc (Or.inl rfl)

/-- The farewell comes behind messages that are not final, unless nobody listens. -/
theorem finish (h : r.Fate id past u (some k)) (hr : r.Sound) (hk : r.sink? id = some k)
    (hin : id ∈ r.ids) (hout : id ∉ (r.perform op).ids) {m : StreamMessage}
    (hm : m.isFinal = true) : (r.perform op).Fate id past u (some (k.finish m).2) := by
  refine .settled hout (Sink.closed_finish k m) ?_
  cases h with
  | present _ hno =>
    rw [Sink.queue_finish_of_open (hr.opened id hin k hk), (Sink.fields_finish k m).1]
    cases hd : k.detached with
    | true => exact Or.inl rfl
    | false => exact Or.inr (Or.inl ⟨past ++ k.queue, m, by simp, hm, hno⟩)
  | settled hno => exact absurd hin hno

/-- What an operation does to a subscription agrees with its fate. A channel is closed without a
farewell only if the other side says so or nobody listens. -/
theorem perform (h : r.Fate id past u (r.sink? id)) (hr : r.Sound) (hop : op.Fitting)
    (hrecv : op ≠ .receive id)
    (hclose : ∀ chanId a, op = .close chanId → r.owner? chanId = some a → a.id = id →
      u ∨ (r.sink? id).any (·.detached) = true) :
    (r.perform op).Fate id past u ((r.perform op).sink? id) := by
  cases hk' : (r.perform op).sink? id with
  | none =>
    -- sinks stay, so there was none before
    cases hk : r.sink? id with
    | none =>
      rw [hk] at h
      cases h with
      | unborn hno => exact .unborn hno
    | some k =>
      obtain ⟨k', hs, -⟩ := hr.passage op hk
      rw [hk'] at hs
      cases hs
  | some k' =>
    rcases hr.passage_or_subscribed hk' with ⟨k, hk, hp⟩ | ⟨feed, capacity, overflow, rfl, rfl, rfl⟩
    · rw [hk] at h
      cases hp with
      | kept hid =>
        cases h with
        | present hin hno => exact .present (hid.mpr hin) hno
        | settled hout hc hend => exact .settled (fun hin => hout (hid.mp hin)) hc hend
      | bound hid chanId =>
        cases h with
        | present hin hno => exact .present (hid.mpr hin) hno
        | settled hout hc hend => exact .settled (fun hin => hout (hid.mp hin)) hc hend
      | offered hid m he =>
        subst he
        exact h.offer hid hop
      | received _ he => exact absurd he hrecv
      | detached hid => exact h.detach hid
      | finished hin hout m hm => exact h.finish hr hk hin hout (hop.farewell hm)
      | closed hin hout chanId a he ho hid =>
        refine .settled hout rfl ?_
        cases h with
        | present _ hno =>
          rcases hclose chanId a he ho hid with hu | hd
          · exact Or.inr (Or.inr ⟨hu, hno⟩)
          · rw [hk] at hd
            exact Or.inl hd
        | settled hno => exact absurd hin hno
    · rw [hr.sink?_nextId] at h
      cases h with
      | unborn hno =>
        refine .present ?_ (hno.append noFinal_nil)
        exact mem_ids.mpr (Or.inl ⟨_, List.mem_append_right _ List.mem_cons_self, rfl⟩)

end Fate
end Registry

namespace Session

/-- The loop's next step closes the channel of a subscription, since the other side says so. -/
def EndsChannelOf (s : Session) (id : Nat) : Prop :=
  ∃ status chanId a, s.nextFrame? = some (.event (.unsubscribed status chanId)) ∧
    s.registry.owner? chanId = some a ∧ a.id = id

/-- In the course of a run the other side closed the channel that a subscription owned. -/
def Unsubscribed (s : Session) (id : Nat) (acts : List Act) : Prop :=
  ∃ before after, acts = before ++ .step :: after ∧ (s.run before).EndsChannelOf id

theorem Unsubscribed.concat {s : Session} {id : Nat} {acts : List Act}
    (h : s.Unsubscribed id acts) (a : Act) : s.Unsubscribed id (acts ++ [a]) := by
  obtain ⟨before, after, rfl, hs⟩ := h
  exact ⟨before, after ++ [a], by simp, hs⟩

/-! ## What acts are permitted -/

/-- A channel is closed because the other side says so, or because its subscriber has left. -/
theorem Permits.close {s : Session} {r : Registry} {a : Act} {chanId : Int64} (hs : s.Sound)
    (h : s.Permits r a (.close chanId)) {o : Active} (ho : r.owner? chanId = some o) :
    a = .step ∧ (s.EndsChannelOf o.id ∨ (r.sink? o.id).any (·.detached) = true) := by
  cases h with
  | unsubscribed hf hown => exact ⟨rfl, Or.inl ⟨_, _, o, hf, hown ▸ ho, rfl⟩⟩
  | @released b l hp hd hown =>
    obtain ⟨o', ho', hid⟩ := hs.delivering b l hp
    rw [hown, ho'] at ho
    cases ho
    exact ⟨rfl, Or.inr (hid ▸ hd)⟩

theorem fate_performs {s : Session} {a : Act} {r : Registry} (h : s.Performs a r) (hs : s.Sound)
    {id : Nat} {past : List StreamMessage} {u : Prop} (ha : a ≠ .receive id)
    (hu : a = .step → s.EndsChannelOf id → u)
    (hf : s.registry.Fate id past u (s.registry.sink? id)) : r.Fate id past u (r.sink? id) := by
  induction h with
  | start => exact hf
  | perform h hop ih =>
    refine ih.perform (h.sound hs.registry) hop.fitting ?_ ?_
    · rintro rfl
      cases hop
      exact ha rfl
    · rintro chanId o rfl ho rfl
      obtain ⟨rfl, hend⟩ := hop.close hs ho
      exact hend.imp_left (hu rfl)

/-! ## Runs -/

theorem fate_receive {s : Session} {id : Nat} {past : List StreamMessage} {u : Prop}
    (hf : s.registry.Fate id past u (s.registry.sink? id)) :
    (s.act (.receive id)).registry.Fate id (past ++ s.taken id (.receive id)) u
      ((s.act (.receive id)).registry.sink? id) := by
  have hq := s.taken_append_queued id id
  have hr : (s.act (.receive id)).registry = s.registry.perform (.receive id) := rfl
  have hids : (s.act (.receive id)).registry.ids = s.registry.ids :=
    Registry.ids_eq_of_entries (Registry.entries_receive s.registry id)
  have hk' := Registry.sink?_receive s.registry id id
  rw [if_pos rfl] at hk'
  cases hk : s.registry.sink? id with
  | none =>
    rw [hk] at hf hk'
    rw [Registry.queued_of_none hk] at hq
    rw [hr, Registry.perform, hk', (List.append_eq_nil_iff.mp hq).1, List.append_nil]
    cases hf with
    | unborn hno => exact .unborn hno
  | some k =>
    rw [hk] at hf hk'
    rw [hr, Registry.perform] at hq hids
    rw [Registry.queued_of_some hk', Registry.queued_of_some hk] at hq
    rw [hr, Registry.perform, hk']
    obtain ⟨hclosed, hdetached, -⟩ := k.fields_receive
    cases hf with
    | present hin hno =>
      refine .present (hids ▸ hin) ?_
      rw [List.append_assoc, hq]
      exact hno
    | settled hout hc hend =>
      refine .settled (hids ▸ hout) (hclosed.trans hc) ?_
      rw [List.append_assoc, hq, hdetached]
      exact hend

theorem fate_run {s : Session} (hs : s.Sound) {id : Nat} (hid : s.registry.sink? id = none)
    (acts : List Act) :
    (s.run acts).registry.Fate id (s.received id acts) (s.Unsubscribed id acts)
      ((s.run acts).registry.sink? id) := by
  -- acts are added at the end, since what has been received is the past of the next one
  induction acts using List.reverseRecOn with
  | nil =>
    change s.registry.Fate id [] _ (s.registry.sink? id)
    rw [hid]
    exact .unborn noFinal_nil
  | append_singleton acts a ih =>
    have hstay : s.Unsubscribed id acts → s.Unsubscribed id (acts ++ [a]) := fun hu => hu.concat a
    rw [run_concat, received_concat]
    by_cases ha : a = .receive id
    · subst ha
      exact fate_receive (ih.mono hstay)
    · rw [taken_eq_nil _ _ ha, List.append_nil]
      refine fate_performs (performs_act _ a) (hs.run acts) ha ?_ (ih.mono hstay)
      rintro rfl hend
      exact ⟨acts, [], rfl, hend⟩

/-! ## One ending for all -/

theorem ended_act {s : Session} {result : Except ConnectionError Unit}
    (h : s.phase = .ended result) (a : Act) : (s.act a).phase = .ended result := by
  by_cases ha : a = .step
  · subst ha
    simp [act, step?, h]
  · rcases (s.fields_act ha).1 with he | ⟨hidle, -⟩
    · exact he.trans h
    · rw [h] at hidle
      cases hidle

theorem told_performs {s : Session} {a : Act} {r : Registry} (h : s.Performs a r) (hs : s.Sound)
    {id : Nat} {m : StreamMessage} {e : Ending} (hm : m ∈ r.queued id) (he : m.ending? = some e) :
    m ∈ s.registry.queued id ∨
      ∃ result, (s.act a).phase = .ended result ∧ e = endingOf result := by
  induction h with
  | start => exact Or.inl hm
  | perform h hop ih =>
    rcases Registry.mem_queued_perform (h.sound hs.registry) hm with hm | rfl | hf
    · exact ih hm
    · cases m with
      | terminated => cases hop.fitting
      | _ => cases he
    · cases hop with
      | acknowledged => cases hf; cases he
      | authenticated => cases hf; cases he
      | joined => cases hf; cases he
      | refused => cases hf; cases he
      | @concluded s' result hs' hp =>
        cases hf
        cases he
        exact Or.inr ⟨result, by simpa [act, hs'] using hp, rfl⟩
      | _ => cases hf

/-- Subscribers are told of an ending only when the session is over, and of that one. -/
theorem told_run {s : Session} (hs : s.Sound) {id : Nat} (hid : s.registry.queued id = [])
    (acts : List Act) {m : StreamMessage} {e : Ending} (hm : m ∈ s.history id acts)
    (he : m.ending? = some e) :
    ∃ result, (s.run acts).phase = .ended result ∧ e = endingOf result := by
  induction acts using List.reverseRecOn with
  | nil =>
    simp [history, received, run, hid] at hm
  | append_singleton acts a ih =>
    rw [run_concat]
    have hpast : m ∈ s.history id acts →
        ∃ result, ((s.run acts).act a).phase = .ended result ∧ e = endingOf result := by
      intro hm
      obtain ⟨result, hp, he⟩ := ih hm
      exact ⟨result, ended_act hp a, he⟩
    by_cases ha : a = .receive id
    · subst ha
      rw [history_receive] at hm
      exact hpast hm
    · rw [history_concat s id acts ha] at hm
      rcases List.mem_append.mp hm with hm | hm
      · exact hpast (List.mem_append_left _ hm)
      · rcases told_performs (performs_act _ a) (hs.run acts) hm he with hm | hend
        · exact hpast (List.mem_append_right _ hm)
        · exact hend

def endings (s : Session) : List Ending := s.events.filterMap ConnectionEvent.ending?

theorem endings_setState (s : Session) (after : ConnectionState) :
    (s.setState after).endings = s.endings := by
  rw [setState_eq]
  unfold endings
  rw [List.filterMap_append]
  split <;> exact List.append_nil _

theorem endings_emit (s : Session) {e : ConnectionEvent} (h : e.ending? = none) :
    (s.emit e).endings = s.endings := by
  simp [endings, emit, h]

theorem endings_halt {s s₁ : Session} {result : Except ConnectionError Unit}
    (h : s.Halt s₁ result) : s₁.endings = s.endings := by
  cases h with
  | connecting hp hl => exact s.endings_setState _
  | signing hp ha => exact s.endings_setState _
  | authenticating hp ha hl => exact s.endings_setState _
  | releasing hp hm hd hl =>
    rw [closeChannel_eq]
    rfl
  | _ => rfl

theorem endings_conclude (s : Session) (result : Except ConnectionError Unit) :
    (s.conclude result).endings = s.endings ++ [endingOf result] := by
  rw [conclude_eq]
  unfold endings
  rw [List.filterMap_append]
  exact congrArg (· ++ [endingOf result]) (s.endings_setState .terminated)

theorem endings_bindAccount (s : Session) (chanId : Int64) :
    (s.bindAccount chanId).endings = s.endings := by
  rw [bindAccount_eq]
  unfold endings
  rw [List.filterMap_append]
  cases (s.registry.bindAccount chanId).1 <;> exact List.append_nil _

theorem endings_acknowledge (s : Session) (a : Subscribed) :
    (s.acknowledge a).endings = s.endings := by
  rw [acknowledge_eq]
  unfold endings
  rw [List.filterMap_append]
  cases (s.registry.bind (.ofSubscribed a) a.chanId).1 <;> exact List.append_nil _

theorem endings_turn {s s' : Session} (h : s.Turn s') (hp : s'.phase.result? = none) :
    s'.endings = s.endings := by
  cases h with
  | halt h =>
    rw [conclude_eq] at hp
    cases hp
  | connected hp hl => exact s.endings_setState _
  | publicly hp hr => exact s.endings_setState _
  | authenticating hp ha hl => exact s.endings_setState _
  | opened hp => exact s.endings_setState _
  | @joined chanId cs hp hc hr ha =>
    exact endings_bindAccount { s with commands := cs } chanId
  | @authenticated p d r hp hf hr =>
    simp only [concludeHandshake, hr, if_true]
    exact (endings_setState _ _).trans
      ((endings_bindAccount _ _).trans (endings_emit s.read rfl))
  | informed hp hf => exact endings_emit s.read rfl
  | acknowledged hp hf => exact endings_acknowledge s.read _
  | unsubscribed hp hf =>
    rw [closeChannel_eq]
    exact endings_emit _ rfl
  | @refused l r hp hf =>
    rcases refuse_eq s.read r with ⟨a, p, -, -, he⟩ | ⟨-, he⟩
    · rw [he]
      rfl
    · rw [he]
      exact endings_emit s.read rfl
  | released hp hm ho hd hc =>
    rw [closeChannel_eq]
    rfl
  | releasing hp hm ho hd hc hl =>
    rw [closeChannel_eq]
    rfl
  | _ => rfl

/-- The one ending that is told of a session is that of its result. -/
theorem endings_run {s : Session} (h : s.endings = s.phase.result?.toList.map endingOf)
    (acts : List Act) :
    (s.run acts).endings = (s.run acts).phase.result?.toList.map endingOf := by
  refine run_induction (P := fun s => s.endings = s.phase.result?.toList.map endingOf) h ?_ acts
  intro s a h
  by_cases ha : a = .step
  · subst ha
    rcases s.act_step_cases with he | ⟨hs, ht⟩
    · rw [he]
      exact h
    · have hnone : s.phase.result? = none := by
        cases hp : s.phase with
        | ended result => simp [step?, hp] at hs
        | _ => rfl
      rw [hnone] at h
      rcases phase_of_turn ht with ⟨s₁, result, hh, he⟩ | ⟨b, l, hp, -⟩ | ⟨-, hp⟩
      · rw [he, endings_conclude, endings_halt hh, h, conclude_eq]
        rfl
      · rw [endings_turn ht (by rw [hp]; rfl), h, hp]
        rfl
      · rw [endings_turn ht hp, h, hp]
  · obtain ⟨hphase, -, hevents, -⟩ := s.fields_act ha
    have hend : (s.act a).endings = s.endings := congrArg (List.filterMap _) hevents
    rw [hend, h]
    rcases hphase with he | ⟨hidle, he⟩
    · rw [he]
    · rw [he, hidle]
      rfl

/-! ## The end of a run -/

/-- When the loop is over, the registry is empty, and every subscriber that has not left has a
closed sink; it has been told by one last message, or by none if the other side closed its channel.
The session and its subscribers are told of one ending. -/
theorem ended_run (config : ConnectionConfig) (signer : Signer) (counter : Counter) (link : Link)
    (acts : List Act) {result : Except ConnectionError Unit}
    (h : ((create config signer counter link).run acts).phase = .ended result) :
    let s := create config signer counter link
    (s.run acts).state = .terminated ∧
      (s.run acts).registry.pending = [] ∧ (s.run acts).registry.active = [] ∧
      (∀ before feed after id t, acts = before ++ .register feed :: after →
        (s.run before).register feed = .ok (id, t) → .leave id ∉ after →
        ∃ k, (s.run acts).registry.sink? id = some k ∧ k.closed = true ∧
          (EndsFinal (s.history id acts) ∨
            NoFinal (s.history id acts) ∧ s.Unsubscribed id acts)) ∧
      ∃ e : Ending,
        (match result with
          | .ok _ => e.kind = .closed
          | .error failure => e = failure.ending) ∧
        (s.run acts).events.filterMap ConnectionEvent.ending? = [e] ∧
        ∀ id, ∀ m ∈ s.history id acts, ∀ e', m.ending? = some e' → e' = e := by
  intro s
  have hs : s.Sound := sound_create config signer counter link
  have hnone : ∀ id, s.registry.sink? id = none := fun id => rfl
  obtain ⟨hstate, hpending, hactive⟩ := (hs.run acts).ended result h
  refine ⟨hstate, hpending, hactive, ?_, endingOf result, ?_, ?_, ?_⟩
  · rintro before feed after id t rfl hreg hleave
    have hstep : (s.run before).act (.register feed) = t := act_of_register hreg
    have hatt : ((s.run before).act (.register feed)).registry.Attached id :=
      hstep ▸ attached_register (hs.run before) hreg
    obtain ⟨k, hk, hd⟩ := attached_run ((hs.run before).act _) hatt hleave
    have hrun : s.run (before ++ .register feed :: after) =
        ((s.run before).act (.register feed)).run after := run_append s before _
    rw [← hrun] at hk
    have hf := fate_run hs (hnone id) (before ++ .register feed :: after)
    rw [hk] at hf
    cases hf with
    | present hin => simp [Registry.ids, hpending, hactive] at hin
    | settled _ hc hend =>
      have hh : s.history id (before ++ .register feed :: after) =
          s.received id (before ++ .register feed :: after) ++ k.queue := by
        rw [history, Registry.queued_of_some hk]
      refine ⟨k, hk, hc, ?_⟩
      rw [hh]
      rcases hend with hgone | hend | ⟨hu, hno⟩
      · rw [hd] at hgone
        cases hgone
      · exact Or.inl hend
      · exact Or.inr ⟨hno, hu⟩
  · cases result <;> rfl
  · have he := endings_run (s := s) rfl acts
    rw [h] at he
    exact he
  · intro id m hm e' he'
    obtain ⟨result', hp, rfl⟩ := told_run hs (Registry.queued_of_none (hnone id)) acts hm he'
    rw [h] at hp
    cases hp
    rfl

/-- A session that is closed on request while a subscription waits for its answer. -/
theorem ended_run_closed :
    let s := create .standard ⟨none⟩ ⟨1⟩ (.create "" true none none)
    let acts := [.register (.candles "trade:1m:tBTCUSD"), .start, .step, .step, .step, .step, .step,
      .close, .step]
    (s.run acts).phase = .ended (.ok ()) ∧
      ∃ k, (s.run acts).registry.sink? 0 = some k ∧ k.closed = true ∧
        (EndsFinal (s.history 0 acts) ∨ NoFinal (s.history 0 acts) ∧ s.Unsubscribed 0 acts) := by
  intro s acts
  have hp : (s.run acts).phase = .ended (.ok ()) := Phase.ended_of_isOk (by decide +kernel)
  obtain ⟨-, -, -, hstreams, -⟩ := ended_run _ _ _ _ acts hp
  have hreg : s.register (.candles "trade:1m:tBTCUSD") =
      .ok (0, s.run [.register (.candles "trade:1m:tBTCUSD")]) := rfl
  have hstay : Act.leave 0 ∉ acts.tail := by simp [acts]
  exact ⟨hp, hstreams [] _ acts.tail 0 _ rfl hreg hstay⟩

end Session
end MarketWire
