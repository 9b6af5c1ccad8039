import MarketWire.Proofs.Session.Account
import MarketWire.Proofs.Session.Gate

/-!
# Subscribers that are gone

The loop finds out that a subscriber has left when it delivers a row to it. It then takes the
channel from the subscription, drops the rows that are left, and asks the other side for the
channel's end, unless it is the account channel. Nobody else notices. Nothing else makes the loop
ask for the end of a channel but the owner's wish.
-/
namespace MarketWire
namespace Registry

variable {r r' r'' : Registry} {id : Nat}

/-- A subscription has the same entry and the same sink in both registries. -/
structure Same (r r' : Registry) (id : Nat) : Prop where
  pending : ∀ p : Pending, p.id = id → (p ∈ r'.pending ↔ p ∈ r.pending)
  active : ∀ a : Active, a.id = id → (a ∈ r'.active ↔ a ∈ r.active)
  sink : r'.sink? id = r.sink? id

namespace Same

theorem refl (r : Registry) (id : Nat) : r.Same r id :=
  ⟨fun _ _ => Iff.rfl, fun _ _ => Iff.rfl, rfl⟩

theorem trans (h : r.Same r' id) (h' : r'.Same r'' id) : r.Same r'' id where
  pending p hp := (h'.pending p hp).trans (h.pending p hp)
  active a ha := (h'.active a ha).trans (h.active a ha)
  sink := h'.sink.trans h.sink

end Same

theorem same_offer (r : Registry) {k : Nat} (hid : id ≠ k) (m : StreamMessage) :
    r.Same (r.perform (.offer k m)) id := by
  obtain ⟨hpending, hactive, -⟩ := entries_offer r k m
  refine ⟨fun p _ => ?_, fun a _ => ?_, (sink?_offer r k m id).trans (if_neg hid)⟩
  · rw [Registry.perform, hpending]
  · rw [Registry.perform, hactive]

theorem Sound.same_close (h : r.Sound) {chanId : Int64} {o : Active}
    (ho : r.owner? chanId = some o) (hid : id ≠ o.id) : r.Same (r.perform (.close chanId)) id := by
  rw [Registry.perform, closeOwner_of_some ho]
  refine ⟨fun p _ => Iff.rfl, fun a ha => ?_, ?_⟩
  · have hmem : a ∈ (r.withoutOwner chanId).active ↔ a ∈ r.active ∧ (a.chanId != chanId) = true :=
      List.mem_filter
    refine hmem.trans (and_iff_left_of_imp fun hin => ?_)
    rw [bne_iff_ne]
    rintro rfl
    rw [h.owner?_of_mem hin] at ho
    exact hid (ha ▸ congrArg Active.id (Option.some.inj ho))
  · exact (sink?_updateSink ..).trans (if_neg hid)

/-- Nothing waits for a subscriber that has left. -/
def Emptied (r : Registry) : Prop := ∀ id k, r.sink? id = some k → k.detached = true → k.queue = []

theorem Passage.queue_eq_nil {op : Op} {k k' : Sink StreamMessage} (h : r.Passage op id k k')
    (hk : k.detached = true → k.queue = []) (hd : k'.detached = true) : k'.queue = [] := by
  cases h with
  | kept => exact hk hd
  | bound => exact hk hd
  | offered _ m =>
    have hd : k.detached = true := (Sink.fields_offer k m).2.1.symm.trans hd
    rw [Sink.offer_of_isClosed (by simp [Sink.isClosed, hd])]
    exact hk hd
  | received =>
    have hd : k.detached = true := k.fields_receive.2.1.symm.trans hd
    simp [Sink.receive, Sink.take, hk hd]
  | detached => rfl
  | finished _ _ m =>
    have hd : k.detached = true := (Sink.fields_finish k m).1.symm.trans hd
    unfold Sink.finish
    cases k.closed <;> simp [hd, hk hd]
  | closed => exact hk hd

theorem Emptied.perform (h : r.Emptied) (hr : r.Sound) (op : Op) : (r.perform op).Emptied := by
  intro id k' hk' hd
  rcases hr.passage_or_subscribed hk' with ⟨k, hk, hp⟩ | ⟨feed, capacity, overflow, -, -, rfl⟩
  · exact hp.queue_eq_nil (h id k hk) hd
  · rfl

theorem emptied_empty : Registry.empty.Emptied := by
  intro id k hk
  cases hk

theorem Emptied.queued (h : r.Emptied) (hid : r.Left id) : r.queued id = [] := by
  obtain ⟨k, hk, hd⟩ := hid
  rw [queued_of_some hk]
  exact h id k hk hd

end Registry

theorem Phase.of_batch? {p : Phase} {b : Batch} (h : p.batch? = some b) :
    ∃ l, p = .delivering b l := by
  cases p with
  | delivering c l =>
    cases h
    exact ⟨l, rfl⟩
  | _ => cases h

namespace Session

variable {s u : Session} {b : Batch} {l : Listening} {id : Nat}

theorem emptied_performs {a : Act} {r : Registry} (h : s.Performs a r) (hs : s.Sound)
    (he : s.registry.Emptied) : r.Emptied := by
  induction h with
  | start => exact he
  | perform h hop ih => exact ih.perform (h.sound hs.registry) _

theorem emptied_run (hs : s.Sound) (he : s.registry.Emptied) (acts : List Act) :
    (s.run acts).registry.Emptied := by
  induction acts generalizing s with
  | nil => exact he
  | cons a acts ih => exact ih (hs.act a) (emptied_performs (performs_act s a) hs he)

theorem left_run (hs : s.Sound) (hid : s.registry.Left id) (acts : List Act) :
    (s.run acts).registry.Left id := by
  induction acts generalizing s with
  | nil => exact hid
  | cons a acts ih => exact ih (hs.act a) (left_performs (performs_act s a) hs hid)

/-! ## The frame's rows on their way -/

/-- Rows of the frame that was read in `s` are left to be delivered. -/
structure Underway (s : Session) (b : Batch) (l : Listening) (u : Session) : Prop where
  rows : ∃ rows, rows ≠ [] ∧ rows <:+ b.rows ∧ u.phase = .delivering { b with rows := rows } l
  active : u.registry.active = s.registry.active
  sent : u.sent = s.sent
  account : u.accountChan = s.accountChan

theorem underway_read {d : DataFrame} (hf : s.nextFrame? = some (.data d))
    (hh : d.payload.isHeartbeat = false) (hb : s.batch? d = some b) (hrows : b.rows ≠ []) :
    ∃ l, s.phase = .listening l ∧ (s.act .step).registry = s.registry ∧
      s.Underway b l (s.act .step) := by
  obtain ⟨l, hp, hstep⟩ := step?_of_frame hf
  have hb : s.read.batch? d = some b := hb
  have hact : s.act .step = { s.read with phase := .delivering b l } := by
    have hframe : s.read.handleFrame l (.data d) = s.read.handleData d l := by cases l <;> rfl
    rw [act_step hstep, hframe, handleData, hh]
    simp [hb, deliverRows, hrows]
  rw [hact]
  exact ⟨l, hp, rfl, ⟨b.rows, hrows, List.suffix_refl _, rfl⟩, rfl, rfl, rfl⟩

theorem left_or_attached (hs : s.Sound) (hp : s.phase = .delivering b l) :
    s.registry.Left b.id ∨ s.registry.Attached b.id := by
  obtain ⟨a, ha, hid⟩ := hs.delivering b l hp
  have hin : a.id ∈ s.registry.ids := Registry.mem_ids_of_active (Registry.owner?_eq_some ha).1
  have hlt := hs.registry.issued _ (hid ▸ hin)
  obtain ⟨k, hk⟩ := Option.isSome_iff_exists.mp ((hs.registry.known b.id).mpr hlt)
  cases hd : k.detached with
  | true => exact .inl ⟨k, hk, hd⟩
  | false => exact .inr ⟨k, hk, hd⟩

/-- A row is offered to a subscriber that is there, unless it has to wait for room. -/
theorem act_of_attached (hs : s.Sound) (hp : s.phase = .delivering b l) (hr : b.rows ≠ [])
    (hid : s.registry.Attached b.id) :
    s.act .step = s ∨ ∃ m rows, rows <:+ b.rows ∧
      s.act .step = (s.offering b.id m).deliverRows { b with rows := rows } l := by
  obtain ⟨k, hk, hd⟩ := hid
  obtain ⟨a, ha, hab⟩ := hs.delivering b l hp
  have hin : b.id ∈ s.registry.ids :=
    hab ▸ Registry.mem_ids_of_active (Registry.owner?_eq_some ha).1
  have hopen : k.isClosed = false := by
    simp [Sink.isClosed, hs.registry.opened _ hin k hk, hd]
  obtain ⟨row, rows, hr⟩ := List.exists_cons_of_ne_nil hr
  rcases hm : b.message s.config.batch row with ⟨m, goesOn⟩
  rcases act_delivering hp hr hm hk hopen with ⟨-, hact⟩ | ⟨-, hact⟩
  · exact .inl hact
  · refine .inr ⟨m, _, ?_, hact⟩
    rw [hr]
    cases goesOn with
    | true => exact List.suffix_cons row rows
    | false => exact List.nil_suffix

theorem batch?_release (s : Session) (chanId : Int64) (l : Listening) :
    (s.release chanId l).phase.batch? = none := by
  rw [release_eq]
  split
  · rfl
  · unfold send
    split
    · rw [fail, conclude_eq]
      rfl
    · rfl

/-- As long as rows are delivered, they are those of the frame, and nothing is sent. -/
theorem Underway.act (h : s.Underway b l u) (hu : u.Sound) {a : Act}
    (ha : (u.act a).phase.batch? ≠ none) : s.Underway b l (u.act a) := by
  obtain ⟨rows, hrows, hsuffix, hp⟩ := h.rows
  by_cases hstep : a = .step
  · subst hstep
    rcases left_or_attached hu hp with hleft | hatt
    · obtain ⟨m, hact⟩ := act_of_left hp hrows hleft
      rw [hact, batch?_release] at ha
      exact absurd rfl ha
    · rcases act_of_attached hu hp hrows hatt with hact | ⟨m, rest, hrest, hact⟩
      · rw [hact]
        exact h
      · have hne : rest ≠ [] := by
          rintro rfl
          rw [hact] at ha
          exact ha rfl
        have hdeliver : u.act .step =
            { u.offering b.id m with phase := .delivering { b with rows := rest } l } := by
          simp [hact, deliverRows, hne]
        rw [hdeliver]
        obtain ⟨-, hactive, -⟩ := Registry.entries_offer u.registry b.id m
        exact ⟨⟨rest, hne, hrest.trans hsuffix, rfl⟩, hactive.trans h.active, h.sent, h.account⟩
  · obtain ⟨hphase, -, -, -, hsent⟩ := u.fields_act hstep
    have hphase : (u.act a).phase = u.phase := by
      rcases hphase with he | ⟨hidle, -⟩
      · exact he
      · rw [hp] at hidle
        cases hidle
    have haccount : (u.act a).accountChan = u.accountChan := by
      rcases u.accountChan_act_cases a with he | ⟨rfl, -⟩
      · exact he
      · exact absurd rfl hstep
    exact ⟨⟨rows, hrows, hsuffix, hphase.trans hp⟩, (u.entries_act hstep).1.trans h.active,
      hsent.trans h.sent, haccount.trans h.account⟩

/-- The loop delivers rows all along. -/
def Delivering (s : Session) (acts : List Act) : Prop :=
  ∀ before, before <+: acts → (s.run before).phase.batch? ≠ none

theorem Underway.run (h : s.Underway b l u) (hu : u.Sound) {acts : List Act}
    (hacts : u.Delivering acts) : s.Underway b l (u.run acts) := by
  induction acts generalizing u with
  | nil => exact h
  | cons a acts ih =>
    have hfirst : (u.act a).phase.batch? ≠ none :=
      hacts [a] (List.cons_prefix_cons.mpr ⟨rfl, List.nil_prefix⟩)
    refine ih (h.act hu hfirst) (hu.act a) fun before hbefore => ?_
    exact hacts (a :: before) (List.cons_prefix_cons.mpr ⟨rfl, hbefore⟩)

/-! ## What becomes of the channel -/

/-- The next step finds that the subscriber has left, and releases the channel. -/
structure Released (u : Session) (chanId : Int64) (id : Nat) (l : Listening) : Prop where
  state : (u.act .step).registry.state? id = some .closed
  owner : (u.act .step).registry.owner? chanId = none
  /-- The row and those behind it are queued nowhere, then and ever after. -/
  queue : ∀ later, ((u.act .step).run later).registry.queued id = []
  account : some chanId = u.accountChan →
    (u.act .step).sent = u.sent ∧ (u.act .step).phase = .listening l
  asked : some chanId ≠ u.accountChan → u.link.send = .ok () →
    (u.act .step).sent = u.sent ++ [.unsubscribe chanId] ∧ (u.act .step).phase = .listening l
  /-- A link that refuses the request ends the session. -/
  failed : ∀ e, some chanId ≠ u.accountChan → u.link.send = .error e →
    (u.act .step).sent = u.sent ∧ (u.act .step).phase = .ended (.error (.link e))
  /-- The release leaves the others alone; if the session ends, they are told of that alone. -/
  others : ∃ r : Registry, (∀ k, k ≠ id → u.registry.Same r k) ∧
    ((u.act .step).phase = .listening l ∧ (u.act .step).registry = r ∨
      ∃ e, (u.act .step).phase = .ended (.error (.link e)) ∧
        (u.act .step).registry = r.perform (.drain (.terminated (endingOf (.error (.link e))))))

/-- The next step delivers a row to a subscriber that is there, or waits for room. -/
structure Held (u : Session) (b : Batch) (l : Listening) : Prop where
  state : (u.act .step).registry.state? b.id = some .active
  owner : (u.act .step).registry.owner? b.chanId = u.registry.owner? b.chanId
  sent : (u.act .step).sent = u.sent
  phase : (u.act .step).phase = .listening l ∨
    ∃ rows, (u.act .step).phase = .delivering { b with rows := rows } l
  others : ∀ k, k ≠ b.id → u.registry.Same (u.act .step).registry k

theorem fields_fail (s : Session) (e : ConnectionError) :
    (s.fail e).phase = .ended (.error e) ∧ (s.fail e).sent = s.sent ∧
      (s.fail e).registry = s.registry.perform (.drain (.terminated (endingOf (.error e)))) := by
  rw [fail, conclude_eq]
  exact ⟨rfl, rfl, rfl⟩

/-- A channel that has an owner is released in one of three ways. -/
theorem release_cases {chanId : Int64} {o : Active} (ho : s.registry.owner? chanId = some o)
    (l : Listening) :
    let t := { s with registry := s.registry.perform (.close chanId) }
    some chanId = s.accountChan ∧ s.release chanId l = { t with phase := .listening l } ∨
    some chanId ≠ s.accountChan ∧ s.link.send = .ok () ∧
      s.release chanId l =
        { t with sent := s.sent ++ [.unsubscribe chanId], phase := .listening l } ∨
    some chanId ≠ s.accountChan ∧ ∃ e, s.link.send = .error e ∧
      s.release chanId l = t.fail (.link e) := by
  intro t
  have hclose : s.closeChannel chanId = t := closeChannel_eq s chanId
  rw [release_eq, hclose, ho]
  by_cases hc : some chanId = s.accountChan
  · exact .inl ⟨hc, if_pos (.inr hc)⟩
  · rw [if_neg (by simpa using hc)]
    cases hl : s.link.send with
    | ok _ => exact .inr (.inl ⟨hc, rfl, by simp [send, t, hl]⟩)
    | error e => exact .inr (.inr ⟨hc, e, rfl, by simp [send, t, hl]⟩)

/-- So is that of a subscriber that has left, when a row comes up for it. -/
theorem act_of_left_cases (hs : s.Sound) (hp : s.phase = .delivering b l) (hr : b.rows ≠ [])
    (hleft : s.registry.Left b.id) : ∃ m,
    let t := { s with registry := (s.offering b.id m).registry.perform (.close b.chanId) }
    some b.chanId = s.accountChan ∧ s.act .step = { t with phase := .listening l } ∨
    some b.chanId ≠ s.accountChan ∧ s.link.send = .ok () ∧
      s.act .step =
        { t with sent := s.sent ++ [.unsubscribe b.chanId], phase := .listening l } ∨
    some b.chanId ≠ s.accountChan ∧ ∃ e, s.link.send = .error e ∧
      s.act .step = t.fail (.link e) := by
  obtain ⟨m, hact⟩ := act_of_left hp hr hleft
  obtain ⟨o, ho, -⟩ := hs.delivering b l hp
  rw [hact]
  exact ⟨m, release_cases ((owner?_offering s b.id m b.chanId).trans ho) l⟩

theorem released_of_left (hs : u.Sound) (he : u.registry.Emptied)
    (hp : u.phase = .delivering b l) (hr : b.rows ≠ []) (hleft : u.registry.Left b.id) :
    u.Released b.chanId b.id l := by
  have hout : b.id ∉ (u.act .step).registry.ids :=
    not_mem_ids_of_findsGone hs ⟨hleft, b, l, hp, rfl, hr⟩
  have hsound := hs.act .step
  have hempty := emptied_performs (performs_act u .step) hs he
  have hleft' := left_performs (performs_act u .step) hs hleft
  obtain ⟨m, hcases⟩ := act_of_left_cases hs hp hr hleft
  obtain ⟨o, ho, hoid⟩ := hs.delivering b l hp
  have hoffering : (u.offering b.id m).registry.Sound := hs.registry.perform (.offer b.id m)
  have ho' : (u.offering b.id m).registry.owner? b.chanId = some o :=
    (owner?_offering u b.id m b.chanId).trans ho
  have hclosed : ((u.offering b.id m).registry.perform (.close b.chanId)).owner? b.chanId = none :=
    ((u.offering b.id m).registry.owner?_closeOwner b.chanId b.chanId).trans (if_pos rfl)
  have hothers : ∀ k, k ≠ b.id →
      u.registry.Same ((u.offering b.id m).registry.perform (.close b.chanId)) k := fun k hk =>
    (u.registry.same_offer hk m).trans (hoffering.same_close ho' (hoid.symm ▸ hk))
  constructor
  case state =>
    exact Registry.state?_of_left hout (lt_nextId_of_left hsound hleft')
  case owner =>
    rcases hcases with ⟨-, h⟩ | ⟨-, -, h⟩ | ⟨-, e, -, h⟩
    · rw [h]
      exact hclosed
    · rw [h]
      exact hclosed
    · have hended := (hsound.ended _ (h ▸ (fields_fail _ _).1)).2.2
      simp [Registry.owner?, hended]
  case queue =>
    exact fun later => (emptied_run hsound hempty later).queued (left_run hsound hleft' later)
  case account =>
    intro hc
    rcases hcases with ⟨-, h⟩ | ⟨hne, -⟩ | ⟨hne, -⟩
    · rw [h]
      exact ⟨rfl, rfl⟩
    · exact absurd hc hne
    · exact absurd hc hne
  case asked =>
    intro hc hl
    rcases hcases with ⟨heq, -⟩ | ⟨-, -, h⟩ | ⟨-, e, hl', -⟩
    · exact absurd heq hc
    · rw [h]
      exact ⟨rfl, rfl⟩
    · cases hl.symm.trans hl'
  case failed =>
    intro e hc hl
    rcases hcases with ⟨heq, -⟩ | ⟨-, hl', -⟩ | ⟨-, e', hl', h⟩
    · exact absurd heq hc
    · cases hl.symm.trans hl'
    · cases hl.symm.trans hl'
      obtain ⟨hphase, hsent, -⟩ := fields_fail _ (.link e)
      rw [h]
      exact ⟨hsent, hphase⟩
  case others =>
    refine ⟨_, hothers, ?_⟩
    rcases hcases with ⟨-, h⟩ | ⟨-, -, h⟩ | ⟨-, e, -, h⟩
    · rw [h]
      exact .inl ⟨rfl, rfl⟩
    · rw [h]
      exact .inl ⟨rfl, rfl⟩
    · obtain ⟨hphase, -, hregistry⟩ := fields_fail _ (.link e)
      rw [h]
      exact .inr ⟨e, hphase, hregistry⟩

theorem held_of_attached (hs : u.Sound) (hp : u.phase = .delivering b l) (hr : b.rows ≠ [])
    (hid : u.registry.Attached b.id) : u.Held b l := by
  obtain ⟨o, ho, hoid⟩ := hs.delivering b l hp
  have hactive {r : Registry} (hr : r.Sound) (ho : r.owner? b.chanId = some o) :
      r.state? b.id = some .active := by
    have hmem := (Registry.owner?_eq_some ho).1
    exact Registry.state?_of_active (fun p hp => hoid ▸ hr.apart p hp o hmem) hmem hoid
  rcases act_of_attached hs hp hr hid with hact | ⟨m, rows, -, hact⟩
  · constructor <;> rw [hact]
    · exact hactive hs.registry ho
    · exact .inr ⟨b.rows, hp⟩
    · exact fun k _ => .refl u.registry k
  · have hregistry : (u.act .step).registry = u.registry.perform (.offer b.id m) := by
      rw [hact]
      rfl
    have howner : (u.act .step).registry.owner? b.chanId = u.registry.owner? b.chanId := by
      rw [hregistry]
      exact owner?_offering u b.id m b.chanId
    constructor
    case state => exact hactive (hs.act .step).registry (howner.trans ho)
    case owner => exact howner
    case sent =>
      rw [hact]
      rfl
    case phase =>
      rw [hact]
      exact ((u.offering b.id m).deliverRows_phase _ l).symm.imp_right fun h => ⟨rows, h⟩
    case others =>
      rw [hregistry]
      exact fun k hk => u.registry.same_offer hk m

end Session

/-! ## What is asked of the other side -/

/-- The channel whose end is asked for. -/
def Outbound.unsubscribed? : Outbound → Option Int64
  | .unsubscribe chanId => some chanId
  | _ => none

namespace Session

variable {s s' : Session}

/-- The channel whose end was asked for in the order that the loop obeys next. -/
def wished? (s : Session) : Option Int64 :=
  match s.phase, s.commands with
  | .listening .serving, .unsubscribe chanId :: _ => some chanId
  | _, _ => none

/-- The channel, other than the account channel, that the loop's next step finds without a
subscriber. -/
def forsaken? (s : Session) : Option Int64 :=
  match s.phase with
  | .delivering b _ =>
    if (s.registry.sink? b.id).any (·.detached) ∧ some b.chanId ≠ s.accountChan then some b.chanId
    else none
  | _ => none

/-- The channels whose end an act makes the loop ask for. -/
def requestsEnd (s : Session) : Act → List Int64
  | .step => s.wished?.toList ++ s.forsaken?.toList
  | _ => []

/-- The channels whose end a run makes the loop ask for, in their order. -/
def requestsEnds (s : Session) : List Act → List Int64
  | [] => []
  | a :: acts => s.requestsEnd a ++ (s.act a).requestsEnds acts

theorem requestsEnds_concat (s : Session) (acts : List Act) (a : Act) :
    s.requestsEnds (acts ++ [a]) = s.requestsEnds acts ++ (s.run acts).requestsEnd a := by
  induction acts generalizing s with
  | nil => simp [requestsEnds, run]
  | cons c acts ih => simp [requestsEnds, ih, run]

/-- The channels whose end has been asked for. -/
def unsubscriptions (s : Session) : List Int64 := s.sent.filterMap Outbound.unsubscribed?

theorem unsubscriptions_congr (h : s'.sent = s.sent) : s'.unsubscriptions = s.unsubscriptions :=
  congrArg (List.filterMap Outbound.unsubscribed?) h

theorem unsubscriptions_concat {o : Outbound} (h : s'.sent = s.sent ++ [o]) :
    s'.unsubscriptions = s.unsubscriptions ++ o.unsubscribed?.toList := by
  rw [unsubscriptions, h, List.filterMap_append]
  cases ho : o.unsubscribed? <;> simp [unsubscriptions, ho]

/-- Where no order is obeyed and no row is delivered, the end of no channel is asked for. -/
theorem unsubscriptions_turn (h : s.Turn s') (hw : s.wished? = none)
    (hd : s.phase.batch? = none) : s'.unsubscriptions = s.unsubscriptions := by
  have hrow {b l} (hp : s.phase = .delivering b l) : False := by
    rw [hp] at hd
    cases hd
  cases h with
  | @halt s₁ result h =>
    have hsent : (s₁.conclude result).sent = s₁.sent := by rw [conclude_eq]
    exact unsubscriptions_congr (hsent.trans (sent_halt h))
  | connected => rw [setState_eq]; rfl
  | publicly => rw [setState_eq]; rfl
  | opened => rw [setState_eq]; rfl
  | authenticating =>
    rw [unsubscriptions_concat (s := s) (by rw [setState_eq])]
    exact List.append_nil _
  | requested =>
    rw [unsubscriptions_concat (s := s) rfl]
    exact List.append_nil _
  | unsubscribing hp hc => simp [wished?, hp, hc] at hw
  | joined => rw [bindAccount_eq]; rfl
  | authenticated hp hf hr =>
    simp only [concludeHandshake, hr, if_true, setState_eq, bindAccount_eq, emit]
    rfl
  | acknowledged => rw [acknowledge_eq]; rfl
  | unsubscribed => rw [closeChannel_eq]; rfl
  | @refused l r =>
    rcases refuse_eq s.read r with ⟨a, p, -, -, he⟩ | ⟨-, he⟩ <;> rw [he] <;> rfl
  | routed => rfl
  | delivered hp => exact (hrow hp).elim
  | abandoned hp => exact (hrow hp).elim
  | released hp => exact (hrow hp).elim
  | releasing hp => exact (hrow hp).elim
  | _ => rfl

/-- The channels' ends are asked for, up to one that the link refuses to ask for; then the session
is over. -/
def AsksFor (s s' : Session) (chanIds : List Int64) : Prop :=
  s'.unsubscriptions = s.unsubscriptions ++ chanIds ∨
    ∃ before chanId e, chanIds = before ++ [chanId] ∧
      s'.unsubscriptions = s.unsubscriptions ++ before ∧ s'.phase = .ended (.error (.link e))

theorem asksFor_nothing (h : s'.unsubscriptions = s.unsubscriptions) : s.AsksFor s' [] :=
  .inl (h.trans (List.append_nil _).symm)

theorem asksFor_send {chanId : Int64} {next : Phase} {t : Session} (ht : t.sent = s.sent) :
    s.AsksFor (t.send (.unsubscribe chanId) next) [chanId] := by
  unfold send
  split
  case h_1 e hl =>
    obtain ⟨hphase, hsent, -⟩ := fields_fail t (.link e)
    refine .inr ⟨[], chanId, e, rfl, ?_, hphase⟩
    exact (unsubscriptions_congr (hsent.trans ht)).trans (List.append_nil _).symm
  case h_2 hl =>
    exact .inl (unsubscriptions_concat (o := .unsubscribe chanId) (by rw [← ht]))

theorem act_of_wished {chanId : Int64} (h : s.wished? = some chanId) :
    ∃ t : Session, t.sent = s.sent ∧
      s.act .step = t.send (.unsubscribe chanId) (.listening .serving) := by
  unfold wished? at h
  split at h
  case h_1 c cs hp hc =>
    obtain rfl : c = chanId := Option.some.inj h
    exact ⟨{ s with commands := cs }, rfl, by simp [act, step?, hp, listen?, hc, obey]⟩
  case h_2 => cases h

/-- Rows are there as long as they are delivered. -/
def HasRows (s : Session) : Prop := ∀ b l, s.phase = .delivering b l → b.rows ≠ []

theorem hasRows_act (h : s.HasRows) (a : Act) : (s.act a).HasRows := by
  intro b l hp
  by_cases ha : a = .step
  · subst ha
    rcases s.act_step_cases with he | ⟨-, ht⟩
    · exact h b l (he ▸ hp)
    · have hrows (t : Session) (c : Batch) (k : Listening)
          (hp : (t.deliverRows c k).phase = .delivering c k) : c.rows ≠ [] := by
        intro hnil
        simp [deliverRows, hnil] at hp
      rcases delivers_of_turn ht hp with ⟨-, -, he⟩ | ⟨-, -, he⟩
      · exact hrows _ b l (he ▸ hp)
      · exact hrows _ b l (he ▸ hp)
  · rcases (s.fields_act ha).1 with he | ⟨-, he⟩
    · exact h b l (he ▸ hp)
    · cases he.symm.trans hp

theorem hasRows_create (config : ConnectionConfig) (signer : Signer) (counter : Counter)
    (link : Link) : (create config signer counter link).HasRows := by
  intro b l hp
  cases hp

theorem hasRows_run (h : s.HasRows) (acts : List Act) : (s.run acts).HasRows :=
  run_induction h (fun _ a h => hasRows_act h a) acts

theorem asksFor_delivering (hs : s.Sound) (hr : s.HasRows) {b : Batch} {l : Listening}
    (hp : s.phase = .delivering b l) : s.AsksFor (s.act .step) (s.requestsEnd .step) := by
  have hask : s.requestsEnd .step = s.forsaken?.toList := by simp [requestsEnd, wished?, hp]
  rw [hask]
  rcases left_or_attached hs hp with hleft | hatt
  · obtain ⟨k, hk, hd⟩ := hleft
    have hforsaken (hc : some b.chanId ≠ s.accountChan) : s.forsaken? = some b.chanId := by
      simp [forsaken?, hp, hk, hd, hc]
    obtain ⟨m, ⟨hc, hact⟩ | ⟨hc, -, hact⟩ | ⟨hc, e, -, hact⟩⟩ :=
      act_of_left_cases hs hp (hr b l hp) ⟨k, hk, hd⟩
    · have hnone : s.forsaken? = none := by simp [forsaken?, hp, hc]
      rw [hnone, hact]
      exact asksFor_nothing rfl
    · rw [hforsaken hc, hact]
      exact .inl (unsubscriptions_concat (o := .unsubscribe b.chanId) rfl)
    · obtain ⟨hphase, hsent, -⟩ := fields_fail _ (.link e)
      rw [hforsaken hc, hact]
      exact .inr ⟨[], b.chanId, e, rfl,
        (unsubscriptions_congr hsent).trans (List.append_nil _).symm, hphase⟩
  · obtain ⟨k, hk, hd⟩ := hatt
    have hnone : s.forsaken? = none := by simp [forsaken?, hp, hk, hd]
    rw [hnone]
    exact asksFor_nothing
      (unsubscriptions_congr (held_of_attached hs hp (hr b l hp) ⟨k, hk, hd⟩).sent)

theorem asksFor_otherwise (hd : s.phase.batch? = none) :
    s.AsksFor (s.act .step) (s.requestsEnd .step) := by
  have hf : s.forsaken? = none := by
    unfold forsaken?
    split
    case h_1 b l hp =>
      rw [hp] at hd
      cases hd
    case h_2 => rfl
  have hask : s.requestsEnd .step = s.wished?.toList := by simp [requestsEnd, hf]
  rw [hask]
  cases hw : s.wished? with
  | some chanId =>
    obtain ⟨t, ht, hact⟩ := act_of_wished hw
    rw [hact]
    exact asksFor_send ht
  | none =>
    rcases s.act_step_cases with he | ⟨-, ht⟩
    · rw [he]
      exact asksFor_nothing rfl
    · exact asksFor_nothing (unsubscriptions_turn ht hw hd)

theorem asksFor_act (hs : s.Sound) (hr : s.HasRows) (a : Act) :
    s.AsksFor (s.act a) (s.requestsEnd a) := by
  by_cases ha : a = .step
  · subst ha
    by_cases hd : s.phase.batch? = none
    · exact asksFor_otherwise hd
    · obtain ⟨b, hb⟩ := Option.ne_none_iff_exists'.mp hd
      obtain ⟨l, hp⟩ := Phase.of_batch? hb
      exact asksFor_delivering hs hr hp
  · have hnone : s.requestsEnd a = [] := by
      cases a <;> first | rfl | exact absurd rfl ha
    rw [hnone]
    exact asksFor_nothing (unsubscriptions_congr (s.fields_act ha).2.2.2.2)

theorem requestsEnd_of_ended {result : Except ConnectionError Unit} (h : s.phase = .ended result)
    (a : Act) : s.requestsEnd a = [] := by
  cases a <;> simp [requestsEnd, wished?, forsaken?, h]

theorem asksFor_run (hs : s.Sound) (hr : s.HasRows) (acts : List Act) :
    s.AsksFor (s.run acts) (s.requestsEnds acts) := by
  induction acts using List.reverseRecOn with
  | nil => exact asksFor_nothing rfl
  | append_singleton acts a ih =>
    rw [run_concat, requestsEnds_concat]
    have hrows := hasRows_run hr acts
    rcases ih with h | ⟨before, chanId, e, heq, h, hp⟩
    · rcases asksFor_act (hs.run acts) hrows a with ha | ⟨before, chanId, e, heq, ha, hp⟩
      · exact .inl (by rw [ha, h, List.append_assoc])
      · refine .inr ⟨s.requestsEnds acts ++ before, chanId, e, ?_, ?_, hp⟩
        · rw [heq, List.append_assoc]
        · rw [ha, h, List.append_assoc]
    · obtain ⟨hp', hsent⟩ := over_run hp [a]
      rw [requestsEnd_of_ended hp, List.append_nil]
      exact .inr ⟨before, chanId, e, heq, (unsubscriptions_congr hsent).trans h, hp'⟩

/-- The frame that is read touches nobody by itself. When the next of its rows comes up, the
subscriber has left and loses the channel, or is there and keeps it. -/
def Settles (s : Session) (b : Batch) (during : List Act) : Prop :=
  (s.act .step).registry = s.registry ∧
    ∃ l, s.phase = .listening l ∧
      let u := (s.act .step).run during
      s.Underway b l u ∧
        (u.registry.Left b.id ∧ u.Released b.chanId b.id l ∨ u.registry.Attached b.id ∧ u.Held b l)

theorem settles_of_frame (hs : s.Sound) (he : s.registry.Emptied) {d : DataFrame} {b : Batch}
    (hf : s.nextFrame? = some (.data d)) (hh : d.payload.isHeartbeat = false)
    (hrows : d.payload.rows ≠ []) (hb : s.batch? d = some b) {during : List Act}
    (hduring : (s.act .step).Delivering during) : s.Settles b during := by
  have hrows : b.rows ≠ [] := by
    obtain ⟨a, schema, -, -, rfl⟩ := batch?_eq_some hb
    exact hrows
  obtain ⟨l, hp, hregistry, hread⟩ := underway_read hf hh hb hrows
  have hunder := hread.run (hs.act .step) hduring
  refine ⟨hregistry, l, hp, hunder, ?_⟩
  have hu := (hs.act .step).run during
  obtain ⟨rest, hrest, -, hdelivering⟩ := hunder.rows
  rcases left_or_attached hu hdelivering with hleft | hatt
  · have hempty := emptied_run hs he (.step :: during)
    have h := released_of_left hu hempty hdelivering hrest hleft
    exact .inl ⟨hleft, h⟩
  · have h := held_of_attached hu hdelivering hrest hatt
    exact .inr ⟨hatt, h.state, h.owner, h.sent, h.phase, h.others⟩

/-- A subscriber that is gone is released once, and nobody else is touched. The ends of channels
that are asked for in a run are those that the owner wished for and those of channels whose
subscribers were found gone, each once. -/
theorem gone_released (config : ConnectionConfig) (signer : Signer) (counter : Counter)
    (link : Link) :
    let s₀ := create config signer counter link
    (∀ before during d b, (s₀.run before).nextFrame? = some (.data d) →
      d.payload.isHeartbeat = false → d.payload.rows ≠ [] → (s₀.run before).batch? d = some b →
      ((s₀.run before).act .step).Delivering during → (s₀.run before).Settles b during) ∧
    ∀ acts, s₀.AsksFor (s₀.run acts) (s₀.requestsEnds acts) := by
  intro s₀
  have hs₀ : s₀.Sound := sound_create config signer counter link
  have hempty : s₀.registry.Emptied := Registry.emptied_empty
  constructor
  · intro before during d b hf hh hrows hb hduring
    exact settles_of_frame (hs₀.run before) (emptied_run hs₀ hempty before) hf hh hrows hb hduring
  · intro acts
    exact asksFor_run hs₀ (hasRows_create config signer counter link) acts

/-- Rows come up in the step that reads their frame. -/
theorem exists_frame_of_batch {b : Batch} (h : s.phase.batch? = none)
    (hb : (s.act .step).phase.batch? = some b) :
    ∃ d, s.nextFrame? = some (.data d) ∧ s.batch? d = some b := by
  obtain ⟨l, hp⟩ := Phase.of_batch? hb
  rcases s.act_step_cases with he | ⟨-, ht⟩
  · rw [he, h] at hb
    cases hb
  · cases delivers_of_turn ht hp with
    | routed hf hd => exact ⟨_, hf, hd⟩
    | delivered hp' =>
      rw [hp'] at h
      cases h

/-- A subscriber leaves between the two rows of a frame. -/
theorem gone_released_candles :
    let s₀ := create .standard ⟨none⟩ ⟨1⟩ (.create "" true none none)
    let before := [.register (.candles "trade:1m:tBTCUSD"), .start,
      .step, .step, .step, .step, .step,
      .push (.text "\x7b\"event\":\"subscribed\",\"channel\":\"candles\",\"chanId\":5,\"key\":\"trade:1m:tBTCUSD\"\x7d"),
      .step, .push (.text "[5,[[1,2,3,4,5,6],[7,8,9,1,2,3]]]")]
    let during := [.step, .leave 0]
    let u := ((s₀.run before).act .step).run during
    ∃ d b, (s₀.run before).nextFrame? = some (.data d) ∧ d.payload.isHeartbeat = false ∧
      d.payload.rows ≠ [] ∧ (s₀.run before).batch? d = some b ∧
      ((s₀.run before).act .step).Delivering during ∧ (s₀.run before).Settles b during ∧
      u.registry.Left b.id ∧ (u.act .step).unsubscriptions = [5] := by
  intro s₀ before during u
  have hlistens : (s₀.run before).phase.batch?.isNone := by decide +kernel
  have hread : ((s₀.run before).act .step).phase.batch?.any
      (fun b => b.id == 0 && b.rows.length == 2) = true := by decide +kernel
  have hduring : ((s₀.run before).act .step).Delivering during := by
    have hall : ∀ n ≤ 2,
        (((s₀.run before).act .step).run (during.take n)).phase.batch?.isSome := by
      decide +kernel
    intro acts hacts
    rw [List.prefix_iff_eq_take.mp hacts]
    exact Option.isSome_iff_ne_none.mp (hall _ hacts.length_le)
  have hgone : (u.registry.sink? 0).any (·.detached) = true := by decide +kernel
  have hasked : (u.act .step).unsubscriptions = [5] := by decide +kernel
  simp only [Option.any_eq_true, Bool.and_eq_true, beq_iff_eq] at hread
  obtain ⟨b, hbatch, hid, hlength⟩ := hread
  obtain ⟨d, hf, hb⟩ := exists_frame_of_batch (Option.isNone_iff_eq_none.mp hlistens) hbatch
  have hrows : d.payload.rows ≠ [] := by
    obtain ⟨a, schema, -, -, rfl⟩ := batch?_eq_some hb
    exact List.ne_nil_of_length_pos (by rw [hlength]; decide)
  have hheartbeat : d.payload.isHeartbeat = false := by
    cases hd : d.payload with
    | heartbeat => exact absurd (by rw [hd]; rfl) hrows
    | _ => rfl
  have hsettles : (s₀.run before).Settles b during :=
    (gone_released _ _ _ _).1 before during d b hf hheartbeat hrows hb hduring
  exact ⟨d, b, hf, hheartbeat, hrows, hb, hduring, hsettles, hid ▸ Registry.left_of_any hgone,
    hasked⟩

end Session
end MarketWire
