import MarketWire.Proofs.Session.Ownership

/-!
# What is routed to a subscription

What a subscriber is told about rows is determined by the frames that the loop handles and by the
events: each data frame for a channel that belongs to the subscription is told row by row, in order,
and nothing else is. The frames that are handled while an authentication is under way count as any
others, and a frame whose rows are still being delivered counts as far as it got.
-/
namespace MarketWire

/-- What is told of a row of a frame. -/
def DataFrame.told (d : DataFrame) (schema : Schema) (row : List Json.Value) : StreamMessage :=
  match schema.decode row with
  | .ok e => .update d.chanId (UpdateKind.of d.tag d.payload) e
  | .error e => .decodeFailed d.chanId e

/-- The rows that are told of: all, or those up to the first that cannot be decoded. -/
def Schema.rowsTold (schema : Schema) (rows : List (List Json.Value)) :
    BatchPolicy → List (List Json.Value)
  | .isolate => rows
  | .abort =>
    rows.takeWhile (fun row => (schema.decode row).toOption.isSome) ++
      (rows.dropWhile fun row => (schema.decode row).toOption.isSome).take 1

/-- What is told of a frame whose rows are of some schema, or nothing if there is none. -/
def DataFrame.messages (d : DataFrame) (schema? : Option Schema) (policy : BatchPolicy) :
    List StreamMessage :=
  match schema? with
  | none => []
  | some schema => (schema.rowsTold d.payload.rows policy).map (d.told schema)

/-- Rows of an account feed are told apart by their tag, and those of another feed are all of its
own schema. -/
def Feed.schemaFor? (f : Feed) (tag : Option String) : Option Schema :=
  if f.isPrivate then tag.bind Schema.ofAccountTag? else f.schema?

/-- The messages about rows; a farewell is about none. -/
def aboutRows (ms : List StreamMessage) : List StreamMessage := ms.filter (!·.isFinal)

theorem aboutRows_append (ms ms' : List StreamMessage) :
    aboutRows (ms ++ ms') = aboutRows ms ++ aboutRows ms' := List.filter_append ..

theorem Feed.schemaFor?_eq (f : Feed) (tag : Option String) :
    f.schemaFor? tag = f.schema?.or (tag.bind Schema.ofAccountTag?) := by
  unfold schemaFor? isPrivate schema? Schema.ofChannel?
  cases f.channel <;> cases Symbol.kind (f.symbol.getD "") <;> rfl

/-! ## Batches -/

/-- What is told of rows that are delivered one by one. -/
def Batch.tell (b : Batch) (policy : BatchPolicy) : List (List Json.Value) → List StreamMessage
  | [] => []
  | row :: rows =>
    (b.message policy row).1 :: if (b.message policy row).2 then b.tell policy rows else []

theorem Batch.tell_rows (b : Batch) (policy : BatchPolicy) (left rows : List (List Json.Value)) :
    { b with rows := left }.tell policy rows = b.tell policy rows := by
  induction rows with
  | nil => rfl
  | cons row rows ih =>
    simp only [tell, ih]
    rfl

theorem Batch.tell_eq (d : DataFrame) (id : Nat) (schema : Schema) (policy : BatchPolicy)
    (left rows : List (List Json.Value)) :
    (Batch.mk d.chanId id schema (UpdateKind.of d.tag d.payload) left).tell policy rows =
      (schema.rowsTold rows policy).map (d.told schema) := by
  induction rows with
  | nil => cases policy <;> rfl
  | cons row rows ih =>
    cases policy with
    | isolate =>
      cases hd : schema.decode row with
      | ok e => simpa [tell, message, hd, Schema.rowsTold, DataFrame.told] using ih
      | error e => simpa [tell, message, hd, Schema.rowsTold, DataFrame.told] using ih
    | abort =>
      cases hd : schema.decode row with
      | ok e =>
        simpa [tell, message, hd, Schema.rowsTold, DataFrame.told, Except.toOption] using ih
      | error e => simp [tell, message, hd, Schema.rowsTold, DataFrame.told, Except.toOption]

namespace Registry

/-! ## Queues -/

/-- Only an offer brings a message about a row. -/
theorem aboutRows_queued_perform {r : Registry} (hr : r.Sound) {op : Op} {id : Nat}
    (hop : op.Fitting) (hoffer : ∀ m, op ≠ .offer id m) (hrecv : op ≠ .receive id)
    (hleave : op ≠ .detach id) :
    aboutRows ((r.perform op).queued id) = aboutRows (r.queued id) := by
  cases hk' : (r.perform op).sink? id with
  | none =>
    cases hk : r.sink? id with
    | none => rw [queued_of_none hk', queued_of_none hk]
    | some k =>
      obtain ⟨k', hs, -⟩ := hr.passage op hk
      rw [hk'] at hs
      cases hs
  | some k' =>
    rw [queued_of_some hk']
    rcases hr.passage_or_subscribed hk' with ⟨k, hk, hp⟩ | ⟨feed, capacity, overflow, -, rfl, rfl⟩
    · rw [queued_of_some hk]
      cases hp with
      | kept => rfl
      | bound => rfl
      | offered _ m he => exact absurd he (hoffer m)
      | received _ he => exact absurd he hrecv
      | detached _ he => exact absurd he hleave
      | finished hin _ m hm =>
        rw [Sink.queue_finish_of_open (hr.opened id hin k hk)]
        split
        · rfl
        · rw [aboutRows_append]
          simp [aboutRows, hop.farewell hm]
      | closed => rfl
    · rw [queued_of_none hr.sink?_nextId]
      rfl

/-- The sink of a subscription has never overflowed, or blocks instead. -/
def Flows (r : Registry) (id : Nat) : Prop :=
  ∀ k, r.sink? id = some k → k.overflow = .block ∨ k.dropped = 0

theorem Flows.of_perform {r : Registry} (hr : r.Sound) {op : Op} {id : Nat}
    (h : (r.perform op).Flows id) : r.Flows id := by
  intro k hk
  obtain ⟨k', hk', hp⟩ := hr.passage op hk
  have hflow := h k' hk'
  cases hp with
  | kept => exact hflow
  | bound => exact hflow
  | offered _ m =>
    rw [(Sink.fields_offer k m).2.2.2] at hflow
    refine hflow.imp_right fun hzero => ?_
    have hle := Sink.dropped_offer k m
    omega
  | received => rwa [k.fields_receive.2.2.2.1, k.fields_receive.2.2.2.2] at hflow
  | detached => exact hflow
  | finished _ _ m =>
    rwa [(Sink.fields_finish k m).2.2.1, (Sink.fields_finish k m).2.2.2] at hflow
  | closed => exact hflow

theorem Passage.overflow_eq {r : Registry} {op : Op} {id : Nat} {k k' : Sink StreamMessage}
    (h : r.Passage op id k k') : k'.overflow = k.overflow := by
  cases h with
  | offered _ m => exact (Sink.fields_offer k m).2.2.2
  | received => exact k.fields_receive.2.2.2.2
  | finished _ _ m => exact (Sink.fields_finish k m).2.2.2
  | _ => rfl

end Registry

namespace Session

open Registry (Op)

/-- What an act adds to what is to be told to a subscription: the messages of the data frame that
the loop handles, if its channel belongs to the subscription. -/
def routes (s : Session) (id : Nat) (feed : Feed) : Act → List StreamMessage
  | .step =>
    match s.nextFrame? with
    | some (.data d) =>
      if d.payload.isHeartbeat = false ∧ ownerIn s.events d.chanId = some id then
        d.messages (feed.schemaFor? d.tag) s.config.batch
      else []
    | _ => []
  | _ => []

def routed (s : Session) (id : Nat) (feed : Feed) : List Act → List StreamMessage
  | [] => []
  | a :: acts => s.routes id feed a ++ (s.act a).routed id feed acts

/-- What remains to be told of the frame whose rows are being delivered. -/
def undelivered (s : Session) (id : Nat) : List StreamMessage :=
  match s.phase.batch? with
  | some b => if b.id = id then b.tell s.config.batch b.rows else []
  | none => []

theorem undelivered_of_batch {s : Session} {b : Batch} (h : s.phase.batch? = some b) (id : Nat) :
    s.undelivered id = if b.id = id then b.tell s.config.batch b.rows else [] := by
  simp [undelivered, h]

theorem undelivered_eq_nil {s : Session} {id : Nat}
    (h : ∀ b, s.phase.batch? = some b → b.id ≠ id) : s.undelivered id = [] := by
  unfold undelivered
  split
  · exact if_neg (h _ ‹_›)
  · rfl

theorem undelivered_deliverRows (s : Session) (b : Batch) (l : Listening) (id : Nat) :
    (s.deliverRows b l).undelivered id =
      if b.id = id then b.tell s.config.batch b.rows else [] := by
  unfold deliverRows
  split
  · have hnil : b.rows = [] := List.isEmpty_iff.mp ‹_›
    simp [undelivered, Phase.batch?, hnil, Batch.tell]
  · rfl

theorem flows_performs {s : Session} {a : Act} {r : Registry} {id : Nat} (h : s.Performs a r)
    (hs : s.Sound) (hr : r.Flows id) : s.registry.Flows id := by
  induction h with
  | start => exact hr
  | perform h hop ih => exact ih (hr.of_perform (h.sound hs.registry))

/-- An act that delivers no row to a subscription tells it of none. -/
theorem aboutRows_performs {s : Session} {a : Act} {r : Registry} {id : Nat} (h : s.Performs a r)
    (hs : s.Sound) (hrecv : a ≠ .receive id) (hleave : a ≠ .leave id)
    (hno : a = .step → ∀ b, s.phase.batch? = some b → b.id ≠ id) :
    aboutRows (r.queued id) = aboutRows (s.registry.queued id) := by
  induction h with
  | start => rfl
  | perform h hop ih =>
    rw [← ih]
    refine Registry.aboutRows_queued_perform (h.sound hs.registry) hop.fitting ?_ ?_ ?_
    · rintro m rfl
      cases hop with
      | @offered b l row _ hp hm => exact hno rfl b (by rw [hp]; rfl) rfl
    · rintro rfl
      cases hop
      exact hrecv rfl
    · rintro rfl
      cases hop
      exact hleave rfl

/-! ## Steps -/

theorem step?_of_frame {s : Session} {f : Frame} (h : s.nextFrame? = some f) :
    ∃ l, s.phase = .listening l ∧ s.step? = some (s.read.handleFrame l f) := by
  unfold nextFrame? at h
  split at h
  · rename_i l t hp hl
    split at h
    · cases h
    · rename_i hc
      refine ⟨l, hp, ?_⟩
      have hread : s.listen? l = s.readFrame? l := by
        unfold listen?
        split
        · rename_i c cs hcs
          exact absurd ⟨rfl, by simp [hcs]⟩ hc
        · rfl
      have hlink : s.link.receive = (some (.text t), s.link.receive.2) := by rw [← hl]
      have hparse : Frame.parse t = .ok f := by
        cases hf : Frame.parse t with
        | error e => simp [hf, Except.toOption] at h
        | ok f' => simpa [hf, Except.toOption] using h
      have hstep : s.step? = s.readFrame? l := by simp only [step?, hp, hread]
      rw [hstep, readFrame?, hlink]
      simp only [handleInbound, hparse, read]
  · cases h

/-- A step that handles no data frame routes nothing. -/
theorem routes_of_frame {s : Session} (id : Nat) (feed : Feed)
    (h : ¬∃ d, s.nextFrame? = some (.data d)) : s.routes id feed .step = [] := by
  cases hf : s.nextFrame? with
  | none => simp [routes, hf]
  | some f =>
    cases f with
    | event c => simp [routes, hf]
    | data d => exact absurd ⟨d, hf⟩ h

variable {s : Session} {id : Nat} {feed : Feed}

/-- A row is offered to an open sink, which may make the loop wait. -/
theorem act_delivering {b : Batch} {l : Listening} (hp : s.phase = .delivering b l)
    {row : List Json.Value} {rows : List (List Json.Value)} (hr : b.rows = row :: rows)
    {m : StreamMessage} {goesOn : Bool} (hm : b.message s.config.batch row = (m, goesOn))
    {k : Sink StreamMessage} (hk : s.registry.sink? b.id = some k) (hopen : k.isClosed = false) :
    ((k.offer m).1 = none ∧ s.act .step = s) ∨
      ((k.offer m).1 ≠ none ∧ s.act .step =
        (s.offering b.id m).deliverRows { b with rows := if goesOn then rows else [] } l) := by
  have hstep : s.step? = s.deliver? b l := by simp only [step?, hp]
  have hoffer : s.registry.offer b.id m =
      ((k.offer m).1, s.registry.updateSink b.id fun _ => (k.offer m).2) := by
    simp only [Registry.offer, hk]
  cases ho : (k.offer m).1 with
  | none => exact Or.inl ⟨rfl, by simp [act, hstep, deliver?, hr, hm, hoffer, ho]⟩
  | some d =>
    refine Or.inr ⟨Option.some_ne_none d, ?_⟩
    cases d with
    | closed =>
      rw [Sink.isClosed_of_offer ho] at hopen
      cases hopen
    | _ => simp [act, hstep, deliver?, hr, hm, hoffer, ho, offering, Registry.perform]

/-- A row that is delivered comes to its subscriber and is one less to be told. -/
theorem aboutRows_deliver (hs : s.Sound) (hid : s.registry.Attached id) {b : Batch} {l : Listening}
    (hp : s.phase = .delivering b l) (hb : b.id = id)
    (hflow : (s.act .step).registry.Flows id) :
    aboutRows ((s.act .step).registry.queued id) ++ (s.act .step).undelivered id =
      aboutRows (s.registry.queued id) ++ s.undelivered id := by
  subst hb
  have hbatch : s.phase.batch? = some b := by rw [hp]; rfl
  obtain ⟨k, hk, hd⟩ := hid
  obtain ⟨a, ha, hab⟩ := hs.delivering b l hp
  have hin : b.id ∈ s.registry.ids :=
    Registry.mem_ids.mpr (Or.inr ⟨a, (Registry.owner?_eq_some ha).1, hab⟩)
  have hopen : k.isClosed = false := by
    simp [Sink.isClosed, hs.registry.opened _ hin k hk, hd]
  rw [undelivered_of_batch hbatch, if_pos rfl]
  cases hr : b.rows with
  | nil =>
    have hact : s.act .step = { s with phase := .listening l } := by
      simp [act, step?, hp, deliver?, hr]
    rw [hact]
    rfl
  | cons row rows =>
    rcases hm : b.message s.config.batch row with ⟨m, goesOn⟩
    have hfinal : m.isFinal = false := by
      have hbf := b.isFinal_message s.config.batch row
      rwa [hm] at hbf
    have hk' : (s.offering b.id m).registry.sink? b.id = some (k.offer m).2 := by
      have hsink := Registry.sink?_offer s.registry b.id m b.id
      rwa [if_pos rfl, hk] at hsink
    rcases act_delivering hp hr hm hk hopen with ⟨-, hact⟩ | ⟨ho, hact⟩
    · rw [hact, undelivered_of_batch hbatch, if_pos rfl, hr]
    · have hover : k.overflow = .block ∨ (k.offer m).2.dropped = 0 := by
        rw [hact] at hflow
        have hf := hflow _ hk'
        rwa [(Sink.fields_offer k m).2.2.2] at hf
      have hqueue : (k.offer m).2.queue = k.queue ++ [m] :=
        Sink.queue_offer_of_flow hopen ho hover
      have hq : (s.act .step).registry.queued b.id = s.registry.queued b.id ++ [m] := by
        rw [hact, Registry.queued_of_some hk]
        exact (Registry.queued_of_some hk').trans hqueue
      have hu : (s.act .step).undelivered b.id =
          b.tell s.config.batch (if goesOn then rows else []) := by
        rw [hact, undelivered_deliverRows, if_pos rfl]
        exact b.tell_rows s.config.batch _ _
      rw [hq, hu, aboutRows_append, List.append_assoc]
      have htell : b.tell s.config.batch (row :: rows) =
          [m] ++ b.tell s.config.batch (if goesOn then rows else []) := by
        cases goesOn <;> simp [Batch.tell, hm]
      have hrow : aboutRows [m] = [m] := by simp [aboutRows, hfinal]
      rw [htell, hrow]

/-- A data frame is told to the subscription that its channel belongs to. -/
theorem aboutRows_data (hag : s.Agrees id) (hserve : s.registry.Serves id feed)
    {d : DataFrame} (hf : s.nextFrame? = some (.data d)) :
    (s.act .step).registry.queued id = s.registry.queued id ∧
      (s.act .step).undelivered id = s.routes id feed .step := by
  obtain ⟨l, hp, hstep⟩ := step?_of_frame hf
  have hact : s.act .step = s.read.handleData d l := by
    have hframe : s.read.handleFrame l (.data d) = s.read.handleData d l := by cases l <;> rfl
    simp [act, hstep, hframe]
  have hread : s.read.undelivered id = [] := by
    refine undelivered_eq_nil fun b hb => ?_
    have hp' : s.read.phase = .listening l := hp
    rw [hp'] at hb
    cases hb
  have hroutes : s.routes id feed .step =
      if d.payload.isHeartbeat = false ∧ ownerIn s.events d.chanId = some id then
        d.messages (feed.schemaFor? d.tag) s.config.batch
      else [] := by
    simp only [routes, hf]
  rw [hact, hroutes, handleData]
  cases hh : d.payload.isHeartbeat with
  | true => exact ⟨rfl, by simpa using hread⟩
  | false =>
    simp only [Bool.false_eq_true, if_false, true_and]
    cases hb : s.read.batch? d with
    | none =>
      refine ⟨rfl, ?_⟩
      simp only [hread]
      split
      · rename_i howner
        obtain ⟨a, ha, hid⟩ := (hag d.chanId).mp howner
        have hfeed : a.feed = feed := hserve.2 a (Registry.owner?_eq_some ha).1 hid
        have hnone : feed.schemaFor? d.tag = none := by
          rw [Feed.schemaFor?_eq, ← hfeed]
          exact batch?_eq_none hb ha
        rw [hnone]
        rfl
      · rfl
    | some b =>
      obtain ⟨a, schema, ha, hschema, rfl⟩ := batch?_eq_some hb
      refine ⟨?_, ?_⟩
      · rfl
      · rw [undelivered_deliverRows]
        by_cases hid : a.id = id
        · have howner : ownerIn s.events d.chanId = some id := (hag d.chanId).mpr ⟨a, ha, hid⟩
          have hfeed : a.feed = feed := hserve.2 a (Registry.owner?_eq_some ha).1 hid
          have hsome : feed.schemaFor? d.tag = some schema := by
            rw [Feed.schemaFor?_eq, ← hfeed]
            exact hschema
          rw [if_pos hid, if_pos howner, hsome]
          exact Batch.tell_eq d a.id schema s.config.batch _ _
        · have howner : ownerIn s.events d.chanId ≠ some id := by
            intro he
            obtain ⟨a', ha', hid'⟩ := (hag d.chanId).mp he
            have haa : some a = some a' := ha.symm.trans ha'
            cases haa
            exact hid hid'
          rw [if_neg hid, if_neg howner]

/-- Rows are delivered of frames that are read, or that are being delivered already. -/
theorem undelivered_step (hno : ∀ b, s.phase.batch? = some b → b.id ≠ id)
    (hdata : ¬∃ d, s.nextFrame? = some (.data d)) : (s.act .step).undelivered id = [] := by
  cases hstep : s.step? with
  | none =>
    rw [act_step_of_none hstep]
    exact undelivered_eq_nil hno
  | some s' =>
    rw [act_step hstep]
    refine undelivered_eq_nil fun b hb => ?_
    cases hp : s'.phase with
    | delivering b' l =>
      rw [hp] at hb
      cases hb
      rcases delivers_of_turn (turn_of_step? hstep) hp with ⟨hf, -, -⟩ | @⟨c, m, rows, hc, rfl, -⟩
      · exact absurd ⟨_, hf⟩ hdata
      · exact hno c (by rw [hc]; rfl)
    | _ =>
      rw [hp] at hb
      cases hb

/-- What an act tells a subscription of rows is what it routes to it. -/
theorem aboutRows_act (hs : s.Sound) (hid : s.registry.Attached id) (hag : s.Agrees id)
    (hserve : s.registry.Serves id feed) {a : Act} (hleave : a ≠ .leave id)
    (hflow : (s.act a).registry.Flows id) :
    aboutRows (s.taken id a) ++ aboutRows ((s.act a).registry.queued id) ++
        (s.act a).undelivered id =
      aboutRows (s.registry.queued id) ++ s.undelivered id ++ s.routes id feed a := by
  by_cases ha : a = .step
  · subst ha
    have htaken : aboutRows (s.taken id .step) = [] := rfl
    rw [htaken, List.nil_append]
    by_cases hbatch : ∃ b l, s.phase = .delivering b l ∧ b.id = id
    · obtain ⟨b, l, hp, hb⟩ := hbatch
      have hquiet : s.routes id feed .step = [] := by
        refine routes_of_frame id feed ?_
        rintro ⟨d, hf⟩
        obtain ⟨l', hl, -⟩ := step?_of_frame hf
        rw [hp] at hl
        cases hl
      rw [aboutRows_deliver hs hid hp hb hflow, hquiet, List.append_nil]
    · have hno : ∀ b, s.phase.batch? = some b → b.id ≠ id := by
        intro b hb hbid
        cases hp : s.phase with
        | delivering b' l =>
          rw [hp] at hb
          cases hb
          exact hbatch ⟨b, l, hp, hbid⟩
        | _ =>
          rw [hp] at hb
          cases hb
      rw [undelivered_eq_nil hno, List.append_nil]
      by_cases hdata : ∃ d, s.nextFrame? = some (.data d)
      · obtain ⟨d, hf⟩ := hdata
        obtain ⟨hq, hu⟩ := aboutRows_data hag hserve hf
        rw [hq, hu]
      · have hqueue := aboutRows_performs (performs_act s .step) hs nofun nofun fun _ => hno
        rw [routes_of_frame id feed hdata, hqueue, undelivered_step hno hdata]
  · have hquiet : s.routes id feed a = [] := by
      cases a with
      | step => exact absurd rfl ha
      | _ => rfl
    have hundelivered : (s.act a).undelivered id = s.undelivered id := by
      obtain ⟨hphase, -, -, hgivens, -⟩ := s.fields_act ha
      have hconfig : (s.act a).config = s.config := congrArg Prod.fst hgivens
      unfold undelivered
      rw [hconfig]
      rcases hphase with he | ⟨hidle, he⟩
      · rw [he]
      · rw [he, hidle]
        rfl
    rw [hquiet, List.append_nil, hundelivered]
    by_cases hrecv : a = .receive id
    · subst hrecv
      rw [← aboutRows_append, taken_append_queued]
    · have htaken : aboutRows (s.taken id a) = [] := by rw [taken_eq_nil s id hrecv]; rfl
      rw [htaken, List.nil_append,
        aboutRows_performs (performs_act s a) hs hrecv hleave fun he => absurd he ha]

/-! ## Runs -/

theorem flows_run (hs : s.Sound) (acts : List Act) (h : (s.run acts).registry.Flows id) :
    s.registry.Flows id := by
  induction acts generalizing s with
  | nil => exact h
  | cons a acts ih => exact flows_performs (performs_act s a) hs (ih (hs.act a) h)

theorem serves_performs {a : Act} {r : Registry} (h : s.Performs a r) (hid : id < s.registry.nextId)
    (hserve : s.registry.Serves id feed) : r.Serves id feed := by
  have hall : r.Serves id feed ∧ id < r.nextId := by
    induction h with
    | start => exact ⟨hserve, hid⟩
    | perform h hop ih =>
      exact ⟨ih.1.perform ih.2 _, Nat.lt_of_lt_of_le ih.2 (Registry.le_nextId_perform ..)⟩
  exact hall.1

/-- What a run tells a subscription of rows, together with what remains to be told, is what it
routes to it. -/
theorem aboutRows_run (hs : s.Sound) (hag : s.Agrees id) (hid : s.registry.Attached id)
    (hserve : s.registry.Serves id feed) {acts : List Act} (hleave : .leave id ∉ acts)
    (hflow : (s.run acts).registry.Flows id) :
    aboutRows (s.history id acts) ++ (s.run acts).undelivered id =
      aboutRows (s.registry.queued id) ++ s.undelivered id ++ s.routed id feed acts := by
  -- the rest of the run starts from what waits and what is undelivered after the first act
  induction acts generalizing s with
  | nil => simp [history, received, run, routed]
  | cons a acts ih =>
    rw [List.mem_cons, not_or] at hleave
    obtain ⟨ha, hacts⟩ := hleave
    have hlt : id < s.registry.nextId := by
      obtain ⟨k, hk, -⟩ := hid
      exact (hs.registry.known id).mp (by rw [hk]; rfl)
    have hrest := ih (hs.act a) (agrees_act hag hs hid.not_left a)
      (attached_performs (performs_act s a) hs (Ne.symm ha) hid)
      (serves_performs (performs_act s a) hlt hserve) hacts hflow
    have hact := aboutRows_act hs hid hag hserve (Ne.symm ha)
      (flows_run (hs.act a) acts hflow)
    have hhistory : s.history id (a :: acts) = s.taken id a ++ (s.act a).history id acts := by
      simp only [history, received, List.append_assoc]
      rfl
    calc aboutRows (s.history id (a :: acts)) ++ (s.run (a :: acts)).undelivered id
        = aboutRows (s.taken id a) ++
            (aboutRows ((s.act a).history id acts) ++ ((s.act a).run acts).undelivered id) := by
          rw [hhistory, aboutRows_append, List.append_assoc]
          rfl
      _ = aboutRows (s.taken id a) ++ aboutRows ((s.act a).registry.queued id) ++
            (s.act a).undelivered id ++ (s.act a).routed id feed acts := by
          rw [hrest]
          simp only [List.append_assoc]
      _ = aboutRows (s.registry.queued id) ++ s.undelivered id ++ s.routes id feed a ++
            (s.act a).routed id feed acts := by rw [hact]
      _ = aboutRows (s.registry.queued id) ++ s.undelivered id ++ s.routed id feed (a :: acts) := by
          rw [List.append_assoc _ (s.routes id feed a)]
          rfl

/-- A new subscription is pending for its feed, and no row is delivered to it yet. -/
theorem serves_register {t : Session} (hs : s.Sound) (h : s.register feed = .ok (id, t)) :
    t.registry.Serves id feed ∧ t.undelivered id = [] := by
  obtain ⟨-, rfl, rfl⟩ := register_eq_ok h
  have hold : s.registry.nextId ∉ s.registry.ids :=
    fun hin => absurd (hs.registry.issued _ hin) (Nat.lt_irrefl _)
  refine ⟨⟨?_, ?_⟩, undelivered_eq_nil ?_⟩
  · intro p hp hid
    rcases List.mem_append.mp hp with hp | hp
    · exact absurd (Registry.mem_ids.mpr (Or.inl ⟨p, hp, hid⟩)) hold
    · rw [List.mem_singleton.mp hp]
  · intro a ha hid
    have ha' : a ∈ s.registry.active := ha
    exact absurd (Registry.mem_ids.mpr (Or.inr ⟨a, ha', hid⟩)) hold
  · intro b hb hid
    cases hp : s.phase with
    | delivering b' l =>
      have hb' : s.phase.batch? = some b := hb
      rw [hp] at hb'
      cases hb'
      obtain ⟨a, ha, hab⟩ := hs.delivering b l hp
      exact hold (Registry.mem_ids.mpr
        (Or.inr ⟨a, (Registry.owner?_eq_some ha).1, hab.trans hid⟩))
    | _ =>
      have hb' : s.phase.batch? = some b := hb
      rw [hp] at hb'
      cases hb'

theorem overflow_performs {a : Act} {r : Registry} (h : s.Performs a r) (hs : s.Sound)
    {o : Overflow} (hk : ∃ k, s.registry.sink? id = some k ∧ k.overflow = o) :
    ∃ k, r.sink? id = some k ∧ k.overflow = o := by
  induction h with
  | start => exact hk
  | perform h hop ih =>
    obtain ⟨k, hk, ho⟩ := ih
    obtain ⟨k', hk', hp⟩ := (h.sound hs.registry).passage _ hk
    exact ⟨k', hk', hp.overflow_eq.trans ho⟩

theorem overflow_run (hs : s.Sound) {o : Overflow}
    (hk : ∃ k, s.registry.sink? id = some k ∧ k.overflow = o) (acts : List Act) :
    ∃ k, (s.run acts).registry.sink? id = some k ∧ k.overflow = o := by
  induction acts generalizing s with
  | nil => exact hk
  | cons a acts ih => exact ih (hs.act a) (overflow_performs (performs_act s a) hs hk)

/-- From its registration on, a subscription whose subscriber stays and whose sink does not overflow
is told of rows what is routed to it, and nothing else. -/
theorem told_as_routed (config : ConnectionConfig) (signer : Signer) (counter : Counter)
    (link : Link) (before after : List Act) {feed : Feed} {id : Nat} {t : Session}
    (hreg : ((create config signer counter link).run before).register feed = .ok (id, t))
    (hstay : .leave id ∉ after)
    (hflow : config.overflow = .block ∨
      ∀ k, (t.run after).registry.sink? id = some k → k.dropped = 0) :
    aboutRows (t.history id after) ++ (t.run after).undelivered id = t.routed id feed after := by
  have hs₀ := sound_create config signer counter link
  have hs := hs₀.run before
  have hact := act_of_register hreg
  have ht : t.Sound := hact ▸ hs.act _
  have hid := attached_register hs hreg
  have hag : t.Agrees id := by
    have hrun : (create config signer counter link).run (before ++ [.register feed]) = t := by
      rw [run_concat, hact]
    have hleft : ¬((create config signer counter link).run
        (before ++ [.register feed])).registry.Left id := hrun ▸ hid.not_left
    exact hrun ▸ agrees_run hs₀ (agrees_create config signer counter link) _ hleft
  obtain ⟨hserve, hnone⟩ := serves_register hs hreg
  have hflows : (t.run after).registry.Flows id := by
    intro k hk
    rcases hflow with hblock | hzero
    · obtain ⟨k', hk', ho⟩ := overflow_run ht ⟨_, sink?_register hs hreg, rfl⟩ after
      rw [hk] at hk'
      cases hk'
      have hconfig := config_run (create config signer counter link) before
      exact Or.inl (ho.trans ((congrArg ConnectionConfig.overflow hconfig).trans hblock))
    · exact Or.inr (hzero k hk)
  have hrun := aboutRows_run ht hag hid hserve hstay hflows
  have hqueued : t.registry.queued id = [] := Registry.queued_of_some (sink?_register hs hreg)
  rw [hrun, hqueued, hnone]
  rfl

/-- A subscription is bound, and one of the two rows of its first frame has been delivered. -/
theorem told_as_routed_candles :
    let s := create .standard ⟨none⟩ ⟨1⟩ (.create "" true none none)
    let feed := Feed.candles "trade:1m:tBTCUSD"
    let t := s.act (.register feed)
    let after := [.start, .step, .step, .step, .step, .step,
      .push (.text "\x7b\"event\":\"subscribed\",\"channel\":\"candles\",\"chanId\":5,\"key\":\"trade:1m:tBTCUSD\"\x7d"),
      .step, .push (.text "[5,[[1,2,3,4,5,6],[7,8,9,1,2,3]]]"), .step, .step]
    s.register feed = .ok (0, t) ∧ .leave 0 ∉ after ∧ (t.routed 0 feed after).length = 2 ∧
      aboutRows (t.history 0 after) ++ (t.run after).undelivered 0 = t.routed 0 feed after := by
  intro s feed t after
  have hreg : (s.run []).register feed = .ok (0, t) := rfl
  have hstay : .leave 0 ∉ after := by simp [after]
  have hrouted : (t.routed 0 feed after).length = 2 := by decide +kernel
  exact ⟨hreg, hstay, hrouted, told_as_routed _ _ _ _ [] after hreg hstay (Or.inl rfl)⟩

end Session
end MarketWire
