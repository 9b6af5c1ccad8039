import MarketWire.Proofs.Session.Challenge

/-!
# The inbox and the rest of a session

What waits to be read matters to a step that reads, and to no other one. `withInbox` exchanges it;
whatever a session does, it does likewise with another inbox, and leaves it as it is up to the one
item that it reads.
-/
namespace MarketWire
namespace Session

/-- The session with something else in its inbox. -/
def withInbox (s : Session) (is : List Inbound) : Session :=
  { s with link := { s.link with inbox := is } }

variable (s : Session) (is : List Inbound)

@[simp] theorem registry_withInbox : (s.withInbox is).registry = s.registry := rfl

@[simp] theorem accountChan_withInbox : (s.withInbox is).accountChan = s.accountChan := rfl

/-! ## Parts of a step -/

theorem setState_withInbox (after : ConnectionState) :
    (s.withInbox is).setState after = (s.setState after).withInbox is := by
  rw [setState_eq, setState_eq]
  rfl

theorem conclude_withInbox (result : Except ConnectionError Unit) :
    (s.withInbox is).conclude result = (s.conclude result).withInbox is := by
  rw [conclude_eq, conclude_eq, setState_withInbox]
  rfl

theorem fail_withInbox (e : ConnectionError) :
    (s.withInbox is).fail e = (s.fail e).withInbox is :=
  s.conclude_withInbox is (.error e)

theorem send_withInbox (o : Outbound) (next : Phase) :
    (s.withInbox is).send o next = (s.send o next).withInbox is := by
  have hl : (s.withInbox is).link.send = s.link.send := rfl
  unfold send
  rw [hl]
  cases s.link.send with
  | error e => exact s.fail_withInbox is (.link e)
  | ok _ => rfl

theorem connect_withInbox : (s.withInbox is).connect = s.connect.withInbox is := by
  unfold connect
  rw [setState_withInbox]
  generalize s.setState .connecting = s₁
  simp only [Link.connect]
  have hl : (s₁.withInbox is).link.connectFault = s₁.link.connectFault := rfl
  rw [hl]
  cases s₁.link.connectFault with
  | some e => exact s₁.fail_withInbox is (.link e)
  | none => rfl

theorem proceed_withInbox : (s.withInbox is).proceed = s.proceed.withInbox is := by
  unfold proceed
  rw [registry_withInbox, setState_withInbox]
  split <;> rfl

theorem authenticate_withInbox (p : Purpose) :
    (s.withInbox is).authenticate p = (s.authenticate p).withInbox is := by
  unfold authenticate
  rw [setState_withInbox]
  generalize s.setState .authenticating = s₁
  have hs : (s₁.withInbox is).signer.wsAuth Counter.draw (s₁.withInbox is).counter =
      s₁.signer.wsAuth Counter.draw s₁.counter := rfl
  simp only [hs]
  rcases s₁.signer.wsAuth Counter.draw s₁.counter with ⟨e | a, counter⟩
  · exact s₁.fail_withInbox is (.auth e)
  · exact send_withInbox { s₁ with counter := counter } is _ _

theorem sendNext_withInbox (p : Purpose) (feeds : List (Nat × Feed)) :
    (s.withInbox is).sendNext p feeds = (s.sendNext p feeds).withInbox is := by
  cases feeds with
  | nil =>
    cases p with
    | opening =>
      simp only [sendNext, setState_withInbox]
      rfl
    | later => rfl
  | cons f feeds =>
    obtain ⟨id, feed⟩ := f
    simp only [sendNext]
    cases feed.request? with
    | none => rfl
    | some r => exact s.send_withInbox is _ _

/-! ## Frames -/

theorem bindAccount_withInbox (chanId : Int64) :
    (s.withInbox is).bindAccount chanId = (s.bindAccount chanId).withInbox is := by
  rw [bindAccount_eq, bindAccount_eq]
  rfl

theorem acknowledge_withInbox (a : Subscribed) :
    (s.withInbox is).acknowledge a = (s.acknowledge a).withInbox is := by
  rw [acknowledge_eq, acknowledge_eq]
  rfl

theorem closeChannel_withInbox (chanId : Int64) :
    (s.withInbox is).closeChannel chanId = (s.closeChannel chanId).withInbox is := by
  rw [closeChannel_eq, closeChannel_eq]
  rfl

theorem refuse_withInbox (r : Refusal) :
    (s.withInbox is).refuse r = (s.refuse r).withInbox is := by
  unfold refuse
  rw [registry_withInbox]
  split <;> rfl

theorem handleControl_withInbox (c : Control) :
    (s.withInbox is).handleControl c = (s.handleControl c).withInbox is := by
  cases c with
  | subscribed a => exact s.acknowledge_withInbox is a
  | unsubscribed status chanId =>
    simp only [handleControl, closeChannel_withInbox]
    rfl
  | error r => exact s.refuse_withInbox is r
  | _ => rfl

theorem handleData_withInbox (d : DataFrame) (l : Listening) :
    (s.withInbox is).handleData d l = (s.handleData d l).withInbox is := by
  have hb : (s.withInbox is).batch? d = s.batch? d := rfl
  unfold handleData
  rw [hb]
  split
  · rfl
  · split <;> rfl

theorem concludeHandshake_withInbox (p : Purpose) (r : AuthReply) :
    (s.withInbox is).concludeHandshake p r = (s.concludeHandshake p r).withInbox is := by
  cases hr : r.isOk with
  | true =>
    rw [concludeHandshake_eq hr, concludeHandshake_eq hr]
    rfl
  | false =>
    simp only [concludeHandshake, hr, Bool.false_eq_true, if_false]
    exact s.fail_withInbox is _

theorem handleFrame_withInbox (l : Listening) (f : Frame) :
    (s.withInbox is).handleFrame l f = (s.handleFrame l f).withInbox is := by
  cases f with
  | data d => cases l <;> exact s.handleData_withInbox is d _
  | event c =>
    cases l with
    | serving => exact s.handleControl_withInbox is c
    | handshake p d =>
      have hs := s.handleControl_withInbox is c
      cases c with
      | auth r => exact s.concludeHandshake_withInbox is p r
      | _ => exact hs

theorem handleInbound_withInbox (l : Listening) (i : Inbound) :
    (s.withInbox is).handleInbound l i = (s.handleInbound l i).withInbox is := by
  cases i with
  | fault e => exact s.fail_withInbox is _
  | close => exact s.fail_withInbox is _
  | text t =>
    simp only [handleInbound]
    cases Frame.parse t with
    | error e => rfl
    | ok f => exact s.handleFrame_withInbox is l f

/-! ## Rows and commands -/

theorem release_withInbox (chanId : Int64) (l : Listening) :
    (s.withInbox is).release chanId l = (s.release chanId l).withInbox is := by
  rw [release_eq, release_eq, registry_withInbox, accountChan_withInbox]
  split
  · rw [closeChannel_withInbox]
    rfl
  · rw [closeChannel_withInbox, send_withInbox]

theorem deliver?_withInbox (b : Batch) (l : Listening) :
    (s.withInbox is).deliver? b l = (s.deliver? b l).map (·.withInbox is) := by
  have hc : (s.withInbox is).config = s.config := rfl
  unfold deliver?
  cases b.rows with
  | nil => rfl
  | cons row rows =>
    simp only [registry_withInbox, hc]
    rcases s.registry.offer b.id (b.message s.config.batch row).1 with ⟨_ | d, registry⟩
    · rfl
    · cases d with
      | closed =>
        simp only
        split
        · exact congrArg some (release_withInbox { s with registry := registry } is b.chanId l)
        · rfl
      | delivered => rfl
      | dropped => rfl

theorem flush_withInbox : (s.withInbox is).flush = s.flush.withInbox is := by
  unfold flush
  rw [registry_withInbox, accountChan_withInbox]
  split
  · split
    · rw [bindAccount_withInbox]
      rfl
    · rfl
  · rfl

theorem obey_withInbox (c : Command) : (s.withInbox is).obey c = (s.obey c).withInbox is := by
  cases c with
  | flush => exact s.flush_withInbox is
  | unsubscribe chanId => exact s.send_withInbox is _ _
  | close => exact s.conclude_withInbox is _

/-! ## Steps -/

variable {s is}

/-- The item of the inbox that the loop's next step reads, and where it reads it. -/
def reading? (s : Session) : Option (Listening × Inbound) :=
  match s.phase with
  | .listening l =>
    if s.link.connected ∧ (l = .serving → s.commands = []) then s.link.inbox.head?.map (l, ·)
    else none
  | _ => none

/-- The loop's next step reads an item of the inbox. -/
structure Reads (s : Session) (l : Listening) (i : Inbound) (is : List Inbound) : Prop where
  phase : s.phase = .listening l
  idle : l = .serving → s.commands = []
  connected : s.link.connected = true
  inbox : s.link.inbox = i :: is

theorem Reads.reading? {l : Listening} {i : Inbound} (h : s.Reads l i is) :
    s.reading? = some (l, i) := by
  simp only [Session.reading?, h.phase, h.inbox, List.head?_cons, Option.map_some]
  exact if_pos ⟨h.connected, h.idle⟩

theorem reads_of_reading? {l : Listening} {i : Inbound} (h : s.reading? = some (l, i)) :
    ∃ is, s.Reads l i is := by
  cases hp : s.phase with
  | listening l' =>
    simp only [reading?, hp, Option.ite_none_right_eq_some] at h
    obtain ⟨⟨hcon, hidle⟩, h⟩ := h
    cases hi : s.link.inbox with
    | nil =>
      rw [hi] at h
      cases h
    | cons i' is =>
      rw [hi] at h
      cases h
      exact ⟨is, hp, hidle, hcon, hi⟩
  | _ =>
    simp only [reading?, hp] at h
    cases h

theorem exists_reads (h : s.reading? ≠ none) : ∃ l i is, s.Reads l i is := by
  obtain ⟨⟨l, i⟩, hr⟩ := Option.ne_none_iff_exists'.mp h
  exact ⟨l, i, reads_of_reading? hr⟩

theorem listen?_idle {l : Listening} (hc : l = .serving → s.commands = []) :
    s.listen? l = s.readFrame? l := by
  cases l with
  | handshake p d => rfl
  | serving => simp only [listen?, hc rfl]

theorem Reads.step? {l : Listening} {i : Inbound} (h : s.Reads l i is) :
    s.step? = some ((s.withInbox is).handleInbound l i) := by
  have hl : s.link.receive = (some i, { s.link with inbox := is }) := by
    simp only [Link.receive, h.connected, if_true, h.inbox]
  have hs : s.step? = s.readFrame? l := by
    simp only [Session.step?, h.phase, listen?_idle h.idle]
  rw [hs, readFrame?, hl]
  rfl

theorem Reads.inbox_act {l : Listening} {i : Inbound} (h : s.Reads l i is) :
    (s.act .step).link.inbox = is := by
  have hs := (s.withInbox is).handleInbound_withInbox is l i
  rw [act_step h.step?]
  exact congrArg (·.link.inbox) hs

/-- A step that reads an item does the same whatever comes behind it. -/
theorem Reads.act_withInbox {l : Listening} {i : Inbound} (h : s.Reads l i is)
    (js : List Inbound) :
    (s.withInbox (i :: js)).act .step = (s.act .step).withInbox js := by
  have hj : (s.withInbox (i :: js)).Reads l i js := ⟨h.phase, h.idle, h.connected, rfl⟩
  rw [act_step h.step?, act_step hj.step?, ← handleInbound_withInbox]
  rfl

theorem receive_withInbox (h : s.link.connected = true → s.link.inbox = [] ∧ is = []) :
    ∃ i, s.link.receive = (i, s.link) ∧
      (s.withInbox is).link.receive = (i, (s.withInbox is).link) := by
  cases hc : s.link.connected with
  | false => exact ⟨some (.fault .notConnected), by simp [Link.receive, withInbox, hc]⟩
  | true =>
    obtain ⟨hnil, rfl⟩ := h hc
    exact ⟨if s.link.heldOpen then none else some (.fault .connectionClosed),
      by simp [Link.receive, withInbox, hc, hnil]⟩

theorem readFrame?_withInbox {l : Listening}
    (h : s.link.connected = true → s.link.inbox = [] ∧ is = []) :
    (s.withInbox is).readFrame? l = (s.readFrame? l).map (·.withInbox is) := by
  obtain ⟨i, hs, hs'⟩ := receive_withInbox h
  have ho : (s.withInbox is).overdue? l = s.overdue? l := by cases l <;> rfl
  unfold readFrame?
  rw [hs, hs', ho]
  cases i with
  | some i => exact congrArg some (s.handleInbound_withInbox is l i)
  | none =>
    cases s.overdue? l with
    | none => rfl
    | some limit => exact congrArg some (s.fail_withInbox is _)

theorem listen?_withInbox {l : Listening}
    (h : (l = .serving → s.commands = []) → s.link.connected = true →
      s.link.inbox = [] ∧ is = []) :
    (s.withInbox is).listen? l = (s.listen? l).map (·.withInbox is) := by
  have hc : (s.withInbox is).commands = s.commands := rfl
  cases l with
  | handshake p d => exact readFrame?_withInbox (h nofun)
  | serving =>
    cases hcmd : s.commands with
    | nil =>
      rw [listen?_idle fun _ => hcmd, listen?_idle fun _ => hc.trans hcmd]
      exact readFrame?_withInbox (h fun _ => hcmd)
    | cons c cs =>
      simp only [listen?, hc, hcmd]
      exact congrArg some (obey_withInbox { s with commands := cs } is c)

/-- A step that reads nothing does the same with another inbox, unless it finds one empty. -/
theorem step?_withInbox (h : s.reading? = none) (he : s.link.inbox = [] → is = []) :
    (s.withInbox is).step? = s.step?.map (·.withInbox is) := by
  have hp : (s.withInbox is).phase = s.phase := rfl
  unfold step?
  rw [hp]
  cases hphase : s.phase with
  | idle | ended result => rfl
  | connecting => exact congrArg some (s.connect_withInbox is)
  | connected => exact congrArg some (s.proceed_withInbox is)
  | authenticating p => exact congrArg some (s.authenticate_withInbox is p)
  | requesting p => rfl
  | sending p feeds => exact congrArg some (s.sendNext_withInbox is p feeds)
  | delivering b l => exact s.deliver?_withInbox is b l
  | listening l =>
    -- the loop looks into its inbox here, and what it finds there would be read
    refine listen?_withInbox fun hidle hcon => ?_
    cases hi : s.link.inbox with
    | nil => exact ⟨rfl, he hi⟩
    | cons i rest =>
      have hreads : s.Reads l i rest := ⟨hphase, hidle, hcon, hi⟩
      rw [hreads.reading?] at h
      cases h

/-! ## Acts -/

theorem command_withInbox (c : Command) :
    ((s.withInbox is).command c).toOption.getD (s.withInbox is) =
      ((s.command c).toOption.getD s).withInbox is := by
  have hstate : (s.withInbox is).state = s.state := rfl
  unfold command
  rw [hstate]
  split <;> rfl

/-- An act does the same with another inbox, unless it reads from the inbox or adds to it. -/
theorem act_withInbox {a : Act}
    (ha : a = .step → s.reading? = none ∧ (s.link.inbox = [] → is = []))
    (hpush : ∀ i, a ≠ .push i) :
    (s.withInbox is).act a = (s.act a).withInbox is := by
  have hphase : (s.withInbox is).phase = s.phase := rfl
  have hstate : (s.withInbox is).state = s.state := rfl
  have hcred : (s.withInbox is).signer = s.signer := rfl
  have hun : (s.withInbox is).unannounced = s.unannounced := rfl
  cases a with
  | step =>
    obtain ⟨hr, he⟩ := ha rfl
    simp only [act, step?_withInbox hr he]
    cases s.step? <;> rfl
  | push i => exact absurd rfl (hpush i)
  | start =>
    simp only [act, start, hphase, hstate]
    split
    · split <;> rfl
    · rfl
  | register feed =>
    simp only [act, register, hcred, hstate]
    split
    · rfl
    · split <;> rfl
  | announce =>
    simp only [act, hun]
    split <;> rfl
  | unsubscribe chanId => exact command_withInbox (.unsubscribe chanId)
  | close => exact command_withInbox .close
  | _ => rfl

theorem inbox_act {a : Act} (ha : a = .step → s.reading? = none)
    (hpush : ∀ i, a ≠ .push i) : (s.act a).link.inbox = s.link.inbox := by
  have hs : s.act a = (s.act a).withInbox s.link.inbox :=
    act_withInbox (fun h => ⟨ha h, id⟩) hpush
  exact congrArg (·.link.inbox) hs

end Session
end MarketWire
