import MarketWire.Proofs.Session.Challenge
import MarketWire.Proofs.Session.Ending
import MarketWire.Proofs.Session.Routing

/-!
# Authentication as a gate

A session that has an account subscription when it connects asks for authentication before anything
else, and asks for subscriptions only once it has been granted. Whenever it asks, a refusal, a
broken link or a deadline that passes ends it. The answer that grants it names the account channel,
and account subscriptions get that channel or none.
-/
namespace MarketWire

/-- An answer names a symbol, so no answer to a subscription belongs to a feed without one. -/
theorem Feed.agrees_of_private {f : Feed} (hp : f.isPrivate = true) (hs : f.symbol = none)
    (a : Ack) : f.agrees a = false := by
  have hc : f.channel = .account := by
    cases hc : f.channel <;> simp [Feed.isPrivate, hc, Channel.isPrivate] at hp ⊢
  simp [Feed.agrees, hc, Feed.symbolAgrees, hs]

namespace Registry

/-- An acknowledgement gives a channel only to a subscription that it agrees with. -/
theorem agrees_of_bind {r : Registry} {ack : Ack} {chanId : Int64} {a : Active}
    (ha : a ∈ (r.perform (.bind ack chanId)).active) :
    a ∈ r.active ∨ a.feed.agrees ack = true := by
  rw [perform] at ha
  cases hp : (r.takeAgreeing ack).1 with
  | none =>
    rw [bind_of_none hp] at ha
    exact .inl ha
  | some p =>
    rw [bind_of_some hp, active_activate] at ha
    rcases List.mem_cons.mp ha with rfl | ha
    · exact .inr (takeAgreeing_eq_some hp).1
    · exact .inl (List.mem_filter.mp ha).1

end Registry

namespace Session

variable {s s' : Session}

/-! ## Grants -/

/-- In the course of a run an answer has granted the authentication and named the channel. -/
def Granted (s : Session) (chanId : Int64) (acts : List Act) : Prop :=
  ∃ before after p d r, acts = before ++ .step :: after ∧
    (s.run before).phase = .listening (.handshake p d) ∧
    (s.run before).nextFrame? = some (.event (.auth r)) ∧ r.isOk = true ∧
    r.chanId.getD accountChanId = chanId

theorem Granted.concat {chanId : Int64} {acts : List Act} (h : s.Granted chanId acts) (a : Act) :
    s.Granted chanId (acts ++ [a]) := by
  obtain ⟨before, after, p, d, r, rfl, h⟩ := h
  exact ⟨before, after ++ [a], p, d, r, by simp, h⟩

theorem accountChan_act (h : s.Informed) {chanId : Int64} (hc : s.accountChan = some chanId)
    (a : Act) : (s.act a).accountChan = some chanId := by
  rcases s.accountChan_act_cases a with ha | ⟨-, p, d, r, hp, -⟩
  · exact ha.trans hc
  · -- no answer is waited for when there has been one
    have hnone := h.eq_none (by rw [hp]; nofun) (by rw [hp]; nofun)
    rw [hc] at hnone
    cases hnone

theorem accountChan_run (h : s.Informed) {chanId : Int64} (hc : s.accountChan = some chanId)
    (acts : List Act) : (s.run acts).accountChan = some chanId := by
  induction acts generalizing s with
  | nil => exact hc
  | cons a acts ih => exact ih (h.act a) (accountChan_act h hc a)

theorem accountChan_grant {p : Purpose} {d : Option Deadline} {r : AuthReply}
    (hp : s.phase = .listening (.handshake p d)) (hf : s.nextFrame? = some (.event (.auth r)))
    (hr : r.isOk = true) : (s.act .step).accountChan = some (r.chanId.getD accountChanId) := by
  obtain ⟨l, hl, hs⟩ := step?_of_frame hf
  rw [hp] at hl
  cases hl
  rw [act_step hs, handleFrame, concludeHandshake_eq hr]

theorem granted_of_accountChan (h : s.accountChan = none) {acts : List Act} {chanId : Int64}
    (hc : (s.run acts).accountChan = some chanId) : s.Granted chanId acts := by
  induction acts using List.reverseRecOn with
  | nil =>
    rw [run, List.foldl_nil, h] at hc
    cases hc
  | append_singleton acts a ih =>
    rw [run_concat] at hc
    rcases (s.run acts).accountChan_act_cases a with ha | ⟨rfl, p, d, r, hp, hf, hr, ha⟩
    · exact (ih (ha.symm.trans hc)).concat a
    · rw [ha] at hc
      cases hc
      exact ⟨acts, [], p, d, r, rfl, hp, hf, hr, rfl⟩

/-- The account channel of a session is the one that was granted. -/
theorem granted_iff (h : s.accountChan = none) {acts : List Act} {chanId : Int64} :
    s.Granted chanId acts ↔ (s.run acts).accountChan = some chanId := by
  refine ⟨?_, granted_of_accountChan h⟩
  rintro ⟨before, after, p, d, r, rfl, hp, hf, hr, rfl⟩
  have hi : (s.run before).Informed := (informed_of_none h).run before
  rw [run_append]
  exact accountChan_run (hi.act .step) (accountChan_grant hp hf hr) after

/-! ## Account subscriptions -/

/-- Account subscriptions own the account channel and no other one. -/
def Reserved (s : Session) : Prop :=
  ∀ a ∈ s.registry.active, a.feed.isPrivate = true → a.feed.symbol = none →
    s.accountChan = some a.chanId

theorem reserved_performs (h : s.Reserved) (hi : s.Informed) {a : Act} {r : Registry}
    (hr : s.Performs a r) : ∀ o ∈ r.active, o.feed.isPrivate = true → o.feed.symbol = none →
      (s.act a).accountChan = some o.chanId := by
  induction hr with
  | start => exact fun o ho hp hs => accountChan_act hi (h o ho hp hs) a
  | @perform r op _ hop ih =>
    intro o ho hp hs
    rcases Registry.mem_active_perform ho with hold | ⟨-, -, -, -, ⟨ack, rfl⟩ | ⟨rfl, -⟩⟩
    · exact ih o hold hp hs
    · rcases Registry.agrees_of_bind ho with hold | hagrees
      · exact ih o hold hp hs
      · rw [Feed.agrees_of_private hp hs] at hagrees
        cases hagrees
    · generalize hc : o.chanId = chanId at hop ⊢
      cases hop with
      | authenticated hp hf ha => exact accountChan_grant hp hf ha
      | joined _ _ ha => exact accountChan_act hi ha .step

theorem reserved_run (h : s.Reserved) (hi : s.Informed) (acts : List Act) :
    (s.run acts).Reserved := by
  induction acts generalizing s with
  | nil => exact h
  | cons a acts ih =>
    exact ih (reserved_performs h hi (performs_act s a)) (hi.act a)

theorem Reserved.eq (h : s.Reserved) (hs : s.Sound) {a b : Active} (ha : a ∈ s.registry.active)
    (hb : b ∈ s.registry.active) (hpa : a.feed.isPrivate = true) (hsa : a.feed.symbol = none)
    (hpb : b.feed.isPrivate = true) (hsb : b.feed.symbol = none) : a = b := by
  have hchan : a.chanId = b.chanId :=
    Option.some.inj ((h a ha hpa hsa).symm.trans (h b hb hpb hsb))
  have ho := hs.registry.owner?_of_mem ha
  rw [hchan, hs.registry.owner?_of_mem hb] at ho
  exact (Option.some.inj ho).symm

/-! ## The gate -/

def Opens (s : Session) : Prop := ∃ r rest, s.sent = .auth r :: rest

theorem Opens.append (h : s.Opens) {out : List Outbound} (hs : s'.sent = s.sent ++ out) :
    s'.Opens := by
  obtain ⟨r, rest, hr⟩ := h
  exact ⟨r, rest ++ out, by rw [hs, hr, List.cons_append]⟩

/-- How far a session has come that found an account subscription when it connected. -/
inductive Gate (s : Session) : Prop where
  | reached (hp : s.phase = .connected) (hr : s.registry.hasPendingPrivate = true)
      (ha : s.accountChan = none) (hs : s.sent = [])
  | asking (hp : s.phase = .authenticating .opening) (ha : s.accountChan = none) (hs : s.sent = [])
  | waiting (hp : s.phase.stage = .waiting) (ha : s.accountChan = none) (hs : s.Opens)
      (hno : ∀ o ∈ s.sent, o.subscription? = none)
  | passed {chanId : Int64} (ha : s.accountChan = some chanId) (hs : s.Opens)
  | refused {e : ConnectionError} (hp : s.phase = .ended (.error e)) (ha : s.accountChan = none)
      (hs : s.sent = [] ∨ s.Opens) (hno : ∀ o ∈ s.sent, o.subscription? = none)

/-- A session that ends without having served anybody ends with an error. -/
theorem exists_error {result : Except ConnectionError Unit}
    (hr : result = .ok () → s.phase = .listening .serving) (hs : s.phase.stage ≠ .ready) :
    ∃ e, result = .error e := by
  cases result with
  | ok _ => exact absurd (by rw [hr rfl]; rfl) hs
  | error e => exact ⟨e, rfl⟩

/-- Nothing has been sent and no account channel is known before the loop asks for one. -/
def Silent (s : Session) : Prop := s.phase.stage = .before → s.sent = [] ∧ s.accountChan = none

theorem Silent.act (h : s.Silent) (a : Act) : (s.act a).Silent := by
  rcases s.course_act a with ⟨hk, hs⟩ | ⟨rfl, hc⟩
  · unfold Silent
    rw [hk.sent, hk.accountChan, hs]
    exact h
  · generalize s.act .step = s' at hc ⊢
    unfold Silent at h ⊢
    cases hc with
    | connected hp _ hk =>
      rw [hk.sent, hk.accountChan]
      exact fun _ => h (by rw [hp]; rfl)
    | waits _ hp' => rw [Phase.stage_of_listening hp']; nofun
    | serves _ hp' => rw [hp']; nofun
    | ended hp' => rw [hp']; nofun
    | privately _ _ hp' => rw [hp']; nofun
    | publicly _ _ hp' => rw [hp']; nofun
    | asked _ hp' => rw [hp']; nofun
    | granted _ _ _ hp' => rw [hp']; nofun
    | asks _ _ hp' => rw [hp']; nofun

theorem mem_pending_act {a : Act} (ha : a ≠ .step) {p : Pending} (hp : p ∈ s.registry.pending) :
    p ∈ (s.act a).registry.pending := by
  have h := performs_act s a
  generalize (s.act a).registry = r at h ⊢
  induction h with
  | start => exact hp
  | perform _ hop ih =>
    cases hop with
    | register _ _ => exact List.mem_append_left _ ih
    | receive => rw [Registry.perform, (Registry.entries_receive ..).1]; exact ih
    | leave => exact ih
    | _ => exact absurd rfl ha

theorem hasPendingPrivate_act {a : Act} (ha : a ≠ .step)
    (h : s.registry.hasPendingPrivate = true) :
    (s.act a).registry.hasPendingPrivate = true := by
  unfold Registry.hasPendingPrivate at h ⊢
  rw [List.any_eq_true] at h ⊢
  obtain ⟨p, hp, hpriv⟩ := h
  exact ⟨p, mem_pending_act ha hp, hpriv⟩

namespace Gate

/-- The loop passes the gate by an answer that grants the authentication, or fails. -/
theorem course (h : s.Gate) (ha : s.accountChan = none) (hc : s.Course s') : s'.Gate := by
  cases h with
  | reached hp hr _ hs =>
    cases hc with
    | ended hp' hres hs' ha' =>
      obtain ⟨e, rfl⟩ := exists_error hres (by simp [hp, Phase.stage])
      exact .refused hp' (ha'.trans ha) (.inl (hs'.trans hs)) (by rw [hs', hs]; simp)
    | privately _ _ hp' hk => exact .asking hp' (hk.accountChan.trans ha) (hk.sent.trans hs)
    | publicly _ hr' => rw [hr] at hr'; cases hr'
    | connected hp' | asked hp' | waits hp' | granted hp' | serves hp' | asks hp' =>
      rw [hp] at hp'; cases hp'
  | asking hp _ hs =>
    cases hc with
    | ended hp' hres hs' ha' =>
      obtain ⟨e, rfl⟩ := exists_error hres (by simp [hp, Phase.stage])
      exact .refused hp' (ha'.trans ha) (.inl (hs'.trans hs)) (by rw [hs', hs]; simp)
    | asked _ hp' hs' ha' =>
      rw [hs, List.nil_append] at hs'
      refine .waiting (by rw [hp']; rfl) (ha'.trans ha) ⟨_, [], hs'⟩ ?_
      rw [hs']
      simp [Outbound.subscription?]
    | connected hp' | privately hp' | publicly hp' | waits hp' | granted hp' | serves hp'
    | asks hp' => rw [hp] at hp'; cases hp'
  | waiting hp _ hs hno =>
    cases hc with
    | ended hp' hres hs' ha' =>
      obtain ⟨e, rfl⟩ := exists_error hres (by simp [hp])
      refine .refused hp' (ha'.trans ha) (.inr ?_) (by rw [hs']; exact hno)
      exact hs.append (hs'.trans (List.append_nil _).symm)
    | waits _ hp' hs' hout ha' =>
      refine .waiting (Phase.stage_of_listening hp') (ha'.trans ha) (hs.append hs') ?_
      rw [hs']
      intro o ho
      rcases List.mem_append.mp ho with ho | ho
      · exact hno o ho
      · exact (hout o ho).2
    | granted _ _ _ _ hs' ha' => exact .passed ha' (hs.append (hs'.trans (List.append_nil _).symm))
    | connected hp' | privately hp' | publicly hp' | asked hp' | serves hp' | asks hp' =>
      rw [hp'] at hp; cases hp
  | passed hsome =>
    rw [ha] at hsome
    cases hsome
  | refused hp _ hs hno =>
    cases hc with
    | ended hp' hres hs' ha' =>
      obtain ⟨e, rfl⟩ := exists_error hres (by simp [hp, Phase.stage])
      refine .refused hp' (ha'.trans ha) ?_ (by rw [hs']; exact hno)
      exact hs.imp hs'.trans fun hs => hs.append (hs'.trans (List.append_nil _).symm)
    | connected hp' | privately hp' | publicly hp' | asked hp' | waits hp' | granted hp'
    | serves hp' | asks hp' => rw [hp] at hp'; cases hp'

theorem kept (h : s.Gate) {a : Act} (ha : a ≠ .step) : (s.act a).Gate := by
  obtain ⟨hsent, hchan, -⟩ := s.keeps_act ha
  have hopens : s.Opens → (s.act a).Opens :=
    fun hs => hs.append (hsent.trans (List.append_nil _).symm)
  have hphase : s.phase ≠ .idle → (s.act a).phase = s.phase :=
    fun hp => (s.fields_act ha).1.resolve_right fun hidle => hp hidle.1
  cases h with
  | reached hp hr hn hs =>
    refine .reached ?_ (hasPendingPrivate_act ha hr) (hchan.trans hn) (hsent.trans hs)
    exact (hphase (by rw [hp]; nofun)).trans hp
  | asking hp hn hs =>
    refine .asking ?_ (hchan.trans hn) (hsent.trans hs)
    exact (hphase (by rw [hp]; nofun)).trans hp
  | waiting hp hn hs hno =>
    refine .waiting ?_ (hchan.trans hn) (hopens hs) (by rw [hsent]; exact hno)
    rw [hphase fun he => by rw [he] at hp; cases hp]
    exact hp
  | passed hsome hs => exact .passed (hchan.trans hsome) (hopens hs)
  | refused hp hn hs hno =>
    exact .refused ((hphase (by rw [hp]; nofun)).trans hp) (hchan.trans hn)
      (hs.imp hsent.trans hopens) (by rw [hsent]; exact hno)

theorem act (h : s.Gate) (hi : s.Informed) (a : Act) : (s.act a).Gate := by
  by_cases hstep : a = .step
  · subst hstep
    rcases s.act_step_cases with he | ⟨-, ht⟩
    · rw [he]
      exact h
    · cases ha : s.accountChan with
      | none => exact h.course ha (course_of_turn ht)
      | some chanId =>
        obtain ⟨out, hs⟩ := s.sent_act .step
        cases h with
        | passed _ hopens => exact .passed (accountChan_act hi ha .step) (hopens.append hs)
        | reached _ _ hn | asking _ hn | waiting _ hn | refused _ hn => rw [ha] at hn; cases hn
  · exact h.kept hstep

theorem run (h : s.Gate) (hi : s.Informed) (acts : List Act) : (s.run acts).Gate := by
  induction acts generalizing s with
  | nil => exact h
  | cons a acts ih => exact ih (h.act hi a) (hi.act a)

theorem opens (h : s.Gate) (hs : s.phase.stage = .waiting ∨ s.phase.stage = .ready) :
    s.Opens := by
  cases h with
  | waiting _ _ ho | passed _ ho => exact ho
  | reached hp | asking hp | refused hp => rw [hp] at hs; rcases hs with hs | hs <;> cases hs

theorem isAuth_head (h : s.Gate) {o : Outbound} (ho : s.sent.head? = some o) :
    o.isAuth = true := by
  have hopens : s.Opens → o.isAuth = true := by
    rintro ⟨r, rest, hs⟩
    rw [hs] at ho
    cases ho
    rfl
  have hnil : s.sent ≠ [] := by
    intro hs
    rw [hs] at ho
    cases ho
  cases h with
  | reached _ _ _ hs | asking _ _ hs => exact absurd hs hnil
  | waiting _ _ hs | passed _ hs => exact hopens hs
  | refused _ _ hs => exact hopens (hs.resolve_left hnil)

theorem passed_of_subscribe (h : s.Gate) {id : Nat} {r : SubscribeRequest}
    (ho : .subscribe id r ∈ s.sent) : ∃ chanId, s.accountChan = some chanId := by
  cases h with
  | passed ha => exact ⟨_, ha⟩
  | reached _ _ _ hs | asking _ _ hs => rw [hs] at ho; cases ho
  | waiting _ _ _ hno | refused _ _ _ hno => cases hno _ ho

theorem passed_or_error (h : s.Gate) {result : Except ConnectionError Unit}
    (hp : s.phase = .ended result) :
    (∃ chanId, s.accountChan = some chanId) ∨ ∃ e, result = .error e := by
  cases h with
  | passed ha => exact .inl ⟨_, ha⟩
  | refused hp' => rw [hp] at hp'; cases hp'; exact .inr ⟨_, rfl⟩
  | reached hp' | asking hp' | waiting hp' => rw [hp] at hp'; cases hp'

end Gate

/-! ## Failures -/

/-- What comes next ends an authentication that is under way. -/
inductive Fails (s : Session) (d : Option Deadline) : Prop where
  | refused {r : AuthReply} (hf : s.nextFrame? = some (.event (.auth r))) (hr : r.isOk = false)
  | closed (hl : s.link.receive.1 = some .close)
  | broken {e : LinkError} (hl : s.link.receive.1 = some (.fault e))
  | overdue {x : Deadline} (hd : d = some x) (hl : s.link.receive.1 = none)
      (ht : x.instant ≤ s.now)

theorem failed_conclude (s : Session) (e : ConnectionError) :
    (s.fail e).phase = .ended (.error e) ∧ (s.fail e).sent = s.sent := by
  rw [fail, conclude_eq]
  exact ⟨rfl, rfl⟩

theorem Fails.step {p : Purpose} {d : Option Deadline} (h : s.Fails d)
    (hp : s.phase = .listening (.handshake p d)) :
    ∃ e, (s.act .step).phase = .ended (.error e) ∧ (s.act .step).sent = s.sent := by
  have hstep : s.step? = s.readFrame? (.handshake p d) := by simp only [step?, hp, listen?]
  cases h with
  | @refused r hf hr =>
    obtain ⟨l, hl, hs⟩ := step?_of_frame hf
    rw [hp] at hl
    cases hl
    rw [act_step hs]
    simp only [handleFrame, concludeHandshake, hr, Bool.false_eq_true, if_false]
    exact ⟨_, failed_conclude s.read _⟩
  | closed hl =>
    rcases hrec : s.link.receive with ⟨i, link⟩
    rw [hrec] at hl
    cases hl
    rw [readFrame?, hrec] at hstep
    rw [act_step hstep]
    exact ⟨_, failed_conclude { s with link := link } _⟩
  | broken hl =>
    rcases hrec : s.link.receive with ⟨i, link⟩
    rw [hrec] at hl
    cases hl
    rw [readFrame?, hrec] at hstep
    rw [act_step hstep]
    exact ⟨_, failed_conclude { s with link := link } _⟩
  | @overdue x hd hl ht =>
    subst hd
    rcases hrec : s.link.receive with ⟨i, link⟩
    rw [hrec] at hl
    cases hl
    simp only [readFrame?, hrec, overdue?, ht, if_true, Option.map_some] at hstep
    rw [act_step hstep]
    exact ⟨_, failed_conclude s _⟩

/-- A session that is over stays as it is for the other side. -/
theorem over_run {result : Except ConnectionError Unit} (h : s.phase = .ended result)
    (later : List Act) :
    (s.run later).phase = .ended result ∧ (s.run later).sent = s.sent := by
  induction later generalizing s with
  | nil => exact ⟨h, rfl⟩
  | cons a later ih =>
    obtain ⟨hp, hs⟩ := ih (ended_act h a)
    refine ⟨hp, hs.trans ?_⟩
    by_cases ha : a = .step
    · subst ha
      rw [act_step_of_none (by simp only [step?, h])]
    · exact (s.keeps_act ha).sent

/-- The deadline of an authentication is counted from the step that asked for it. -/
theorem asked_run (h : s.phase = .idle) {acts : List Act} {p : Purpose} {d : Option Deadline}
    (hp : (s.run acts).phase.listening? = some (.handshake p d)) :
    ∃ before after, acts = before ++ .step :: after ∧
      (s.run before).phase = .authenticating p ∧ d = (s.run before).deadline? := by
  induction acts using List.reverseRecOn with
  | nil =>
    rw [run, List.foldl_nil, h] at hp
    cases hp
  | append_singleton acts a ih =>
    have hold : (s.run acts).phase.listening? = some (.handshake p d) →
        ∃ before after, acts ++ [a] = before ++ .step :: after ∧
          (s.run before).phase = .authenticating p ∧ d = (s.run before).deadline? := by
      intro hp
      obtain ⟨before, after, he, hb⟩ := ih hp
      exact ⟨before, after ++ [a], by simp [he], hb⟩
    rw [run_concat] at hp
    by_cases ha : a = .step
    · subst ha
      rcases (s.run acts).act_step_cases with he | ⟨-, ht⟩
      · exact hold (he ▸ hp)
      · have hc := course_of_turn ht
        generalize (s.run acts).act .step = s' at hc hp
        cases hc with
        | asked hp₁ hp' =>
          rw [hp'] at hp
          cases hp
          exact ⟨acts, [], rfl, hp₁, rfl⟩
        | waits hp₁ hp' =>
          rw [hp'] at hp
          exact hold (hp ▸ hp₁)
        | serves _ hp' => rw [Phase.stage_of_listening hp] at hp'; cases hp'
        | ended hp' | connected _ hp' | privately _ _ hp' | publicly _ _ hp' | granted _ _ _ hp'
        | asks _ _ hp' => rw [hp'] at hp; cases hp
    · rcases ((s.run acts).fields_act ha).1 with he | ⟨-, he⟩
      · exact hold (he ▸ hp)
      · rw [he] at hp
        cases hp

/-! ## The gate in a run -/

/-- A session with an account subscription asks for authentication first, and for subscriptions only
when that has been granted. An authentication that fails ends the session. One is asked for at most,
with one nonce, and account subscriptions own the channel that its answer named, or none. -/
theorem authentication_gates (config : ConnectionConfig) (signer : Signer) (counter : Counter)
    (link : Link) (acts : List Act) :
    let s₀ := create config signer counter link
    let s := s₀.run acts
    (∀ before after, acts = before ++ after → (s₀.run before).phase = .connected →
      (s₀.run before).registry.hasPendingPrivate = true →
        (s.phase.stage = .waiting ∨ s.phase.stage = .ready → s.sent ≠ []) ∧
        (∀ o, s.sent.head? = some o → o.isAuth = true) ∧
        (∀ id r, .subscribe id r ∈ s.sent → ∃ chanId, s₀.Granted chanId acts) ∧
        ∀ result, s.phase = .ended result →
          (∃ chanId, s₀.Granted chanId acts) ∨ ∃ e, result = .error e) ∧
    (∀ p d, s.phase = .listening (.handshake p d) →
      (∃ before after, acts = before ++ .step :: after ∧
        (s₀.run before).phase = .authenticating p ∧ d = (s₀.run before).deadline?) ∧
      (s.Fails d → ∃ e, ∀ later, ((s.act .step).run later).phase = .ended (.error e) ∧
        ((s.act .step).run later).sent = s.sent)) ∧
    (∀ result, s.phase = .ended result → ∀ later, (s.run later).sent = s.sent) ∧
    s.sent.countP Outbound.isAuth ≤ 1 ∧
    (s.counter = counter ∨ s.counter = (Counter.draw counter).2) ∧
    (∀ c c', s₀.Granted c acts → s₀.Granted c' acts → c = c') ∧
    (∀ a ∈ s.registry.active, a.feed.isPrivate = true → a.feed.symbol = none →
      s₀.Granted a.chanId acts ∧ ∀ b ∈ s.registry.active, b.feed.isPrivate = true →
        b.feed.symbol = none → b = a) := by
  intro s₀ s
  have hi : s₀.Informed := informed_of_none rfl
  have hnone : s₀.accountChan = none := rfl
  have hreserved : s.Reserved := reserved_run (fun a ha => absurd ha List.not_mem_nil) hi acts
  have hsilent : ∀ acts, (s₀.run acts).Silent :=
    fun acts => run_induction (P := Silent) (fun _ => ⟨rfl, rfl⟩) (fun _ a hs => hs.act a) acts
  refine ⟨?_, ?_, fun result hp later => (over_run hp later).2, ?_, ?_, ?_, ?_⟩
  · rintro before after rfl hp hpriv
    obtain ⟨hsent, hchan⟩ := hsilent before (by rw [hp]; rfl)
    have hgate : s.Gate := by
      change (s₀.run (before ++ after)).Gate
      rw [run_append]
      exact (Gate.reached hp hpriv hchan hsent).run (hi.run before) after
    refine ⟨fun hs => ?_, fun o => hgate.isAuth_head, fun id r ho => ?_, fun result hp => ?_⟩
    · obtain ⟨r, rest, hr⟩ := hgate.opens hs
      rw [hr]
      exact List.cons_ne_nil _ _
    · exact (hgate.passed_of_subscribe ho).imp fun _ => (granted_iff hnone).mpr
    · exact (hgate.passed_or_error hp).imp_left (Exists.imp fun _ => (granted_iff hnone).mpr)
  · intro p d hp
    refine ⟨asked_run (s := s₀) rfl (by rw [hp]; rfl), fun hfails => ?_⟩
    obtain ⟨e, hended, hsent⟩ := hfails.step hp
    refine ⟨e, fun later => ?_⟩
    obtain ⟨hp', hs'⟩ := over_run hended later
    exact ⟨hp', hs'.trans hsent⟩
  · have hzero : s₀.sent.countP Outbound.isAuth = 0 := rfl
    have hauths : s.sent.countP Outbound.isAuth ≤ _ := s₀.auths_run acts
    have hone := s₀.challenges_le_one acts
    omega
  · exact (s₀.counter_run acts).imp_right And.right
  · intro c c' hc hc'
    rw [granted_iff hnone] at hc hc'
    exact Option.some.inj (hc.symm.trans hc')
  · intro a ha hpa hsa
    refine ⟨(granted_iff hnone).mpr (hreserved a ha hpa hsa), fun b hb hpb hsb => ?_⟩
    exact hreserved.eq ((sound_create config signer counter link).run acts) hb ha hpb hsb hpa hsa

/-- A session with an account subscription whose authentication is granted on channel 7. -/
theorem authentication_gates_account :
    let signer : Signer := ⟨some ⟨"abc", "123", by decide, by decide⟩⟩
    let s := create .standard signer ⟨1000⟩ (.create "" true none none)
    let auth := "\x7b\"event\":\"auth\",\"status\":\"ok\",\"chanId\":7,\"userId\":42\x7d"
    let acts := [.register .account, .start, .step, .step, .step, .push (.text auth), .step]
    ((s.run (acts.take 3)).phase = .connected ∧
      (s.run (acts.take 3)).registry.hasPendingPrivate = true) ∧
      (s.run acts).phase.stage = .ready ∧ (s.run acts).sent ≠ [] ∧
      (∀ o, (s.run acts).sent.head? = some o → o.isAuth = true) ∧
      ⟨7, 0, .account⟩ ∈ (s.run acts).registry.active ∧ s.Granted 7 acts := by
  intro signer s auth acts
  have hpriv : (s.run (acts.take 3)).registry.hasPendingPrivate = true := by decide +kernel
  have hready : (s.run acts).phase.stage = .ready := by decide +kernel
  have hactive : ⟨7, 0, .account⟩ ∈ (s.run acts).registry.active := by decide +kernel
  obtain ⟨hgate, -, -, -, -, -, hgranted⟩ :=
    authentication_gates .standard signer ⟨1000⟩ (.create "" true none none) acts
  obtain ⟨hsent, hfirst, -⟩ :=
    hgate (acts.take 3) (acts.drop 3) (List.take_append_drop 3 acts).symm rfl hpriv
  obtain ⟨h7, -⟩ := hgranted ⟨7, 0, .account⟩ (by simpa only [s] using hactive) rfl rfl
  exact ⟨⟨rfl, hpriv⟩, hready, hsent (.inr hready), hfirst, hactive, h7⟩

end Session
end MarketWire
