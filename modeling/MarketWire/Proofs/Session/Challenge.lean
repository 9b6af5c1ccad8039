import MarketWire.Proofs.Session.Requests

/-!
# Authentication in the course of a session

The loop asks for authentication at one place and reads the answer at another, and frames, requests
and rows may come in between. `Course` says of every turn what it does to the parts that matter for
this: the place of the loop, what has been sent, the counter of nonces and the account channel. The
loop does not come back to the place where it asks, so it asks once at most.
-/
namespace MarketWire

def Outbound.isAuth : Outbound → Bool
  | .auth _ => true
  | _ => false

/-- The state of a session while it sends the requests that are due. -/
def Purpose.standing : Purpose → ConnectionState
  | .opening => .subscribing
  | .later => .streaming

/-- How far a session is with its authentication, if it needs one. -/
inductive Stage where
  | before
  /-- The loop is about to ask. -/
  | asking
  | waiting
  /-- The loop asks for subscriptions and serves them. -/
  | ready
  | over
deriving DecidableEq

def Listening.stage : Listening → Stage
  | .handshake .. => .waiting
  | .serving => .ready

def Phase.stage : Phase → Stage
  | .idle | .connecting | .connected => .before
  | .authenticating _ => .asking
  | .listening l | .delivering _ l => l.stage
  | .requesting _ | .sending .. => .ready
  | .ended _ => .over

theorem Phase.stage_of_listening {p : Phase} {l : Listening} (h : p.listening? = some l) :
    p.stage = l.stage := by
  cases p with
  | listening l' => cases h; rfl
  | delivering b l' => cases h; rfl
  | _ => cases h

namespace Session

variable {s s' s₁ : Session}

theorem listening?_reading {l : Listening} (hp : s.phase = .listening l) :
    s.phase.listening? = some l := by
  rw [hp]
  rfl

theorem listening?_delivering {b : Batch} {l : Listening} (hp : s.phase = .delivering b l) :
    s.phase.listening? = some l := by
  rw [hp]
  rfl

/-! ## What the parts of a step leave as it is -/

/-- Nothing has been sent, no nonce has been drawn, and the account channel is what it was. -/
structure Keeps (s s' : Session) : Prop where
  sent : s'.sent = s.sent
  accountChan : s'.accountChan = s.accountChan
  counter : s'.counter = s.counter

theorem Keeps.refl (s : Session) : s.Keeps s := ⟨rfl, rfl, rfl⟩

theorem keeps_setState (s : Session) (after : ConnectionState) : s.Keeps (s.setState after) := by
  rw [setState_eq]
  exact ⟨rfl, rfl, rfl⟩

theorem keeps_bindAccount (s : Session) (chanId : Int64) : s.Keeps (s.bindAccount chanId) := by
  rw [bindAccount_eq]
  exact ⟨rfl, rfl, rfl⟩

theorem keeps_acknowledge (s : Session) (a : Subscribed) : s.Keeps (s.acknowledge a) := by
  rw [acknowledge_eq]
  exact ⟨rfl, rfl, rfl⟩

theorem keeps_closeChannel (s : Session) (chanId : Int64) : s.Keeps (s.closeChannel chanId) := by
  rw [closeChannel_eq]
  exact ⟨rfl, rfl, rfl⟩

theorem keeps_refuse (s : Session) (r : Refusal) : s.Keeps (s.refuse r) := by
  rcases refuse_eq s r with ⟨a, p, -, -, he⟩ | ⟨-, he⟩
  · rw [he]
    exact ⟨rfl, rfl, rfl⟩
  · rw [he]
    exact ⟨rfl, rfl, rfl⟩

theorem concludeHandshake_eq {p : Purpose} {r : AuthReply} (hr : r.isOk = true) :
    s.concludeHandshake p r = { s with
      accountChan := some (r.chanId.getD accountChanId)
      registry := s.registry.perform (.bindAccount (r.chanId.getD accountChanId))
      state := p.standing
      events := s.events ++ [.authenticated r.userId] ++
        ((s.registry.bindAccount (r.chanId.getD accountChanId)).1.map fun id =>
          .subscribed id (r.chanId.getD accountChanId) .account none).toList ++
        if s.state = p.standing then [] else [.stateChanged s.state p.standing]
      phase := .requesting p } := by
  cases p <;> simp only [concludeHandshake, hr, if_true, setState_eq, bindAccount_eq, emit] <;> rfl

theorem counter_of_wsAuth {signer : Signer} {c c' : Counter} {a : WsAuth}
    (h : signer.wsAuth Counter.draw c = (.ok a, c')) : c' = (Counter.draw c).2 := by
  unfold Signer.wsAuth Signer.drawing at h
  split at h
  · cases h
  · exact (congrArg Prod.snd h).symm

/-! ## The course of an authentication -/

/-- What a turn does to an authentication. -/
inductive Course (s : Session) : Session → Prop where
  | ended {s' : Session} {result : Except ConnectionError Unit} (hp' : s'.phase = .ended result)
      (hr : result = .ok () → s.phase = .listening .serving) (hs : s'.sent = s.sent)
      (ha : s'.accountChan = s.accountChan)
      (hc : s'.counter = s.counter ∨
        s.phase.stage = .asking ∧ s'.counter = (Counter.draw s.counter).2) : Course s s'
  | connected {s' : Session} (hp : s.phase = .connecting) (hp' : s'.phase = .connected)
      (hk : s.Keeps s') : Course s s'
  | privately {s' : Session} (hp : s.phase = .connected)
      (hr : s.registry.hasPendingPrivate = true) (hp' : s'.phase = .authenticating .opening)
      (hk : s.Keeps s') : Course s s'
  | publicly {s' : Session} (hp : s.phase = .connected)
      (hr : s.registry.hasPendingPrivate = false) (hp' : s'.phase = .requesting .opening)
      (hk : s.Keeps s') : Course s s'
  | asked {s' : Session} {p : Purpose} {r : AuthRequest} (hp : s.phase = .authenticating p)
      (hp' : s'.phase = .listening (.handshake p s.deadline?)) (hs : s'.sent = s.sent ++ [.auth r])
      (ha : s'.accountChan = s.accountChan) (hc : s'.counter = (Counter.draw s.counter).2) :
      Course s s'
  | waits {s' : Session} {p : Purpose} {d : Option Deadline} {out : List Outbound}
      (hp : s.phase.listening? = some (.handshake p d))
      (hp' : s'.phase.listening? = some (.handshake p d)) (hs : s'.sent = s.sent ++ out)
      (hout : ∀ o ∈ out, o.isAuth = false ∧ o.subscription? = none)
      (ha : s'.accountChan = s.accountChan) (hc : s'.counter = s.counter) : Course s s'
  | granted {s' : Session} {p : Purpose} {d : Option Deadline} {r : AuthReply}
      (hp : s.phase = .listening (.handshake p d)) (hf : s.nextFrame? = some (.event (.auth r)))
      (hr : r.isOk = true) (hp' : s'.phase = .requesting p) (hs : s'.sent = s.sent)
      (ha : s'.accountChan = some (r.chanId.getD accountChanId)) (hc : s'.counter = s.counter) :
      Course s s'
  | serves {s' : Session} {out : List Outbound} (hp : s.phase.stage = .ready)
      (hp' : s'.phase.stage = .ready) (hs : s'.sent = s.sent ++ out)
      (hout : ∀ o ∈ out, o.isAuth = false) (ha : s'.accountChan = s.accountChan)
      (hc : s'.counter = s.counter) : Course s s'
  | asks {s' : Session} (hp : s.phase = .listening .serving) (hn : s.accountChan = none)
      (hp' : s'.phase = .authenticating .later) (hk : s.Keeps s') : Course s s'

/-- Where frames are read, the loop stays where it is, before or after the answer. -/
theorem course_reading {l : Listening} {out : List Outbound} (hp : s.phase.listening? = some l)
    (hp' : s'.phase.listening? = some l) (hs : s'.sent = s.sent ++ out)
    (hout : ∀ o ∈ out, o.isAuth = false ∧ o.subscription? = none)
    (ha : s'.accountChan = s.accountChan) (hc : s'.counter = s.counter) : s.Course s' := by
  cases l with
  | handshake p d => exact .waits hp hp' hs hout ha hc
  | serving =>
    exact .serves (Phase.stage_of_listening hp) (Phase.stage_of_listening hp') hs
      (fun o ho => (hout o ho).1) ha hc

theorem course_quiet {l : Listening} (hp : s.phase.listening? = some l)
    (hp' : s'.phase.listening? = some l) (hk : s.Keeps s') : s.Course s' :=
  course_reading hp hp' (hk.sent.trans (List.append_nil _).symm)
    (fun _ ho => absurd ho List.not_mem_nil) hk.accountChan hk.counter

theorem course_serving (hp : s.phase.stage = .ready) (hp' : s'.phase.stage = .ready)
    (hk : s.Keeps s') : s.Course s' :=
  .serves hp hp' (hk.sent.trans (List.append_nil _).symm)
    (fun _ ho => absurd ho List.not_mem_nil) hk.accountChan hk.counter

theorem halt_keeps {result : Except ConnectionError Unit} (h : s.Halt s₁ result) :
    s₁.sent = s.sent ∧ s₁.accountChan = s.accountChan ∧
      (s₁.counter = s.counter ∨
        s.phase.stage = .asking ∧ s₁.counter = (Counter.draw s.counter).2) ∧
      (result = .ok () → s.phase = .listening .serving) := by
  cases h with
  | connecting hp hl =>
    obtain ⟨hs, ha, hc⟩ := s.keeps_setState .connecting
    exact ⟨hs, ha, .inl hc, nofun⟩
  | signing hp hf =>
    obtain ⟨hs, ha, hc⟩ := s.keeps_setState .authenticating
    exact ⟨hs, ha, .inl hc, nofun⟩
  | authenticating hp hf hl =>
    obtain ⟨hs, ha, -⟩ := s.keeps_setState .authenticating
    exact ⟨hs, ha, .inr ⟨by rw [hp]; rfl, counter_of_wsAuth hf⟩, nofun⟩
  | closing hp hc => exact ⟨rfl, rfl, .inl rfl, fun _ => hp⟩
  | @releasing b l row m e hp hm hd hl =>
    obtain ⟨hs, ha, hc⟩ := (s.offering b.id m).keeps_closeChannel b.chanId
    exact ⟨hs, ha, .inl hc, nofun⟩
  | _ => exact ⟨rfl, rfl, .inl rfl, nofun⟩

theorem course_of_turn (h : s.Turn s') : s.Course s' := by
  cases h with
  | @halt s₁ result hh =>
    obtain ⟨hs, ha, hc, hr⟩ := halt_keeps hh
    rw [conclude_eq]
    exact .ended rfl hr hs ha hc
  | connected hp hl =>
    obtain ⟨hs, ha, hc⟩ := s.keeps_setState .connecting
    exact .connected hp rfl ⟨hs, ha, hc⟩
  | privately hp hr => exact .privately hp hr rfl ⟨rfl, rfl, rfl⟩
  | publicly hp hr =>
    obtain ⟨hs, ha, hc⟩ := s.keeps_setState .subscribing
    exact .publicly hp hr rfl ⟨hs, ha, hc⟩
  | authenticating hp hf hl =>
    obtain ⟨-, ha, -⟩ := s.keeps_setState .authenticating
    exact .asked hp rfl rfl ha (counter_of_wsAuth hf)
  | requesting hp =>
    exact course_serving (by rw [hp]; rfl) rfl ⟨rfl, rfl, rfl⟩
  | opened hp =>
    obtain ⟨hs, ha, hc⟩ := s.keeps_setState .streaming
    exact course_serving (by rw [hp]; rfl) rfl ⟨hs, ha, hc⟩
  | flushed hp =>
    exact course_serving (by rw [hp]; rfl) rfl ⟨rfl, rfl, rfl⟩
  | skipped hp hf =>
    exact course_serving (by rw [hp]; rfl) rfl ⟨rfl, rfl, rfl⟩
  | requested hp hf hl =>
    refine .serves (by rw [hp]; rfl) rfl rfl ?_ rfl rfl
    simp [Outbound.isAuth]
  | @joined chanId cs hp hc hr ha =>
    obtain ⟨hs, ha, hc⟩ := { s with commands := cs }.keeps_bindAccount chanId
    exact course_serving (by rw [hp]; rfl) rfl ⟨hs, ha, hc⟩
  | challenged hp hc hr ha => exact .asks hp ha rfl ⟨rfl, rfl, rfl⟩
  | asked hp hc hr =>
    exact course_serving (by rw [hp]; rfl) rfl ⟨rfl, rfl, rfl⟩
  | unsubscribing hp hc hl =>
    refine course_reading (listening?_reading hp) rfl rfl ?_ rfl rfl
    simp [Outbound.isAuth, Outbound.subscription?]
  | authenticated hp hf hr =>
    rw [concludeHandshake_eq hr]
    exact .granted hp hf hr rfl rfl rfl rfl
  | acknowledged hp hf =>
    obtain ⟨hs, ha, hc⟩ := s.read.keeps_acknowledge _
    refine course_quiet (listening?_reading hp) ?_ ⟨hs, ha, hc⟩
    rw [acknowledge_eq]
    exact listening?_reading hp
  | unsubscribed hp hf =>
    obtain ⟨hs, ha, hc⟩ := s.read.keeps_closeChannel _
    refine course_quiet (listening?_reading hp) ?_ ⟨hs, ha, hc⟩
    rw [closeChannel_eq]
    exact listening?_reading hp
  | @refused l r hp hf =>
    obtain ⟨hs, ha, hc⟩ := s.read.keeps_refuse r
    refine course_quiet (listening?_reading hp) ?_ ⟨hs, ha, hc⟩
    rcases refuse_eq s.read r with ⟨a, p, -, -, he⟩ | ⟨-, he⟩
    · rw [he]
      exact listening?_reading hp
    · rw [he]
      exact listening?_reading hp
  | noise hp hf =>
    exact course_quiet (listening?_reading hp) (listening?_reading hp) ⟨rfl, rfl, rfl⟩
  | informed hp hf =>
    exact course_quiet (listening?_reading hp) (listening?_reading hp) ⟨rfl, rfl, rfl⟩
  | ignored hp hf hc ha =>
    exact course_quiet (listening?_reading hp) (listening?_reading hp) ⟨rfl, rfl, rfl⟩
  | unrouted hp hf hb =>
    exact course_quiet (listening?_reading hp) (listening?_reading hp) ⟨rfl, rfl, rfl⟩
  | routed hp hf hh hb =>
    exact course_quiet (listening?_reading hp) (listening?_deliverRows ..) ⟨rfl, rfl, rfl⟩
  | drained hp hr => exact course_quiet (listening?_delivering hp) rfl ⟨rfl, rfl, rfl⟩
  | delivered hp hr hm ho =>
    exact course_quiet (listening?_delivering hp) (listening?_deliverRows ..) ⟨rfl, rfl, rfl⟩
  | abandoned hp hm ho hd => exact course_quiet (listening?_delivering hp) rfl ⟨rfl, rfl, rfl⟩
  | @released b l row m hp hm ho hd hc =>
    obtain ⟨hs, ha, hc⟩ := (s.offering b.id m).keeps_closeChannel b.chanId
    exact course_quiet (listening?_delivering hp) rfl ⟨hs, ha, hc⟩
  | @releasing b l row m hp hm ho hd hc hl =>
    obtain ⟨-, ha, hc⟩ := (s.offering b.id m).keeps_closeChannel b.chanId
    refine course_reading (listening?_delivering hp) rfl rfl ?_ ha hc
    simp [Outbound.isAuth, Outbound.subscription?]

/-! ## What the owner and the surroundings leave alone -/

theorem keeps_act (s : Session) {a : Act} (ha : a ≠ .step) : s.Keeps (s.act a) := by
  cases a with
  | step => exact absurd rfl ha
  | start =>
    simp only [act, start]
    split
    · split <;> exact ⟨rfl, rfl, rfl⟩
    · exact ⟨rfl, rfl, rfl⟩
  | register feed =>
    rcases s.act_register feed with he | he
    · rw [he]
      exact ⟨rfl, rfl, rfl⟩
    · rw [(register_eq_ok he).2.2]
      exact ⟨rfl, rfl, rfl⟩
  | announce =>
    simp only [act]
    split <;> exact ⟨rfl, rfl, rfl⟩
  | unsubscribe chanId =>
    simp only [act, unsubscribe, command]
    split <;> exact ⟨rfl, rfl, rfl⟩
  | close =>
    simp only [act, close, command]
    split <;> exact ⟨rfl, rfl, rfl⟩
  | _ => exact ⟨rfl, rfl, rfl⟩

theorem course_act (s : Session) (a : Act) :
    s.Keeps (s.act a) ∧ (s.act a).phase.stage = s.phase.stage ∨
      a = .step ∧ s.Course (s.act .step) := by
  by_cases ha : a = .step
  · subst ha
    rcases s.act_step_cases with he | ⟨-, ht⟩
    · rw [he]
      exact .inl ⟨.refl s, rfl⟩
    · exact .inr ⟨rfl, course_of_turn ht⟩
  · refine .inl ⟨s.keeps_act ha, ?_⟩
    rcases (s.fields_act ha).1 with he | ⟨hidle, he⟩
    · rw [he]
    · rw [he, hidle]
      rfl

theorem sent_act (s : Session) (a : Act) : ∃ out, (s.act a).sent = s.sent ++ out := by
  have hsame : ∀ {s' : Session}, s'.sent = s.sent → ∃ out, s'.sent = s.sent ++ out :=
    fun h => ⟨[], h.trans (List.append_nil _).symm⟩
  rcases s.course_act a with ⟨hk, -⟩ | ⟨rfl, hc⟩
  · exact hsame hk.sent
  · generalize s.act .step = s' at hc ⊢
    cases hc with
    | ended _ _ hs => exact hsame hs
    | connected _ _ hk => exact hsame hk.sent
    | privately _ _ _ hk => exact hsame hk.sent
    | publicly _ _ _ hk => exact hsame hk.sent
    | asked _ _ hs => exact ⟨_, hs⟩
    | waits _ _ hs => exact ⟨_, hs⟩
    | granted _ _ _ _ hs => exact hsame hs
    | serves _ _ hs => exact ⟨_, hs⟩
    | asks _ _ _ hk => exact hsame hk.sent

/-- The account channel changes when an answer grants the authentication, and then only. -/
theorem accountChan_act_cases (s : Session) (a : Act) :
    (s.act a).accountChan = s.accountChan ∨ a = .step ∧ ∃ p d r,
      s.phase = .listening (.handshake p d) ∧ s.nextFrame? = some (.event (.auth r)) ∧
      r.isOk = true ∧ (s.act a).accountChan = some (r.chanId.getD accountChanId) := by
  rcases s.course_act a with ⟨hk, -⟩ | ⟨rfl, hc⟩
  · exact .inl hk.accountChan
  · generalize s.act .step = s' at hc ⊢
    cases hc with
    | ended _ _ _ ha => exact .inl ha
    | connected _ _ hk => exact .inl hk.accountChan
    | privately _ _ _ hk => exact .inl hk.accountChan
    | publicly _ _ _ hk => exact .inl hk.accountChan
    | asked _ _ _ ha => exact .inl ha
    | waits _ _ _ _ ha => exact .inl ha
    | granted hp hf hr _ _ ha => exact .inr ⟨rfl, _, _, _, hp, hf, hr, ha⟩
    | serves _ _ _ _ ha => exact .inl ha
    | asks _ _ _ hk => exact .inl hk.accountChan

/-! ## One challenge -/

/-- The account channel is known only after the loop has asked for it. -/
def Informed (s : Session) : Prop :=
  s.accountChan.isSome = true → s.phase.stage = .ready ∨ s.phase.stage = .over

/-- The loop has asked for authentication. -/
def Challenged (s : Session) : Prop :=
  s.phase.stage = .waiting ∨ s.phase.stage = .over ∨
    s.phase.stage = .ready ∧ s.accountChan.isSome = true

theorem Informed.eq_none (h : s.Informed) (hr : s.phase.stage ≠ .ready)
    (ho : s.phase.stage ≠ .over) : s.accountChan = none := by
  cases ha : s.accountChan with
  | none => rfl
  | some chanId =>
    rcases h (by rw [ha]; rfl) with hs | hs
    · exact absurd hs hr
    · exact absurd hs ho

theorem informed_of_none (h : s.accountChan = none) : s.Informed := by
  intro hs
  rw [h] at hs
  cases hs

theorem Informed.course (h : s.Informed) (hc : s.Course s') : s'.Informed := by
  cases hc with
  | ended hp' => exact fun _ => .inr (by rw [hp']; rfl)
  | granted _ _ _ hp' => exact fun _ => .inl (by rw [hp']; rfl)
  | serves _ hp' => exact fun _ => .inl hp'
  | asks _ hn _ hk => exact informed_of_none (hk.accountChan.trans hn)
  | publicly _ _ hp' => exact fun _ => .inl (by rw [hp']; rfl)
  | connected hp _ hk =>
    exact informed_of_none (hk.accountChan.trans
      (h.eq_none (by rw [hp]; nofun) (by rw [hp]; nofun)))
  | privately hp _ _ hk =>
    exact informed_of_none (hk.accountChan.trans
      (h.eq_none (by rw [hp]; nofun) (by rw [hp]; nofun)))
  | asked hp _ _ ha =>
    exact informed_of_none (ha.trans (h.eq_none (by rw [hp]; nofun) (by rw [hp]; nofun)))
  | waits hp _ _ _ ha =>
    have hs : s.phase.stage = .waiting := Phase.stage_of_listening hp
    exact informed_of_none (ha.trans (h.eq_none (by rw [hs]; nofun) (by rw [hs]; nofun)))

theorem Informed.act (h : s.Informed) (a : Act) : (s.act a).Informed := by
  rcases s.course_act a with ⟨hk, hs⟩ | ⟨rfl, hc⟩
  · unfold Informed
    rw [hk.accountChan, hs]
    exact h
  · exact h.course hc

theorem Informed.run (h : s.Informed) (acts : List Act) : (s.run acts).Informed :=
  run_induction h (fun _ a hs => hs.act a) acts

/-- Once the loop has asked, it does not come back to where it asks. -/
theorem Challenged.course (h : s.Challenged) (hc : s.Course s') : s'.Challenged := by
  have hstage : s.phase.stage ≠ .before ∧ s.phase.stage ≠ .asking := by
    rcases h with h | h | ⟨h, -⟩ <;> rw [h] <;> exact ⟨nofun, nofun⟩
  cases hc with
  | ended hp' => exact .inr (.inl (by rw [hp']; rfl))
  | connected hp => exact absurd (by rw [hp]; rfl) hstage.1
  | privately hp => exact absurd (by rw [hp]; rfl) hstage.1
  | publicly hp => exact absurd (by rw [hp]; rfl) hstage.1
  | asked hp => exact absurd (by rw [hp]; rfl) hstage.2
  | waits _ hp' => exact .inl (Phase.stage_of_listening hp')
  | granted _ _ _ hp' _ ha => exact .inr (.inr ⟨by rw [hp']; rfl, by rw [ha]; rfl⟩)
  | serves hp hp' _ _ ha =>
    rcases h with h | h | ⟨-, h⟩
    · rw [hp] at h; cases h
    · rw [hp] at h; cases h
    · exact .inr (.inr ⟨hp', by rw [ha]; exact h⟩)
  | asks hp hn =>
    rcases h with h | h | ⟨-, h⟩
    · rw [hp] at h; cases h
    · rw [hp] at h; cases h
    · rw [hn] at h; cases h

theorem Challenged.act (h : s.Challenged) (a : Act) : (s.act a).Challenged := by
  rcases s.course_act a with ⟨hk, hs⟩ | ⟨rfl, hc⟩
  · unfold Challenged
    rw [hk.accountChan, hs]
    exact h
  · exact h.course hc

theorem Challenged.not_asking (h : s.Challenged) : s.phase.stage ≠ .asking := by
  rcases h with h | h | ⟨h, -⟩ <;> rw [h] <;> nofun

theorem phase_of_asking (h : s.phase.stage = .asking) : ∃ p, s.phase = .authenticating p := by
  cases hp : s.phase with
  | authenticating p => exact ⟨p, rfl⟩
  | listening l => rw [hp] at h; cases l <;> cases h
  | delivering b l => rw [hp] at h; cases l <;> cases h
  | _ => rw [hp] at h; cases h

theorem step?_of_asking (h : s.phase.stage = .asking) : ∃ p, s.step? = some (s.authenticate p) := by
  obtain ⟨p, hp⟩ := phase_of_asking h
  exact ⟨p, by simp only [step?, hp]⟩

theorem course_asking (h : s.phase.stage = .asking) : s.Course (s.act .step) := by
  obtain ⟨p, hs⟩ := step?_of_asking h
  rw [act_step hs]
  exact course_of_turn (turn_of_step? hs)

theorem challenged_of_asking (h : s.phase.stage = .asking) : (s.act .step).Challenged := by
  have hc := course_asking h
  generalize s.act .step = s' at hc ⊢
  cases hc with
  | ended hp' => exact .inr (.inl (by rw [hp']; rfl))
  | asked _ hp' => exact .inl (by rw [hp']; rfl)
  | waits hp => rw [Phase.stage_of_listening hp] at h; cases h
  | serves hp => rw [hp] at h; cases h
  | connected hp => rw [hp] at h; cases h
  | privately hp => rw [hp] at h; cases h
  | publicly hp => rw [hp] at h; cases h
  | granted hp => rw [hp] at h; cases h
  | asks hp => rw [hp] at h; cases h

/-! ## How often the loop asks -/

def asks (s : Session) : Act → Nat
  | .step => if s.phase.stage = .asking then 1 else 0
  | _ => 0

theorem asks_cases (s : Session) (a : Act) :
    s.asks a = 0 ∨ a = .step ∧ s.phase.stage = .asking := by
  cases a with
  | step =>
    by_cases hs : s.phase.stage = .asking
    · exact .inr ⟨rfl, hs⟩
    · exact .inl (by simp [asks, hs])
  | _ => exact .inl rfl

/-- How many steps of a run ask for authentication. -/
def challenges (s : Session) : List Act → Nat
  | [] => 0
  | a :: acts => s.asks a + (s.act a).challenges acts

theorem challenges_of_challenged (h : s.Challenged) (acts : List Act) : s.challenges acts = 0 := by
  induction acts generalizing s with
  | nil => rfl
  | cons a acts ih =>
    have hasks : s.asks a = 0 := by cases a <;> simp [asks, h.not_asking]
    rw [challenges, hasks, ih (h.act a)]

theorem challenges_le_one (s : Session) (acts : List Act) : s.challenges acts ≤ 1 := by
  induction acts generalizing s with
  | nil => exact Nat.zero_le 1
  | cons a acts ih =>
    rw [challenges]
    have hrest := ih (s.act a)
    cases a with
    | step =>
      by_cases hs : s.phase.stage = .asking
      · rw [challenges_of_challenged (challenged_of_asking hs)]
        simp [asks, hs]
      · simpa [asks, hs] using hrest
    | _ => simpa [asks] using hrest

/-- What grows by one at most whenever the loop asks, and never otherwise, is bounded by how often
it asks. -/
theorem le_challenges {f : Session → Nat} {P : Session → Prop}
    (hP : ∀ s a, P s → P (s.act a)) (hf : ∀ s a, P s → f (s.act a) ≤ f s + s.asks a)
    (hs : P s) (acts : List Act) : f (s.run acts) ≤ f s + s.challenges acts := by
  induction acts generalizing s with
  | nil => exact Nat.le_refl _
  | cons a acts ih =>
    have hrest := ih (hP s a hs)
    have hact := hf s a hs
    change f ((s.act a).run acts) ≤ _
    rw [challenges]
    omega

theorem auths_act (s : Session) (a : Act) :
    (s.act a).sent.countP Outbound.isAuth ≤ s.sent.countP Outbound.isAuth + s.asks a := by
  have hsame : ∀ {s' : Session} {n : Nat}, s'.sent = s.sent →
      s'.sent.countP Outbound.isAuth ≤ s.sent.countP Outbound.isAuth + n :=
    fun h => h ▸ Nat.le_add_right _ _
  have hmore : ∀ {s' : Session} {out : List Outbound} {n : Nat}, s'.sent = s.sent ++ out →
      (∀ o ∈ out, o.isAuth = false) →
      s'.sent.countP Outbound.isAuth ≤ s.sent.countP Outbound.isAuth + n := by
    intro s' out n hs hout
    have hzero : out.countP Outbound.isAuth = 0 := List.countP_eq_zero.mpr (by simpa using hout)
    rw [hs, List.countP_append, hzero]
    omega
  rcases s.course_act a with ⟨hk, -⟩ | ⟨rfl, hc⟩
  · exact hsame hk.sent
  · generalize s.act .step = s' at hc ⊢
    cases hc with
    | asked hp _ hs =>
      rw [hs, List.countP_append]
      simp [asks, hp, Phase.stage, Outbound.isAuth]
    | ended _ _ hs | granted _ _ _ _ hs => exact hsame hs
    | connected _ _ hk | privately _ _ _ hk | publicly _ _ _ hk | asks _ _ _ hk =>
      exact hsame hk.sent
    | waits _ _ hs hout => exact hmore hs fun o ho => (hout o ho).1
    | serves _ _ hs hout => exact hmore hs hout

theorem auths_run (s : Session) (acts : List Act) :
    (s.run acts).sent.countP Outbound.isAuth ≤
      s.sent.countP Outbound.isAuth + s.challenges acts :=
  le_challenges (f := fun s => s.sent.countP Outbound.isAuth) (P := fun _ => True)
    (fun _ _ _ => trivial) (fun s a _ => s.auths_act a) trivial acts

theorem counter_act (s : Session) (a : Act) : (s.act a).counter = s.counter ∨
    s.asks a = 1 ∧ (s.act a).counter = (Counter.draw s.counter).2 := by
  rcases s.course_act a with ⟨hk, -⟩ | ⟨rfl, hc⟩
  · exact .inl hk.counter
  · generalize s.act .step = s' at hc ⊢
    cases hc with
    | asked hp _ _ _ hc => exact .inr ⟨by simp [asks, hp, Phase.stage], hc⟩
    | ended _ _ _ _ hc => exact hc.imp_right fun ⟨hs, hc⟩ => ⟨by simp [asks, hs], hc⟩
    | waits _ _ _ _ _ hc | granted _ _ _ _ _ _ hc | serves _ _ _ _ _ hc => exact .inl hc
    | connected _ _ hk | privately _ _ _ hk | publicly _ _ _ hk | asks _ _ _ hk =>
      exact .inl hk.counter

theorem counter_run (s : Session) (acts : List Act) : (s.run acts).counter = s.counter ∨
    s.challenges acts = 1 ∧ (s.run acts).counter = (Counter.draw s.counter).2 := by
  induction acts generalizing s with
  | nil => exact .inl rfl
  | cons a acts ih =>
    have hone := s.challenges_le_one (a :: acts)
    rw [challenges] at hone ⊢
    change ((s.act a).run acts).counter = s.counter ∨ _ ∧ ((s.act a).run acts).counter = _
    rcases s.counter_act a with ha | ⟨hasks, ha⟩
    · rw [← ha]
      refine (ih (s.act a)).imp_right fun ⟨hrest, hc⟩ => ⟨?_, hc⟩
      omega
    · rcases ih (s.act a) with hc | ⟨hrest, -⟩
      · exact .inr ⟨by omega, hc.trans ha⟩
      · omega

end Session
end MarketWire
