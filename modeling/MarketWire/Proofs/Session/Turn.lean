import MarketWire.Proofs.Registry.Operation
import MarketWire.Stream.Session.Run

/-!
# Turns of the loop

Every step of the loop is one of a few turns, and each says under what condition it is taken and
what becomes of the session. A turn either leads on or concludes the session. What a turn does to
the registry is an operation, or two of them where a row finds that its subscriber has left.
-/
namespace MarketWire
namespace Session

open Registry (Op)

/-! ## What the parts of a step change -/

theorem setState_eq (s : Session) (after : ConnectionState) :
    s.setState after = { s with
      state := after
      events := s.events ++ if s.state = after then [] else [.stateChanged s.state after] } := by
  unfold setState emit
  split
  · simp [← ‹s.state = after›]
  · rfl

theorem conclude_eq (s : Session) (result : Except ConnectionError Unit) :
    s.conclude result = { s with
      state := .terminated
      events := (s.setState .terminated).events ++ [.terminated (endingOf result)]
      registry := s.registry.perform (.drain (.terminated (endingOf result)))
      link := s.link.close
      phase := .ended result } := by
  simp only [conclude, terminate, setState_eq, emit, Registry.perform]

theorem bindAccount_eq (s : Session) (chanId : Int64) :
    s.bindAccount chanId = { s with
      registry := s.registry.perform (.bindAccount chanId)
      events := s.events ++
        ((s.registry.bindAccount chanId).1.map fun id =>
          .subscribed id chanId .account none).toList } := by
  unfold bindAccount
  rcases h : s.registry.bindAccount chanId with ⟨_ | id, out, r⟩ <;>
    simp [Registry.perform, h, emit]

theorem acknowledge_eq (s : Session) (a : Subscribed) :
    s.acknowledge a = { s with
      registry := s.registry.perform (.bind (.ofSubscribed a) a.chanId)
      events := s.events ++ ((s.registry.bind (.ofSubscribed a) a.chanId).1.map fun p =>
        .subscribed p.id a.chanId p.feed.channel p.feed.symbol).toList } := by
  unfold acknowledge
  rcases h : s.registry.bind (.ofSubscribed a) a.chanId with ⟨_ | p, r⟩ <;>
    simp [Registry.perform, h, emit]

theorem closeChannel_eq (s : Session) (chanId : Int64) :
    s.closeChannel chanId = { s with registry := s.registry.perform (.close chanId) } := by
  unfold closeChannel
  rcases h : s.registry.unbind chanId with ⟨_ | id, r⟩ <;>
    simp [Registry.perform, Registry.closeOwner, h]

/-- A refusal that answers no pending subscription is told as a notice. -/
theorem refuse_eq (s : Session) (r : Refusal) :
    (∃ a p, Ack.ofRefusal? r = some a ∧ (s.registry.takeAgreeing a).1 = some p ∧
      s.refuse r = { s with registry := s.registry.perform (.reject a (.rejected r.code r.msg)) }) ∨
    (∀ a, Ack.ofRefusal? r = some a → (s.registry.takeAgreeing a).1 = none) ∧
      s.refuse r = s.emit (.notice r.code r.msg) := by
  unfold refuse
  cases ha : Ack.ofRefusal? r with
  | none => exact Or.inr ⟨nofun, rfl⟩
  | some a =>
    rcases ht : s.registry.takeAgreeing a with ⟨_ | p, r₁⟩
    · refine Or.inr ⟨fun b hb => ?_, by simp [Registry.reject, ht]⟩
      rw [← Option.some.inj hb, ht]
    · exact Or.inl ⟨a, p, rfl, by rw [ht],
        by simp [Registry.perform, Registry.refuse, Registry.reject, ht]⟩

/-! ## Turns -/

/-- The frame that the loop's next step handles, if it reads one. -/
def nextFrame? (s : Session) : Option Frame :=
  match s.phase, s.link.receive.1 with
  | .listening l, some (.text t) =>
    if l = .serving ∧ s.commands ≠ [] then none else (Frame.parse t).toOption
  | _, _ => none

/-- After the next text has been taken from the link. -/
def read (s : Session) : Session := { s with link := s.link.receive.2 }

/-- After a message has been handed to a subscription. -/
def offering (s : Session) (id : Nat) (m : StreamMessage) : Session :=
  { s with registry := s.registry.perform (.offer id m) }

/-- The ways in which a step concludes a session: what it has become until then, and the result. -/
inductive Halt (s : Session) : Session → Except ConnectionError Unit → Prop where
  | connecting {e : LinkError} (hp : s.phase = .connecting) (hl : s.link.connect = .error e) :
      Halt s (s.setState .connecting) (.error (.link e))
  | signing {p : Purpose} {e : AuthError} (hp : s.phase = .authenticating p)
      (ha : (s.signer.wsAuth Counter.draw s.counter).1 = .error e) :
      Halt s (s.setState .authenticating) (.error (.auth e))
  | authenticating {p : Purpose} {a : WsAuth} {counter : Counter} {e : LinkError}
      (hp : s.phase = .authenticating p)
      (ha : s.signer.wsAuth Counter.draw s.counter = (.ok a, counter))
      (hl : s.link.send = .error e) :
      Halt s { s.setState .authenticating with counter := counter } (.error (.link e))
  | requesting {p : Purpose} {id : Nat} {feed : Feed} {feeds : List (Nat × Feed)} {e : LinkError}
      (hp : s.phase = .sending p ((id, feed) :: feeds)) (hl : s.link.send = .error e) :
      Halt s s (.error (.link e))
  | unsubscribing {chanId : Int64} {cs : List Command} {e : LinkError}
      (hp : s.phase = .listening .serving) (hc : s.commands = .unsubscribe chanId :: cs)
      (hl : s.link.send = .error e) : Halt s { s with commands := cs } (.error (.link e))
  | closing {cs : List Command} (hp : s.phase = .listening .serving)
      (hc : s.commands = .close :: cs) : Halt s { s with commands := cs } (.ok ())
  | overdue {l : Listening} {limit : Span} (hp : s.phase = .listening l)
      (hl : s.link.receive.1 = none) (ho : s.overdue? l = some limit) :
      Halt s s (.error (.authTimeout limit))
  | broken {l : Listening} {e : LinkError} (hp : s.phase = .listening l) :
      Halt s s.read (.error (.link e))
  | refused {p : Purpose} {d : Option Deadline} {r : AuthReply}
      (hp : s.phase = .listening (.handshake p d)) (hf : s.nextFrame? = some (.event (.auth r)))
      (hr : r.isOk = false) :
      Halt s s.read (.error (.auth (.rejected r.code (r.msg.getD r.status))))
  | releasing {b : Batch} {l : Listening} {row : List Json.Value} {m : StreamMessage}
      {e : LinkError} (hp : s.phase = .delivering b l)
      (hm : (b.message s.config.batch row).1 = m)
      (hd : (s.registry.sink? b.id).any (·.detached) = true)
      (hl : s.link.send = .error e) :
      Halt s ((s.offering b.id m).closeChannel b.chanId) (.error (.link e))

inductive Turn (s : Session) : Session → Prop where
  | halt {s₁ : Session} {result : Except ConnectionError Unit} (h : Halt s s₁ result) :
      Turn s (s₁.conclude result)
  | connected {link : Link} (hp : s.phase = .connecting) (hl : s.link.connect = .ok link) :
      Turn s { s.setState .connecting with link := link, phase := .connected }
  | privately (hp : s.phase = .connected) (hr : s.registry.hasPendingPrivate = true) :
      Turn s { s with phase := .authenticating .opening }
  | publicly (hp : s.phase = .connected) (hr : s.registry.hasPendingPrivate = false) :
      Turn s { s.setState .subscribing with phase := .requesting .opening }
  | authenticating {p : Purpose} {a : WsAuth} {counter : Counter}
      (hp : s.phase = .authenticating p)
      (ha : s.signer.wsAuth Counter.draw s.counter = (.ok a, counter))
      (hl : s.link.send = .ok ()) :
      Turn s { s.setState .authenticating with
        counter := counter
        sent := s.sent ++ [.auth (authRequest s.config a)]
        phase := .listening (.handshake p s.deadline?) }
  | requesting {p : Purpose} (hp : s.phase = .requesting p) : Turn s (s.takeRequests p)
  | opened (hp : s.phase = .sending .opening []) :
      Turn s { s.setState .streaming with phase := .listening .serving }
  | flushed (hp : s.phase = .sending .later []) : Turn s { s with phase := .listening .serving }
  | skipped {p : Purpose} {id : Nat} {feed : Feed} {feeds : List (Nat × Feed)}
      (hp : s.phase = .sending p ((id, feed) :: feeds)) (hf : feed.request? = none) :
      Turn s { s with phase := .sending p feeds }
  | requested {p : Purpose} {id : Nat} {feed : Feed} {feeds : List (Nat × Feed)}
      {r : SubscribeRequest} (hp : s.phase = .sending p ((id, feed) :: feeds))
      (hf : feed.request? = some r) (hl : s.link.send = .ok ()) :
      Turn s { s with sent := s.sent ++ [.subscribe id r], phase := .sending p feeds }
  | joined {chanId : Int64} {cs : List Command} (hp : s.phase = .listening .serving)
      (hc : s.commands = .flush :: cs) (hr : s.registry.hasPendingPrivate = true)
      (ha : s.accountChan = some chanId) :
      Turn s { { s with commands := cs }.bindAccount chanId with phase := .requesting .later }
  | challenged {cs : List Command} (hp : s.phase = .listening .serving)
      (hc : s.commands = .flush :: cs) (hr : s.registry.hasPendingPrivate = true)
      (ha : s.accountChan = none) :
      Turn s { s with commands := cs, phase := .authenticating .later }
  | asked {cs : List Command} (hp : s.phase = .listening .serving)
      (hc : s.commands = .flush :: cs) (hr : s.registry.hasPendingPrivate = false) :
      Turn s { s with commands := cs, phase := .requesting .later }
  | unsubscribing {chanId : Int64} {cs : List Command} (hp : s.phase = .listening .serving)
      (hc : s.commands = .unsubscribe chanId :: cs) (hl : s.link.send = .ok ()) :
      Turn s { s with
        commands := cs
        sent := s.sent ++ [.unsubscribe chanId]
        phase := .listening .serving }
  | noise {l : Listening} (hp : s.phase = .listening l) (hf : s.nextFrame? = none) : Turn s s.read
  | authenticated {p : Purpose} {d : Option Deadline} {r : AuthReply}
      (hp : s.phase = .listening (.handshake p d)) (hf : s.nextFrame? = some (.event (.auth r)))
      (hr : r.isOk = true) : Turn s (s.read.concludeHandshake p r)
  | informed {l : Listening} {i : Info} (hp : s.phase = .listening l)
      (hf : s.nextFrame? = some (.event (.info i))) :
      Turn s (s.read.emit (.info i.version i.code i.msg))
  | acknowledged {l : Listening} {a : Subscribed} (hp : s.phase = .listening l)
      (hf : s.nextFrame? = some (.event (.subscribed a))) : Turn s (s.read.acknowledge a)
  | unsubscribed {l : Listening} {status : String} {chanId : Int64} (hp : s.phase = .listening l)
      (hf : s.nextFrame? = some (.event (.unsubscribed status chanId))) :
      Turn s ((s.read.closeChannel chanId).emit (.unsubscribed chanId))
  | refused {l : Listening} {r : Refusal} (hp : s.phase = .listening l)
      (hf : s.nextFrame? = some (.event (.error r))) : Turn s (s.read.refuse r)
  | ignored {l : Listening} {c : Control} (hp : s.phase = .listening l)
      (hf : s.nextFrame? = some (.event c)) (hc : ∀ s : Session, s.handleControl c = s)
      (ha : l ≠ .serving → ∀ r, c ≠ .auth r) : Turn s s.read
  | unrouted {l : Listening} {d : DataFrame} (hp : s.phase = .listening l)
      (hf : s.nextFrame? = some (.data d))
      (hb : d.payload.isHeartbeat = true ∨ s.batch? d = none) : Turn s s.read
  | routed {l : Listening} {d : DataFrame} {b : Batch} (hp : s.phase = .listening l)
      (hf : s.nextFrame? = some (.data d)) (hh : d.payload.isHeartbeat = false)
      (hb : s.batch? d = some b) : Turn s (s.read.deliverRows b l)
  | drained {b : Batch} {l : Listening} (hp : s.phase = .delivering b l) (hr : b.rows = []) :
      Turn s { s with phase := .listening l }
  | delivered {b : Batch} {l : Listening} {row : List Json.Value} {rows : List (List Json.Value)}
      {m : StreamMessage} {goesOn : Bool} (hp : s.phase = .delivering b l)
      (hr : b.rows = row :: rows) (hm : b.message s.config.batch row = (m, goesOn))
      (ho : (s.registry.offer b.id m).1 = some .delivered ∨
        (s.registry.offer b.id m).1 = some .dropped) :
      Turn s ((s.offering b.id m).deliverRows { b with rows := if goesOn then rows else [] } l)
  | abandoned {b : Batch} {l : Listening} {row : List Json.Value} {m : StreamMessage}
      (hp : s.phase = .delivering b l) (hm : (b.message s.config.batch row).1 = m)
      (ho : (s.registry.offer b.id m).1 = some .closed)
      (hd : (s.registry.sink? b.id).any (·.detached) = false) :
      Turn s { s.offering b.id m with phase := .listening l }
  | released {b : Batch} {l : Listening} {row : List Json.Value} {m : StreamMessage}
      (hp : s.phase = .delivering b l) (hm : (b.message s.config.batch row).1 = m)
      (ho : (s.registry.offer b.id m).1 = some .closed)
      (hd : (s.registry.sink? b.id).any (·.detached) = true)
      (hc : s.registry.owner? b.chanId = none ∨ some b.chanId = s.accountChan) :
      Turn s { (s.offering b.id m).closeChannel b.chanId with phase := .listening l }
  | releasing {b : Batch} {l : Listening} {row : List Json.Value} {m : StreamMessage}
      (hp : s.phase = .delivering b l) (hm : (b.message s.config.batch row).1 = m)
      (ho : (s.registry.offer b.id m).1 = some .closed)
      (hd : (s.registry.sink? b.id).any (·.detached) = true)
      (hc : some b.chanId ≠ s.accountChan) (hl : s.link.send = .ok ()) :
      Turn s { (s.offering b.id m).closeChannel b.chanId with
        sent := s.sent ++ [.unsubscribe b.chanId]
        phase := .listening l }

/-! ## Every step is a turn -/

theorem turn_connect {s : Session} (hp : s.phase = .connecting) : s.Turn s.connect := by
  have hl : (s.setState .connecting).link = s.link := by rw [setState_eq]
  unfold connect
  simp only [hl]
  cases h : s.link.connect with
  | error e => exact .halt (.connecting hp h)
  | ok link => exact .connected hp h

theorem turn_proceed {s : Session} (hp : s.phase = .connected) : s.Turn s.proceed := by
  unfold proceed
  cases h : s.registry.hasPendingPrivate with
  | true => exact .privately hp h
  | false => exact .publicly hp h

theorem turn_authenticate {s : Session} {p : Purpose} (hp : s.phase = .authenticating p) :
    s.Turn (s.authenticate p) := by
  unfold authenticate
  rcases h : s.signer.wsAuth Counter.draw s.counter with ⟨e | a, counter⟩
  · have hs := Turn.halt (.signing hp (by rw [h]))
    simpa only [setState_eq, h, fail] using hs
  · cases hl : s.link.send with
    | error e =>
      have hs := Turn.halt (.authenticating hp h hl)
      simpa only [setState_eq, h, send, hl, fail] using hs
    | ok u =>
      have hs := Turn.authenticating hp h hl
      simpa only [setState_eq, h, send, hl, deadline?] using hs

theorem turn_sendNext {s : Session} {p : Purpose} {feeds : List (Nat × Feed)}
    (hp : s.phase = .sending p feeds) : s.Turn (s.sendNext p feeds) := by
  cases feeds with
  | nil =>
    cases p with
    | opening => exact .opened hp
    | later => exact .flushed hp
  | cons f feeds =>
    obtain ⟨id, feed⟩ := f
    cases hf : feed.request? with
    | none => simpa only [sendNext, hf] using Turn.skipped hp hf
    | some r =>
      cases hl : s.link.send with
      | error e =>
        have hs := Turn.halt (.requesting hp hl)
        simpa only [sendNext, hf, send, hl, fail] using hs
      | ok u =>
        have hs := Turn.requested hp hf hl
        simpa only [sendNext, hf, send, hl] using hs

theorem turn_obey {s : Session} {c : Command} {cs : List Command}
    (hp : s.phase = .listening .serving) (hc : s.commands = c :: cs) :
    s.Turn ({ s with commands := cs }.obey c) := by
  cases c with
  | flush =>
    simp only [obey, flush]
    split
    · split
      · exact .joined hp hc ‹_› ‹_›
      · exact .challenged hp hc ‹_› ‹_›
    · exact .asked hp hc (Bool.eq_false_iff.mpr ‹_›)
  | close => exact .halt (.closing hp hc)
  | unsubscribe chanId =>
    cases hl : s.link.send with
    | error e =>
      have hs := Turn.halt (.unsubscribing hp hc hl)
      simpa only [obey, send, hl, fail] using hs
    | ok u =>
      have hs := Turn.unsubscribing hp hc hl
      simpa only [obey, send, hl] using hs

theorem nextFrame?_eq {s : Session} {l : Listening} (hp : s.phase = .listening l)
    (hc : l = .serving → s.commands = []) {t : String} {link : Link}
    (hl : s.link.receive = (some (.text t), link)) :
    s.nextFrame? = (Frame.parse t).toOption := by
  have hnot : ¬(l = .serving ∧ s.commands ≠ []) := fun h => h.2 (hc h.1)
  simp [nextFrame?, hp, hl, hnot]

theorem turn_handleData {s : Session} {l : Listening} {d : DataFrame}
    (hp : s.phase = .listening l) (hf : s.nextFrame? = some (.data d)) :
    s.Turn (s.read.handleData d l) := by
  unfold handleData
  cases hh : d.payload.isHeartbeat with
  | true => exact .unrouted hp hf (Or.inl hh)
  | false =>
    simp only [Bool.false_eq_true, if_false]
    cases hb : s.read.batch? d with
    | none => exact .unrouted hp hf (Or.inr hb)
    | some b => exact .routed hp hf hh hb

/-- An answer to an authentication is no event among others while one is under way. -/
theorem turn_handleControl {s : Session} {l : Listening} {c : Control} (hp : s.phase = .listening l)
    (hf : s.nextFrame? = some (.event c)) (ha : l ≠ .serving → ∀ r, c ≠ .auth r) :
    s.Turn (s.read.handleControl c) := by
  cases c with
  | info i => exact .informed hp hf
  | subscribed a => exact .acknowledged hp hf
  | unsubscribed status chanId => exact .unsubscribed hp hf
  | error r => exact .refused hp hf
  | _ => exact .ignored hp hf (fun _ => rfl) ha

theorem turn_handleFrame {s : Session} {l : Listening} {f : Frame} (hp : s.phase = .listening l)
    (hf : s.nextFrame? = some f) : s.Turn (s.read.handleFrame l f) := by
  cases f with
  | data d =>
    have hs := turn_handleData hp hf
    cases l <;> exact hs
  | event c =>
    cases l with
    | serving => exact turn_handleControl hp hf fun h => absurd rfl h
    | handshake p d =>
      by_cases hc : ∃ r, c = .auth r
      · obtain ⟨r, rfl⟩ := hc
        cases hr : r.isOk with
        | true => exact .authenticated hp hf hr
        | false =>
          have hs := Turn.halt (.refused hp hf hr)
          simpa only [handleFrame, concludeHandshake, hr, Bool.false_eq_true, if_false, fail]
            using hs
      · have hs := turn_handleControl hp hf fun _ r he => hc ⟨r, he⟩
        cases c with
        | auth r => exact absurd ⟨r, rfl⟩ hc
        | _ => exact hs

theorem turn_readFrame {s s' : Session} {l : Listening} (hp : s.phase = .listening l)
    (hc : l = .serving → s.commands = []) (h : s.readFrame? l = some s') : s.Turn s' := by
  unfold readFrame? at h
  rcases hl : s.link.receive with ⟨_ | i, link⟩
  · rw [hl] at h
    obtain ⟨limit, ho, rfl⟩ := Option.map_eq_some_iff.mp h
    exact .halt (.overdue hp (by rw [hl]) ho)
  · have hread : { s with link := link } = s.read := by rw [read, hl]
    simp only [hl, hread, Option.some.injEq] at h
    subst h
    cases i with
    | fault e => exact .halt (.broken hp)
    | close => exact .halt (.broken hp)
    | text t =>
      have hn := nextFrame?_eq hp hc hl
      cases hf : Frame.parse t with
      | error e =>
        simp only [handleInbound, hf]
        exact .noise hp (by rw [hn, hf]; rfl)
      | ok f =>
        simp only [handleInbound, hf]
        exact turn_handleFrame hp (by rw [hn, hf]; rfl)

theorem release_eq (s : Session) (chanId : Int64) (l : Listening) :
    s.release chanId l =
      if s.registry.owner? chanId = none ∨ some chanId = s.accountChan then
        { s.closeChannel chanId with phase := .listening l }
      else (s.closeChannel chanId).send (.unsubscribe chanId) (.listening l) := by
  unfold release closeChannel
  cases ho : s.registry.owner? chanId with
  | none => simp [Registry.unbind, ho]
  | some a => by_cases hc : some chanId = s.accountChan <;> simp [Registry.unbind, ho, hc]

theorem turn_release {s : Session} {b : Batch} {l : Listening} {row : List Json.Value}
    {m : StreamMessage} (hp : s.phase = .delivering b l)
    (hm : (b.message s.config.batch row).1 = m) (ho : (s.registry.offer b.id m).1 = some .closed)
    (hd : (s.registry.sink? b.id).any (·.detached) = true) :
    s.Turn ((s.offering b.id m).release b.chanId l) := by
  have hown : (s.offering b.id m).registry.owner? b.chanId = s.registry.owner? b.chanId := by
    simp [offering, Registry.perform, Registry.owner?]
  rw [release_eq, hown]
  split
  · rename_i hc
    exact .released hp hm ho hd hc
  · rename_i hc
    cases hl : s.link.send with
    | error e =>
      have hs := Turn.halt (.releasing hp hm hd hl)
      simpa only [closeChannel_eq, send, offering, hl, fail] using hs
    | ok u =>
      have hs := Turn.releasing hp hm ho hd (fun h => hc (Or.inr h)) hl
      simpa only [closeChannel_eq, send, offering, hl] using hs

theorem turn_deliver {s s' : Session} {b : Batch} {l : Listening} (hp : s.phase = .delivering b l)
    (h : s.deliver? b l = some s') : s.Turn s' := by
  unfold deliver? at h
  cases hr : b.rows with
  | nil =>
    simp only [hr, Option.some.injEq] at h
    exact h ▸ .drained hp hr
  | cons row rows =>
    rcases hm : b.message s.config.batch row with ⟨m, goesOn⟩
    rcases ho : s.registry.offer b.id m with ⟨_ | d, registry⟩
    · simp [hr, hm, ho] at h
    · have hm₁ : (b.message s.config.batch row).1 = m := by rw [hm]
      have ho₁ : (s.registry.offer b.id m).1 = some d := by rw [ho]
      have hreg : { s with registry := registry } = s.offering b.id m := by
        rw [offering, Registry.perform, ho]
      have hdet : (registry.sink? b.id).any (·.detached) =
          (s.registry.sink? b.id).any (·.detached) := by
        have hs := Registry.sink?_offer s.registry b.id m b.id
        rw [ho, if_pos rfl] at hs
        rw [hs, Option.any_map]
        exact congrArg (fun f => (s.registry.sink? b.id).any f)
          (funext fun k => (Sink.fields_offer k m).2.1)
      cases d with
      | closed =>
        simp only [hr, hm, ho, hreg, hdet] at h
        split at h
        · rw [← Option.some.inj h]
          exact turn_release hp hm₁ ho₁ ‹_›
        · rw [← Option.some.inj h]
          have hs := Turn.abandoned hp hm₁ ho₁ (Bool.eq_false_iff.mpr ‹¬_›)
          simpa only [offering, Registry.perform, ho] using hs
      | delivered =>
        simp only [hr, hm, ho, hreg] at h
        rw [← Option.some.inj h]
        exact .delivered hp hr hm (Or.inl ho₁)
      | dropped =>
        simp only [hr, hm, ho, hreg] at h
        rw [← Option.some.inj h]
        exact .delivered hp hr hm (Or.inr ho₁)

/-- A step is taken in one of these ways. -/
theorem turn_of_step? {s s' : Session} (h : s.step? = some s') : s.Turn s' := by
  unfold step? at h
  cases hp : s.phase with
  | idle => simp [hp] at h
  | ended result => simp [hp] at h
  | connecting =>
    simp only [hp, Option.some.injEq] at h
    exact h ▸ turn_connect hp
  | connected =>
    simp only [hp, Option.some.injEq] at h
    exact h ▸ turn_proceed hp
  | authenticating p =>
    simp only [hp, Option.some.injEq] at h
    exact h ▸ turn_authenticate hp
  | requesting p =>
    simp only [hp, Option.some.injEq] at h
    exact h ▸ .requesting hp
  | sending p feeds =>
    simp only [hp, Option.some.injEq] at h
    exact h ▸ turn_sendNext hp
  | delivering b l =>
    simp only [hp] at h
    exact turn_deliver hp h
  | listening l =>
    simp only [hp] at h
    unfold listen? at h
    split at h
    · rename_i c cs hc
      rw [← Option.some.inj h]
      exact turn_obey hp hc
    · rename_i hno
      refine turn_readFrame hp (fun hl => ?_) h
      cases hc : s.commands with
      | nil => rfl
      | cons c cs => exact absurd hc (hno c cs hl)

end Session
end MarketWire
