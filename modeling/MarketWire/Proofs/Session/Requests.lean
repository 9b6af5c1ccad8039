import MarketWire.Proofs.Session.Invariant

/-!
# Requests are sent once

Registrations come at any time, and each is announced to the loop later than it is made. A
subscription whose request has not been taken is therefore owed a flush once the loop has taken
requests, and an account subscription is owed one once the loop is past its authentication. The
numbers of the requests that were sent, followed by those that were taken, increase all the time,
and stay below those of the subscriptions whose requests are still to be taken.
-/
namespace MarketWire

def Outbound.subscription? : Outbound → Option Nat
  | .subscribe id _ => some id
  | _ => none

namespace Phase

/-- The requests that were taken and have not been sent yet. -/
def taken : Phase → List (Nat × Feed)
  | .sending _ feeds => feeds
  | _ => []

/-- Where frames are read, or the rows of one are delivered. -/
def listening? : Phase → Option Listening
  | .listening l | .delivering _ l => some l
  | _ => none

/-- The loop has taken the requests that were due. -/
def HasAsked (p : Phase) : Prop :=
  (∃ purpose feeds, p = .sending purpose feeds) ∨ p.listening? = some .serving

/-- The loop has taken the requests that were due, or is about to. -/
def IsReady (p : Phase) : Prop := (∃ purpose, p = .requesting purpose) ∨ p.HasAsked

theorem taken_of_listening {p : Phase} {l : Listening} (h : p.listening? = some l) :
    p.taken = [] := by
  cases p with
  | sending purpose feeds => cases h
  | _ => rfl

theorem hasAsked_congr {p p' : Phase} {l : Listening} (h : p.listening? = some l)
    (h' : p'.listening? = some l) (ha : p'.HasAsked) : p.HasAsked := by
  rcases ha with ⟨purpose, feeds, rfl⟩ | ha
  · cases h'
  · exact Or.inr (h.trans (h'.symm.trans ha))

theorem isReady_congr {p p' : Phase} {l : Listening} (h : p.listening? = some l)
    (h' : p'.listening? = some l) (hr : p'.IsReady) : p.IsReady := by
  rcases hr with ⟨purpose, rfl⟩ | ha
  · cases h'
  · exact Or.inr (hasAsked_congr h h' ha)

end Phase

namespace Session

open Registry (Op)

/-- The loop will come to take requests: it has been told to, or will be. -/
def Owed (s : Session) : Prop := .flush ∈ s.commands ∨ 0 < s.unannounced

/-- The subscriptions that were asked for, and those that are about to be. -/
def asked (s : Session) : List Nat :=
  s.sent.filterMap Outbound.subscription? ++ s.phase.taken.map (·.1)

structure Requested (s : Session) : Prop where
  increasing : s.asked.Pairwise (· < ·)
  issued : ∀ id ∈ s.asked, id < s.registry.nextId
  later : ∀ p ∈ s.registry.pending, p.isUnsent = true → ∀ id ∈ s.asked, id < p.id
  accounted : ∀ p ∈ s.registry.pending, p.sent = true → (p.id, p.feed) ∈ s.phase.taken ∨
    ∀ r, p.feed.request? = some r → .subscribe p.id r ∈ s.sent
  authenticated : s.phase.IsReady →
    ∀ p ∈ s.registry.pending, p.feed.isPrivate = true → s.Owed
  flushed : s.phase.HasAsked → ∀ p ∈ s.registry.pending, p.isUnsent = true → s.Owed

theorem requested_create (config : ConnectionConfig) (signer : Signer) (counter : Counter)
    (link : Link) : (create config signer counter link).Requested where
  increasing := List.Pairwise.nil
  issued := fun _ h => absurd h List.not_mem_nil
  later := fun _ h => absurd h List.not_mem_nil
  accounted := fun _ h => absurd h List.not_mem_nil
  authenticated := fun _ _ h => absurd h List.not_mem_nil
  flushed := fun _ _ h => absurd h List.not_mem_nil

/-- Subscriptions that wait only leave, no request is taken or sent, and the loop does not come
nearer to taking any, nor is it released from doing so. -/
structure Calm (s s' : Session) : Prop where
  pending : s'.registry.pending.Sublist s.registry.pending
  nextId : s'.registry.nextId = s.registry.nextId
  sent : ∃ out, s'.sent = s.sent ++ out ∧ out.filterMap Outbound.subscription? = []
  taken : s'.phase.taken = s.phase.taken
  ready : s'.phase.IsReady → s.phase.IsReady ∧ (s.Owed → s'.Owed)
  hasAsked : s'.phase.HasAsked → s.phase.HasAsked

variable {s s' : Session}

theorem Calm.asked_eq (h : s.Calm s') : s'.asked = s.asked := by
  obtain ⟨out, hout, hnone⟩ := h.sent
  unfold asked
  rw [hout, List.filterMap_append, hnone, List.append_nil, h.taken]

theorem Requested.calm (hr : s.Requested) (h : s.Calm s') : s'.Requested where
  increasing := by
    rw [h.asked_eq]
    exact hr.increasing
  issued := by
    rw [h.asked_eq, h.nextId]
    exact hr.issued
  later := by
    rw [h.asked_eq]
    exact fun p hp => hr.later p (h.pending.subset hp)
  accounted := by
    intro p hp hsent
    rw [h.taken]
    refine (hr.accounted p (h.pending.subset hp) hsent).imp_right fun hall r hreq => ?_
    obtain ⟨out, hout, -⟩ := h.sent
    rw [hout]
    exact List.mem_append_left out (hall r hreq)
  authenticated := by
    intro hready p hp hpriv
    obtain ⟨hready, howed⟩ := h.ready hready
    exact howed (hr.authenticated hready p (h.pending.subset hp) hpriv)
  flushed := by
    intro hasked p hp hunsent
    obtain ⟨-, howed⟩ := h.ready (Or.inr hasked)
    exact howed (hr.flushed (h.hasAsked hasked) p (h.pending.subset hp) hunsent)

/-! ## Steps that take and send nothing -/

theorem shrinks_performs {a : Act} {r : Registry} (h : s.Performs a r)
    (hreg : ∀ feed, a ≠ .register feed) (hreq : a = .step → ∀ p, s.phase ≠ .requesting p) :
    r.nextId = s.registry.nextId ∧ r.pending.Sublist s.registry.pending := by
  induction h with
  | start => exact ⟨rfl, List.Sublist.refl _⟩
  | @perform r op h hop ih =>
    have hu : op ≠ .takeUnsent := by
      rintro rfl
      cases hop with
      | requesting hp => exact hreq rfl _ hp
    have hsubscribe : ∀ feed capacity overflow, op ≠ .subscribe feed capacity overflow := by
      rintro feed capacity overflow rfl
      cases hop
      exact hreg _ rfl
    obtain ⟨hnext, hsub⟩ := Registry.perform_shrinks (r := r) hu hsubscribe
    exact ⟨hnext.trans ih.1, hsub.trans ih.2⟩

theorem le_nextId_performs {a : Act} {r : Registry} (h : s.Performs a r) :
    s.registry.nextId ≤ r.nextId := by
  induction h with
  | start => exact Nat.le_refl _
  | perform h hop ih => exact Nat.le_trans ih (Registry.le_nextId_perform ..)

theorem shrinks_step (hs : s.step? = some s') (hp : ∀ p, s.phase ≠ .requesting p) :
    s'.registry.nextId = s.registry.nextId ∧
      s'.registry.pending.Sublist s.registry.pending := by
  rw [← act_step hs]
  exact shrinks_performs (performs_act s .step) (fun _ he => by cases he) fun _ => hp

/-- Where frames are read and rows are delivered, nothing is taken. -/
theorem calm_reading (hs : s.step? = some s') {l : Listening} (hp : s.phase.listening? = some l)
    (hp' : s'.phase.listening? = some l) (howed : s.Owed → s'.Owed)
    (hsent : ∃ out, s'.sent = s.sent ++ out ∧ out.filterMap Outbound.subscription? = []) :
    s.Calm s' := by
  obtain ⟨hnext, hsub⟩ := shrinks_step hs fun p he => by
    rw [he] at hp
    cases hp
  exact ⟨hsub, hnext, hsent,
    (Phase.taken_of_listening hp').trans (Phase.taken_of_listening hp).symm,
    fun hr => ⟨Phase.isReady_congr hp hp' hr, howed⟩, Phase.hasAsked_congr hp hp'⟩

/-- Before requests are taken, nobody is owed anything. -/
theorem calm_waiting (hs : s.step? = some s') (hp : ∀ p, s.phase ≠ .requesting p)
    (ht : s.phase.taken = []) (ht' : s'.phase.taken = []) (hr : ¬s'.phase.IsReady)
    (hsent : ∃ out, s'.sent = s.sent ++ out ∧ out.filterMap Outbound.subscription? = []) :
    s.Calm s' := by
  obtain ⟨hnext, hsub⟩ := shrinks_step hs hp
  exact ⟨hsub, hnext, hsent, ht'.trans ht.symm, fun h => absurd h hr,
    fun h => absurd (Or.inr h) hr⟩

/-- When all that was taken has been sent, frames are read again. -/
theorem calm_served {p : Purpose} (hs : s.step? = some s') (hp : s.phase = .sending p [])
    (hp' : s'.phase = .listening .serving) (howed : s.Owed → s'.Owed)
    (hsent : ∃ out, s'.sent = s.sent ++ out ∧ out.filterMap Outbound.subscription? = []) :
    s.Calm s' := by
  obtain ⟨hnext, hsub⟩ := shrinks_step hs (by simp [hp])
  have hasked : s.phase.HasAsked := Or.inl ⟨p, [], hp⟩
  exact ⟨hsub, hnext, hsent, by rw [hp, hp']; rfl, fun _ => ⟨Or.inr hasked, howed⟩,
    fun _ => hasked⟩

/-! ## Steps that take and send requests -/

namespace Requested

/-- The loop is ready to take requests when no account subscription waits. -/
theorem ready (hr : s.Requested) (hs : s.step? = some s') (hp : ∀ p, s.phase ≠ .requesting p)
    (ht : s.phase.taken = []) {p : Purpose} (hp' : s'.phase = .requesting p)
    (hpriv : s'.registry.hasPendingPrivate = false) (hsent : s'.sent = s.sent) :
    s'.Requested := by
  obtain ⟨hnext, hsub⟩ := shrinks_step hs hp
  have hasked : s'.asked = s.asked := by
    unfold asked
    rw [hsent, ht, hp']
    rfl
  have hno : ¬s'.phase.HasAsked := by
    rw [hp']
    rintro (⟨purpose, feeds, he⟩ | he) <;> cases he
  constructor
  · rw [hasked]
    exact hr.increasing
  · rw [hasked, hnext]
    exact hr.issued
  · rw [hasked]
    exact fun p hp => hr.later p (hsub.subset hp)
  · intro q hq hqs
    rw [hsent, hp']
    refine (hr.accounted q (hsub.subset hq) hqs).imp_left fun hin => ?_
    rw [ht] at hin
    cases hin
  · intro _ q hq hqp
    have hany : s'.registry.hasPendingPrivate = true := List.any_eq_true.mpr ⟨q, hq, hqp⟩
    rw [hpriv] at hany
    cases hany
  · exact fun h => absurd h hno

/-- Requests are taken in the order of their numbers, and none is left. -/
theorem takeRequests (hr : s.Requested) (hs : s.Sound) {p : Purpose}
    (hp : s.phase = .requesting p) : (s.takeRequests p).Requested := by
  have hasked : s.asked = s.sent.filterMap Outbound.subscription? := by
    simp [asked, hp, Phase.taken]
  have hasked' : (s.takeRequests p).asked = s.sent.filterMap Outbound.subscription? ++
      (s.registry.pending.filter Pending.isUnsent).map (·.id) := by
    simp [asked, Session.takeRequests, Registry.takeUnsent, Phase.taken, Function.comp_def]
  have hunsent : ∀ q ∈ (s.takeRequests p).registry.pending, q.isUnsent = false := by
    intro q hq
    obtain ⟨q', -, rfl⟩ := List.mem_map.mp hq
    cases hsent : q'.sent <;> cases hpriv : q'.feed.isPrivate <;>
      simp [Pending.isUnsent, hsent, hpriv]
  have hid : ∀ id ∈ (s.registry.pending.filter Pending.isUnsent).map (·.id),
      ∃ q ∈ s.registry.pending, q.isUnsent = true ∧ q.id = id := by
    intro id hid
    obtain ⟨q, hq, rfl⟩ := List.mem_map.mp hid
    obtain ⟨hq, hu⟩ := List.mem_filter.mp hq
    exact ⟨q, hq, hu, rfl⟩
  have hincreasing := hr.increasing
  have hissued := hr.issued
  have hlater := hr.later
  rw [hasked] at hincreasing hissued hlater
  constructor
  · -- what is taken comes behind what has been sent, in the order of registration
    rw [hasked']
    refine List.pairwise_append.mpr ⟨hincreasing, ?_, ?_⟩
    · exact List.pairwise_map.mpr (hs.registry.ordered.filter _)
    · intro n hn id hin
      obtain ⟨q, hq, hu, rfl⟩ := hid id hin
      exact hlater q hq hu n hn
  · rw [hasked']
    intro id hin
    rcases List.mem_append.mp hin with hin | hin
    · exact hissued id hin
    · obtain ⟨q, hq, -, rfl⟩ := hid id hin
      exact hs.registry.issued q.id (Registry.mem_ids_of_pending hq)
  · intro q hq hu
    rw [hunsent q hq] at hu
    cases hu
  · intro q hq hqs
    obtain ⟨q', hq', rfl⟩ := List.mem_map.mp hq
    cases hu : q'.isUnsent with
    | true =>
      refine Or.inl (List.mem_map.mpr ⟨q', List.mem_filter.mpr ⟨hq', hu⟩, rfl⟩)
    | false =>
      have hsent : q'.sent = true := by simpa [hu] using hqs
      refine (hr.accounted q' hq' hsent).imp_left fun hin => ?_
      rw [hp] at hin
      cases hin
  · intro _ q hq hqp
    obtain ⟨q', hq', rfl⟩ := List.mem_map.mp hq
    exact hr.authenticated (Or.inl ⟨p, hp⟩) q' hq' hqp
  · intro _ q hq hu
    rw [hunsent q hq] at hu
    cases hu

theorem send (hr : s.Requested) {p : Purpose} {id : Nat} {feed : Feed} {feeds : List (Nat × Feed)}
    (hp : s.phase = .sending p ((id, feed) :: feeds)) :
    { s with
      sent := s.sent ++ (feed.request?.map (Outbound.subscribe id)).toList
      phase := .sending p feeds }.Requested := by
  have hwritten : (s.sent ++ (feed.request?.map (Outbound.subscribe id)).toList).filterMap
      Outbound.subscription? = s.sent.filterMap Outbound.subscription? ++
        (feed.request?.map fun _ => id).toList := by
    rw [List.filterMap_append]
    cases feed.request? <;> rfl
  have hsub : ((s.sent ++ (feed.request?.map (Outbound.subscribe id)).toList).filterMap
      Outbound.subscription? ++ feeds.map (·.1)).Sublist s.asked := by
    unfold asked
    rw [hwritten, hp, List.append_assoc]
    refine List.Sublist.append_left ?_ _
    cases feed.request? with
    | none => exact List.sublist_cons_self ..
    | some r => exact List.Sublist.refl _
  have hready : s.phase.IsReady := Or.inr (Or.inl ⟨p, _, hp⟩)
  have hasked : s.phase.HasAsked := Or.inl ⟨p, _, hp⟩
  constructor
  · exact hr.increasing.sublist hsub
  · exact fun id hin => hr.issued id (hsub.subset hin)
  · exact fun q hq hu id hin => hr.later q hq hu id (hsub.subset hin)
  · intro q hq hqs
    rcases hr.accounted q hq hqs with hin | hall
    · rw [hp] at hin
      rcases List.mem_cons.mp hin with he | hin
      · cases he
        refine Or.inr fun r hreq => List.mem_append_right _ ?_
        simp [hreq]
      · exact Or.inl hin
    · exact Or.inr fun r hreq => List.mem_append_left _ (hall r hreq)
  · exact fun _ => hr.authenticated hready
  · exact fun _ => hr.flushed hasked

theorem ended (hr : s.Requested) (hs : s.step? = some s') (hsent : s'.sent = s.sent)
    (hphase : s'.phase.taken = [] ∧ ¬s'.phase.IsReady) (hnone : s'.registry.pending = []) :
    s'.Requested := by
  have hnext : s.registry.nextId ≤ s'.registry.nextId :=
    act_step hs ▸ le_nextId_performs (performs_act s .step)
  have hsub : s'.asked.Sublist s.asked := by
    unfold asked
    rw [hsent, hphase.1]
    exact List.Sublist.append_left (List.nil_sublist _) _
  constructor
  · exact hr.increasing.sublist hsub
  · exact fun id hid => Nat.lt_of_lt_of_le (hr.issued id (hsub.subset hid)) hnext
  · intro p hp
    rw [hnone] at hp
    cases hp
  · intro p hp
    rw [hnone] at hp
    cases hp
  · exact fun h => absurd h hphase.2
  · exact fun h => absurd (Or.inr h) hphase.2

end Requested

/-! ## Every act -/

theorem sent_halt {s₁ : Session} {result : Except ConnectionError Unit} (h : s.Halt s₁ result) :
    s₁.sent = s.sent := by
  cases h with
  | connecting => rw [setState_eq]
  | signing => rw [setState_eq]
  | authenticating => rw [setState_eq]
  | releasing =>
    rw [closeChannel_eq]
    rfl
  | _ => rfl

theorem sent_nothing (h : s'.sent = s.sent) :
    ∃ out, s'.sent = s.sent ++ out ∧ out.filterMap Outbound.subscription? = [] :=
  ⟨[], h.trans (List.append_nil _).symm, rfl⟩

theorem listening?_deliverRows (s : Session) (b : Batch) (l : Listening) :
    (s.deliverRows b l).phase.listening? = some l := by
  rcases s.deliverRows_phase b l with he | he
  · rw [he]
    rfl
  · rw [he]
    rfl

theorem requested_turn (hr : s.Requested) (h : s.Sound) (hs : s.step? = some s')
    (ht : s.Turn s') : s'.Requested := by
  have hread : ∀ {l}, s.phase = .listening l → s.phase.listening? = some l := by
    intro l hp
    rw [hp]
    rfl
  have hdeliver : ∀ {b l}, s.phase = .delivering b l → s.phase.listening? = some l := by
    intro b l hp
    rw [hp]
    rfl
  -- the loop is calm but where it gets ready for requests, takes them, sends them or ends
  cases ht with
  | @halt s₁ result hh =>
    refine hr.ended hs ?_ ?_ ?_
    · have hsent : (s₁.conclude result).sent = s₁.sent := by rw [conclude_eq]
      exact hsent.trans (sent_halt hh)
    · rw [conclude_eq]
      exact ⟨rfl, by simp [Phase.IsReady, Phase.HasAsked, Phase.listening?]⟩
    · rw [conclude_eq]
      simp [Registry.perform, Registry.drain]
  | connected hp hl =>
    refine hr.calm (calm_waiting hs (by simp [hp]) (by rw [hp]; rfl) rfl ?_ (sent_nothing ?_))
    · simp [Phase.IsReady, Phase.HasAsked, Phase.listening?]
    · rw [setState_eq]
  | privately hp hpriv =>
    refine hr.calm (calm_waiting hs (by simp [hp]) (by rw [hp]; rfl) rfl ?_ (sent_nothing rfl))
    simp [Phase.IsReady, Phase.HasAsked, Phase.listening?]
  | publicly hp hpriv =>
    refine hr.ready hs (by simp [hp]) (by rw [hp]; rfl) rfl ?_ ?_
    · rw [setState_eq]
      exact hpriv
    · rw [setState_eq]
  | authenticating hp ha hl =>
    refine hr.calm (calm_waiting hs (by simp [hp]) (by rw [hp]; rfl) rfl ?_ ⟨[.auth _], rfl, rfl⟩)
    simp [Phase.IsReady, Phase.HasAsked, Phase.listening?]
  | requesting hp => exact hr.takeRequests h hp
  | opened hp =>
    simp only [setState_eq] at hs ⊢
    exact hr.calm (calm_served hs hp rfl id (sent_nothing rfl))
  | flushed hp => exact hr.calm (calm_served hs hp rfl id (sent_nothing rfl))
  | skipped hp hf =>
    have hsend := hr.send hp
    rwa [hf, Option.map_none, Option.toList_none, List.append_nil] at hsend
  | requested hp hf hl =>
    have hsend := hr.send hp
    rwa [hf] at hsend
  | @joined chanId cs hp hc hpriv ha =>
    refine hr.ready hs (by simp [hp]) (by rw [hp]; rfl) rfl ?_ ?_
    · rw [bindAccount_eq]
      exact s.registry.hasPendingPrivate_perform chanId
    · rw [bindAccount_eq]
  | challenged hp hc hpriv ha =>
    refine hr.calm (calm_waiting hs (by simp [hp]) (by rw [hp]; rfl) rfl ?_ (sent_nothing rfl))
    simp [Phase.IsReady, Phase.HasAsked, Phase.listening?]
  | asked hp hc hpriv =>
    exact hr.ready hs (by simp [hp]) (by rw [hp]; rfl) rfl hpriv rfl
  | unsubscribing hp hc hl =>
    refine hr.calm (calm_reading hs (hread hp) rfl ?_ ⟨[.unsubscribe _], rfl, rfl⟩)
    refine Or.imp_left fun hin => ?_
    rw [hc] at hin
    rcases List.mem_cons.mp hin with he | hin
    · cases he
    · exact hin
  | noise hp hf => exact hr.calm (calm_reading hs (hread hp) (hread hp) id (sent_nothing rfl))
  | @authenticated p d r hp hf hok =>
    simp only [concludeHandshake, hok, if_true, setState_eq, bindAccount_eq, emit] at hs ⊢
    exact hr.ready hs (by simp [hp]) (by rw [hp]; rfl) rfl
      (s.registry.hasPendingPrivate_perform _) rfl
  | informed hp hf =>
    exact hr.calm (calm_reading hs (hread hp) (hread hp) id (sent_nothing rfl))
  | acknowledged hp hf =>
    rw [acknowledge_eq] at hs ⊢
    exact hr.calm (calm_reading hs (hread hp) (hread hp) id (sent_nothing rfl))
  | unsubscribed hp hf =>
    rw [closeChannel_eq] at hs ⊢
    exact hr.calm (calm_reading hs (hread hp) (hread hp) id (sent_nothing rfl))
  | @refused l r hp hf =>
    rcases refuse_eq s.read r with ⟨a, p, -, -, he⟩ | ⟨-, he⟩
    · rw [he] at hs ⊢
      exact hr.calm (calm_reading hs (hread hp) (hread hp) id (sent_nothing rfl))
    · rw [he] at hs ⊢
      exact hr.calm (calm_reading hs (hread hp) (hread hp) id (sent_nothing rfl))
  | ignored hp hf hc ha =>
    exact hr.calm (calm_reading hs (hread hp) (hread hp) id (sent_nothing rfl))
  | unrouted hp hf hb =>
    exact hr.calm (calm_reading hs (hread hp) (hread hp) id (sent_nothing rfl))
  | routed hp hf hh hb =>
    exact hr.calm (calm_reading hs (hread hp) (listening?_deliverRows ..) id
      (sent_nothing rfl))
  | drained hp hrows =>
    exact hr.calm (calm_reading hs (hdeliver hp) rfl id (sent_nothing rfl))
  | delivered hp hrows hm ho =>
    exact hr.calm (calm_reading hs (hdeliver hp) (listening?_deliverRows ..) id
      (sent_nothing rfl))
  | abandoned hp hm ho hd =>
    exact hr.calm (calm_reading hs (hdeliver hp) rfl id (sent_nothing rfl))
  | released hp hm ho hd hc =>
    rw [closeChannel_eq] at hs ⊢
    exact hr.calm (calm_reading hs (hdeliver hp) rfl id (sent_nothing rfl))
  | releasing hp hm ho hd hc hl =>
    rw [closeChannel_eq] at hs ⊢
    exact hr.calm (calm_reading hs (hdeliver hp) rfl id ⟨[.unsubscribe _], rfl, rfl⟩)

/-- What is asked of the loop stays asked until the loop obeys. -/
theorem owed_act (s : Session) {a : Act} (ha : a ≠ .step) (h : s.Owed) : (s.act a).Owed := by
  have hadd : ∀ c, .flush ∈ s.commands ++ [c] ∨ 0 < s.unannounced :=
    fun c => h.imp_left (List.mem_append_left [c])
  cases a with
  | step => exact absurd rfl ha
  | start =>
    simp only [act, start]
    split
    · split <;> exact h
    · exact h
  | register feed =>
    rcases s.act_register feed with he | he
    · rw [he]
      exact h
    · rw [(register_eq_ok he).2.2]
      exact Or.inr (Nat.succ_pos _)
  | announce =>
    simp only [act]
    split
    · exact h
    · exact Or.inl (List.mem_append_right _ List.mem_cons_self)
  | unsubscribe chanId =>
    simp only [act, unsubscribe, command]
    split
    · exact h
    · exact hadd _
  | close =>
    simp only [act, close, command]
    split
    · exact h
    · exact hadd _
  | _ => exact h

theorem calm_act (s : Session) {a : Act} (ha : a ≠ .step) (hreg : ∀ feed, a ≠ .register feed) :
    s.Calm (s.act a) := by
  obtain ⟨hphase, -, -, -, hsent⟩ := s.fields_act ha
  obtain ⟨hnext, hsub⟩ := shrinks_performs (performs_act s a) hreg fun he => absurd he ha
  rcases hphase with he | ⟨hidle, he⟩
  · exact ⟨hsub, hnext, sent_nothing hsent, by rw [he],
      fun h => ⟨he ▸ h, s.owed_act ha⟩, fun h => he ▸ h⟩
  · have hno : ¬(s.act a).phase.IsReady := by
      simp [he, Phase.IsReady, Phase.HasAsked, Phase.listening?]
    exact ⟨hsub, hnext, sent_nothing hsent, by rw [he, hidle]; rfl,
      fun h => absurd h hno, fun h => absurd (Or.inr h) hno⟩

/-- A subscription that is registered has the highest number, and the loop will be told of it. -/
theorem requested_register {feed : Feed} {id : Nat} (hr : s.Requested)
    (h : s.register feed = .ok (id, s')) : s'.Requested := by
  obtain ⟨-, rfl, rfl⟩ := register_eq_ok h
  have howed : 0 < s.unannounced + 1 := Nat.succ_pos _
  constructor
  · exact hr.increasing
  · exact fun id hid => Nat.lt_succ_of_lt (hr.issued id hid)
  · intro p hp hu id hid
    rcases List.mem_append.mp hp with hp | hp
    · exact hr.later p hp hu id hid
    · rw [List.mem_singleton.mp hp]
      exact hr.issued id hid
  · intro p hp hsent
    rcases List.mem_append.mp hp with hp | hp
    · exact hr.accounted p hp hsent
    · rw [List.mem_singleton.mp hp] at hsent
      cases hsent
  · exact fun _ _ _ _ => Or.inr howed
  · exact fun _ _ _ _ => Or.inr howed

theorem requested_act (hr : s.Requested) (h : s.Sound) (a : Act) : (s.act a).Requested := by
  by_cases ha : a = .step
  · subst ha
    rcases s.act_step_cases with he | ⟨hs, ht⟩
    · rw [he]
      exact hr
    · exact requested_turn hr h hs ht
  · by_cases hreg : ∃ feed, a = .register feed
    · obtain ⟨feed, rfl⟩ := hreg
      rcases s.act_register feed with he | he
      · rw [he]
        exact hr
      · exact requested_register hr he
    · exact hr.calm (s.calm_act ha fun feed he => hreg ⟨feed, he⟩)

theorem requested_run (hr : s.Requested) (h : s.Sound) (acts : List Act) :
    (s.run acts).Requested := by
  induction acts generalizing s with
  | nil => exact hr
  | cons a acts ih => exact ih (requested_act hr h a) (h.act a)

/-! ## What has been sent -/

/-- What is sent under increasing numbers is sent once. -/
theorem filter_subscription {sent : List Outbound}
    (h : (sent.filterMap Outbound.subscription?).Pairwise (· < ·)) {o : Outbound} (ho : o ∈ sent)
    {id : Nat} (hid : o.subscription? = some id) :
    sent.filter (·.subscription? = some id) = [o] := by
  induction sent with
  | nil => cases ho
  | cons x sent ih =>
    have hmem : ∀ y ∈ sent, y.subscription? = some id →
        id ∈ sent.filterMap Outbound.subscription? :=
      fun y hy he => List.mem_filterMap.mpr ⟨y, hy, he⟩
    cases hx : x.subscription? with
    | none =>
      rw [List.filterMap_cons_none hx] at h
      have hin : o ∈ sent := by
        rcases List.mem_cons.mp ho with rfl | hin
        · rw [hid] at hx
          cases hx
        · exact hin
      rw [List.filter_cons_of_neg (by simp [hx])]
      exact ih h hin
    | some n =>
      rw [List.filterMap_cons_some hx, List.pairwise_cons] at h
      rcases List.mem_cons.mp ho with rfl | hin
      · rw [hid] at hx
        cases hx
        have hrest : sent.filter (·.subscription? = some id) = [] := by
          refine List.filter_eq_nil_iff.mpr fun y hy he => ?_
          have hlt := h.1 id (hmem y hy (by simpa using he))
          omega
        rw [List.filter_cons_of_pos (by simpa using hid), hrest]
      · have hlt := h.1 id (hmem o hin hid)
        have hne : n ≠ id := by omega
        rw [List.filter_cons_of_neg (by simpa [hx] using hne)]
        exact ih h.2 hin

/-- Whenever the loop waits for commands and frames, and nobody is about to tell it of a new
subscription, every pending subscription is public and has had its request sent, once. Requests are
sent in the order of the subscriptions, so that none is ever sent again. -/
theorem requests_run (config : ConnectionConfig) (signer : Signer) (counter : Counter) (link : Link)
    (acts : List Act) :
    let s := create config signer counter link
    ((s.run acts).phase = .listening .serving → .flush ∉ (s.run acts).commands →
      (s.run acts).unannounced = 0 →
      ∀ p ∈ (s.run acts).registry.pending, p.feed.isPrivate = false ∧ p.sent = true ∧
        ∀ r, p.feed.request? = some r →
          (s.run acts).sent.filter (·.subscription? = some p.id) = [.subscribe p.id r]) ∧
      ((s.run acts).sent.filterMap Outbound.subscription?).Pairwise (· < ·) := by
  intro s
  have hr : (s.run acts).Requested := requested_run (requested_create config signer counter link)
    (sound_create config signer counter link) acts
  have hincreasing : ((s.run acts).sent.filterMap Outbound.subscription?).Pairwise (· < ·) :=
    hr.increasing.sublist (List.sublist_append_left _ _)
  refine ⟨fun hp hflush hunannounced p hmem => ?_, hincreasing⟩
  have hasked : (s.run acts).phase.HasAsked := by
    rw [hp]
    exact Or.inr rfl
  have howed : ¬(s.run acts).Owed := by
    rintro (hin | hpos)
    · exact hflush hin
    · omega
  have hpublic : p.feed.isPrivate = false :=
    Bool.eq_false_iff.mpr fun hpriv => howed (hr.authenticated (Or.inr hasked) p hmem hpriv)
  have hsent : p.sent = true := by
    cases hps : p.sent with
    | true => rfl
    | false =>
      exact absurd (hr.flushed hasked p hmem (by simp [Pending.isUnsent, hps, hpublic])) howed
  refine ⟨hpublic, hsent, fun r hreq => ?_⟩
  rcases hr.accounted p hmem hsent with hin | hall
  · rw [hp] at hin
    cases hin
  · exact filter_subscription hincreasing (hall r hreq) rfl

/-- A subscription was asked for and has not been answered, and its flush has been obeyed. -/
theorem requests_run_waiting :
    let s := (create .standard ⟨none⟩ ⟨1⟩ (.create "" true none none)).run
      [.register (.candles "trade:1m:tBTCUSD"), .announce, .start, .step, .step, .step, .step,
        .step, .step, .step, .step]
    s.phase = .listening .serving ∧ s.commands = [] ∧ s.unannounced = 0 ∧
      s.registry.pending.length = 1 ∧ ∀ p ∈ s.registry.pending, p.sent = true := by
  intro s
  have hphase : s.phase = .listening .serving := rfl
  have hcommands : s.commands = [] := rfl
  have hunannounced : s.unannounced = 0 := rfl
  have hflush : .flush ∉ s.commands := by simp [hcommands]
  have hsent := (requests_run _ _ _ _ _).1 hphase hflush hunannounced
  exact ⟨hphase, hcommands, hunannounced, rfl, fun p hp => (hsent p hp).2.1⟩

end Session
end MarketWire
