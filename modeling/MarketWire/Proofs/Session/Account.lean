import MarketWire.Proofs.Registry.Custody
import MarketWire.Proofs.Session.Ending
import MarketWire.Proofs.Session.Requests
import MarketWire.Proofs.Session.Routing

/-!
# Who has the account channel

An account subscription that waits when the account channel is given away gets it, or is refused
because another subscription has it. That one may be of a subscriber that has left: the loop finds
a subscriber gone when it delivers a row to it, and not earlier. It may also be of a public feed, if
the other side has named the channel in an acknowledgement.
-/
namespace MarketWire
namespace Registry

variable {r : Registry}

namespace Sound

theorem not_mem_ids_closeOwner (h : r.Sound) {chanId : Int64} {a : Active}
    (ho : r.owner? chanId = some a) : a.id ∉ (r.closeOwner chanId).ids := by
  rw [closeOwner_of_some ho]
  intro hin
  have hin : a.id ∈ (r.withoutOwner chanId).ids := hin
  exact (h.mem_ids_withoutOwner.mp hin).2 a ho rfl

theorem finish_handed (h : r.Sound) {chanId : Int64} {id : Nat}
    (hid : id ∈ (r.bindAccount chanId).2.1) :
    (r.perform (.bindAccount chanId)).state? id = some .closed ∧
      ∃ k, r.sink? id = some k ∧ k.closed = false ∧
        (r.perform (.bindAccount chanId)).sink? id = some (k.finish accountTaken).2 := by
  have hparts := h.parts_bindAccount chanId
  have hin : id ∈ r.ids := hparts.placed.subset (List.mem_append_right _ hid)
  have hlt := h.issued id hin
  have hout : id ∉ (r.perform (.bindAccount chanId)).ids := by
    have hids : (r.perform (.bindAccount chanId)).ids = (r.bindAccount chanId).2.2.ids :=
      ids_eq_of_entries (entries_finishAll ..)
    rw [hids]
    exact (h.handed_bindAccount chanId).2 id hid
  have hnext : (r.perform (.bindAccount chanId)).nextId = r.nextId :=
    nextId_perform fun _ _ _ he => by cases he
  refine ⟨state?_of_left hout (hnext ▸ hlt), ?_⟩
  obtain ⟨k, hk⟩ := Option.isSome_iff_exists.mp ((h.known id).mpr hlt)
  obtain ⟨k', hk', hpass⟩ := h.passage (.bindAccount chanId) hk
  refine ⟨k, hk, h.opened id hin k hk, ?_⟩
  rw [hk']
  cases hpass with
  | kept hiff => exact absurd (hiff.mpr hin) hout
  | bound hiff => exact absurd (hiff.mpr hin) hout
  | finished _ _ m hm =>
    cases hm
    rfl
  | offered _ _ hop => cases hop
  | received _ hop => cases hop
  | detached _ hop => cases hop
  | closed _ _ _ _ hop => cases hop

/-- An account subscription gets the channel, or is refused for an owner that was there before or
for an older account subscription. -/
theorem bindAccount_cases (h : r.Sound) (chanId : Int64) {p : Pending} (hp : p ∈ r.pending)
    (hpriv : p.feed.isPrivate = true) :
    ∃ o, (r.perform (.bindAccount chanId)).owner? chanId = some o ∧
      (o.id = p.id ∧ (r.perform (.bindAccount chanId)).state? p.id = some .active ∨
        o.id ≠ p.id ∧ p.id ∈ (r.bindAccount chanId).2.1 ∧
          (r.owner? chanId = some o ∨ r.owner? chanId = none ∧ ∃ q ∈ r.pending,
            q.feed.isPrivate = true ∧ q.id < p.id ∧ o = ⟨chanId, q.id, q.feed⟩)) := by
  have hmine : p ∈ r.privates := List.mem_filter.mpr ⟨hp, hpriv⟩
  have hactive : (r.perform (.bindAccount chanId)).active = (r.bindAccount chanId).2.2.active :=
    (entries_finishAll ..).2.1
  have howner : (r.perform (.bindAccount chanId)).owner? chanId =
      (r.bindAccount chanId).2.2.owner? chanId := owner?_congr hactive chanId
  rw [howner]
  cases ho : r.owner? chanId with
  | some o =>
    rw [bindAccount_of_owner ho]
    have hne : o.id ≠ p.id := (h.apart p hp o (owner?_eq_some ho).1).symm
    exact ⟨o, ho, Or.inr ⟨hne, List.mem_map.mpr ⟨p, hmine, rfl⟩, Or.inl rfl⟩⟩
  | none =>
    obtain ⟨q, qs, hqs⟩ := List.exists_cons_of_ne_nil (List.ne_nil_of_mem hmine)
    have hq : q ∈ r.privates := hqs ▸ List.mem_cons_self
    obtain ⟨hqp, hqpriv⟩ := List.mem_filter.mp hq
    have hsome : (r.bindAccount chanId).2.2.owner? chanId = some ⟨chanId, q.id, q.feed⟩ := by
      rw [bindAccount_of_cons ho hqs, owner?_activate, if_pos rfl]
    refine ⟨_, hsome, ?_⟩
    rw [hqs] at hmine
    rcases List.mem_cons.mp hmine with rfl | hrest
    · refine Or.inl ⟨rfl, ?_⟩
      have hothers : ∀ o ∈ (r.perform (.bindAccount chanId)).pending, o.id ≠ p.id := by
        intro o hom he
        have hpending : (r.perform (.bindAccount chanId)).pending = r.withoutPrivates.pending := by
          rw [Registry.perform, (entries_finishAll ..).1, pending_bindAccount]
          rfl
        rw [hpending] at hom
        exact h.not_mem_withoutPrivates hq (mem_ids.mpr (Or.inl ⟨o, hom, he⟩))
      exact state?_of_active hothers (owner?_eq_some (howner.trans hsome)).1 rfl
    · -- account subscriptions stand in the order of their numbers
      have hordered : r.privates.Pairwise fun p q => p.id < q.id := h.ordered.filter _
      rw [hqs, List.pairwise_cons] at hordered
      have hlt := hordered.1 p hrest
      have hout : p.id ∈ (r.bindAccount chanId).2.1 := by
        rw [bindAccount_of_cons ho hqs]
        exact List.mem_map.mpr ⟨p, hrest, rfl⟩
      exact Or.inr ⟨Nat.ne_of_lt hlt, hout, Or.inr ⟨rfl, q, hqp, hqpriv, hlt, rfl⟩⟩

end Sound
end Registry

namespace Session

open Registry (Op)

/-- The loop's next step delivers a row to a subscriber that has left. -/
def FindsGone (s : Session) (id : Nat) : Prop :=
  s.registry.Left id ∧ ∃ b l, s.phase = .delivering b l ∧ b.id = id ∧ b.rows ≠ []

/-- In the course of a run a row was delivered to a subscriber that had left. -/
def FoundGone (s : Session) (id : Nat) (acts : List Act) : Prop :=
  ∃ before after, acts = before ++ .step :: after ∧ (s.run before).FindsGone id

/-- In the course of a run an acknowledgement named a channel. -/
def Acknowledged (s : Session) (chanId : Int64) (acts : List Act) : Prop :=
  ∃ before after a, acts = before ++ .step :: after ∧
    (s.run before).nextFrame? = some (.event (.subscribed a)) ∧ a.chanId = chanId

variable {s : Session} {id : Nat}

/-! ## Who leaves does not come back -/

theorem not_mem_ids_performs {a : Act} {r : Registry} (h : s.Performs a r)
    (hlt : id < s.registry.nextId) (hid : id ∉ s.registry.ids) : id ∉ r.ids := by
  have hall : id ∉ r.ids ∧ id < r.nextId := by
    induction h with
    | start => exact ⟨hid, hlt⟩
    | perform h hop ih =>
      exact ⟨Registry.not_mem_ids_perform ih.2 ih.1 _,
        Nat.lt_of_lt_of_le ih.2 (Registry.le_nextId_perform ..)⟩
  exact hall.1

theorem not_mem_ids_run (hlt : id < s.registry.nextId) (hid : id ∉ s.registry.ids)
    (acts : List Act) : id ∉ (s.run acts).registry.ids := by
  induction acts generalizing s with
  | nil => exact hid
  | cons a acts ih =>
    have hperforms := performs_act s a
    exact ih (Nat.lt_of_lt_of_le hlt (le_nextId_performs hperforms))
      (not_mem_ids_performs hperforms hlt hid)

theorem not_mem_ids_of_endsChannel (hs : s.Sound) (h : s.EndsChannelOf id) :
    id ∉ (s.act .step).registry.ids := by
  obtain ⟨status, chanId, a, hf, ho, rfl⟩ := h
  obtain ⟨l, -, hstep⟩ := step?_of_frame hf
  have hact : s.act .step = (s.read.closeChannel chanId).emit (.unsubscribed chanId) := by
    rw [act_step hstep]
    cases l <;> rfl
  rw [hact, closeChannel_eq]
  exact hs.registry.not_mem_ids_closeOwner ho

theorem mem_ids_release {chanId : Int64} {l : Listening}
    (h : id ∈ (s.release chanId l).registry.ids) : id ∈ (s.registry.closeOwner chanId).ids := by
  rw [release_eq] at h
  split at h
  · rw [closeChannel_eq] at h
    exact h
  · rw [closeChannel_eq] at h
    unfold send at h
    split at h
    · rw [fail, conclude_eq] at h
      simp [Registry.perform, Registry.ids, Registry.drain] at h
    · exact h

/-- A row for a subscriber that has left makes the loop release the channel. -/
theorem act_of_left {b : Batch} {l : Listening} (hp : s.phase = .delivering b l) (hr : b.rows ≠ [])
    (hleft : s.registry.Left b.id) :
    ∃ m, s.act .step = (s.offering b.id m).release b.chanId l := by
  obtain ⟨k, hk, hd⟩ := hleft
  obtain ⟨row, rows, hr⟩ := List.exists_cons_of_ne_nil hr
  rcases hm : b.message s.config.batch row with ⟨m, goesOn⟩
  have hclosed : k.isClosed = true := by simp [Sink.isClosed, hd]
  have hoffer : s.registry.offer b.id m = (some .closed, s.registry.perform (.offer b.id m)) := by
    simp [Registry.perform, Registry.offer, hk, Sink.offer_of_isClosed hclosed]
  have hgone : ((s.registry.perform (.offer b.id m)).sink? b.id).any (·.detached) = true := by
    have hdet := detached_offering s b.id m b.id
    rw [hk] at hdet
    exact hdet.trans hd
  have hdeliver : s.deliver? b l = some ((s.offering b.id m).release b.chanId l) := by
    simp [deliver?, hr, hm, hoffer, hgone, offering]
  exact ⟨m, by simp [act, step?, hp, hdeliver]⟩

theorem not_mem_ids_of_findsGone (hs : s.Sound) (h : s.FindsGone id) :
    id ∉ (s.act .step).registry.ids := by
  obtain ⟨hleft, b, l, hp, rfl, hrows⟩ := h
  obtain ⟨m, hact⟩ := act_of_left hp hrows hleft
  obtain ⟨a, ho, hid⟩ := hs.delivering b l hp
  have hoffering : (s.offering b.id m).registry.Sound :=
    hs.registry.perform (.offer b.id m)
  have ho' : (s.offering b.id m).registry.owner? b.chanId = some a :=
    (owner?_offering s b.id m b.chanId).trans ho
  have hout := hoffering.not_mem_ids_closeOwner ho'
  rw [hid] at hout
  rw [hact]
  exact fun hin => hout (mem_ids_release hin)

theorem lt_nextId_of_left (hs : s.Sound) (h : s.registry.Left id) : id < s.registry.nextId := by
  obtain ⟨k, hk, -⟩ := h
  exact (hs.registry.known id).mp (by rw [hk]; rfl)

/-- Who is in the registry has neither been found gone nor lost its channel to the other side. -/
theorem not_dismissed (hs : s.Sound) {acts : List Act} (hid : id ∈ (s.run acts).registry.ids) :
    ¬s.Unsubscribed id acts ∧ ¬s.FoundGone id acts := by
  have hleft : ∀ before after, acts = before ++ .step :: after →
      id < (s.run before).registry.nextId → id ∈ ((s.run before).act .step).registry.ids := by
    rintro before after rfl hlt
    by_contra hout
    rw [run_append] at hid
    have hnext := le_nextId_performs (performs_act (s.run before) .step)
    exact not_mem_ids_run (Nat.lt_of_lt_of_le hlt hnext) hout after hid
  constructor
  · rintro ⟨before, after, hacts, hends⟩
    have hbefore := hs.run before
    have hlt : id < (s.run before).registry.nextId := by
      obtain ⟨status, chanId, a, -, ho, rfl⟩ := hends
      exact hbefore.registry.issued _ (Registry.mem_ids_of_active (Registry.owner?_eq_some ho).1)
    exact not_mem_ids_of_endsChannel hbefore hends (hleft before after hacts hlt)
  · rintro ⟨before, after, hacts, hgone⟩
    have hbefore := hs.run before
    exact not_mem_ids_of_findsGone hbefore hgone
      (hleft before after hacts (lt_nextId_of_left hbefore hgone.1))

/-! ## Where owners come from -/

theorem origin_performs {a : Act} {r : Registry} (h : s.Performs a r) {o : Active}
    (ho : o ∈ r.active) : o ∈ s.registry.active ∨ o.feed.isPrivate = true ∨
      a = .step ∧ ∃ x, s.nextFrame? = some (.event (.subscribed x)) ∧ x.chanId = o.chanId := by
  induction h with
  | start => exact Or.inl ho
  | perform h hop ih =>
    rcases Registry.mem_active_perform ho with ho | ⟨p, -, -, -, ⟨ack, rfl⟩ | ⟨-, hpriv⟩⟩
    · exact ih ho
    · generalize o.chanId = chanId at hop ⊢
      cases hop with
      | acknowledged hf => exact Or.inr (Or.inr ⟨rfl, _, hf, rfl⟩)
    · exact Or.inr (Or.inl hpriv)

theorem origin_run (h : s.registry.active = []) {acts : List Act} {o : Active}
    (ho : o ∈ (s.run acts).registry.active) :
    o.feed.isPrivate = true ∨ s.Acknowledged o.chanId acts := by
  induction acts using List.reverseRecOn with
  | nil =>
    have ho : o ∈ s.registry.active := ho
    rw [h] at ho
    cases ho
  | append_singleton acts a ih =>
    rw [run_concat] at ho
    rcases origin_performs (performs_act _ a) ho with ho | hpriv | ⟨rfl, x, hf, hx⟩
    · apply (ih ho).imp_right
      rintro ⟨before, after, x, rfl, hf, hx⟩
      exact ⟨before, after ++ [a], x, by simp, hf, hx⟩
    · exact Or.inl hpriv
    · exact Or.inr ⟨acts, [], x, rfl, hf, hx⟩

/-! ## The account channel -/

/-- When the account channel is given away, a waiting account subscription gets it, or is refused
because another subscription has it. That one is an account subscription too, unless the other side
has named the channel, and it has neither been found gone nor lost the channel to the other side. -/
theorem account_answered (config : ConnectionConfig) (signer : Signer) (counter : Counter)
    (link : Link) (acts : List Act) (chanId : Int64) {p : Pending}
    (hp : p ∈ ((create config signer counter link).run acts).registry.pending)
    (hpriv : p.feed.isPrivate = true) :
    let s₀ := create config signer counter link
    let s := s₀.run acts
    let r := (s.bindAccount chanId).registry
    ∃ o, r.owner? chanId = some o ∧
      (o.id = p.id ∧ r.state? p.id = some .active ∨
        o.id ≠ p.id ∧ r.state? p.id = some .closed ∧
          (∃ k, s.registry.sink? p.id = some k ∧ k.closed = false ∧
            r.sink? p.id = some (k.finish accountTaken).2) ∧
          (s.registry.owner? chanId = some o ∨ s.registry.owner? chanId = none ∧
            ∃ q ∈ s.registry.pending, q.feed.isPrivate = true ∧ q.id < p.id ∧
              o = ⟨chanId, q.id, q.feed⟩) ∧
          (o.feed.isPrivate = true ∨ s₀.Acknowledged chanId acts) ∧
          ¬s₀.Unsubscribed o.id acts ∧ ¬s₀.FoundGone o.id acts) := by
  intro s₀ s r
  have hs₀ : s₀.Sound := sound_create config signer counter link
  have hs : s.registry.Sound := (hs₀.run acts).registry
  have hr : r = s.registry.perform (.bindAccount chanId) :=
    congrArg Session.registry (s.bindAccount_eq chanId)
  obtain ⟨o, ho, hcases⟩ := hs.bindAccount_cases chanId hp hpriv
  rw [hr]
  refine ⟨o, ho, hcases.imp_right ?_⟩
  rintro ⟨hne, hhanded, hfrom⟩
  obtain ⟨hstate, hsink⟩ := hs.finish_handed hhanded
  have horigin : o.feed.isPrivate = true ∨ s₀.Acknowledged chanId acts := by
    rcases hfrom with hown | ⟨-, q, -, hq, -, rfl⟩
    · obtain ⟨hmem, rfl⟩ := Registry.owner?_eq_some hown
      exact origin_run rfl hmem
    · exact Or.inl hq
  have hid : o.id ∈ s.registry.ids := by
    rcases hfrom with hown | ⟨-, q, hq, -, -, rfl⟩
    · exact Registry.mem_ids_of_active (Registry.owner?_eq_some hown).1
    · exact Registry.mem_ids_of_pending hq
  exact ⟨hne, hstate, hsink, hfrom, horigin, not_dismissed hs₀ hid⟩

/-- A subscriber is refused though nobody else holds an account subscription: the one that owns the
channel has left, or a public feed owns it. -/
theorem account_refused_alone :
    let signer : Signer := ⟨some ⟨"abc", "123", by decide, by decide⟩⟩
    let s := create .standard signer ⟨1000⟩ (.create "" true none none)
    let auth := "\x7b\"event\":\"auth\",\"status\":\"OK\",\"chanId\":0,\"userId\":42\x7d"
    let ack := "\x7b\"event\":\"subscribed\",\"channel\":\"candles\",\"chanId\":0,\"key\":\"trade:1m:tBTCUSD\"\x7d"
    let gone := s.run [.register .account, .start, .step, .step, .step, .push (.text auth), .step,
      .step, .step, .leave 0, .register .account, .announce]
    let named := s.run [.register (.candles "trade:1m:tBTCUSD"), .register .account, .start, .step,
      .step, .step, .push (.text ack), .step, .push (.text auth)]
    let told : Sink StreamMessage → Bool := fun k =>
      match k.queue with
      | [.rejected none m] => k.closed && !k.detached && m == "account channel already subscribed"
      | _ => false
    (gone.registry.pending = [⟨1, .account, false⟩] ∧ gone.registry.active = [⟨0, 0, .account⟩] ∧
      (gone.registry.sink? 0).any (·.detached) = true ∧ gone.registry.nextId = 2 ∧
      ((gone.act .step).registry.sink? 1).any told = true) ∧
    named.registry.pending = [⟨1, .account, false⟩] ∧
      named.registry.active = [⟨0, 0, .candles "trade:1m:tBTCUSD"⟩] ∧
      named.registry.nextId = 2 ∧ ((named.act .step).registry.sink? 1).any told = true := by
  intro signer s auth ack gone named told
  refine ⟨⟨?_, ?_, ?_, ?_, ?_⟩, ?_, ?_, ?_, ?_⟩ <;> decide +kernel

theorem account_answered_second :
    let signer : Signer := ⟨some ⟨"abc", "123", by decide, by decide⟩⟩
    let s := create .standard signer ⟨1000⟩ (.create "" true none none)
    let acts := [.register .account, .register .account, .start, .step, .step, .step]
    (⟨1, .account, false⟩ ∈ (s.run acts).registry.pending ∧ Feed.account.isPrivate = true) ∧
      ((s.run acts).bindAccount 0).registry.state? 1 = some .closed ∧
      ¬s.Unsubscribed 0 acts ∧ ¬s.FoundGone 0 acts := by
  intro signer s acts
  have hp : ⟨1, .account, false⟩ ∈ (s.run acts).registry.pending := by decide +kernel
  have howner : ((s.run acts).bindAccount 0).registry.owner? 0 = some ⟨0, 0, .account⟩ := by
    decide +kernel
  obtain ⟨o, ho, hcases⟩ := account_answered .standard signer ⟨1000⟩ _ acts 0 hp rfl
  obtain rfl : (⟨0, 0, .account⟩ : Active) = o := Option.some.inj (howner.symm.trans ho)
  rcases hcases with ⟨hid, -⟩ | ⟨-, hstate, -, -, -, hends, hgone⟩
  · cases hid
  · exact ⟨⟨hp, rfl⟩, hstate, hends, hgone⟩

end Session
end MarketWire
