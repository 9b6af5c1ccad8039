import MarketWire.Proofs.Feed.Echo
import MarketWire.Proofs.Registry.Channel

/-!
# Agreement with an honest server

Answers carry no number of the request, and may come in another order than the requests. The server
is honest if each answer repeats a request that was written, no request is answered twice, and no
channel is named twice. The pending subscriptions then stand in three groups: those whose requests
were written, which are as many of each kind as there are answers to come, those whose requests were
only taken, and the others. An answer goes to the oldest subscription that agrees with it, so it
never reaches behind the first group.
-/
namespace MarketWire

/-- A registry of public feeds and what has passed between it and the server. -/
structure Dialogue where
  registry : Registry
  feeds : List Feed
  /-- The requests to be written. -/
  taken : List (Nat × Feed)
  /-- With the numbers of the subscriptions they were written for. -/
  written : List (Nat × SubscribeRequest)
  unanswered : List (Nat × SubscribeRequest)
  /-- The channels that the answers named. -/
  channels : List Int64

namespace Dialogue

def empty : Dialogue := ⟨.empty, [], [], [], [], []⟩

inductive Move where
  | register (feed : Feed) (capacity : Nat) (overflow : Overflow)
  | take
  | write
  | answer (id : Nat) (r : SubscribeRequest) (a : Subscribed)

/-- Feeds are public and made as callers make them; answers are honest. -/
def Permits (d : Dialogue) : Move → Prop
  | .register feed _ _ => feed.Built
  | .take | .write => True
  | .answer id r a => (id, r) ∈ d.unanswered ∧ a.Echoes r ∧ a.chanId ∉ d.channels

def write (d : Dialogue) : Dialogue :=
  match d.taken with
  | [] => d
  | (id, feed) :: taken =>
    let requests := feed.request?.toList.map fun r => (id, r)
    { d with
      taken := taken
      written := d.written ++ requests
      unanswered := d.unanswered ++ requests }

def make (d : Dialogue) : Move → Dialogue
  | .register feed capacity overflow =>
    { d with
      registry := (d.registry.subscribe feed capacity overflow).2
      feeds := d.feeds ++ [feed] }
  | .take =>
    { d with registry := d.registry.takeUnsent.2, taken := d.taken ++ d.registry.takeUnsent.1 }
  | .write => d.write
  | .answer id r a =>
    { d with
      registry := (d.registry.bind (.ofSubscribed a) a.chanId).2
      unanswered := d.unanswered.erase (id, r)
      channels := a.chanId :: d.channels }

inductive Reachable : Dialogue → Prop where
  | empty : Reachable empty
  | make {d : Dialogue} {m : Move} (h : Reachable d) (hm : d.Permits m) : Reachable (d.make m)

def Compatible (d : Dialogue) : Prop := ∀ f ∈ d.feeds, ∀ g ∈ d.feeds, f.Compatible g

/-- The groups of the pending subscriptions: asked for, about to be asked for, and the others. -/
structure Lined (d : Dialogue) (asked waiting fresh : List Pending) : Prop where
  places : d.registry.pending = asked ++ (waiting ++ fresh)
  sent : ∀ p ∈ asked ++ waiting, p.sent = true
  unsent : ∀ p ∈ fresh, p.sent = false
  written : ∀ p ∈ asked, ∃ r, p.feed.request? = some r ∧ (p.id, r) ∈ d.written
  /-- As many of each request are written and pending as there are answers to come. -/
  owed : (asked.map (·.feed.request?)).Perm (d.unanswered.map fun w => some w.2)
  taken : waiting.map (fun p => (p.id, p.feed)) = d.taken
  later : ∀ w ∈ d.written, ∀ p ∈ waiting ++ fresh, w.1 < p.id

structure Sound (d : Dialogue) : Prop where
  registry : d.registry.Sound
  feeds : ∀ p ∈ d.registry.pending, p.feed ∈ d.feeds ∧ p.feed.Built
  lined : ∃ asked waiting fresh, d.Lined asked waiting fresh
  issued : ∀ w ∈ d.written, w.1 < d.registry.nextId
  kept : ∀ id, id < d.registry.nextId → id ∈ d.registry.ids
  named : ∀ a ∈ d.registry.active, a.chanId ∈ d.channels
  earlier : ∀ a ∈ d.registry.active, ∀ q ∈ d.registry.pending,
    a.feed.request? = q.feed.request? → a.id < q.id

theorem lined_empty : empty.Lined [] [] [] where
  places := rfl
  sent := by simp
  unsent := by simp
  written := by simp
  owed := List.Perm.refl _
  taken := rfl
  later := by simp

theorem sound_empty : empty.Sound where
  registry := Registry.sound_empty
  feeds := by simp [empty, Registry.empty]
  lined := ⟨[], [], [], lined_empty⟩
  issued := by simp [empty]
  kept := by simp [empty, Registry.empty]
  named := by simp [empty, Registry.empty]
  earlier := by simp [empty, Registry.empty]

variable {d : Dialogue}

/-! ## Registrations -/

theorem Lined.register (h : d.Sound) {asked waiting fresh : List Pending}
    (hl : d.Lined asked waiting fresh) (feed : Feed) (capacity : Nat) (overflow : Overflow) :
    (d.make (.register feed capacity overflow)).Lined asked waiting
      (fresh ++ [⟨d.registry.nextId, feed, false⟩]) where
  places := by
    change d.registry.pending ++ [⟨d.registry.nextId, feed, false⟩] = _
    simp [hl.places]
  sent := hl.sent
  unsent := by
    intro p hp
    rcases List.mem_append.mp hp with hp | hp
    · exact hl.unsent p hp
    · rw [List.mem_singleton.mp hp]
  written := hl.written
  owed := hl.owed
  taken := hl.taken
  later := by
    intro w hw p hp
    rw [← List.append_assoc] at hp
    rcases List.mem_append.mp hp with hp | hp
    · exact hl.later w hw p hp
    · rw [List.mem_singleton.mp hp]
      exact h.issued w hw

theorem Sound.register (h : d.Sound) {feed : Feed} (hf : feed.Built) (capacity : Nat)
    (overflow : Overflow) : (d.make (.register feed capacity overflow)).Sound := by
  obtain ⟨asked, waiting, fresh, hl⟩ := h.lined
  have hp : (d.make (.register feed capacity overflow)).registry.pending =
    d.registry.pending ++ [⟨d.registry.nextId, feed, false⟩] := rfl
  constructor
  · exact h.registry.subscribe feed capacity overflow
  · rw [hp]
    intro p hmem
    rcases List.mem_append.mp hmem with hmem | hmem
    · exact ⟨List.mem_append_left _ (h.feeds p hmem).1, (h.feeds p hmem).2⟩
    · rw [List.mem_singleton.mp hmem]
      exact ⟨List.mem_append_right _ (List.mem_singleton.mpr rfl), hf⟩
  · exact ⟨_, _, _, hl.register h feed capacity overflow⟩
  · intro w hw
    exact Nat.lt_succ_of_lt (h.issued w hw)
  · intro id hid
    rcases Nat.lt_succ_iff_lt_or_eq.mp hid with hid | rfl
    · rcases Registry.mem_ids.mp (h.kept id hid) with ⟨p, hmem, rfl⟩ | ha
      · exact Registry.mem_ids_of_pending (List.mem_append_left _ hmem)
      · exact Registry.mem_ids.mpr (Or.inr ha)
    · have hmem : ⟨d.registry.nextId, feed, false⟩ ∈
          (d.make (.register feed capacity overflow)).registry.pending := by simp [hp]
      exact Registry.mem_ids_of_pending hmem
  · exact h.named
  · rw [hp]
    intro a ha q hmem hreq
    rcases List.mem_append.mp hmem with hmem | hmem
    · exact h.earlier a ha q hmem hreq
    · rw [List.mem_singleton.mp hmem]
      exact h.registry.issued a.id (Registry.mem_ids_of_active ha)

/-! ## Requests -/

theorem Lined.takeUnsent_eq (h : d.Sound) {asked waiting fresh : List Pending}
    (hl : d.Lined asked waiting fresh) :
    d.registry.takeUnsent = (fresh.map fun p => (p.id, p.feed),
      { d.registry with
        pending := asked ++ waiting ++ fresh.map fun p => { p with sent := true } }) := by
  have hsent : ∀ p ∈ asked ++ waiting, p.isUnsent = false := by
    intro p hp
    simp [Pending.isUnsent, hl.sent p hp]
  have hfresh : ∀ p ∈ fresh, p.isUnsent = true := by
    intro p hp
    have hmem : p ∈ d.registry.pending := by simp [hl.places, hp]
    simp [Pending.isUnsent, hl.unsent p hp, (h.feeds p hmem).2.isPrivate]
  have hnone : (asked ++ waiting).filter Pending.isUnsent = [] :=
    List.filter_eq_nil_iff.mpr fun p hp => by simp [hsent p hp]
  have hall : fresh.filter Pending.isUnsent = fresh := List.filter_eq_self.mpr hfresh
  have hsame : (asked ++ waiting).map (fun p => { p with sent := p.sent || p.isUnsent }) =
      asked ++ waiting := by
    refine (List.map_congr_left fun p hp => ?_).trans (List.map_id _)
    rw [hl.sent p hp, Bool.true_or, ← hl.sent p hp]
    rfl
  have hmark : fresh.map (fun p => { p with sent := p.sent || p.isUnsent }) =
      fresh.map fun p => { p with sent := true } := by
    refine List.map_congr_left fun p hp => ?_
    rw [hfresh p hp, Bool.or_true]
  have htaken : (asked ++ waiting ++ fresh).filter Pending.isUnsent = fresh := by
    rw [List.filter_append, hnone, hall, List.nil_append]
  rw [Registry.takeUnsent, hl.places, ← List.append_assoc, htaken, List.map_append, hsame, hmark]

/-- Taking requests moves the last group to the second one. -/
theorem Lined.take (h : d.Sound) {asked waiting fresh : List Pending}
    (hl : d.Lined asked waiting fresh) :
    (d.make .take).Lined asked (waiting ++ fresh.map fun p => { p with sent := true }) [] where
  places := by
    change d.registry.takeUnsent.2.pending = _
    rw [hl.takeUnsent_eq h]
    simp
  sent := by
    intro p hp
    rw [← List.append_assoc] at hp
    rcases List.mem_append.mp hp with hp | hp
    · exact hl.sent p hp
    · obtain ⟨q, -, rfl⟩ := List.mem_map.mp hp
      rfl
  unsent := by simp
  written := hl.written
  owed := hl.owed
  taken := by
    change _ = d.taken ++ d.registry.takeUnsent.1
    rw [hl.takeUnsent_eq h, ← hl.taken, List.map_append, List.map_map]
    rfl
  later := by
    intro w hw p hp
    rw [List.append_nil] at hp
    rcases List.mem_append.mp hp with hp | hp
    · exact hl.later w hw p (List.mem_append_left _ hp)
    · obtain ⟨q, hq, rfl⟩ := List.mem_map.mp hp
      exact hl.later w hw q (List.mem_append_right _ hq)

theorem Sound.take (h : d.Sound) : (d.make .take).Sound := by
  obtain ⟨asked, waiting, fresh, hl⟩ := h.lined
  have hback : ∀ p ∈ (d.make .take).registry.pending,
      ∃ q ∈ d.registry.pending, q.id = p.id ∧ q.feed = p.feed := by
    intro p hp
    obtain ⟨q, hq, rfl⟩ := List.mem_map.mp hp
    exact ⟨q, hq, rfl, rfl⟩
  have hids : d.registry.takeUnsent.2.ids = d.registry.ids := by
    simp [Registry.ids, Registry.takeUnsent, Function.comp_def]
  constructor
  · exact h.registry.takeUnsent
  · intro p hp
    obtain ⟨q, hq, -, hfeed⟩ := hback p hp
    exact hfeed ▸ h.feeds q hq
  · exact ⟨_, _, _, hl.take h⟩
  · exact h.issued
  · intro id hid
    exact hids ▸ h.kept id hid
  · exact h.named
  · intro a ha p hp hreq
    obtain ⟨q, hq, hid, hfeed⟩ := hback p hp
    exact hid ▸ h.earlier a ha q hq (hfeed ▸ hreq)

/-- Writing a request moves its subscription from the second group to the first one. -/
theorem Lined.write_eq {asked waiting fresh : List Pending} {p : Pending}
    (hl : d.Lined asked (p :: waiting) fresh) {r : SubscribeRequest}
    (hr : p.feed.request? = some r) :
    d.make .write =
      { d with
        taken := waiting.map fun p => (p.id, p.feed)
        written := d.written ++ [(p.id, r)]
        unanswered := d.unanswered ++ [(p.id, r)] } := by
  simp [make, Dialogue.write, ← hl.taken, hr]

theorem Lined.write (h : d.Sound) {asked waiting fresh : List Pending} {p : Pending}
    (hl : d.Lined asked (p :: waiting) fresh) {r : SubscribeRequest}
    (hr : p.feed.request? = some r) : (d.make .write).Lined (asked ++ [p]) waiting fresh := by
  have hordered := h.registry.ordered
  rw [hl.places, List.pairwise_append, List.cons_append, List.pairwise_cons] at hordered
  rw [hl.write_eq hr]
  exact {
    places := by simp [hl.places]
    sent := by simpa using hl.sent
    unsent := hl.unsent
    written := by
      intro q hq
      rcases List.mem_append.mp hq with hq | hq
      · obtain ⟨r', hr', hw⟩ := hl.written q hq
        exact ⟨r', hr', List.mem_append_left _ hw⟩
      · rw [List.mem_singleton.mp hq]
        exact ⟨r, hr, List.mem_append_right _ (List.mem_singleton.mpr rfl)⟩
    owed := by
      rw [List.map_append, List.map_append, List.map_singleton, List.map_singleton, hr]
      exact hl.owed.append_right _
    taken := rfl
    later := by
      intro w hw q hq
      rcases List.mem_append.mp hw with hw | hw
      · exact hl.later w hw q (List.mem_cons_of_mem p hq)
      · rw [List.mem_singleton.mp hw]
        exact hordered.2.1.1 q hq }

theorem Sound.write (h : d.Sound) : (d.make .write).Sound := by
  obtain ⟨asked, waiting, fresh, hl⟩ := h.lined
  cases waiting with
  | nil =>
    have hsame : d.make .write = d := by simp [make, Dialogue.write, ← hl.taken]
    rw [hsame]
    exact h
  | cons p waiting =>
    have hp : p ∈ d.registry.pending := by simp [hl.places]
    obtain ⟨r, hr⟩ := (h.feeds p hp).2.exists_request
    have hline := hl.write h hr
    rw [hl.write_eq hr] at hline ⊢
    exact {
      registry := h.registry
      feeds := h.feeds
      lined := ⟨_, _, _, hline⟩
      issued := by
        intro w hw
        rcases List.mem_append.mp hw with hw | hw
        · exact h.issued w hw
        · rw [List.mem_singleton.mp hw]
          exact h.registry.issued p.id (Registry.mem_ids_of_pending hp)
      kept := h.kept
      named := h.named
      earlier := h.earlier }

/-! ## Answers -/

/-- An answer finds the oldest subscription to what it repeats, and that one is in the first group.
-/
theorem Lined.exists_answered (h : d.Sound) (hc : d.Compatible) {asked waiting fresh : List Pending}
    (hl : d.Lined asked waiting fresh) {id : Nat} {r : SubscribeRequest} {a : Subscribed}
    (hm : d.Permits (.answer id r a)) :
    ∃ before p after, asked = before ++ p :: after ∧ p.feed.request? = some r ∧
      (∀ q ∈ before, q.feed.request? ≠ some r) ∧
      d.registry.takeAgreeing (.ofSubscribed a) =
        (some p, { d.registry with pending := before ++ (after ++ (waiting ++ fresh)) }) := by
  obtain ⟨hopen, ⟨hecho, -⟩, -⟩ := hm
  have hagrees : ∀ q : Pending, q.feed.request? = some r → q.feed.agrees r.echo = true :=
    fun q hq => Feed.agrees_echo hq
  -- an answer to come is owed to some subscription of the first group
  have howed : some r ∈ asked.map (·.feed.request?) :=
    hl.owed.mem_iff.mpr (List.mem_map.mpr ⟨(id, r), hopen, rfl⟩)
  obtain ⟨w, hw, hwr⟩ := List.mem_map.mp howed
  obtain ⟨p, hfind⟩ := Option.isSome_iff_exists.mp
    (List.find?_isSome.mpr ⟨w, hw, hagrees w hwr⟩ : (asked.find? (·.feed.agrees r.echo)).isSome)
  obtain ⟨hpa, before, after, hasked, hbefore⟩ := List.find?_eq_some_iff_append.mp hfind
  have hfeed : ∀ q ∈ asked, q.feed ∈ d.feeds := by
    intro q hq
    exact (h.feeds q (by simp [hl.places, hq])).1
  have hp : p ∈ asked := by simp [hasked]
  have hpr : p.feed.request? = some r :=
    (hc p.feed (hfeed p hp) w.feed (hfeed w hw)).request_eq hwr hpa
  have hbefore' : ∀ q ∈ before, q.feed.agrees r.echo = false := by simpa using hbefore
  refine ⟨before, p, after, hasked, hpr, fun q hq hqr => ?_, ?_⟩
  · have hno := hbefore' q hq
    rw [hagrees q hqr] at hno
    cases hno
  · rw [hecho]
    refine Registry.takeAgreeing_of_first ?_ hbefore' hpa
    simp [hl.places, hasked]

/-- Nobody loses a channel to an answer. -/
theorem Sound.bind_eq (h : d.Sound) {a : Subscribed} (hnew : a.chanId ∉ d.channels) {p : Pending}
    {rest : List Pending}
    (ht : d.registry.takeAgreeing (.ofSubscribed a) =
      (some p, { d.registry with pending := rest })) :
    (d.registry.bind (.ofSubscribed a) a.chanId).1 = some p ∧
      (d.registry.bind (.ofSubscribed a) a.chanId).2.pending = rest ∧
      (d.registry.bind (.ofSubscribed a) a.chanId).2.active =
        ⟨a.chanId, p.id, p.feed⟩ :: d.registry.active ∧
      (d.registry.bind (.ofSubscribed a) a.chanId).2.nextId = d.registry.nextId := by
  have hsome : (d.registry.takeAgreeing (.ofSubscribed a)).1 = some p := by rw [ht]
  have hactive : d.registry.active.filter (·.chanId != a.chanId) = d.registry.active := by
    refine List.filter_eq_self.mpr fun b hb => ?_
    have hne : b.chanId ≠ a.chanId := fun he => hnew (he ▸ h.named b hb)
    simpa using hne
  rw [Registry.bind_of_some hsome, ht]
  refine ⟨rfl, Registry.pending_activate .., ?_, Registry.nextId_activate ..⟩
  rw [Registry.active_activate, Registry.withoutOwner, hactive]

/-- An answer takes a subscription from the first group, and one from what is owed to it. -/
theorem Lined.answer {before after waiting fresh : List Pending} {p : Pending}
    (hl : d.Lined (before ++ p :: after) waiting fresh) {id : Nat} {r : SubscribeRequest}
    (hpr : p.feed.request? = some r) (hopen : (id, r) ∈ d.unanswered) {a : Subscribed}
    (hrest : (d.registry.bind (.ofSubscribed a) a.chanId).2.pending =
      before ++ (after ++ (waiting ++ fresh))) :
    (d.make (.answer id r a)).Lined (before ++ after) waiting fresh := by
  have hsub : ∀ q ∈ before ++ after, q ∈ before ++ p :: after := fun q hq =>
    ((List.sublist_cons_self p after).append_left before).subset hq
  -- one and the same request leaves both sides of what is owed
  have howed : ((before ++ after).map (·.feed.request?)).Perm
      ((d.unanswered.erase (id, r)).map fun w => some w.2) := by
    have hleft : ((before ++ p :: after).map (·.feed.request?)).Perm
        (some r :: (before ++ after).map (·.feed.request?)) := by
      rw [← hpr]
      exact List.perm_middle.map _
    have hright := (List.perm_cons_erase hopen).map fun w => some w.2
    exact (hleft.symm.trans (hl.owed.trans hright)).cons_inv
  exact {
    places := by
      rw [List.append_assoc]
      exact hrest
    sent := by
      intro q hq
      rcases List.mem_append.mp hq with hq | hq
      · exact hl.sent q (List.mem_append_left _ (hsub q hq))
      · exact hl.sent q (List.mem_append_right _ hq)
    unsent := hl.unsent
    written := fun q hq => hl.written q (hsub q hq)
    owed := howed
    taken := hl.taken
    later := hl.later }

theorem Sound.lt_of_first (h : d.Sound) {before rest : List Pending} {p : Pending}
    (hs : d.registry.pending = before ++ p :: rest) {r : SubscribeRequest}
    (hfirst : ∀ q ∈ before, q.feed.request? ≠ some r) {q : Pending} (hq : q ∈ before ++ rest)
    (hqr : q.feed.request? = some r) : p.id < q.id := by
  have hordered := h.registry.ordered
  rw [hs, List.pairwise_append, List.pairwise_cons] at hordered
  rcases List.mem_append.mp hq with hq | hq
  · exact absurd hqr (hfirst q hq)
  · exact hordered.2.1.1 q hq

theorem Sound.answer (h : d.Sound) (hc : d.Compatible) {id : Nat} {r : SubscribeRequest}
    {a : Subscribed} (hm : d.Permits (.answer id r a)) : (d.make (.answer id r a)).Sound := by
  obtain ⟨asked, waiting, fresh, hl⟩ := h.lined
  obtain ⟨before, p, after, rfl, hpr, hfirst, htaken⟩ := hl.exists_answered h hc hm
  obtain ⟨hopen, -, hnew⟩ := hm
  obtain ⟨-, hpending, hactive, hnext⟩ := h.bind_eq hnew htaken
  have hline := hl.answer hpr hopen hpending
  have hplaces : d.registry.pending = before ++ p :: (after ++ (waiting ++ fresh)) := by
    simp [hl.places]
  generalize hr' : (d.registry.bind (.ofSubscribed a) a.chanId).2 = r' at hpending hactive hnext
  have hsound : r'.Sound := hr' ▸ h.registry.bind (.ofSubscribed a) a.chanId
  have hregistry : (d.make (.answer id r a)).registry = r' := hr'
  have hsub : r'.pending.Sublist d.registry.pending := by
    rw [hpending, hplaces]
    exact (List.sublist_cons_self p _).append_left before
  constructor
  · exact hregistry ▸ hsound
  · rw [hregistry]
    exact fun q hq => h.feeds q (hsub.subset hq)
  · exact ⟨_, _, _, hline⟩
  · rw [hregistry, hnext]
    exact h.issued
  · rw [hregistry, hnext]
    intro k hk
    rcases Registry.mem_ids.mp (h.kept k hk) with ⟨q, hq, rfl⟩ | ⟨b, hb, rfl⟩
    · rw [hplaces, List.mem_append, List.mem_cons] at hq
      rcases hq with hq | rfl | hq
      · exact Registry.mem_ids_of_pending (by simp [hpending, hq])
      · exact Registry.mem_ids_of_active (hactive ▸ List.mem_cons_self)
      · exact Registry.mem_ids_of_pending (hpending ▸ List.mem_append_right _ hq)
    · exact Registry.mem_ids_of_active (hactive ▸ List.mem_cons_of_mem _ hb)
  · rw [hregistry, hactive]
    intro b hb
    rcases List.mem_cons.mp hb with rfl | hb
    · exact List.mem_cons_self
    · exact List.mem_cons_of_mem _ (h.named b hb)
  · rw [hregistry, hactive]
    intro b hb q hq hreq
    rcases List.mem_cons.mp hb with rfl | hb
    · exact h.lt_of_first hplaces hfirst (hpending ▸ hq) (hreq ▸ hpr)
    · exact h.earlier b hb q (hsub.subset hq) hreq

/-! ## Runs -/

theorem Compatible.of_make {m : Move} (hc : (d.make m).Compatible) : d.Compatible := by
  have hsub : ∀ f ∈ d.feeds, f ∈ (d.make m).feeds := by
    intro f hf
    cases m with
    | register feed capacity overflow => exact List.mem_append_left _ hf
    | write =>
      change f ∈ d.write.feeds
      unfold write
      split <;> exact hf
    | _ => exact hf
  exact fun f hf g hg => hc f (hsub f hf) g (hsub g hg)

theorem Sound.make (h : d.Sound) (hc : d.Compatible) {m : Move} (hm : d.Permits m) :
    (d.make m).Sound := by
  cases m with
  | register feed capacity overflow => exact h.register hm capacity overflow
  | take => exact h.take
  | write => exact h.write
  | answer id r a => exact h.answer hc hm

theorem Reachable.sound (h : d.Reachable) (hc : d.Compatible) : d.Sound := by
  induction h with
  | empty => exact sound_empty
  | make _ hm ih => exact (ih hc.of_make).make hc.of_make hm

/-- Among compatible feeds, an honest answer always goes to the oldest subscription to what it
repeats, whose request was written. So subscriptions to the same are answered in their order, and
when all requests are answered, all subscriptions that asked have their channels. -/
theorem agreement (h : d.Reachable) (hc : d.Compatible) :
    (∀ id r a, d.Permits (.answer id r a) → ∃ p ∈ d.registry.pending,
      (d.registry.bind (.ofSubscribed a) a.chanId).1 = some p ∧
      (d.make (.answer id r a)).registry.active =
        ⟨a.chanId, p.id, p.feed⟩ :: d.registry.active ∧
      p.feed.request? = some r ∧ p.sent = true ∧ (p.id, r) ∈ d.written ∧
      ∀ q ∈ d.registry.pending, q.feed.request? = some r → p.id ≤ q.id) ∧
    (∀ a ∈ d.registry.active, ∀ q ∈ d.registry.pending,
      a.feed.request? = q.feed.request? → a.id < q.id) ∧
    (d.unanswered = [] → ∀ w ∈ d.written, d.registry.state? w.1 = some .active) := by
  have hs := h.sound hc
  obtain ⟨asked, waiting, fresh, hl⟩ := hs.lined
  refine ⟨fun id r a hm => ?_, hs.earlier, fun hnone w hw => ?_⟩
  · obtain ⟨before, p, after, rfl, hpr, hfirst, htaken⟩ := hl.exists_answered hs hc hm
    obtain ⟨hbind, -, hactive, -⟩ := hs.bind_eq hm.2.2 htaken
    have hp : p ∈ before ++ p :: after := by simp
    have hplaces : d.registry.pending = before ++ p :: (after ++ (waiting ++ fresh)) := by
      simp [hl.places]
    obtain ⟨r', hr', hwritten⟩ := hl.written p hp
    obtain rfl : r' = r := Option.some.inj (hr'.symm.trans hpr)
    refine ⟨p, by simp [hplaces], hbind, hactive, hpr, hl.sent p (List.mem_append_left _ hp),
      hwritten, fun q hq hqr => ?_⟩
    rw [hplaces, List.mem_append, List.mem_cons] at hq
    rcases hq with hq | rfl | hq
    · exact Nat.le_of_lt (hs.lt_of_first hplaces hfirst (List.mem_append_left _ hq) hqr)
    · exact Nat.le_refl _
    · exact Nat.le_of_lt (hs.lt_of_first hplaces hfirst (List.mem_append_right _ hq) hqr)
  · have hasked : asked = [] := by
      have hlength := hl.owed.length_eq
      simpa [hnone] using hlength
    have hpending : ∀ p ∈ d.registry.pending, p.id ≠ w.1 := by
      intro p hp
      rw [hl.places, hasked, List.nil_append] at hp
      exact (Nat.ne_of_lt (hl.later w hw p hp)).symm
    rcases Registry.mem_ids.mp (hs.kept w.1 (hs.issued w hw)) with ⟨p, hp, he⟩ | ⟨a, ha, he⟩
    · exact absurd he (hpending p hp)
    · exact Registry.state?_of_active hpending ha he

/-- The later of two equal requests is answered first, and the earlier subscription gets the
channel. -/
theorem agreement_candles :
    let feed := Feed.candles "trade:1m:tBTCUSD"
    let r : SubscribeRequest := ⟨.candles, none, some "trade:1m:tBTCUSD", none, none, none⟩
    let a : Subscribed :=
      ⟨"candles", 7, none, none, none, some "trade:1m:tBTCUSD", none, none, none⟩
    let moves : List Move :=
      [.register feed 1 .block, .register feed 1 .block, .take, .write, .write]
    let d := moves.foldl make empty
    d.Reachable ∧ d.Compatible ∧ d.Permits (.answer 1 r a) ∧
      (d.registry.bind (.ofSubscribed a) a.chanId).1 = some ⟨0, feed, true⟩ := by
  intro feed r a moves d
  have hfeed : feed.Built := .candles _
  have htwo := (Reachable.empty.make (m := .register feed 1 .block) hfeed).make
    (m := .register feed 1 .block) hfeed
  have hreach : d.Reachable :=
    ((htwo.make (m := .take) trivial).make (m := .write) trivial).make (m := .write) trivial
  have hcompat : d.Compatible := by
    have hfeeds : d.feeds = [feed, feed] := rfl
    intro f hf g hg
    simp only [hfeeds, List.mem_cons, List.not_mem_nil, or_false, or_self] at hf hg
    exact Or.inl (by rw [hf, hg])
  have hpermits : d.Permits (.answer 1 r a) := by
    refine ⟨?_, ?_, ?_⟩ <;> decide
  refine ⟨hreach, hcompat, hpermits, ?_⟩
  obtain ⟨p, hp, hbind, -, -, -, -, hle⟩ := (agreement hreach hcompat).1 1 r a hpermits
  have hpending : d.registry.pending = [⟨0, feed, true⟩, ⟨1, feed, true⟩] := rfl
  have hfirst : p.id ≤ 0 := hle ⟨0, feed, true⟩ (by simp [hpending]) rfl
  rw [hpending] at hp
  rcases List.mem_cons.mp hp with rfl | hp
  · exact hbind
  · rw [List.mem_singleton.mp hp] at hfirst
    exact absurd hfirst (by decide)

end Dialogue
end MarketWire
