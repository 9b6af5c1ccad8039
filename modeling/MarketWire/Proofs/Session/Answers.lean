import MarketWire.Proofs.Feed.Likeness
import MarketWire.Proofs.Registry.Custody
import MarketWire.Proofs.Session.Invariant

/-!
# Who gets an answer

An acknowledgement goes to the oldest pending subscription whose request resembles the echoed one,
and a refusal to one whose request is akin to it. Nobody else among the pending ones notices.
-/
namespace MarketWire
namespace Registry

variable {r : Registry}

theorem exists_agreeing {a : Ack} {b : Pending} (hb : b ∈ r.pending)
    (h : b.feed.agrees a = true) :
    ∃ before p after, r.pending = before ++ p :: after ∧
      (∀ q ∈ before, q.feed.agrees a = false) ∧ p.feed.agrees a = true ∧
      r.takeAgreeing a = (some p, { r with pending := before ++ after }) := by
  obtain ⟨p, hfind⟩ := Option.isSome_iff_exists.mp
    (List.find?_isSome.mpr ⟨b, hb, h⟩ : (r.pending.find? (·.feed.agrees a)).isSome)
  obtain ⟨hp, before, after, hs, hbefore⟩ := List.find?_eq_some_iff_append.mp hfind
  have hbefore' : ∀ q ∈ before, q.feed.agrees a = false := by simpa using hbefore
  exact ⟨before, p, after, hs, hbefore', hp, takeAgreeing_of_first hs hbefore' hp⟩

namespace Sound

theorem not_mem_ids_of_split (h : r.Sound) {before after : List Pending} {p : Pending}
    (hs : r.pending = before ++ p :: after) :
    p.id ∉ ids { r with pending := before ++ after } := by
  have hmem : p ∈ r.pending := by simp [hs]
  have hsub : (before ++ after).Sublist r.pending := by
    rw [hs]
    exact (List.sublist_cons_self p after).append_left before
  have hnodup := h.nodup_pending
  rw [hs, List.nodup_middle] at hnodup
  exact h.not_mem_ids_of_taken hmem hsub (List.nodup_cons.mp hnodup).1

theorem bind_of_split (h : r.Sound) {a : Ack} (chanId : Int64) {before after : List Pending}
    {p : Pending} (hs : r.pending = before ++ p :: after)
    (ht : r.takeAgreeing a = (some p, { r with pending := before ++ after })) :
    (r.bind a chanId).1 = some p ∧ (r.bind a chanId).2.pending = before ++ after ∧
      (r.bind a chanId).2.owner? chanId = some ⟨chanId, p.id, p.feed⟩ ∧
      (r.bind a chanId).2.state? p.id = some .active := by
  have hsome : (r.takeAgreeing a).1 = some p := by rw [ht]
  have hout := h.not_mem_ids_of_split hs
  have hpending : (r.bind a chanId).2.pending = before ++ after := by
    rw [bind_of_some hsome, ht, pending_activate]
  have howner : (r.bind a chanId).2.owner? chanId = some ⟨chanId, p.id, p.feed⟩ := by
    rw [bind_of_some hsome, owner?_activate, if_pos rfl]
  refine ⟨by rw [bind_of_some hsome], hpending, howner, ?_⟩
  have hothers : ∀ q ∈ (r.bind a chanId).2.pending, q.id ≠ p.id := by
    rw [hpending]
    exact fun q hq he => hout (mem_ids.mpr (Or.inl ⟨q, hq, he⟩))
  exact state?_of_active hothers (owner?_eq_some howner).1 rfl

theorem refuse_of_split (h : r.Sound) {a : Ack} {m : StreamMessage} {before after : List Pending}
    {p : Pending} (hs : r.pending = before ++ p :: after)
    (ht : r.takeAgreeing a = (some p, { r with pending := before ++ after })) :
    (r.refuse a m).pending = before ++ after ∧
      (∃ k, r.sink? p.id = some k ∧ k.closed = false ∧
        (r.refuse a m).sink? p.id = some (k.finish m).2) ∧
      (r.refuse a m).state? p.id = some .closed ∧
      ∀ o ∈ before ++ after, (r.refuse a m).state? o.id = some .pending ∧
        (r.refuse a m).sink? o.id = r.sink? o.id := by
  have hsome : (r.takeAgreeing a).1 = some p := by rw [ht]
  have hin : p.id ∈ r.ids := mem_ids_of_pending (by simp [hs])
  have hlt := h.issued p.id hin
  have hout := h.not_mem_ids_of_split hs
  have hr : r.refuse a m = ({ r with pending := before ++ after }.finish p.id m).2 := by
    rw [refuse_of_some hsome, ht]
  have hentries := entries_finish { r with pending := before ++ after } p.id m
  have hsink : ∀ id, (r.refuse a m).sink? id =
      if id = p.id then (r.sink? id).map fun k => (k.finish m).2 else r.sink? id :=
    fun id => hr ▸ sink?_finish { r with pending := before ++ after } p.id m id
  have hpending : (r.refuse a m).pending = before ++ after := hr ▸ hentries.1
  have hids : (r.refuse a m).ids = ids { r with pending := before ++ after } :=
    hr ▸ ids_eq_of_entries hentries
  have hnext : (r.refuse a m).nextId = r.nextId := hr ▸ hentries.2.2
  obtain ⟨k, hk⟩ := Option.isSome_iff_exists.mp ((h.known p.id).mpr hlt)
  refine ⟨hpending, ⟨k, hk, h.opened p.id hin k hk, ?_⟩, ?_, fun o ho => ⟨?_, ?_⟩⟩
  · rw [hsink, if_pos rfl, hk]
    rfl
  · exact state?_of_left (hids ▸ hout) (hnext ▸ hlt)
  · exact state?_of_pending (hpending ▸ ho)
  · have hne : o.id ≠ p.id := fun he => hout (mem_ids.mpr (Or.inl ⟨o, ho, he⟩))
    rw [hsink, if_neg hne]

end Sound
end Registry

namespace Session

/-- An acknowledgement that echoes a request goes to the oldest pending subscription whose request
resembles it. -/
theorem acknowledged_oldest (config : ConnectionConfig) (signer : Signer) (counter : Counter)
    (link : Link) (acts : List Act) {b : Pending}
    (hb : b ∈ ((create config signer counter link).run acts).registry.pending)
    (hfeed : b.feed.Built) :
    let s := (create config signer counter link).run acts
    ∃ r, b.feed.request? = some r ∧ ∀ a : Subscribed, a.Echoes r →
      ∃ before p after q, s.registry.pending = before ++ p :: after ∧
        p.feed.request? = some q ∧ q.Resembles r ∧
        (∀ o ∈ before, ∀ q', o.feed.request? = some q' → ¬q'.Resembles r) ∧
        (s.handleControl (.subscribed a)).registry.pending = before ++ after ∧
        (s.handleControl (.subscribed a)).registry.owner? a.chanId =
          some ⟨a.chanId, p.id, p.feed⟩ ∧
        (s.handleControl (.subscribed a)).registry.state? p.id = some .active ∧
        (s.handleControl (.subscribed a)).events =
          s.events ++ [.subscribed p.id a.chanId p.feed.channel p.feed.symbol] := by
  intro s
  have hs : s.registry.Sound := ((sound_create config signer counter link).run acts).registry
  obtain ⟨r, hr⟩ := hfeed.exists_request
  refine ⟨r, hr, fun a ha => ?_⟩
  obtain ⟨before, p, after, hsplit, hbefore, hp, ht⟩ :=
    Registry.exists_agreeing hb (Feed.agrees_echo hr)
  obtain ⟨q, hq, hlike⟩ := (Feed.agrees_echo_iff hr).mp hp
  have hfirst : ∀ o ∈ before, ∀ q', o.feed.request? = some q' → ¬q'.Resembles r := by
    intro o ho q' hq' hlike'
    have hno := hbefore o ho
    rw [(Feed.agrees_echo_iff hr).mpr ⟨q', hq', hlike'⟩] at hno
    cases hno
  rw [← ha.1] at ht
  obtain ⟨hbound, hpending, howner, hstate⟩ := hs.bind_of_split a.chanId hsplit ht
  have hact : s.handleControl (.subscribed a) = s.acknowledge a := rfl
  rw [hact, acknowledge_eq, hbound]
  exact ⟨before, p, after, q, hsplit, hq, hlike, hfirst, hpending, howner, hstate, rfl⟩

/-- Two of four subscriptions get channels of other books and other symbols than they asked for. -/
theorem acknowledged_otherwise :
    let rare := (Feed.book "tBTCUSD" .p0).withFrequency .f1
    let s := (create .standard ⟨none⟩ ⟨1⟩ (.create "" true none none)).run [
      .register (.book "tBTCUSD" .p0), .register rare, .register (.trades "fUSD"),
      .register (.trades "tUSD")]
    let a : Subscribed :=
      ⟨"book", 5, some "tBTCUSD", none, none, none, some "P0", some "F1", some "25"⟩
    let c : Subscribed := ⟨"trades", 6, some "tUSD", none, none, none, none, none, none⟩
    s.registry.pending = [⟨0, .book "tBTCUSD" .p0, false⟩, ⟨1, rare, false⟩,
      ⟨2, .trades "fUSD", false⟩, ⟨3, .trades "tUSD", false⟩] ∧
    (∃ r, rare.request? = some r ∧ a.Echoes r) ∧
    (∃ r, (Feed.trades "tUSD").request? = some r ∧ c.Echoes r) ∧
    (∃ q, (Feed.book "tBTCUSD" .p0).request? = some q ∧ q.freq = some .f0) ∧
    (∃ q, (Feed.trades "fUSD").request? = some q ∧ q.symbol = some "fUSD") ∧
    (s.handleControl (.subscribed a)).registry.owner? 5 = some ⟨5, 0, .book "tBTCUSD" .p0⟩ ∧
    (s.handleControl (.subscribed a)).registry.state? 1 = some .pending ∧
    (s.handleControl (.subscribed c)).registry.owner? 6 = some ⟨6, 2, .trades "fUSD"⟩ ∧
    (s.handleControl (.subscribed c)).registry.state? 3 = some .pending := by
  intro rare s a c
  refine ⟨by decide +kernel, ⟨_, rfl, by decide +kernel⟩, ⟨_, rfl, by decide +kernel⟩, ⟨_, rfl, rfl⟩,
    ⟨_, rfl, by decide +kernel⟩, ?_, ?_, ?_, ?_⟩ <;> decide +kernel

theorem acknowledged_oldest_books :
    let rare := (Feed.book "tBTCUSD" .p0).withFrequency .f1
    let s := (create .standard ⟨none⟩ ⟨1⟩ (.create "" true none none)).run [
      .register (.book "tBTCUSD" .p0), .register rare]
    let a : Subscribed :=
      ⟨"book", 5, some "tBTCUSD", none, none, none, some "P0", some "F1", some "25"⟩
    (⟨1, rare, false⟩ ∈ s.registry.pending ∧ rare.Built) ∧
    ∃ before p after, s.registry.pending = before ++ p :: after ∧
      (s.handleControl (.subscribed a)).registry.pending = before ++ after ∧
      (s.handleControl (.subscribed a)).registry.owner? 5 = some ⟨5, p.id, p.feed⟩ := by
  intro rare s a
  have hb : ⟨1, rare, false⟩ ∈ s.registry.pending := by decide +kernel
  have hbuilt : rare.Built := .withFrequency (.book _ _) _
  obtain ⟨r, hr, hall⟩ := acknowledged_oldest _ _ _ _ _ hb hbuilt
  have hecho : ∀ r', rare.request? = some r' → a.Echoes r' := by
    intro r' hr'
    obtain rfl : _ = r' := Option.some.inj hr'
    decide +kernel
  obtain ⟨before, p, after, q, hs, -, -, -, hpending, howner, -⟩ := hall a (hecho r hr)
  exact ⟨⟨hb, hbuilt⟩, before, p, after, hs, hpending, howner⟩

/-- A refusal that echoes a request ends one pending subscription whose request is akin to it, the
oldest one if those requests name the same parameters; the others wait on. -/
theorem refused_akin (config : ConnectionConfig) (signer : Signer) (counter : Counter)
    (link : Link) (acts : List Act) {b : Pending}
    (hb : b ∈ ((create config signer counter link).run acts).registry.pending)
    (hfeed : b.feed.Built) :
    let s := (create config signer counter link).run acts
    ∃ r, b.feed.request? = some r ∧ ∀ a : Refusal, a.Echoes r →
      ∃ before p after q, s.registry.pending = before ++ p :: after ∧
        p.feed.request? = some q ∧ q.Akin r ∧
        (∃ k, s.registry.sink? p.id = some k ∧ k.closed = false ∧
          (s.handleControl (.error a)).registry.sink? p.id =
            some (k.finish (.rejected a.code a.msg)).2) ∧
        (s.handleControl (.error a)).registry.state? p.id = some .closed ∧
        (s.handleControl (.error a)).registry.pending = before ++ after ∧
        (∀ o ∈ before ++ after,
          (s.handleControl (.error a)).registry.state? o.id = some .pending ∧
          (s.handleControl (.error a)).registry.sink? o.id = s.registry.sink? o.id) ∧
        ((∀ o ∈ s.registry.pending, ∀ q', o.feed.request? = some q' → q'.Akin r →
            q'.prec = r.prec ∧ q'.len = r.len) →
          ∀ o ∈ before, ∀ q', o.feed.request? = some q' → ¬q'.Akin r) := by
  intro s
  have hs : s.registry.Sound := ((sound_create config signer counter link).run acts).registry
  obtain ⟨r, hr⟩ := hfeed.exists_request
  refine ⟨r, hr, fun a ha => ?_⟩
  have hagrees : b.feed.agrees r.plainEcho = true :=
    (Feed.agrees_plainEcho_iff hr).mpr ⟨r, hr, (SubscribeRequest.Resembles.refl r).toAkin⟩
  obtain ⟨before, p, after, hsplit, hbefore, hp, ht⟩ := Registry.exists_agreeing hb hagrees
  obtain ⟨q, hq, hakin⟩ := (Feed.agrees_plainEcho_iff hr).mp hp
  have hfirst : ∀ o ∈ before, ∀ q', o.feed.request? = some q' → ¬q'.Akin r := by
    intro o ho q' hq' hakin'
    have hno := hbefore o ho
    rw [(Feed.agrees_plainEcho_iff hr).mpr ⟨q', hq', hakin'⟩] at hno
    cases hno
  obtain ⟨hpending, hsink, hstate, hothers⟩ :=
    hs.refuse_of_split (m := .rejected a.code a.msg) hsplit ht
  have hact : (s.handleControl (.error a)).registry =
      s.registry.refuse r.plainEcho (.rejected a.code a.msg) := by
    rcases refuse_eq s a with ⟨ack, p', hack, -, he⟩ | ⟨hnone, -⟩
    · obtain rfl : r.plainEcho = ack := Option.some.inj (ha.symm.trans hack)
      exact congrArg Session.registry he
    · have hno := hnone _ ha
      rw [ht] at hno
      cases hno
  rw [hact]
  exact ⟨before, p, after, q, hsplit, hq, hakin, hsink, hstate, hpending, hothers, fun _ => hfirst⟩

/-- The refusals of the second and of the fourth subscription end the first and the third one. -/
theorem refused_otherwise :
    let rare := (Feed.book "tBTCUSD" .p0).withFrequency .f1
    let s := (create .standard ⟨none⟩ ⟨1⟩ (.create "" true none none)).run [
      .register (.book "tBTCUSD" .p0), .register rare, .register (.trades "fUSD"),
      .register (.trades "tUSD"), .start, .step, .step, .step, .step, .step, .step, .step, .step]
    let t := "\x7b\"event\":\"error\",\"msg\":\"no\",\"code\":10300,\"channel\":\"book\",\"symbol\":\"tBTCUSD\",\"prec\":\"P0\",\"freq\":\"F1\",\"len\":\"25\"\x7d"
    let u := "\x7b\"event\":\"error\",\"msg\":\"no\",\"channel\":\"trades\",\"symbol\":\"tUSD\"\x7d"
    rare.request? = some ⟨.book, some "tBTCUSD", none, some .p0, some .f1, some "25"⟩ ∧
    (Feed.book "tBTCUSD" .p0).request? =
      some ⟨.book, some "tBTCUSD", none, some .p0, some .f0, some "25"⟩ ∧
    (Feed.trades "fUSD").request? = some ⟨.trades, some "fUSD", none, none, none, none⟩ ∧
    (Feed.trades "tUSD").request? = some ⟨.trades, some "tUSD", none, none, none, none⟩ ∧
    (List.range 4).map s.registry.state? = [some .pending, some .pending, some .pending,
      some .pending] ∧
    (List.range 4).map (s.run [.push (.text t), .step]).registry.state? =
      [some .closed, some .pending, some .pending, some .pending] ∧
    (List.range 4).map (s.run [.push (.text u), .step]).registry.state? =
      [some .pending, some .pending, some .closed, some .pending] := by
  intro rare s t u
  refine ⟨?_, ?_, ?_, ?_, ?_, ?_, ?_⟩ <;> decide +kernel

theorem refused_akin_books :
    let rare := (Feed.book "tBTCUSD" .p0).withFrequency .f1
    let s := (create .standard ⟨none⟩ ⟨1⟩ (.create "" true none none)).run [
      .register (.book "tBTCUSD" .p0), .register rare]
    let a : Refusal := ⟨some 10300, "no", some "book", some "tBTCUSD", none⟩
    (⟨1, rare, false⟩ ∈ s.registry.pending ∧ rare.Built) ∧
    ∃ before p after, s.registry.pending = before ++ p :: after ∧
      (s.handleControl (.error a)).registry.pending = before ++ after ∧
      (s.handleControl (.error a)).registry.state? p.id = some .closed := by
  intro rare s a
  have hb : ⟨1, rare, false⟩ ∈ s.registry.pending := by decide +kernel
  have hbuilt : rare.Built := .withFrequency (.book _ _) _
  obtain ⟨r, hr, hall⟩ := refused_akin _ _ _ _ _ hb hbuilt
  have hecho : ∀ r', rare.request? = some r' → a.Echoes r' := by
    intro r' hr'
    obtain rfl : _ = r' := Option.some.inj hr'
    decide +kernel
  obtain ⟨before, p, after, q, hs, -, -, -, hstate, hpending, -⟩ := hall a (hecho r hr)
  exact ⟨⟨hb, hbuilt⟩, before, p, after, hs, hpending, hstate⟩

end Session
end MarketWire
