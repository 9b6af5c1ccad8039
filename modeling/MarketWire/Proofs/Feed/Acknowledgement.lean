import MarketWire.Proofs.Feed.Echo
import MarketWire.Proofs.Registry.Channel
import MarketWire.Proofs.Wire.Grammar
import MarketWire.Proofs.Wire.Members

/-!
# Recognised answers

The answer that acknowledges a request restates its members with another name of the event and the
id of the channel, writes the length of a book as a text or as a number, and may have members that
nobody knows. Whatever the order of its members, it is read as an echo of the request, so the feed
agrees with it and is found among the pending subscriptions.
-/
namespace MarketWire

open Json (Fields Value)

namespace SubscribeRequest

/-- A member of the request as the answer has it. -/
def restate (len : Value) (m : String × Value) : String × Value :=
  (m.1, if m.1 = "event" then .text "subscribed" else if m.1 = "len" then len else m.2)

/-- The members of the request as the answer has them, and the id of the channel. -/
def restated (r : SubscribeRequest) (chanId : Int64) (len : Value) : List (String × Value) :=
  r.members.map (restate len) ++ [("chanId", .ofInt64 chanId)]

/-- What the answer says, read as an acknowledgement. -/
def acknowledged (r : SubscribeRequest) (chanId : Int64) : Subscribed :=
  ⟨r.channel.name, chanId, r.symbol, none, none, r.key, r.prec.map Precision.name,
    r.freq.map Frequency.name, r.len⟩

theorem lookup_optionalMember (name k : String) (v : Option Value) :
    (optionalMember name v).lookup k = if k = name then v else none := by
  cases v with
  | none => simp [optionalMember]
  | some v => by_cases hk : k = name <;> simp [optionalMember, hk]

theorem lookup_map_restate (len : Value) (k : String) (ms : List (String × Value)) :
    (ms.map (restate len)).lookup k = (ms.lookup k).map fun v => (restate len (k, v)).2 := by
  induction ms with
  | nil => rfl
  | cons m ms ih =>
    obtain ⟨name, v⟩ := m
    by_cases hk : k = name
    · simp [restate, hk]
    · have hb : (k == name) = false := beq_eq_false_iff_ne.mpr hk
      rw [List.map_cons, restate, List.lookup_cons, hb, List.lookup_cons, hb]
      exact ih

theorem keys_optionalMember (name : String) (v : Option Value) :
    ((optionalMember name v).map Prod.fst).Sublist [name] := by
  cases v <;> simp [optionalMember]

theorem keys_members (r : SubscribeRequest) :
    (r.members.map Prod.fst).Sublist
      ["event", "channel", "symbol", "key", "prec", "freq", "len"] := by
  simp only [members, List.map_append]
  exact (((((List.Sublist.refl ["event", "channel"]).append (keys_optionalMember "symbol" _)).append
    (keys_optionalMember "key" _)).append (keys_optionalMember "prec" _)).append
    (keys_optionalMember "freq" _)).append (keys_optionalMember "len" _)

theorem exists_text_of_optional {name : String} {o : Option α} {f : α → String}
    {m : String × Value} (h : m ∈ optionalMember name (o.map (.text <| f ·))) :
    ∃ s, m.2 = .text s := by
  cases o with
  | none => cases h
  | some a => exact ⟨f a, congrArg Prod.snd (List.mem_singleton.mp h)⟩

theorem exists_text_of_mem {r : SubscribeRequest} {m : String × Value} (h : m ∈ r.members) :
    ∃ s, m.2 = .text s := by
  simp only [members, List.mem_append] at h
  rcases h with ((((h | h) | h) | h) | h) | h
  · rcases List.mem_pair.mp h with rfl | rfl <;> exact ⟨_, rfl⟩
  all_goals exact exists_text_of_optional h

theorem nodup_restated (r : SubscribeRequest) (chanId : Int64) (len : Value) :
    ((r.restated chanId len).map Prod.fst).Nodup := by
  have hkeys : (r.restated chanId len).map Prod.fst = r.members.map Prod.fst ++ ["chanId"] := by
    simp [restated, restate, Function.comp_def]
  rw [hkeys]
  exact ((keys_members r).append_right ["chanId"]).nodup (by decide)

theorem lookup_restated (r : SubscribeRequest) (chanId : Int64) (len : Value) :
    (r.restated chanId len).lookup "event" = some (.text "subscribed") ∧
    (r.restated chanId len).lookup "channel" = some (.text r.channel.name) ∧
    (r.restated chanId len).lookup "chanId" = some (.ofInt64 chanId) ∧
    (r.restated chanId len).lookup "symbol" = r.symbol.map .text ∧
    (r.restated chanId len).lookup "pair" = none ∧
    (r.restated chanId len).lookup "currency" = none ∧
    (r.restated chanId len).lookup "key" = r.key.map .text ∧
    (r.restated chanId len).lookup "prec" = (r.prec.map Precision.name).map .text ∧
    (r.restated chanId len).lookup "freq" = (r.freq.map Frequency.name).map .text ∧
    (r.restated chanId len).lookup "len" = r.len.map fun _ => len := by
  simp only [restated, List.lookup_append, lookup_map_restate, members, lookup_optionalMember]
  simp [restate, List.lookup_cons, Function.comp_def]

end SubscribeRequest

namespace Feed

/-- The two ways to write the length of a book. -/
def lengthForms (f : Feed) : List Value := [.text (toString f.length.toNat), .ofNat f.length.toNat]

/-- The members of an answer that acknowledges the feed's request, in any order. -/
def AcknowledgedBy (f : Feed) (r : SubscribeRequest) (chanId : Int64)
    (answer : List (String × Value)) : Prop :=
  ∃ len ∈ f.lengthForms, ∃ extra : List (String × Value),
    (∀ e ∈ extra, e.1 ≠ "event" ∧ e.1 ∉ Control.subscribedMembers.map Prod.fst) ∧
      answer.Perm (r.restated chanId len ++ extra)

theorem len_of_request? {f : Feed} {r : SubscribeRequest} (h : f.request? = some r) :
    ∀ s ∈ r.len, s = toString f.length.toNat := by
  unfold request? at h
  split at h
  case h_1 => cases h
  case h_3 =>
    obtain ⟨symbol, -, rfl⟩ := Option.map_eq_some_iff.mp h
    simp [SubscribeRequest.withBook]
  all_goals
    obtain ⟨_, -, rfl⟩ := Option.map_eq_some_iff.mp h
    simp [SubscribeRequest.ofChannel]

theorem readLoose_of_lengthForms {f : Feed} {len : Value} (h : len ∈ f.lengthForms) :
    Member.readLoose len = .ok (some (toString f.length.toNat)) := by
  have hlt := f.length.toNat_lt
  rcases List.mem_cons.mp h with rfl | h
  · rfl
  · rw [List.mem_singleton.mp h, Value.ofNat_of_lt (by omega), Member.readLoose, Value.toText,
      Value.chars, Json.Number.chars, Json.Number.wholeChars_natCast,
      Nat.toString_eq_ofList_toDigits]
    all_goals simp

theorem AcknowledgedBy.writtenIn {f : Feed} {r : SubscribeRequest} {chanId : Int64}
    {answer : List (String × Value)} (hr : f.request? = some r)
    (h : f.AcknowledgedBy r chanId answer) :
    (Fields.ofList answer).get? "event" = some (.text "subscribed") ∧
      (r.acknowledged chanId).WrittenIn (Fields.ofList answer) := by
  obtain ⟨len, hlen, extra, hextra, hperm⟩ := h
  have hget : ∀ k, (k = "event" ∨ k ∈ Control.subscribedMembers.map Prod.fst) →
      (Fields.ofList answer).get? k = (r.restated chanId len).lookup k := by
    intro k hk
    refine Fields.get?_ofList_of_perm hperm (r.nodup_restated chanId len) fun e he heq => ?_
    obtain ⟨hevent, hknown⟩ := heq ▸ hextra e he
    exact hk.elim hevent hknown
  obtain ⟨hevent, hchannel, hchanId, hsymbol, hpair, hcurrency, hkey, hprec, hfreq, hl⟩ :=
    r.lookup_restated chanId len
  have hform : ((r.len.map fun _ => len).elim (.ok none) Member.readLoose) = .ok r.len := by
    cases hlen' : r.len with
    | none => rfl
    | some s =>
      rw [len_of_request? hr s hlen']
      exact readLoose_of_lengthForms hlen
  exact ⟨(hget "event" (.inl rfl)).trans hevent, {
    channel := (hget "channel" (.inr (by decide))).trans hchannel
    chanId := (hget "chanId" (.inr (by decide))).trans hchanId
    symbol := (hget "symbol" (.inr (by decide))).trans hsymbol
    pair := (hget "pair" (.inr (by decide))).trans hpair
    currency := (hget "currency" (.inr (by decide))).trans hcurrency
    key := (hget "key" (.inr (by decide))).trans hkey
    prec := (hget "prec" (.inr (by decide))).trans hprec
    freq := (hget "freq" (.inr (by decide))).trans hfreq
    len := by
      rw [hget "len" (.inr (by decide)), hl]
      exact hform }⟩

theorem parse_of_acknowledgedBy {f : Feed} {r : SubscribeRequest} {chanId : Int64}
    {answer : List (String × Value)} {raw : String} (hr : f.request? = some r)
    (h : f.AcknowledgedBy r chanId answer)
    (hraw : Value.ofText? raw = some (.object (Fields.ofList answer))) :
    Frame.parse raw = .ok (.event (.subscribed (r.acknowledged chanId))) := by
  obtain ⟨hevent, hwritten⟩ := h.writtenIn hr
  have hread := Control.readSubscribed_of_writtenIn (Fields.sorted_ofList answer) hwritten
  rw [Frame.parse_of_object hraw, mapError_eq_ok_iff, Frame.ofFields, hevent, Option.bind_some]
  simp [Value.text?, Control.read, hread]

theorem exists_bind {reg : Registry} {a : Ack} {q : Pending} (hq : q ∈ reg.pending)
    (h : q.feed.agrees a = true) (chanId : Int64) :
    ∃ p, (reg.bind a chanId).1 = some p ∧
      (reg.bind a chanId).2.owner? chanId = some ⟨chanId, p.id, p.feed⟩ := by
  obtain ⟨p, hfound⟩ := Option.isSome_iff_exists.mp
    (List.find?_isSome.mpr ⟨q, hq, h⟩ : (reg.pending.find? (·.feed.agrees a)).isSome)
  have hbind : (reg.bind a chanId).1 = some p := by rw [Registry.bind_of_some hfound]
  refine ⟨p, hbind, ?_⟩
  simp [Registry.owner?_bind, hbind]

/-- Every feed that a caller can make recognises the acknowledgement of its own request. -/
theorem recognises_acknowledgement {f : Feed} (hf : f.Built) :
    ∃ r, f.request? = some r ∧
      Value.ofText? r.wire = some (.object (Fields.ofList r.members)) ∧
      ∀ chanId answer raw, f.AcknowledgedBy r chanId answer →
        Value.ofText? raw = some (.object (Fields.ofList answer)) →
        ∃ s, Frame.parse raw = .ok (.event (.subscribed s)) ∧ s.chanId = chanId ∧ s.Echoes r ∧
          f.agrees (Ack.ofSubscribed s) = true ∧
          ∀ reg : Registry, (∃ p ∈ reg.pending, p.feed = f) →
            ∃ p owner, (reg.bind (Ack.ofSubscribed s) chanId).1 = some p ∧
              (reg.bind (Ack.ofSubscribed s) chanId).2.owner? chanId = some owner ∧
              owner.id = p.id ∧ (p.feed = f → owner.schema? = f.schema?) := by
  obtain ⟨r, hr⟩ := hf.exists_request
  have hplain : ∀ m ∈ r.members, Value.Plain 126 m.2 := by
    intro m hm
    obtain ⟨s, hs⟩ := SubscribeRequest.exists_text_of_mem hm
    rw [hs]
    exact .text 126 s
  refine ⟨r, hr, Value.ofText?_orderedObject hplain, fun chanId answer raw h hraw => ?_⟩
  have hparse := parse_of_acknowledgedBy hr h hraw
  have hechoes : (r.acknowledged chanId).Echoes r := ⟨rfl, rfl⟩
  have hagrees : f.agrees (Ack.ofSubscribed (r.acknowledged chanId)) = true := agrees_echo hr
  refine ⟨r.acknowledged chanId, hparse, rfl, hechoes, hagrees, fun reg hpending => ?_⟩
  obtain ⟨q, hq, rfl⟩ := hpending
  obtain ⟨p, hbind, howner⟩ := exists_bind hq hagrees chanId
  exact ⟨p, ⟨chanId, p.id, p.feed⟩, hbind, howner, rfl, fun hp => congrArg Feed.schema? hp⟩

theorem recognises_acknowledgement_book :
    ∃ s, Frame.parse (Json.orderedObject [("extra", .array [.null]), ("chanId", .ofInt64 (-7)),
        ("len", .ofNat 100), ("freq", .text "F1"), ("prec", .text "P1"),
        ("symbol", .text "tBTCUSD"), ("channel", .text "book"), ("event", .text "subscribed")]) =
      .ok (.event (.subscribed s)) ∧ s.chanId = -7 ∧
        (((book "btcusd" .p1).withFrequency .f1).withLength 100).agrees (Ack.ofSubscribed s) := by
  obtain ⟨r, hr, -, h⟩ := recognises_acknowledgement
    (((Built.book "btcusd" .p1).withFrequency .f1).withLength 100)
  obtain rfl : ⟨.book, some "tBTCUSD", none, some .p1, some .f1, some "100"⟩ = r :=
    Option.some.inj (Eq.trans (by decide) hr)
  have hextra : ∀ e ∈ [("extra", Value.array [.null])],
      e.1 ≠ "event" ∧ e.1 ∉ Control.subscribedMembers.map Prod.fst := by
    intro e he
    obtain rfl := List.mem_singleton.mp he
    exact ⟨by decide, by decide⟩
  have hlen : Value.ofNat 100 ∈
      (((book "btcusd" .p1).withFrequency .f1).withLength 100).lengthForms := by
    simp only [lengthForms, List.mem_cons]
    exact .inr (.inl rfl)
  have hnull : ∀ v ∈ [Value.null], Value.Plain 125 v := by simp [Value.Plain.null]
  have hplain : ∀ m ∈ [("extra", Value.array [.null]), ("chanId", .ofInt64 (-7)),
      ("len", .ofNat 100), ("freq", .text "F1"), ("prec", .text "P1"),
      ("symbol", .text "tBTCUSD"), ("channel", .text "book"), ("event", .text "subscribed")],
      Value.Plain 126 m.2 := by
    simp [Value.ofNat_of_lt, Value.Plain.array hnull, Value.Plain.ofInt64, Value.Plain.text,
      Value.Plain.whole]
  obtain ⟨s, hs, hchanId, -, hagrees, -⟩ := h (-7) _ _
    ⟨.ofNat 100, hlen, _, hextra, List.reverse_perm _⟩ (Value.ofText?_orderedObject hplain)
  exact ⟨s, hs, hchanId, hagrees⟩

end Feed
end MarketWire
