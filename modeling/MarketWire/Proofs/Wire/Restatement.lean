import MarketWire.Proofs.Wire.Grammar
import MarketWire.Proofs.Wire.Members

/-!
# Events written another way

What an event is read as depends on the members it knows alone. An object may have its members in
another order, members that nobody knows, and `null` for members that may be missing: the event it
is read as stays the same, and so does the fault, if it has one. Two members may be missing but not
be `null`: the status of an unsubscription and the message of a refusal.
-/
namespace MarketWire

open Json (Fields Value)

/-! ## Faults in the order of keys -/

theorem findSome?_filter_isSome (f : α → Option β) (l : List α) :
    (l.filter fun a => (f a).isSome).findSome? f = l.findSome? f := by
  induction l with
  | nil => rfl
  | cons a l ih => cases h : f a <;> simp [h, ih]

namespace Json.Fields

/-- What is found first in order depends on the fields that have it. -/
theorem Sorted.findSome?_congr {fs gs : Fields} {f : String × Value → Option α} (hf : fs.Sorted)
    (hg : gs.Sorted) (h : ∀ e, (f e).isSome → (e ∈ fs ↔ e ∈ gs)) :
    fs.findSome? f = gs.findSome? f := by
  have hfilter : fs.filter (fun e => (f e).isSome) = gs.filter (fun e => (f e).isSome) := by
    have hfs : Sorted (fs.filter fun e => (f e).isSome) := hf.filter _
    have hgs : Sorted (gs.filter fun e => (f e).isSome) := hg.filter _
    have hirrefl : Std.Irrefl fun a b : String × Value => a.1 < b.1 :=
      ⟨fun a => String.lt_irrefl a.1⟩
    have hasymm : Std.Asymm fun a b : String × Value => a.1 < b.1 := ⟨fun a b => String.lt_asymm⟩
    refine List.Pairwise.eq_of_mem_iff hfs hgs fun e => ?_
    rw [List.mem_filter, List.mem_filter]
    exact and_congr_left (h e)
  rw [← findSome?_filter_isSome f fs, hfilter, findSome?_filter_isSome]

end Json.Fields

namespace Members

variable {ms : Members} {fs gs : Fields}

/-- What is read for a member, or stands for one that is missing. -/
def valueOf (m : String × Member) (fs : Fields) : Except MemberError m.2.Value :=
  (fs.get? m.1).elim (m.2.absent.elim (.error (.missing m.1)) .ok) m.2.read

theorem collect_congr (h : ∀ m ∈ ms, valueOf m fs = valueOf m gs) :
    ms.collect fs = ms.collect gs := by
  induction ms with
  | nil => rfl
  | cons m ms ih =>
    have hm : valueOf m fs = valueOf m gs := h m List.mem_cons_self
    have htail := ih fun n hn => h n (List.mem_cons_of_mem m hn)
    unfold valueOf at hm
    rw [collect, collect, hm, htail]

theorem read_congr (hf : fs.Sorted) (hg : gs.Sorted)
    (hfault : ∀ e : String × Value, (ms.fault? e.1 e.2).isSome → (e ∈ fs ↔ e ∈ gs))
    (hvalue : ∀ m ∈ ms, valueOf m fs = valueOf m gs) : ms.read fs = ms.read gs := by
  rw [read, read, collect_congr hvalue, hf.findSome?_congr hg hfault]

/-- A fault is told if there is no other. -/
theorem read_of_fault {key : String} {v : Value} {error : MemberError} (hmem : (key, v) ∈ fs)
    (hfault : ms.fault? key v = some error)
    (hunique : ∀ k w, (k, w) ∈ fs → ∀ e, ms.fault? k w = some e → e = error) :
    ms.read fs = .error error := by
  unfold read
  split
  case h_1 e he =>
    obtain ⟨⟨k, w⟩, hf, hfirst⟩ := List.exists_of_findSome?_eq_some he
    rw [hunique k w hf e hfirst]
  case h_2 hnone =>
    have hno : ms.fault? key v = none := List.findSome?_eq_none_iff.mp hnone (key, v) hmem
    rw [hfault] at hno
    cases hno

/-- Every member that is present can be read, and none is missing that has to be there. -/
def Fits (ms : Members) (fs : Fields) : Prop := ∀ m ∈ ms, ∃ a, valueOf m fs = .ok a

theorem Fits.exists_collect (h : ms.Fits fs) : ∃ vals, ms.collect fs = .ok vals := by
  induction ms with
  | nil => exact ⟨(), rfl⟩
  | cons m ms ih =>
    obtain ⟨a, ha⟩ := h m List.mem_cons_self
    obtain ⟨vals, hvals⟩ := ih fun n hn => h n (List.mem_cons_of_mem m hn)
    unfold valueOf at ha
    exact ⟨(a, vals), by rw [collect, ha, hvals]; rfl⟩

theorem exists_of_fault? {e : String × Value} (h : (ms.fault? e.1 e.2).isSome) :
    ∃ m, (e.1, m) ∈ ms ∧ ∀ a, m.read e.2 ≠ .ok a := by
  obtain ⟨error, h⟩ := Option.isSome_iff_exists.mp h
  obtain ⟨m, hlookup, hread⟩ := Option.bind_eq_some_iff.mp h
  obtain ⟨before, after, rfl, -⟩ := List.lookup_eq_some_iff.mp hlookup
  refine ⟨m, by simp, fun a ha => ?_⟩
  rw [ha] at hread
  cases hread

end Members

namespace Member

/-- Whether `null` stands for a missing member, if it may be missing. -/
def Nullable (m : Member) : Prop := ∀ a, m.absent = some a → m.read .null = .ok a

theorem nullable_required (read : Json.Value → Except MemberError α) :
    (required read).Nullable := by
  rintro a ⟨⟩

theorem nullable_optional (read : Json.Value → Except MemberError α) :
    (optional read).Nullable := by
  rintro a ⟨⟩
  rfl

theorem nullable_loose : loose.Nullable := by
  rintro a ⟨⟩
  rfl

end Member

namespace Control

/-! ## The members of each event -/

/-- The name of the event. -/
def event : Control → String
  | .info _ => "info"
  | .subscribed _ => "subscribed"
  | .unsubscribed .. => "unsubscribed"
  | .auth _ => "auth"
  | .error _ => "error"
  | .pong .. => "pong"
  | .conf .. => "conf"
  | .unknown => "unknown"

def knownEvents : List String :=
  ["info", "subscribed", "unsubscribed", "auth", "error", "pong", "conf"]

def membersOf : String → Members
  | "info" => infoMembers
  | "subscribed" => subscribedMembers
  | "unsubscribed" => unsubscribedMembers
  | "auth" => authMembers
  | "error" => errorMembers
  | "pong" => pongMembers
  | "conf" => confMembers
  | _ => []

/-- The members that may be missing but not be `null`, each with its event. -/
def neverNull : List (String × String) := [("unsubscribed", "status"), ("error", "msg")]

theorem read_eq {name : String} (h : name ∈ knownEvents) :
    ∃ build : Members.Values (membersOf name) → Control,
      (∀ vals, (build vals).event = name) ∧
        ∀ fs, read name fs = ((membersOf name).read fs).map build := by
  simp only [knownEvents, List.mem_cons, List.not_mem_nil, or_false] at h
  rcases h with rfl | rfl | rfl | rfl | rfl | rfl | rfl <;>
    exact ⟨_, fun _ => rfl, fun _ => rfl⟩

theorem nullable_membersOf {name : String} {m : String × Member} (hm : m ∈ membersOf name)
    (h : (name, m.1) ∉ neverNull) : m.2.Nullable := by
  revert m
  unfold membersOf
  split <;>
    simp [infoMembers, subscribedMembers, unsubscribedMembers, authMembers, errorMembers,
      pongMembers, confMembers, neverNull, Member.nullable_required, Member.nullable_optional,
      Member.nullable_loose]

/-- A member that makes no difference: one that the event does not know, or `null` for one that may
be missing and is. -/
def Addable (name : String) (base : Fields) (e : String × Value) : Prop :=
  e.1 ≠ "event" ∧ ∀ m, (e.1, m) ∈ membersOf name →
    base.get? e.1 = none ∧ e.2 = .null ∧ m.absent.isSome ∧ (name, e.1) ∉ neverNull

section
variable {name : String} {base : Fields} {extra order : List (String × Value)}

theorem get?_event_of_addable (hbase : base.Sorted) (hextra : ∀ e ∈ extra, Addable name base e)
    (hperm : order.Perm (base ++ extra)) :
    (Fields.ofList order).get? "event" = base.get? "event" := by
  rw [Fields.get?_ofList_of_perm hperm hbase.nodup fun e he => (hextra e he).1,
    Fields.lookup_eq_get?]

/-- A member that the event knows stays as it is, or is `null` instead of missing. -/
theorem get?_of_addable (hbase : base.Sorted) (hextra : ∀ e ∈ extra, Addable name base e)
    (hperm : order.Perm (base ++ extra)) {m : String × Member} (hm : m ∈ membersOf name) :
    (Fields.ofList order).get? m.1 = base.get? m.1 ∨
      base.get? m.1 = none ∧ (Fields.ofList order).get? m.1 = some .null ∧
        ∃ a, m.2.absent = some a ∧ m.2.read .null = .ok a := by
  by_cases hin : ∃ e ∈ extra, e.1 = m.1
  · obtain ⟨e, he, heq⟩ := hin
    obtain ⟨hnone, hnull, habsent, hnever⟩ := (hextra e he).2 m.2 (heq ▸ hm)
    obtain ⟨a, ha⟩ := Option.isSome_iff_exists.mp habsent
    rw [heq] at hnone hnever
    refine .inr ⟨hnone, Fields.get?_ofList_of_unique (v := .null) ?_ fun w hw => ?_, a, ha,
      nullable_membersOf hm hnever a ha⟩
    · rw [hperm.mem_iff, ← heq, ← hnull]
      exact List.mem_append_right base he
    · rcases List.mem_append.mp (hperm.mem_iff.mp hw) with hw | hw
      · rw [hbase.get?_of_mem hw] at hnone
        cases hnone
      · exact ((hextra _ hw).2 m.2 hm).2.1
  · left
    rw [Fields.get?_ofList_of_perm hperm hbase.nodup fun e he heq => hin ⟨e, he, heq⟩,
      Fields.lookup_eq_get?]

theorem read_of_addable (hbase : base.Sorted) (hextra : ∀ e ∈ extra, Addable name base e)
    (hperm : order.Perm (base ++ extra)) :
    (membersOf name).read (Fields.ofList order) = (membersOf name).read base := by
  have hget {m} (hm : m ∈ membersOf name) := get?_of_addable hbase hextra hperm hm
  have hsorted := Fields.sorted_ofList order
  refine Members.read_congr hsorted hbase (fun e hfault => ?_) fun m hm => ?_
  · obtain ⟨m, hm, hread⟩ := Members.exists_of_fault? hfault
    rw [hsorted.mem_iff, hbase.mem_iff]
    rcases hget hm with h | ⟨hnone, hnull, a, -, ha⟩
    · rw [h]
    · have hne : e.2 ≠ .null := fun he => hread a (he ▸ ha)
      simp [hnone, hnull, hne.symm]
  · unfold Members.valueOf
    rcases hget hm with h | ⟨hnone, hnull, a, habsent, ha⟩
    · rw [h]
    · rw [hnone, hnull, habsent]
      exact ha

theorem read_of_unknown (h : name ∉ knownEvents) (fs : Fields) : read name fs = .ok .unknown := by
  unfold read
  split <;> first | rfl | exact absurd (by decide) h

theorem read_control_of_addable (hbase : base.Sorted) (hextra : ∀ e ∈ extra, Addable name base e)
    (hperm : order.Perm (base ++ extra)) : read name (Fields.ofList order) = read name base := by
  by_cases h : name ∈ knownEvents
  · obtain ⟨build, -, hread⟩ := read_eq h
    rw [hread, hread, read_of_addable hbase hextra hperm]
  · rw [read_of_unknown h, read_of_unknown h]

/-- An event whose members are as they should be is read as one of its name. -/
theorem exists_read_of_fits (hbase : base.Sorted) (h : (membersOf name).Fits base)
    (hname : name ∈ knownEvents) : ∃ c, read name base = .ok c ∧ c.event = name := by
  obtain ⟨build, hbuild, hread⟩ := read_eq hname
  obtain ⟨vals, hvals⟩ := h.exists_collect
  exact ⟨build vals, by rw [hread, Members.read_of_collect hbase hvals]; rfl, hbuild vals⟩

/-- The fault of a `null` where there can be none, if everything else is as it should be. -/
theorem read_of_null (hbase : base.Sorted) (hfits : (membersOf name).Fits base) {key : String}
    (hkey : (name, key) ∈ neverNull) (hnone : base.get? key = none)
    (hperm : order.Perm (base ++ [(key, .null)])) :
    read name (Fields.ofList order) = .error (.wrongType "null" "a string") := by
  obtain ⟨hfault, hname⟩ : (membersOf name).fault? key .null =
      some (.wrongType "null" "a string") ∧ name ∈ knownEvents := by
    rcases List.mem_pair.mp hkey with h | h <;> cases h <;> exact ⟨rfl, by decide⟩
  obtain ⟨vals, hvals⟩ := hfits.exists_collect
  have hsorted := Fields.sorted_ofList order
  have hnull : (Fields.ofList order).get? key = some .null := by
    refine Fields.get?_ofList_of_unique (hperm.mem_iff.mpr (by simp)) fun w hw => ?_
    rcases List.mem_append.mp (hperm.mem_iff.mp hw) with hw | hw
    · rw [hbase.get?_of_mem hw] at hnone
      cases hnone
    · exact congrArg Prod.snd (List.mem_singleton.mp hw)
  have hread : (membersOf name).read (Fields.ofList order) =
      .error (.wrongType "null" "a string") := by
    refine Members.read_of_fault (Fields.mem_of_get? hnull) hfault ?_
    intro k v hmem error herror
    have hget := hsorted.get?_of_mem hmem
    by_cases hk : k = key
    · subst hk
      obtain rfl : .null = v := Option.some.inj (hnull.symm.trans hget)
      exact Option.some.inj (herror.symm.trans hfault)
    · rw [Fields.get?_ofList_of_perm hperm hbase.nodup (by simpa using Ne.symm hk),
        Fields.lookup_eq_get?] at hget
      cases (Members.fault?_eq_none hbase hvals (Fields.mem_of_get? hget)).symm.trans herror
  obtain ⟨build, -, hbuild⟩ := read_eq hname
  rw [hbuild, hread]
  rfl

end

end Control

namespace Json

theorem sorted_of_value? {depth : Nat} {t : Tree} {fs : Fields}
    (h : t.value? depth = some (.object fs)) : fs.Sorted := by
  cases t with
  | object members =>
    rw [Tree.value?] at h
    split at h
    case isTrue => cases h
    case isFalse =>
      obtain ⟨kvs, -, heq⟩ := Option.map_eq_some_iff.mp h
      cases heq
      exact Fields.sorted_ofList kvs
  | _ => simp [Tree.value?] at h

end Json

namespace Frame

open Control (Addable knownEvents membersOf neverNull)

theorem ofFields_of_event {name : String} {fs : Fields} (h : fs.get? "event" = some (.text name)) :
    ofFields fs = ((Control.read name fs).map event).mapError MemberError.message := by
  rw [ofFields, h]
  simp only [Option.bind_some, Value.text?]
  cases Control.read name fs <;> rfl

/-- How an event is read, whichever way its object is written. -/
structure Restated (name : String) (base : Fields) (r : Except String Frame) : Prop where
  /-- Members that can be read make an event of the name if none is missing that must be there. -/
  fits : name ∈ knownEvents → (membersOf name).Fits base →
    ∃ c, r = .ok (.event c) ∧ c.event = name
  unknown : name ∉ knownEvents → r = .ok (.event .unknown)
  same : ∀ extra order raw, (∀ e ∈ extra, Addable name base e) → order.Perm (base ++ extra) →
    Value.ofText? raw = some (.object (Fields.ofList order)) →
      parse raw = r.mapError (.malformedEvent · raw)
  neverNull : ∀ key order raw, (name, key) ∈ neverNull → base.get? key = none →
    (membersOf name).Fits base → order.Perm (base ++ [(key, .null)]) →
    Value.ofText? raw = some (.object (Fields.ofList order)) →
      parse raw = .error (.malformedEvent "invalid type: null, expected a string" raw)

theorem events_restated {name raw : String} {base : Fields}
    (hraw : Value.ofText? raw = some (.object base))
    (hevent : base.get? "event" = some (.text name)) :
    ∃ r, parse raw = r.mapError (.malformedEvent · raw) ∧ Restated name base r := by
  obtain ⟨t, -, hvalue⟩ := Option.bind_eq_some_iff.mp hraw
  have hbase : base.Sorted := Json.sorted_of_value? hvalue
  refine ⟨ofFields base, parse_of_object hraw, ?_, ?_, ?_, ?_⟩
  case refine_1 =>
    intro hname hfits
    obtain ⟨c, hc, hkind⟩ := Control.exists_read_of_fits hbase hfits hname
    exact ⟨c, by rw [ofFields_of_event hevent, hc]; rfl, hkind⟩
  case refine_2 =>
    intro hname
    rw [ofFields_of_event hevent, Control.read_of_unknown hname]
    rfl
  case refine_3 =>
    intro extra order raw hextra hperm hraw
    have hname := (Control.get?_event_of_addable hbase hextra hperm).trans hevent
    rw [parse_of_object hraw, ofFields_of_event hname, ofFields_of_event hevent,
      Control.read_control_of_addable hbase hextra hperm]
  case refine_4 =>
    intro key order raw hkey hnone hfits hperm hraw
    have hne : key ≠ "event" := by rintro rfl; rw [hnone] at hevent; cases hevent
    have hname : (Fields.ofList order).get? "event" = some (.text name) := by
      rw [Fields.get?_ofList_of_perm hperm hbase.nodup (by simpa using hne),
        Fields.lookup_eq_get?, hevent]
    rw [parse_of_object hraw, ofFields_of_event hname,
      Control.read_of_null hbase hfits hkey hnone hperm]
    rfl

/-- A refusal without a message, and the same with a member that nobody knows, with a `null` and in
another order. -/
theorem events_restated_refusal :
    let base := [("event", .text "error"), ("channel", .text "trades")]
    let order := [("reqId", .text "a"), ("code", .null), ("event", .text "error"),
      ("channel", .text "trades")]
    ∃ c, parse (Json.orderedObject base) = .ok (.event c) ∧ c.event = "error" ∧
      parse (Json.orderedObject order) = .ok (.event c) := by
  intro base order
  have hbase : Value.ofText? (Json.orderedObject base) = some (.object (Fields.ofList base)) :=
    Value.ofText?_orderedObject (by simp [base, Value.Plain.text])
  have horder : Value.ofText? (Json.orderedObject order) = some (.object (Fields.ofList order)) :=
    Value.ofText?_orderedObject (by simp [order, Value.Plain.text, Value.Plain.null])
  have hevent : (Fields.ofList base).get? "event" = some (.text "error") := rfl
  obtain ⟨r, hr, hrestated⟩ := events_restated hbase hevent
  have hfits : (membersOf "error").Fits (Fields.ofList base) := by
    intro m hm
    simp only [membersOf, Control.errorMembers, List.mem_cons, List.not_mem_nil, or_false] at hm
    rcases hm with rfl | rfl | rfl | rfl | rfl <;> exact ⟨_, rfl⟩
  have hextra : ∀ e ∈ [("code", Value.null), ("reqId", .text "a")],
      Addable "error" (Fields.ofList base) e := by
    intro e he
    simp only [List.mem_cons, List.not_mem_nil, or_false] at he
    rcases he with rfl | rfl
    · refine ⟨by decide, fun m hm => ⟨rfl, rfl, ?_, by decide⟩⟩
      obtain rfl : m = Member.optional Member.readInteger := by
        simpa [membersOf, Control.errorMembers] using hm
      rfl
    · refine ⟨by decide, fun m hm => ?_⟩
      simp [membersOf, Control.errorMembers] at hm
  obtain ⟨c, rfl, hc⟩ := hrestated.fits (by decide) hfits
  have hreverse : order = (Fields.ofList base ++
      [("code", Value.null), ("reqId", .text "a")]).reverse := rfl
  exact ⟨c, hr, hc, hrestated.same _ order _ hextra (hreverse ▸ List.reverse_perm _) horder⟩

/-- A refusal whose message is `null` instead of missing is no event. -/
theorem null_message_refused :
    let base := [("event", .text "error"), ("channel", .text "trades")]
    let order := [("event", .text "error"), ("msg", .null), ("channel", .text "trades")]
    parse (Json.orderedObject base) = .ok (.event (.error ⟨none, "", some "trades", none, none⟩)) ∧
      parse (Json.orderedObject order) =
        .error (.malformedEvent "invalid type: null, expected a string"
          (Json.orderedObject order)) := by
  intro base order
  have hbase : Value.ofText? (Json.orderedObject base) = some (.object (Fields.ofList base)) :=
    Value.ofText?_orderedObject (by simp [base, Value.Plain.text])
  have horder : Value.ofText? (Json.orderedObject order) = some (.object (Fields.ofList order)) :=
    Value.ofText?_orderedObject (by simp [order, Value.Plain.text, Value.Plain.null])
  constructor
  · rw [parse_of_object hbase]
    rfl
  · rw [parse_of_object horder]
    rfl

end Frame
end MarketWire
