import MarketWire.Proofs.Json.Fields
import MarketWire.Wire.Control

/-!
# Reading the members of an event

Members are checked in the order of their keys, but this order only decides which fault is reported:
an event whose members are all as they should be is read, whatever else its frame has.
-/
namespace MarketWire
namespace Members

open Json (Fields)

variable {fields : Fields}

theorem exists_read_of_collect {ms : Members} {vals : Values ms}
    (h : ms.collect fields = .ok vals) {name : String} {m : Member} (hm : (name, m) ∈ ms)
    {v : Json.Value} (hv : fields.get? name = some v) : ∃ a, m.read v = .ok a := by
  induction ms with
  | nil => cases hm
  | cons n ms ih =>
    simp only [collect] at h
    split at h
    case h_1 => cases h
    case h_2 a ha =>
      rcases List.mem_cons.mp hm with rfl | hm
      · rw [hv] at ha
        exact ⟨a, ha⟩
      · cases hms : collect fields ms with
        | error e =>
          rw [hms] at h
          cases h
        | ok vals => exact ih hms hm

theorem fault?_eq_none {ms : Members} {vals : Values ms} (hs : fields.Sorted)
    (h : ms.collect fields = .ok vals) {name : String} {v : Json.Value}
    (hv : (name, v) ∈ fields) : ms.fault? name v = none := by
  unfold fault?
  cases hm : ms.lookup name with
  | none => rfl
  | some m =>
    obtain ⟨before, after, rfl, -⟩ := List.lookup_eq_some_iff.mp hm
    have hmem : (name, m) ∈ before ++ (name, m) :: after := by simp
    obtain ⟨a, ha⟩ := exists_read_of_collect h hmem (hs.get?_of_mem hv)
    simp [ha]

/-- Members that can be collected have no fault. -/
theorem read_of_collect {ms : Members} {vals : Values ms} (hs : fields.Sorted)
    (h : ms.collect fields = .ok vals) : ms.read fields = .ok vals := by
  unfold read
  split
  case h_1 e he =>
    obtain ⟨f, hf, hfault⟩ := List.exists_of_findSome?_eq_some he
    cases (fault?_eq_none hs h hf).symm.trans hfault
  case h_2 => exact h

end Members

namespace Member

open Json (Value)

theorem optional_text (o : Option String) (e : MemberError) :
    (o.map Value.text).elim ((optional readText).absent.elim (.error e) .ok)
      (optional readText).read = .ok o := by
  cases o <;> rfl

theorem readInteger_ofInt64 (i : Int64) : readInteger (.ofInt64 i) = .ok i := by
  have hrange : -0x8000000000000000 ≤ i.toInt ∧ i.toInt < 0x8000000000000000 :=
    ⟨i.le_toInt, i.toInt_lt⟩
  simp [readInteger, Value.ofInt64, readWhole, hrange, Except.map]

end Member

/-- The members of an acknowledgement say this, the length of a book in either form. -/
structure Subscribed.WrittenIn (s : Subscribed) (fields : Json.Fields) : Prop where
  channel : fields.get? "channel" = some (.text s.channel)
  chanId : fields.get? "chanId" = some (.ofInt64 s.chanId)
  symbol : fields.get? "symbol" = s.symbol.map .text
  pair : fields.get? "pair" = s.pair.map .text
  currency : fields.get? "currency" = s.currency.map .text
  key : fields.get? "key" = s.key.map .text
  prec : fields.get? "prec" = s.prec.map .text
  freq : fields.get? "freq" = s.freq.map .text
  len : (fields.get? "len").elim (.ok none) Member.readLoose = .ok s.len

theorem Control.readSubscribed_of_writtenIn {s : Subscribed} {fields : Json.Fields}
    (hs : fields.Sorted) (h : s.WrittenIn fields) :
    readSubscribed fields = .ok (.subscribed s) := by
  have hcollect : subscribedMembers.collect fields = .ok (s.channel, s.chanId, s.symbol, s.pair,
      s.currency, s.key, s.prec, s.freq, s.len, ()) := by
    have hlen : (fields.get? "len").elim (Member.loose.absent.elim (.error (.missing "len")) .ok)
        Member.loose.read = .ok s.len := h.len
    simp only [subscribedMembers, Members.collect, h.channel, h.chanId, h.symbol, h.pair,
      h.currency, h.key, h.prec, h.freq, hlen, Option.elim_some, Member.required, Member.readText,
      Member.readInteger_ofInt64, Member.optional_text, Except.map]
  rw [readSubscribed, Members.read_of_collect hs hcollect]
  rfl

end MarketWire
