import Mathlib.Tactic.MkIffOfInductiveProp
import MarketWire.Proofs.Feed.Echo

/-!
# Likeness of requests

An answer tells requests apart by less than their text. Symbols count without tag and case, and how
often the changes of a book are sent does not count at all. What is left of two requests is the same
exactly if the feed of one agrees with the echo of the other. A refusal repeats no parameters of a
book, so it tells even less.
-/
namespace MarketWire

theorem Channel.name_injective : Function.Injective Channel.name := by
  intro c d h
  have hsome : ofName? c.name = ofName? d.name := congrArg ofName? h
  rw [ofName?_name, ofName?_name] at hsome
  exact Option.some.inj hsome

theorem Precision.name_injective : Function.Injective Precision.name := by
  intro p q h
  have hsome : ofName? p.name = ofName? q.name := congrArg ofName? h
  rw [ofName?_name, ofName?_name] at hsome
  exact Option.some.inj hsome

namespace SubscribeRequest

/-- Requests of one channel for the same instrument, whatever the tags and case of the symbols. -/
@[mk_iff]
structure Akin (q r : SubscribeRequest) : Prop where
  channel : q.channel = r.channel
  symbol : q.symbol.map Symbol.normalize = r.symbol.map Symbol.normalize
  key : q.key = r.key

/-- Akin requests that name the same precision and length of a book, if they name any. -/
structure Resembles (q r : SubscribeRequest) : Prop extends q.Akin r where
  prec : q.prec = r.prec
  len : q.len = r.len

theorem Resembles.refl (r : SubscribeRequest) : r.Resembles r := ⟨⟨rfl, rfl, rfl⟩, rfl, rfl⟩

/-- The echo of a refusal. -/
def plainEcho (r : SubscribeRequest) : Ack := { r.echo with prec := none, len := none }

end SubscribeRequest

def Refusal.Echoes (a : Refusal) (r : SubscribeRequest) : Prop :=
  Ack.ofRefusal? a = some r.plainEcho

instance (a : Refusal) (r : SubscribeRequest) : Decidable (a.Echoes r) :=
  inferInstanceAs (Decidable (_ = _))

namespace Feed

variable {f g : Feed} {q r : SubscribeRequest}

/-- A book's request names its parameters, and no other request names any. -/
theorem fields_of_request? (h : f.request? = some q) :
    q.channel = f.channel ∧
      if f.channel = .book then
        q.prec = some f.precision ∧ q.len = some (toString f.length.toNat)
      else q.prec = none ∧ q.len = none := by
  unfold request? at h
  cases hc : f.channel <;> rw [hc] at h
  case account => cases h
  all_goals
    obtain ⟨t, -, rfl⟩ := Option.map_eq_some_iff.mp h
    exact ⟨rfl, rfl, rfl⟩

theorem agrees_channel {a : Ack} (h : f.agrees a = true) : f.channel.name = a.channel := by
  unfold agrees at h
  rw [Bool.and_eq_true] at h
  simpa using h.1

theorem agrees_plainEcho_iff (hg : g.request? = some r) :
    f.agrees r.plainEcho = true ↔ ∃ q, f.request? = some q ∧ q.Akin r := by
  obtain ⟨hchannel, -⟩ := fields_of_request? hg
  by_cases hc : f.channel = g.channel
  · unfold request? at hg ⊢
    unfold agrees symbolAgrees
    rw [hc]
    cases hgc : g.channel <;> rw [hgc] at hg
    case account => cases hg
    case candles =>
      obtain ⟨key, -, rfl⟩ := Option.map_eq_some_iff.mp hg
      cases f.key <;>
        simp [SubscribeRequest.plainEcho, SubscribeRequest.echo, SubscribeRequest.ofChannel,
          SubscribeRequest.akin_iff]
    all_goals
      obtain ⟨symbol, -, rfl⟩ := Option.map_eq_some_iff.mp hg
      cases f.symbol <;>
        simp [SubscribeRequest.plainEcho, SubscribeRequest.echo, SubscribeRequest.ofChannel,
          SubscribeRequest.withBook, SubscribeRequest.akin_iff, bookAgrees]
  · constructor
    · intro h
      have hname : f.channel.name = r.channel.name := agrees_channel h
      exact absurd (Channel.name_injective hname) (hchannel ▸ hc)
    · rintro ⟨q, hq, hakin⟩
      exact absurd ((fields_of_request? hq).1.symm.trans (hakin.channel.trans hchannel)) hc

/-- A length is read back as it was written. -/
theorem count?_length (n : UInt32) : Text.count? (toString n.toNat).toList = some n.toNat := by
  have hdigits : (toString n.toNat).toList = Nat.toDigits 10 n.toNat := by simp
  rw [hdigits]
  exact Text.count?_toDigits n.toNat_lt

theorem toString_length_inj {m n : UInt32} : toString m.toNat = toString n.toNat ↔ m = n := by
  constructor
  · intro h
    have hcount : Text.count? (toString m.toNat).toList = Text.count? (toString n.toNat).toList :=
      congrArg (fun s : String => Text.count? s.toList) h
    rw [count?_length, count?_length] at hcount
    exact UInt32.toNat_inj.mp (Option.some.inj hcount)
  · rintro rfl
    rfl

theorem bookAgrees_echo_iff (hg : g.request? = some r) (hc : g.channel = .book) :
    f.bookAgrees r.echo = true ↔ f.precision = g.precision ∧ f.length = g.length := by
  obtain ⟨-, hr⟩ := fields_of_request? hg
  rw [if_pos hc] at hr
  have hprec : g.precision.name = f.precision.name ↔ f.precision = g.precision :=
    Precision.name_injective.eq_iff.trans eq_comm
  have hlength : g.length.toNat = f.length.toNat ↔ f.length = g.length :=
    UInt32.toNat_inj.trans eq_comm
  unfold bookAgrees SubscribeRequest.echo
  rw [hr.1, hr.2, Option.bind_some, count?_length]
  simp [hprec, hlength]

/-- Parameters are compared exactly where requests have any. -/
theorem parameters_eq_iff (hf : f.request? = some q) (hg : g.request? = some r)
    (hc : f.channel = g.channel) :
    (f.channel = .book → f.bookAgrees r.echo = true) ↔ q.prec = r.prec ∧ q.len = r.len := by
  obtain ⟨-, hq⟩ := fields_of_request? hf
  obtain ⟨-, hr⟩ := fields_of_request? hg
  by_cases hbook : f.channel = .book
  · have hbook' : g.channel = .book := hc.symm.trans hbook
    rw [if_pos hbook] at hq
    rw [if_pos hbook'] at hr
    rw [bookAgrees_echo_iff hg hbook', hq.1, hq.2, hr.1, hr.2, Option.some_inj, Option.some_inj,
      toString_length_inj]
    exact forall_prop_of_true hbook
  · rw [if_neg hbook] at hq
    rw [if_neg (hc ▸ hbook)] at hr
    simp [hbook, hq, hr]

theorem agrees_echo_iff (hg : g.request? = some r) :
    f.agrees r.echo = true ↔ ∃ q, f.request? = some q ∧ q.Resembles r := by
  have hplain : f.agrees r.echo = true ↔ f.agrees r.plainEcho = true ∧
      (f.channel = .book → f.bookAgrees r.echo = true) := by
    unfold agrees
    cases f.channel <;>
      simp [SubscribeRequest.plainEcho, SubscribeRequest.echo, bookAgrees, and_assoc]
  have hchannel : ∀ q, f.request? = some q → q.Akin r → f.channel = g.channel :=
    fun q hq hakin => (fields_of_request? hq).1.symm.trans
      (hakin.channel.trans (fields_of_request? hg).1)
  rw [hplain, agrees_plainEcho_iff hg]
  constructor
  · rintro ⟨⟨q, hq, hakin⟩, hbook⟩
    obtain ⟨hprec, hlen⟩ := (parameters_eq_iff hq hg (hchannel q hq hakin)).mp hbook
    exact ⟨q, hq, hakin, hprec, hlen⟩
  · rintro ⟨q, hq, hakin, hprec, hlen⟩
    exact ⟨⟨q, hq, hakin⟩, (parameters_eq_iff hq hg (hchannel q hq hakin)).mpr ⟨hprec, hlen⟩⟩

end Feed
end MarketWire
