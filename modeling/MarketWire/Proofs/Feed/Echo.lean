import MarketWire.Stream.Feed

/-!
# Echoes

An honest answer repeats the fields of the request that it answers. Every feed agrees with the echo
of its own request. Answers can go astray only where a feed agrees with the echo of a different
request too, such as two books that differ in nothing but how often their changes are sent.
-/
namespace MarketWire

/-- The fields of an answer that repeats the request. -/
def SubscribeRequest.echo (r : SubscribeRequest) : Ack :=
  ⟨r.channel.name, r.symbol, r.key, r.prec.map Precision.name, r.len⟩

def Subscribed.Echoes (a : Subscribed) (r : SubscribeRequest) : Prop :=
  Ack.ofSubscribed a = r.echo ∧ a.freq = r.freq.map Frequency.name

instance (a : Subscribed) (r : SubscribeRequest) : Decidable (a.Echoes r) :=
  inferInstanceAs (Decidable (_ ∧ _))

namespace Feed

/-- The public feeds that a caller can make. -/
inductive Built : Feed → Prop where
  | ticker (symbol : String) : Built (ticker symbol)
  | trades (symbol : String) : Built (trades symbol)
  | book (symbol : String) (precision : Precision) : Built (book symbol precision)
  | candles (key : String) : Built (candles key)
  | withFrequency {f : Feed} (h : Built f) (frequency : Frequency) :
      Built (f.withFrequency frequency)
  | withLength {f : Feed} (h : Built f) (length : UInt32) : Built (f.withLength length)

/-- A feed of candles has a key, and a feed of another public channel has a symbol. -/
def IsWhole (f : Feed) : Prop :=
  match f.channel with
  | .account => False
  | .candles => f.key.isSome
  | _ => f.symbol.isSome

theorem Built.isWhole {f : Feed} (h : f.Built) : f.IsWhole := by
  induction h with
  | ticker symbol => exact rfl
  | trades symbol => exact rfl
  | book symbol precision => exact rfl
  | candles key => exact rfl
  | withFrequency _ frequency ih => exact ih
  | withLength _ length ih => exact ih

theorem Built.isPrivate {f : Feed} (h : f.Built) : f.isPrivate = false := by
  have hwhole := h.isWhole
  unfold IsWhole at hwhole
  unfold Feed.isPrivate
  cases hc : f.channel with
  | account => simp [hc] at hwhole
  | _ => rfl

theorem Built.exists_request {f : Feed} (h : f.Built) : ∃ r, f.request? = some r := by
  have hwhole := h.isWhole
  unfold IsWhole at hwhole
  unfold request?
  cases hc : f.channel with
  | account => simp [hc] at hwhole
  | candles =>
    obtain ⟨key, hkey⟩ := Option.isSome_iff_exists.mp (by simpa [hc] using hwhole)
    simp [hkey]
  | _ =>
    obtain ⟨symbol, hsymbol⟩ := Option.isSome_iff_exists.mp (by simpa [hc] using hwhole)
    simp [hsymbol]

theorem agrees_echo {f : Feed} {r : SubscribeRequest} (h : f.request? = some r) :
    f.agrees r.echo = true := by
  have hlen : Text.count? (Nat.toDigits 10 f.length.toNat) = some f.length.toNat :=
    Text.count?_toDigits f.length.toNat_lt
  unfold request? at h
  unfold agrees
  cases hc : f.channel <;> rw [hc] at h
  case account => cases h
  case candles =>
    obtain ⟨key, hkey, rfl⟩ := Option.map_eq_some_iff.mp h
    simp [SubscribeRequest.echo, SubscribeRequest.ofChannel, hkey]
  case book =>
    obtain ⟨symbol, hsymbol, rfl⟩ := Option.map_eq_some_iff.mp h
    simp [SubscribeRequest.echo, SubscribeRequest.ofChannel, SubscribeRequest.withBook,
      symbolAgrees, bookAgrees, hsymbol, hlen]
  all_goals
    obtain ⟨symbol, hsymbol, rfl⟩ := Option.map_eq_some_iff.mp h
    simp [SubscribeRequest.echo, SubscribeRequest.ofChannel, symbolAgrees, hsymbol]

def Compatible (f g : Feed) : Prop :=
  f.request? = g.request? ∨
    (∀ r, g.request? = some r → f.agrees r.echo = false) ∧
      ∀ r, f.request? = some r → g.agrees r.echo = false

/-- Among compatible feeds an echo tells the request. -/
theorem Compatible.request_eq {f g : Feed} (h : f.Compatible g) {r : SubscribeRequest}
    (hg : g.request? = some r) (hf : f.agrees r.echo = true) : f.request? = some r := by
  rcases h with heq | ⟨hne, -⟩
  · exact heq.trans hg
  · rw [hne r hg] at hf
    cases hf

end Feed
end MarketWire
