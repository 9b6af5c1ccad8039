import MarketWire.Proofs.Record.Acceptance
import MarketWire.Proofs.Text.Case
import MarketWire.Stream.Feed

/-!
# Symbols as they are sent

A symbol that is sent has a tag, and keeps the tag that it came with. So sending it once more changes
nothing, and a funding currency stays one. A symbol without a tag gets a `t` in front of its capitals,
even where its own first letter is a `t` or an `f`. Where the tag is taken away again, all letters are
left: answers are compared by them, and tickers carry them.
-/
namespace MarketWire

/-- A ticker that is read over a feed has the symbol of the feed. -/
theorem Schema.exists_ticker {symbol : String} {values : List Json.Value} {e : Event}
    (h : (ticker symbol).decode values = .ok e) :
    ∃ t, e = .ticker t ∧ t.symbol = Symbol.normalize symbol := by
  have hdecode : (ticker symbol).layout.decode values = .ok e := h
  obtain ⟨vs, -, hbuild⟩ := Layout.exists_readAll hdecode
  cases hbuild
  exact ⟨_, rfl, rfl⟩

/-- A ticker that is read from a row with a symbol in front has that symbol. -/
theorem Ticker.symbol_of_decode {symbol : String} {values : List Json.Value} {t : Ticker}
    (h : layout.decode (.text symbol :: values) = .ok t) :
    t.symbol = Symbol.normalize symbol := by
  obtain ⟨⟨found, vs⟩, hread, hbuild⟩ := Layout.exists_readAll h
  obtain ⟨hfound, -⟩ := Row.readAll_cons_eq_ok hread
  cases hbuild
  cases hfound
  rfl

theorem Feed.symbolAgrees_iff {f : Feed} {symbol : String} (h : f.symbol = some symbol)
    (echo : Option String) :
    f.symbolAgrees echo = true ↔
      ∃ x, echo = some x ∧ Symbol.normalize x = Symbol.normalize symbol := by
  cases echo with
  | none => simp [symbolAgrees]
  | some x => simpa [symbolAgrees, h] using eq_comm

namespace Symbol

/-- The tag, and behind it any character but a to z. -/
def HasTag (tag : Char) (s : String) : Prop :=
  ∃ d cs, s.toList = tag :: d :: cs ∧ d.isLower = false

def IsTagged (s : String) : Prop := HasTag 't' s ∨ HasTag 'f' s

variable {s : String}

theorem IsTagged.ne_empty (h : IsTagged s) : s ≠ "" := by
  rintro rfl
  rcases h with ⟨d, cs, hs, -⟩ | ⟨d, cs, hs, -⟩ <;> cases hs

theorem kind_of_hasTag {tag : Char} (h : HasTag tag s) :
    kind s = if tag = 'f' then .funding else .trading := by
  obtain ⟨d, cs, hs, -⟩ := h
  simp [kind, hs]

/-! ## What is sent -/

theorem wire_of_isTagged (h : IsTagged s) : wire s = s := by
  have hchars : wireChars s.toList = s.toList := by
    rcases h with ⟨d, cs, hs, hd⟩ | ⟨d, cs, hs, hd⟩ <;> simp [hs, wireChars, isTag, hd]
  rw [wire, hchars, String.ofList_toList]

theorem toList_wire (hs : s ≠ "") (h : ¬IsTagged s) :
    (wire s).toList = 't' :: Text.upperChars s.toList := by
  rw [wire, String.toList_ofList]
  match hchars : s.toList with
  | [] => exact absurd (String.toList_eq_nil_iff.mp hchars) hs
  | [c] => rfl
  | c :: d :: cs =>
    refine if_neg fun htag => h ?_
    have hd : d.isLower = false := by simp_all
    have hc : c = 't' ∨ c = 'f' := by simp_all [isTag]
    rcases hc with rfl | rfl
    · exact .inl ⟨d, cs, hchars, hd⟩
    · exact .inr ⟨d, cs, hchars, hd⟩

/-- The new tag counts as one, since no capital is a letter a to z. -/
theorem hasTag_wire (hs : s ≠ "") (h : ¬IsTagged s) : HasTag 't' (wire s) := by
  obtain ⟨d, ds, hupper, hd⟩ := Text.exists_upperChars (mt String.toList_eq_nil_iff.mp hs)
  exact ⟨d, ds, by rw [toList_wire hs h, hupper], hd⟩

theorem isTagged_wire (hs : s ≠ "") : IsTagged (wire s) := by
  by_cases h : IsTagged s
  · rwa [wire_of_isTagged h]
  · exact .inl (hasTag_wire hs h)

theorem wire_wire (s : String) : wire (wire s) = wire s := by
  by_cases hs : s = ""
  · rw [hs]
    rfl
  · exact wire_of_isTagged (isTagged_wire hs)

theorem wire_eq_empty_iff : wire s = "" ↔ s = "" := by
  constructor
  · intro h
    by_contra hs
    exact (isTagged_wire hs).ne_empty h
  · rintro rfl
    rfl

theorem kind_wire_of_not_isTagged (h : ¬IsTagged s) : kind (wire s) = .trading := by
  by_cases hs : s = ""
  · rw [hs]
    rfl
  · exact kind_of_hasTag (hasTag_wire hs h)

theorem kind_wire_eq_funding_iff : kind (wire s) = .funding ↔ HasTag 'f' s := by
  constructor
  · intro hkind
    by_contra hfunding
    have htrading : kind (wire s) = .trading := by
      by_cases h : IsTagged s
      · rw [wire_of_isTagged h]
        exact kind_of_hasTag (h.resolve_right hfunding)
      · exact kind_wire_of_not_isTagged h
    cases hkind.symm.trans htrading
  · intro h
    rw [wire_of_isTagged (.inr h)]
    exact kind_of_hasTag h

/-! ## What comes back -/

theorem normalize_wire (hascii : Text.IsAscii s.toList) (h : ¬IsTagged s) :
    normalize (wire s) = s.toLower := by
  have hchars : normalizeChars (wire s).toList = s.toList.map Char.toLower := by
    by_cases hs : s = ""
    · rw [hs]
      rfl
    · obtain ⟨d, ds, hupper, -⟩ := Text.exists_upperChars (mt String.toList_eq_nil_iff.mp hs)
      have hstripped : normalizeChars ('t' :: d :: ds) = Text.lowerChars (d :: ds) := rfl
      rw [toList_wire hs h, hupper, hstripped, ← hupper, Text.lowerChars_upperChars hascii]
  rw [normalize, hchars, ← String.toList_map, String.ofList_toList]
  rfl

/-- All letters of a symbol count: in the answers that belong to its feeds, in the tickers of such a feed
and in the tickers that name it. -/
structure KeptWhole (s : String) : Prop where
  matched : ∀ precision, ∀ f ∈ [Feed.ticker s, Feed.trades s, Feed.book s precision], ∀ a : Ack,
    f.agrees a = true ↔ f.channel.name = a.channel ∧
      (∃ x, a.symbol = some x ∧ normalize x = s.toLower) ∧
        (f.channel = .book → f.bookAgrees a = true)
  streamed : ∃ schema, (Feed.ticker s).schema? = some schema ∧
    ∀ values e, schema.decode values = .ok e → ∃ t, e = .ticker t ∧ t.symbol = s.toLower
  listed : ∀ values t, Ticker.layout.decode (.text (wire s) :: values) = .ok t →
    t.symbol = s.toLower

theorem keptWhole_of_normalize (hkind : kind (wire s) = .trading)
    (h : normalize (wire s) = s.toLower) : KeptWhole s where
  matched := by
    intro precision f hf a
    simp only [List.mem_cons, List.not_mem_nil, or_false] at hf
    have hsymbol : f.symbol = some (wire s) := by rcases hf with rfl | rfl | rfl <;> rfl
    have hmatch := Feed.symbolAgrees_iff hsymbol a.symbol
    rw [h] at hmatch
    rw [Feed.agrees, Bool.and_eq_true, beq_iff_eq, ← hmatch]
    rcases hf with rfl | rfl | rfl <;> simp [Feed.ticker, Feed.trades, Feed.book, Feed.ofChannel]
  streamed := by
    refine ⟨.ticker (wire s), ?_, fun values e he => ?_⟩
    · simp [Feed.schema?, Feed.ticker, Feed.ofChannel, Schema.ofChannel?, hkind]
    · obtain ⟨t, rfl, ht⟩ := Schema.exists_ticker he
      exact ⟨t, rfl, ht.trans h⟩
  listed := fun _ _ ht => (Ticker.symbol_of_decode ht).trans h

/-- The form that is sent is stable, is empty for the empty symbol alone and is that of a funding currency
for symbols with its tag alone. A symbol of ASCII characters without a tag comes back with all of its
letters. -/
theorem wire_canonical (s : String) :
    wire (wire s) = wire s ∧ (wire s = "" ↔ s = "") ∧ (kind (wire s) = .funding ↔ HasTag 'f' s) ∧
      (Text.IsAscii s.toList → ¬IsTagged s → normalize (wire s) = s.toLower ∧ KeptWhole s) := by
  refine ⟨wire_wire s, wire_eq_empty_iff, kind_wire_eq_funding_iff, fun hascii h => ?_⟩
  have hnormalize := normalize_wire hascii h
  exact ⟨hnormalize, keptWhole_of_normalize (kind_wire_of_not_isTagged h) hnormalize⟩

/-- A pair that begins with both letters of tags. Its feed does not take the answer to a pair without
the first of them. -/
theorem wire_canonical_fttusd :
    let values : List Json.Value := List.replicate 10 (.number (.whole 7 (by decide)))
    (Text.IsAscii "fttusd".toList ∧ ¬IsTagged "fttusd") ∧ wire "fttusd" = "tFTTUSD" ∧
      normalize (wire "fttusd") = "fttusd" ∧
      (Feed.ticker "fttusd").agrees ⟨"ticker", some "tFTTUSD", none, none, none⟩ = true ∧
      (Feed.ticker "fttusd").agrees ⟨"ticker", some "tTTUSD", none, none, none⟩ = false ∧
      (∃ t, (Schema.ticker "tFTTUSD").decode values = .ok (.ticker t) ∧ t.symbol = "fttusd") ∧
      ∃ t, Ticker.layout.decode (.text "tFTTUSD" :: values) = .ok t ∧ t.symbol = "fttusd" := by
  intro values
  have hascii : Text.IsAscii "fttusd".toList := by decide
  have htagged : ¬IsTagged "fttusd" := by
    have hchars : "fttusd".toList = ['f', 't', 't', 'u', 's', 'd'] := by decide
    rintro (⟨d, cs, hs, hd⟩ | ⟨d, cs, hs, hd⟩) <;> rw [hchars] at hs <;> cases hs
    cases hd
  have hwire : wire "fttusd" = "tFTTUSD" := by decide +kernel
  have hlower : "fttusd".toLower = "fttusd" := by decide +kernel
  obtain ⟨-, -, -, hkept⟩ := wire_canonical "fttusd"
  obtain ⟨hnormalize, hmatched, ⟨schema, hschema, hstreamed⟩, hlisted⟩ := hkept hascii htagged
  rw [hlower] at hnormalize hmatched hstreamed hlisted
  rw [hwire] at hlisted
  have hanswer := hmatched .p0 (Feed.ticker "fttusd") List.mem_cons_self
  obtain rfl : Schema.ticker "tFTTUSD" = schema :=
    Option.some.inj (Eq.trans (by decide +kernel) hschema)
  obtain ⟨t, ht, hsymbol⟩ := hstreamed values _ rfl
  refine ⟨⟨hascii, htagged⟩, hwire, hnormalize, ?_, ?_, ⟨t, congrArg Except.ok ht, hsymbol⟩,
    ⟨_, rfl, hlisted values _ rfl⟩⟩
  · exact (hanswer _).mpr ⟨rfl, ⟨"tFTTUSD", rfl, hwire ▸ hnormalize⟩, nofun⟩
  · refine Bool.eq_false_iff.mpr fun h => ?_
    obtain ⟨-, ⟨x, hx, hnormal⟩, -⟩ := (hanswer _).mp h
    cases hx
    exact absurd hnormal (by decide +kernel)

end Symbol
end MarketWire
