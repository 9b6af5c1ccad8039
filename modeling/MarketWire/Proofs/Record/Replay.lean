import MarketWire.Proofs.Number.DecimalText
import MarketWire.Proofs.Record.Compatibility
import MarketWire.Proofs.Record.ObjectText
import MarketWire.Record.Event
import MarketWire.Record.Schema

/-!
# Events back from their texts

An event is read back from its text with every field as it was written, as long as its free parts are
plain. Decimals keep amount and places, and a zero loses a minus sign; what has been read back once
comes back unchanged from then on.
-/
namespace MarketWire

open Json (Value Tree)
open Json.Value (Plain)

/-! ## Fields -/

namespace Slot

/-- Whether the text of one value is read as another one. -/
def Returns (s : Slot) (r : Reading) (v w : s.Value) : Prop :=
  s.read? r (s.write v).tree = some w

variable {r : Reading}

@[simp]
theorem returns_decimal (d : Decimal) : decimal.Returns r d d.settled := by
  have htext := Json.textOf?_unitOf d.text
  simp only [Returns, decimal, Value.tree, readDecimal?]
  rw [htext, Option.bind_some, Decimal.text, String.toList_ofList, Decimal.ofPlain?_chars]

@[simp]
theorem returns_integer (i : Int64) : integer.Returns r i i := by
  have hrange : -0x8000000000000000 ≤ i.toInt ∧ i.toInt < 0x8000000000000000 :=
    ⟨i.le_toInt, i.toInt_lt⟩
  have hfits : int64? i.toInt = some i := by simp [int64?, hrange]
  simp only [Returns, integer, readInteger?, Value.ofInt64, Value.integer?_tree, Option.bind_some,
    hfits]

@[simp]
theorem returns_text (s : String) : text.Returns r s s := Value.text?_tree s

@[simp]
theorem returns_flag (b : Bool) : flag.Returns r b b := rfl

theorem returns_texts (h : 0 < r.depth) (ss : List String) : texts.Returns r ss ss := by
  have hitems : (Value.itemTrees (ss.map .text)).mapM Tree.text? = some ss := by
    induction ss with
    | nil => rfl
    | cons s ss ih => simp [Value.itemTrees, Value.text?_tree, ih]
  have hinside : r.inside? = some { r with depth := r.depth - 1 } := if_neg (by omega)
  simp only [Returns, texts, Value.tree, readTexts?, hinside, Option.bind_some, hitems]

theorem returns_free {v : Json.Value} (h : Plain r.depth v) : free.Returns r v v := h.value?_tree

theorem returns_named {α : Type} {all : List α} {name : α → String} {a : α}
    (h : all.find? (name · == name a) = some a) : (named all name).Returns r a a := by
  simp only [Returns, named, Value.tree, Tree.tag?, Json.textOf?_unitOf, Option.bind_some, h]

@[simp]
theorem returns_side (s : Side) : (named Side.all Side.name).Returns r s s :=
  returns_named (by cases s <;> decide)

@[simp]
theorem returns_bookSide (s : BookSide) : (named BookSide.all BookSide.name).Returns r s s :=
  returns_named (by cases s <;> decide)

@[simp]
theorem returns_bookAction (a : BookAction) :
    (named BookAction.all BookAction.name).Returns r a a :=
  returns_named (by cases a <;> decide)

theorem returns_none (s : Slot) : (optional s).Returns r none none := rfl

theorem returns_some {s : Slot} {v w : s.Value} (hnull : (s.write v).tree ≠ .null)
    (h : s.Returns r v w) : (optional s).Returns r (some v) (some w) := by
  have hread : s.read? r (s.write v).tree = some w := h
  simp only [Returns, optional, Option.elim_some, hread, Option.map_some]

@[simp]
theorem returns_optional_integer (i : Option Int64) : (optional integer).Returns r i i := by
  cases i with
  | none => exact returns_none integer
  | some i => exact returns_some nofun (returns_integer i)

end Slot

/-! ## Records -/

namespace Slots

variable {r : Reading}

/-- Whether the texts of some values are read as others. -/
def Return (r : Reading) : (ss : Slots) → Values ss → Values ss → Prop
  | [], _, _ => True
  | (_, s) :: ss, (v, vs), (w, ws) => s.Returns r v w ∧ Return r ss vs ws

theorem names_write (ss : Slots) (vs : Values ss) :
    (ss.write vs).map Prod.fst = ss.map Prod.fst := by
  induction ss with
  | nil => rfl
  | cons s ss ih => simp [write, ih]

theorem readMembers?_write {ms : List (String × Tree)} {ss : Slots} {vs ws : Values ss}
    (hms : ∀ f ∈ ss.write vs, member? f.1 ms = some (some f.2.tree)) (h : ss.Return r vs ws) :
    readMembers? r ms ss = some ws := by
  induction ss with
  | nil => rfl
  | cons s ss ih =>
    obtain ⟨v, vs⟩ := vs
    obtain ⟨w, ws⟩ := ws
    obtain ⟨hv, hvs⟩ := h
    obtain ⟨hfirst, hrest⟩ := List.forall_mem_cons.mp hms
    have hread : s.2.read? r (s.2.write v).tree = some w := hv
    simp only [readMembers?, hfirst, Option.elim_some, hread, ih hrest hvs]

end Slots

/-- A record is read back from its object if its fields are. -/
theorem Shape.read?_value {α : Type} {s : Shape α} {r : Reading} {a b : α}
    (hr : 0 < r.depth) (hnames : (s.slots.map Prod.fst).Nodup)
    (h : s.slots.Return { r with depth := r.depth - 1 } (s.split a) (s.split b))
    (hb : s.join (s.split b) = b) : s.read? r (s.value a).tree = some b := by
  have hinside : r.inside? = some { r with depth := r.depth - 1 } := if_neg (by omega)
  have hnodup : (((s.fields a).map fun f => (f.1, f.2.tree)).map Prod.fst).Nodup := by
    have hfst : ((s.fields a).map fun f => (f.1, f.2.tree)).map Prod.fst = s.slots.map Prod.fst := by
      rw [List.map_map, ← Slots.names_write s.slots (s.split a)]
      rfl
    rwa [hfst]
  have hmembers : ∀ f ∈ s.fields a,
      Slots.member? f.1 ((s.fields a).map fun f => (f.1, f.2.tree)) = some (some f.2.tree) :=
    fun f hf => Slots.member?_of_mem hnodup (List.mem_map_of_mem hf)
  simp only [value, Value.tree, read?, hinside, Option.bind_some, Value.members?_memberTrees,
    Slots.readMembers?_write hmembers h, Option.map_some, hb]

theorem Slot.returns_profile {r : Reading} (h : 0 < r.depth) (p : Option Profile) :
    (optional Profile.shape.slot).Returns r p p := by
  cases p with
  | none => exact returns_none Profile.shape.slot
  | some p =>
    have hfields : Profile.shape.slots.Return { r with depth := r.depth - 1 }
        (Profile.shape.split p) (Profile.shape.split p) := by
      simp [Profile.shape, Slots.Return]
    have hread : Profile.shape.slot.Returns r p p := Shape.read?_value h (by decide) hfields rfl
    exact returns_some nofun hread

/-! ## Decimals of records -/

def Ticker.mapDecimals (f : Decimal → Decimal) (t : Ticker) : Ticker :=
  { t with
    bid := f t.bid, bidSize := f t.bidSize, ask := f t.ask, askSize := f t.askSize
    dailyChange := f t.dailyChange, dailyChangeRelative := f t.dailyChangeRelative
    lastPrice := f t.lastPrice, volume := f t.volume, high := f t.high, low := f t.low }

def FundingTicker.mapDecimals (f : Decimal → Decimal) (t : FundingTicker) : FundingTicker :=
  { t with
    frr := f t.frr, bid := f t.bid, bidSize := f t.bidSize, ask := f t.ask, askSize := f t.askSize
    dailyChange := f t.dailyChange, dailyChangeRelative := f t.dailyChangeRelative
    lastPrice := f t.lastPrice, volume := f t.volume, high := f t.high, low := f t.low
    frrAmountAvailable := f t.frrAmountAvailable }

def Trade.mapDecimals (f : Decimal → Decimal) (t : Trade) : Trade :=
  { t with amount := f t.amount, price := f t.price }

def FundingTrade.mapDecimals (f : Decimal → Decimal) (t : FundingTrade) : FundingTrade :=
  { t with amount := f t.amount, rate := f t.rate }

def BookLevel.mapDecimals (f : Decimal → Decimal) (l : BookLevel) : BookLevel :=
  { l with price := f l.price, amount := f l.amount }

def Candle.mapDecimals (f : Decimal → Decimal) (c : Candle) : Candle :=
  { c with
    opening := f c.opening, closing := f c.closing, high := f c.high, low := f c.low
    volume := f c.volume }

def Order.mapDecimals (f : Decimal → Decimal) (o : Order) : Order :=
  { o with
    amount := f o.amount, amountOrig := f o.amountOrig, price := f o.price
    priceAvg := f o.priceAvg, priceTrailing := f o.priceTrailing
    priceAuxLimit := f o.priceAuxLimit }

def Position.mapDecimals (f : Decimal → Decimal) (p : Position) : Position :=
  { p with
    amount := f p.amount, basePrice := f p.basePrice, marginFunding := f p.marginFunding
    profitLoss := f p.profitLoss, profitLossPercent := f p.profitLossPercent
    liquidationPrice := f p.liquidationPrice, leverage := f p.leverage
    collateral := f p.collateral, collateralMin := f p.collateralMin }

def WalletEntry.mapDecimals (f : Decimal → Decimal) (w : WalletEntry) : WalletEntry :=
  { w with
    balance := f w.balance, unsettledInterest := f w.unsettledInterest
    availableBalance := f w.availableBalance }

def FundingOffer.mapDecimals (f : Decimal → Decimal) (o : FundingOffer) : FundingOffer :=
  { o with amount := f o.amount, amountOrig := f o.amountOrig, rate := f o.rate }

def Execution.mapDecimals (f : Decimal → Decimal) (e : Execution) : Execution :=
  { e with
    amount := f e.amount, price := f e.price, orderPrice := f e.orderPrice, fee := f e.fee }

namespace Event

/-- The event with each of its decimals replaced. -/
def mapDecimals (f : Decimal → Decimal) : Event → Event
  | .ticker t => .ticker (t.mapDecimals f)
  | .fundingTicker t => .fundingTicker (t.mapDecimals f)
  | .trade t => .trade (t.mapDecimals f)
  | .fundingTrade t => .fundingTrade (t.mapDecimals f)
  | .bookLevel l => .bookLevel (l.mapDecimals f)
  | .candle c => .candle (c.mapDecimals f)
  | .order o => .order (o.mapDecimals f)
  | .position p => .position (p.mapDecimals f)
  | .wallet w => .wallet (w.mapDecimals f)
  | .fundingOffer o => .fundingOffer (o.mapDecimals f)
  | .execution e => .execution (e.mapDecimals f)
  | .notification n => .notification n
  | .post p => .post p

/-- The parts that are kept as they came. -/
def free : Event → List Value
  | .order o => [o.details]
  | .position p => [p.details]
  | .wallet w => [w.tradeDetails]
  | .notification n => [n.info]
  | .post p => [p.details]
  | _ => []

def decimals : Event → List Decimal
  | .ticker t => [t.bid, t.bidSize, t.ask, t.askSize, t.dailyChange, t.dailyChangeRelative,
      t.lastPrice, t.volume, t.high, t.low]
  | .fundingTicker t => [t.frr, t.bid, t.bidSize, t.ask, t.askSize, t.dailyChange,
      t.dailyChangeRelative, t.lastPrice, t.volume, t.high, t.low, t.frrAmountAvailable]
  | .trade t => [t.amount, t.price]
  | .fundingTrade t => [t.amount, t.rate]
  | .bookLevel l => [l.price, l.amount]
  | .candle c => [c.opening, c.closing, c.high, c.low, c.volume]
  | .order o => [o.amount, o.amountOrig, o.price, o.priceAvg, o.priceTrailing, o.priceAuxLimit]
  | .position p => [p.amount, p.basePrice, p.marginFunding, p.profitLoss, p.profitLossPercent,
      p.liquidationPrice, p.leverage, p.collateral, p.collateralMin]
  | .wallet w => [w.balance, w.unsettledInterest, w.availableBalance]
  | .fundingOffer o => [o.amount, o.amountOrig, o.rate]
  | .execution e => [e.amount, e.price, e.orderPrice, e.fee]
  | .notification _ | .post _ => []

theorem decimals_mapDecimals (f : Decimal → Decimal) (e : Event) :
    (e.mapDecimals f).decimals = e.decimals.map f := by
  cases e <;> rfl

theorem free_mapDecimals (f : Decimal → Decimal) (e : Event) : (e.mapDecimals f).free = e.free := by
  cases e <;> rfl

end Event

/-! ## Events -/

namespace Event

variable {r : Reading}

/-- A record is read back as the record of its event. -/
theorem read?_fields {α : Type} (s : Shape α) {a b : α} (make : α → Event) (hr : 0 < r.depth)
    (hnames : (s.slots.map Prod.fst).Nodup)
    (h : s.slots.Return { r with depth := r.depth - 1 } (s.split a) (s.split b))
    (hb : s.join (s.split b) = b) :
    (s.read? r (Value.object (s.fields a)).tree).map make = some (make b) :=
  congrArg (Option.map make) (Shape.read?_value hr hnames h hb)

theorem readRecord?_fields (e : Event) (hr : r.depth = 126) (h : ∀ v ∈ e.free, Plain 125 v) :
    readRecord? r (Value.object e.fields).tree e.kind = some (e.mapDecimals Decimal.settled) := by
  have hpos : 0 < r.depth := by omega
  have hplain : ∀ v ∈ e.free, Plain ({ r with depth := r.depth - 1 } : Reading).depth v := by
    simpa [hr] using h
  cases e with
  | ticker t =>
    exact read?_fields Ticker.shape .ticker hpos (by decide)
      (by simp [Ticker.shape, Slots.Return, Ticker.mapDecimals]) rfl
  | fundingTicker t =>
    exact read?_fields FundingTicker.shape .fundingTicker hpos (by decide)
      (by simp [FundingTicker.shape, Slots.Return, FundingTicker.mapDecimals]) rfl
  | trade t =>
    exact read?_fields Trade.shape .trade hpos (by decide)
      (by simp [Trade.shape, Slots.Return, Trade.mapDecimals]) rfl
  | fundingTrade t =>
    exact read?_fields FundingTrade.shape .fundingTrade hpos (by decide)
      (by simp [FundingTrade.shape, Slots.Return, FundingTrade.mapDecimals]) rfl
  | bookLevel l =>
    exact read?_fields BookLevel.shape .bookLevel hpos (by decide)
      (by simp [BookLevel.shape, Slots.Return, BookLevel.mapDecimals]) rfl
  | candle c =>
    exact read?_fields Candle.shape .candle hpos (by decide)
      (by simp [Candle.shape, Slots.Return, Candle.mapDecimals]) rfl
  | order o =>
    have hdetails := Slot.returns_free (hplain o.details (by simp [free]))
    exact read?_fields Order.shape .order hpos (by decide)
      (by simp [Order.shape, Slots.Return, Order.mapDecimals, hdetails]) rfl
  | position p =>
    have hdetails := Slot.returns_free (hplain p.details (by simp [free]))
    exact read?_fields Position.shape .position hpos (by decide)
      (by simp [Position.shape, Slots.Return, Position.mapDecimals, hdetails]) rfl
  | wallet w =>
    have hdetails := Slot.returns_free (hplain w.tradeDetails (by simp [free]))
    exact read?_fields WalletEntry.shape .wallet hpos (by decide)
      (by simp [WalletEntry.shape, Slots.Return, WalletEntry.mapDecimals, hdetails]) rfl
  | fundingOffer o =>
    exact read?_fields FundingOffer.shape .fundingOffer hpos (by decide)
      (by simp [FundingOffer.shape, Slots.Return, FundingOffer.mapDecimals]) rfl
  | execution e =>
    exact read?_fields Execution.shape .execution hpos (by decide)
      (by simp [Execution.shape, Slots.Return, Execution.mapDecimals]) rfl
  | notification n =>
    have hinfo := Slot.returns_free (hplain n.info (by simp [free]))
    exact read?_fields Notification.shape .notification hpos (by decide)
      (by simp [Notification.shape, Slots.Return, hinfo]) rfl
  | post p =>
    have hdetails := Slot.returns_free (hplain p.details (by simp [free]))
    have hinside : 0 < ({ r with depth := r.depth - 1 } : Reading).depth := by simp [hr]
    have htexts := Slot.returns_texts hinside
    have hprofile := Slot.returns_profile hinside
    exact read?_fields Post.shape .post hpos (by decide)
      (by simp [Post.shape, Slots.Return, hdetails, htexts, hprofile]) rfl

/-- An event is read back from its text, with its decimals settled. -/
theorem ofText?_toText (e : Event) (h : ∀ v ∈ e.free, Plain 125 v) :
    ofText? e.toText = some (e.mapDecimals Decimal.settled) := by
  have hkind : readKind? ⟨126, false⟩ (Value.text e.kind.name).tree = some e.kind := by
    simp only [readKind?, Value.tree, Tree.tag?, Json.textOf?_unitOf, Option.bind_some,
      Kind.ofName?_name]
  have hrecord := readRecord?_fields (r := ⟨126, false⟩) e rfl h
  have hinside : reading.inside? = some ⟨126, false⟩ := rfl
  have hrelevant : relevant [("type", (Value.text e.kind.name).tree),
      ("data", (Value.object e.fields).tree)] = [("type", (Value.text e.kind.name).tree),
      ("data", (Value.object e.fields).tree)] := by simp [relevant]
  rw [ofText?, toText, Value.treeOfText?_toText, Option.bind_some, value, Value.tree, ofTree?,
    hinside, Option.bind_some, Value.members?_memberTrees, Option.bind_some]
  simp only [List.map_cons, List.map_nil, hrelevant, hkind, hrecord, Option.bind_some]

/-! ## Events that come back as they are -/

theorem mapDecimals_of_fixed {f : Decimal → Decimal} {e : Event} (h : ∀ d ∈ e.decimals, f d = d) :
    e.mapDecimals f = e := by
  cases e with
  | ticker t => simp_all [decimals, mapDecimals, Ticker.mapDecimals]
  | fundingTicker t => simp_all [decimals, mapDecimals, FundingTicker.mapDecimals]
  | trade t => simp_all [decimals, mapDecimals, Trade.mapDecimals]
  | fundingTrade t => simp_all [decimals, mapDecimals, FundingTrade.mapDecimals]
  | bookLevel l => simp_all [decimals, mapDecimals, BookLevel.mapDecimals]
  | candle c => simp_all [decimals, mapDecimals, Candle.mapDecimals]
  | order o => simp_all [decimals, mapDecimals, Order.mapDecimals]
  | position p => simp_all [decimals, mapDecimals, Position.mapDecimals]
  | wallet w => simp_all [decimals, mapDecimals, WalletEntry.mapDecimals]
  | fundingOffer o => simp_all [decimals, mapDecimals, FundingOffer.mapDecimals]
  | execution e => simp_all [decimals, mapDecimals, Execution.mapDecimals]
  | notification n => rfl
  | post p => rfl

theorem settled_eq_self {e : Event} (h : ∀ d ∈ e.decimals, d.negative = true → d.mantissa ≠ 0) :
    e.mapDecimals Decimal.settled = e :=
  mapDecimals_of_fixed fun d hd => Decimal.settled_eq_iff.mpr (h d hd)

/-- What has been read back once comes back as it is. -/
theorem settled_settled (e : Event) :
    (e.mapDecimals Decimal.settled).mapDecimals Decimal.settled = e.mapDecimals Decimal.settled := by
  refine mapDecimals_of_fixed fun d hd => ?_
  rw [decimals_mapDecimals] at hd
  obtain ⟨d, -, rfl⟩ := List.mem_map.mp hd
  exact d.settled_settled

theorem fields_settled {e : Event} (h : (e.mapDecimals Decimal.settled).fields = e.fields) :
    ∀ d ∈ e.decimals, d.negative = true → d.mantissa ≠ 0 := by
  -- The two differ in the texts of decimals only, and those are compared one by one.
  cases e with
  | ticker t =>
    simpa [mapDecimals, Ticker.mapDecimals, fields, Shape.fields, Ticker.shape,
      Slots.write, Slot.decimal, Decimal.text_settled_iff, decimals] using h
  | fundingTicker t =>
    simpa [mapDecimals, FundingTicker.mapDecimals, fields, Shape.fields, FundingTicker.shape,
      Slots.write, Slot.decimal, Decimal.text_settled_iff, decimals] using h
  | trade t =>
    simpa [mapDecimals, Trade.mapDecimals, fields, Shape.fields, Trade.shape,
      Slots.write, Slot.decimal, Decimal.text_settled_iff, decimals] using h
  | fundingTrade t =>
    simpa [mapDecimals, FundingTrade.mapDecimals, fields, Shape.fields, FundingTrade.shape,
      Slots.write, Slot.decimal, Decimal.text_settled_iff, decimals] using h
  | bookLevel l =>
    simpa [mapDecimals, BookLevel.mapDecimals, fields, Shape.fields, BookLevel.shape,
      Slots.write, Slot.decimal, Decimal.text_settled_iff, decimals] using h
  | candle c =>
    simpa [mapDecimals, Candle.mapDecimals, fields, Shape.fields, Candle.shape,
      Slots.write, Slot.decimal, Decimal.text_settled_iff, decimals] using h
  | order o =>
    simpa [mapDecimals, Order.mapDecimals, fields, Shape.fields, Order.shape,
      Slots.write, Slot.decimal, Decimal.text_settled_iff, decimals] using h
  | position p =>
    simpa [mapDecimals, Position.mapDecimals, fields, Shape.fields, Position.shape,
      Slots.write, Slot.decimal, Decimal.text_settled_iff, decimals] using h
  | wallet w =>
    simpa [mapDecimals, WalletEntry.mapDecimals, fields, Shape.fields, WalletEntry.shape,
      Slots.write, Slot.decimal, Decimal.text_settled_iff, decimals] using h
  | fundingOffer o =>
    simpa [mapDecimals, FundingOffer.mapDecimals, fields, Shape.fields, FundingOffer.shape,
      Slots.write, Slot.decimal, Decimal.text_settled_iff, decimals] using h
  | execution e =>
    simpa [mapDecimals, Execution.mapDecimals, fields, Shape.fields, Execution.shape,
      Slots.write, Slot.decimal, Decimal.text_settled_iff, decimals] using h
  | notification n => simp [decimals]
  | post p => simp [decimals]

/-- The text stays the same unless a zero loses its sign. -/
theorem toText_settled_iff (e : Event) :
    (e.mapDecimals Decimal.settled).toText = e.toText ↔
      ∀ d ∈ e.decimals, d.negative = true → d.mantissa ≠ 0 := by
  refine ⟨fun h => fields_settled ?_, fun h => by rw [settled_eq_self h]⟩
  have hvalue := Value.toText_injective h
  simp only [value, Value.object.injEq, List.cons.injEq, Prod.mk.injEq] at hvalue
  exact hvalue.2.1.2

/-- An event whose free parts are plain is read back from its text as itself, but for the minus sign
of a zero. Each decimal keeps amount and places; the text is the same when written again unless such
a sign was lost, and what has been read back comes back unchanged from then on. -/
theorem replayed (e : Event) (h : ∀ v ∈ e.free, Plain 125 v) :
    let e' := e.mapDecimals Decimal.settled
    ofText? e.toText = some e' ∧
      e'.decimals = e.decimals.map Decimal.settled ∧
      (∀ d ∈ e.decimals, d.settled.units = d.units ∧ d.settled.scale = d.scale) ∧
      ofText? e'.toText = some e' ∧
      ((∀ d ∈ e.decimals, d.negative = true → d.mantissa ≠ 0) → e' = e) ∧
      (e'.toText = e.toText ↔ ∀ d ∈ e.decimals, d.negative = true → d.mantissa ≠ 0) := by
  have hagain := ofText?_toText (e.mapDecimals Decimal.settled)
    (by rw [free_mapDecimals]; exact h)
  rw [settled_settled] at hagain
  exact ⟨ofText?_toText e h, decimals_mapDecimals .., fun d _ => ⟨d.units_settled, d.scale_settled⟩,
    hagain, settled_eq_self, e.toText_settled_iff⟩

/-- A wallet whose balance has a zero in its last place, with an object behind it. -/
theorem replayed_wallet :
    let details := Value.object [("reason", .text "TRADE")]
    let row := [.text "exchange", .text "UST", .text "1.50", .text "-2", .null, .null, details]
    ∃ e, Schema.wallet.decode row = .ok e ∧ (∀ v ∈ e.free, Plain 125 v) ∧
      ofText? e.toText = some e := by
  intro details row
  let e : Event := .wallet ⟨"exchange", "UST", ⟨false, 150, 2, by decide, by decide⟩,
    ⟨true, 2, 0, by decide, by decide⟩, .zero, "", details⟩
  have hdetails : Plain 125 details :=
    .object (fun f hf => List.mem_singleton.mp hf ▸ .text 124 "TRADE") rfl
  have hfree : ∀ v ∈ e.free, Plain 125 v := fun v hv => List.mem_singleton.mp hv ▸ hdetails
  obtain ⟨hread, -, -, -, hself, -⟩ := replayed e hfree
  rw [hself (by decide)] at hread
  exact ⟨e, rfl, hfree, hread⟩

/-- A candle that opens at `-1e-29`. A decimal has no room for the places of that number but keeps
its sign, so the first zero that is written is not the one that is read back. -/
theorem replayed_unsigned :
    ∃ tiny, Json.Number.ofToken? ⟨true, ['1'], [], some (true, ['2', '9'])⟩ = some tiny ∧
      let row := [.ofInt64 1, .number tiny, .ofInt64 1, .ofInt64 1, .ofInt64 1, .ofInt64 1]
      ∃ e e', Schema.candle.decode row = .ok e ∧ (∀ v ∈ e.free, Plain 125 v) ∧
        ofText? e.toText = some e' ∧ e'.toText ≠ e.toText := by
  let tiny : Json.Number :=
    .binary ⟨true, 7136238463529800, 925, by decide, by decide, by decide⟩
  let zero : Decimal := ⟨true, 0, 0, by decide, by decide⟩
  let one : Decimal := ⟨false, 1, 0, by decide, by decide⟩
  let e : Event := .candle ⟨1, zero, one, one, one, one⟩
  have htiny : Json.Number.ofToken? ⟨true, ['1'], [], some (true, ['2', '9'])⟩ = some tiny := by
    decide +kernel
  have hzero : Decimal.ofNumber? tiny = some zero := by decide +kernel
  -- Stated for any number, so that the digits of this one need not be found again.
  have hdecode (n : Json.Number) (hn : Decimal.ofNumber? n = some zero) :
      Schema.candle.decode [.ofInt64 1, .number n, .ofInt64 1, .ofInt64 1, .ofInt64 1,
        .ofInt64 1] = .ok e := by
    have hopening : Row.read ⟨"candle", [.ofInt64 1, .number n, .ofInt64 1, .ofInt64 1, .ofInt64 1,
        .ofInt64 1]⟩ .decimal "open" 1 = .ok zero := by
      simp only [Row.read, Row.get?, List.getElem?_cons_succ, List.getElem?_cons_zero, Cell.accept,
        hn, Option.elim_some, Except.mapError]
    rw [Schema.decode, Layout.decode_of_le _ (Nat.le_refl 6), Layout.decodeRow]
    simp only [Schema.layout, Layout.map, Candle.layout, Row.readAll, hopening]
    rfl
  have hfree : ∀ v ∈ e.free, Plain 125 v := List.forall_mem_nil _
  refine ⟨tiny, htiny, e, _, hdecode tiny hzero, hfree, ofText?_toText e hfree, fun h => ?_⟩
  exact e.toText_settled_iff.mp h zero List.mem_cons_self rfl rfl

end Event

end MarketWire
