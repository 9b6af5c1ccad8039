import MarketWire.Proofs.Number.Value
import MarketWire.Proofs.Record.Acceptance

/-!
# Signs and sides

Rows send an amount with a sign, and records keep it without one and with a side in its place. A strictly
positive amount buys or bids; zero, with either sign, and an amount that is missing sell or ask. So amount
and side together tell what was sent. Levels of a book drop the sign of the price as well: in a raw book a
price that is not positive removes the order, and in an aggregated one a count that is not positive removes
the level.
-/
namespace MarketWire

/-- A row sends a decimal at a place: as a number or as a text, or zero by sending nothing or null. -/
inductive SendsDecimal (values : List Json.Value) (i : Nat) : Decimal → Prop where
  | absent (h : ∀ v, values[i]? = some v → v = .null) : SendsDecimal values i .zero
  | number {n : Json.Number} {d : Decimal} (h : values[i]? = some (.number n))
      (hd : Decimal.ofNumber? n = some d) : SendsDecimal values i d
  | text {s : String} {d : Decimal} (h : values[i]? = some (.text s))
      (hd : Decimal.ofText? s = some d) : SendsDecimal values i d

/-- A row sends an integer at a place: as a number, or zero by sending nothing or null. -/
inductive SendsInteger (values : List Json.Value) (i : Nat) : Int64 → Prop where
  | absent (h : ∀ v, values[i]? = some v → v = .null) : SendsInteger values i 0
  | number {n : Json.Number} {k : Int64} (h : values[i]? = some (.number n))
      (hk : n.integer? = some k) : SendsInteger values i k

namespace Row

variable {row : Row} {field : String} {i : Nat}

theorem sendsDecimal_of_read {d : Decimal} (h : row.read .decimal field i = .ok d) :
    SendsDecimal row.values i d := by
  rw [read] at h
  cases hget : row.get? i with
  | none =>
    rw [hget] at h
    cases h
    exact .absent (get?_eq_none_iff.mp hget)
  | some v =>
    have hv := (get?_eq_some_iff.mp hget).1
    rw [hget] at h
    cases v with
    | number n =>
      cases hn : Decimal.ofNumber? n with
      | none => simp [Cell.accept, hn, mapError_error] at h
      | some x => exact .number hv (by simpa [Cell.accept, hn, mapError_ok] using h)
    | text s =>
      cases hs : Decimal.ofText? s with
      | none => simp [Cell.accept, hs, mapError_error] at h
      | some x => exact .text hv (by simpa [Cell.accept, hs, mapError_ok] using h)
    | _ => simp [Cell.accept, mapError_error] at h

theorem sendsInteger_of_read {k : Int64} (h : row.read .integer field i = .ok k) :
    SendsInteger row.values i k := by
  rw [read] at h
  cases hget : row.get? i with
  | none =>
    rw [hget] at h
    cases h
    exact .absent (get?_eq_none_iff.mp hget)
  | some v =>
    have hv := (get?_eq_some_iff.mp hget).1
    rw [hget] at h
    cases v with
    | number n =>
      cases hn : n.integer? with
      | none => simp [Cell.accept, hn, mapError_error] at h
      | some x => exact .number hv (by simpa [Cell.accept, hn, mapError_ok] using h)
    | _ => simp [Cell.accept, mapError_error] at h

end Row

namespace Layout

/-- A record whose first column is a decimal is built from the one that the row sends there. -/
theorem exists_sendsDecimal {record field : String} {least i : Nat} {cs : List Column}
    {build : Values (⟨field, i, .decimal⟩ :: cs) → Except DecodeError α}
    {values : List Json.Value} {a : α}
    (h : decode ⟨record, least, ⟨field, i, .decimal⟩ :: cs, build⟩ values = .ok a) :
    ∃ sent vs, SendsDecimal values i sent ∧ build (sent, vs) = .ok a := by
  obtain ⟨⟨sent, vs⟩, hread, hbuild⟩ := exists_readAll h
  obtain ⟨hsent, -⟩ := Row.readAll_cons_eq_ok hread
  exact ⟨sent, vs, Row.sendsDecimal_of_read hsent, hbuild⟩

end Layout

namespace Decimal

theorem value_pos_iff (d : Decimal) : 0 < d.value ↔ d.isPositive = true := by
  have hscale : (0 : ℚ) < 10 ^ d.scale := by positivity
  rw [isPositive_iff, value, div_pos_iff_of_pos_right hscale, Int.cast_pos]

theorem value_abs (d : Decimal) : d.abs.value = |d.value| := by
  have hscale : (0 : ℚ) < 10 ^ d.scale := by positivity
  have hunits : (d.abs.units : ℚ) = |(d.units : ℚ)| := by
    rw [units_abs, Int.cast_natCast, Nat.cast_natAbs, Int.cast_abs]
  rw [value, value, hunits, abs_div, abs_of_pos hscale]
  rfl

theorem abs_of_isPositive {d : Decimal} (h : d.isPositive = true) : d.abs = d := by
  have hsign : d.negative = false := by simp_all [isPositive]
  rw [abs, ← hsign]

end Decimal

namespace Side

/-- The sign of an amount on a side. -/
def sign : Side → ℚ
  | .buy => 1
  | .sell => -1

/-- An amount without sign and a side, kept in place of an amount that was sent. -/
structure Keeps (side : Side) (amount sent : Decimal) : Prop where
  unsigned : amount.negative = false
  nonneg : 0 ≤ amount.value
  buys : side = .buy ↔ 0 < sent.value
  signed : side.sign * amount.value = sent.value

theorem ofAmount_keeps (sent : Decimal) : (ofAmount sent).Keeps sent.abs sent := by
  refine ⟨rfl, ?_, ?_, ?_⟩
  · rw [Decimal.value_abs]
    exact abs_nonneg _
  · rw [Decimal.value_pos_iff, ofAmount]
    cases sent.isPositive <;> simp
  · rw [Decimal.value_abs, ofAmount]
    split
    case isTrue h =>
      have hpos := (Decimal.value_pos_iff sent).mpr h
      rw [sign, abs_of_pos hpos, one_mul]
    case isFalse h =>
      have hneg := not_lt.mp (mt (Decimal.value_pos_iff sent).mp h)
      rw [sign, abs_of_nonpos hneg, neg_one_mul, neg_neg]

end Side

namespace BookSide

/-- Who places orders on a side of a book. -/
def side : BookSide → Side
  | .bid => .buy
  | .ask => .sell

theorem side_ofAmount (d : Decimal) : (ofAmount d).side = Side.ofAmount d := by
  rw [ofAmount, Side.ofAmount]
  split <;> rfl

end BookSide

namespace BookLevel

/-- A level of a raw book and the row that sent it. -/
structure OfRaw (values : List Json.Value) (l : BookLevel) : Prop where
  amount : ∃ sent, SendsDecimal values 2 sent ∧ l.side.side.Keeps l.amount sent
  price : ∃ sent, SendsDecimal values 1 sent ∧ l.price.negative = false ∧
    l.price.value = |sent.value| ∧ (l.action = .remove ↔ sent.value ≤ 0) ∧
    (l.action = .upsert → l.price = sent)
  id : ∃ id, SendsInteger values 0 id ∧ l.id = some id
  count : l.count = 1

/-- A level of an aggregated book and the row that sent it. -/
structure OfAggregated (values : List Json.Value) (l : BookLevel) : Prop where
  amount : ∃ sent, SendsDecimal values 2 sent ∧ l.side.side.Keeps l.amount sent
  price : ∃ sent, SendsDecimal values 0 sent ∧ l.price.negative = false ∧
    l.price.value = |sent.value|
  count : SendsInteger values 1 l.count ∧ (l.action = .remove ↔ l.count ≤ 0)
  id : l.id = none

variable {values : List Json.Value} {l : BookLevel}

theorem ofRaw_of_decode (h : rawLayout.decode values = .ok l) : OfRaw values l := by
  obtain ⟨⟨id, price, amount, ⟨⟩⟩, hread, hbuild⟩ := Layout.exists_readAll h
  obtain ⟨hid, hread⟩ := Row.readAll_cons_eq_ok hread
  obtain ⟨hprice, hread⟩ := Row.readAll_cons_eq_ok hread
  obtain ⟨hamount, -⟩ := Row.readAll_cons_eq_ok hread
  cases hbuild
  refine ⟨⟨amount, Row.sendsDecimal_of_read hamount, ?_⟩,
    ⟨price, Row.sendsDecimal_of_read hprice, rfl, price.value_abs, ?_, ?_⟩,
    ⟨id, Row.sendsInteger_of_read hid, rfl⟩, rfl⟩
  · rw [BookSide.side_ofAmount]
    exact Side.ofAmount_keeps amount
  · rw [← not_lt, Decimal.value_pos_iff]
    cases price.isPositive <;> simp
  · intro haction
    refine Decimal.abs_of_isPositive ?_
    by_contra hpos
    simp [hpos] at haction

theorem ofAggregated_of_decode (h : aggregatedLayout.decode values = .ok l) :
    OfAggregated values l := by
  obtain ⟨⟨price, count, amount, ⟨⟩⟩, hread, hbuild⟩ := Layout.exists_readAll h
  obtain ⟨hprice, hread⟩ := Row.readAll_cons_eq_ok hread
  obtain ⟨hcount, hread⟩ := Row.readAll_cons_eq_ok hread
  obtain ⟨hamount, -⟩ := Row.readAll_cons_eq_ok hread
  cases hbuild
  refine ⟨⟨amount, Row.sendsDecimal_of_read hamount, ?_⟩,
    ⟨price, Row.sendsDecimal_of_read hprice, rfl, price.value_abs⟩,
    ⟨Row.sendsInteger_of_read hcount, ?_⟩, rfl⟩
  · rw [BookSide.side_ofAmount]
    exact Side.ofAmount_keeps amount
  · rw [← Int64.not_lt]
    by_cases hpos : 0 < count <;> simp [hpos]

end BookLevel

/-- Trades, fills and levels of a book keep the amount that a row sends as an amount without sign and a
side; a level keeps its price without sign. -/
theorem signs_kept (values : List Json.Value) :
    (∀ t, Trade.layout.decode values = .ok t →
      ∃ sent, SendsDecimal values 2 sent ∧ t.side.Keeps t.amount sent) ∧
    (∀ t, FundingTrade.layout.decode values = .ok t →
      ∃ sent, SendsDecimal values 2 sent ∧ t.side.Keeps t.amount sent) ∧
    (∀ e, Execution.layout.decode values = .ok e →
      ∃ sent, SendsDecimal values 4 sent ∧ e.side.Keeps e.amount sent) ∧
    (∀ l, (BookLevel.layout .raw).decode values = .ok l → BookLevel.OfRaw values l) ∧
    (∀ l, (BookLevel.layout .aggregated).decode values = .ok l →
      BookLevel.OfAggregated values l) := by
  refine ⟨fun t ht => ?_, fun t ht => ?_, fun e he => ?_, fun l hl => ?_, fun l hl => ?_⟩
  · obtain ⟨sent, ⟨id, mts, price, ⟨⟩⟩, hsent, hbuild⟩ := Layout.exists_sendsDecimal ht
    cases hbuild
    exact ⟨sent, hsent, Side.ofAmount_keeps sent⟩
  · obtain ⟨sent, ⟨id, mts, rate, period, ⟨⟩⟩, hsent, hbuild⟩ := Layout.exists_sendsDecimal ht
    cases hbuild
    exact ⟨sent, hsent, Side.ofAmount_keeps sent⟩
  · obtain ⟨sent, ⟨id, symbol, mts, orderId, price, orderType, orderPrice, maker, fee, currency, cid,
      ⟨⟩⟩, hsent, hbuild⟩ := Layout.exists_sendsDecimal he
    cases hbuild
    exact ⟨sent, hsent, Side.ofAmount_keeps sent⟩
  · exact BookLevel.ofRaw_of_decode hl
  · exact BookLevel.ofAggregated_of_decode hl

/-- A row that every record but a fill can be read from, and the row of a fill. -/
theorem signs_kept_rows :
    let values : List Json.Value :=
      [.number (.whole 7 (by decide)), .number (.whole 2 (by decide)), .text "-0.50", .text "1e-3", .null]
    let fill : List Json.Value :=
      [.number (.whole 7 (by decide)), .text "tBTCUSD", .null, .null, .text "0.25", .text "100"]
    (∃ t, Trade.layout.decode values = .ok t ∧
      ∃ sent, SendsDecimal values 2 sent ∧ t.side.Keeps t.amount sent) ∧
    (∃ t, FundingTrade.layout.decode values = .ok t ∧
      ∃ sent, SendsDecimal values 2 sent ∧ t.side.Keeps t.amount sent) ∧
    (∃ e, Execution.layout.decode fill = .ok e ∧
      ∃ sent, SendsDecimal fill 4 sent ∧ e.side.Keeps e.amount sent) ∧
    (∃ l, (BookLevel.layout .raw).decode values = .ok l ∧ BookLevel.OfRaw values l) ∧
    (∃ l, (BookLevel.layout .aggregated).decode values = .ok l ∧
      BookLevel.OfAggregated values l) := by
  intro values fill
  obtain ⟨htrade, hfunding, -, hraw, haggregated⟩ := signs_kept values
  obtain ⟨-, -, hfill, -⟩ := signs_kept fill
  exact ⟨⟨_, rfl, htrade _ rfl⟩, ⟨_, rfl, hfunding _ rfl⟩, ⟨_, rfl, hfill _ rfl⟩, ⟨_, rfl, hraw _ rfl⟩,
    ⟨_, rfl, haggregated _ rfl⟩⟩

end MarketWire
