import MarketWire.Proofs.Record.Acceptance

/-!
# Two forms of tickers

A ticker comes with its symbol in front, or over a feed that knows the symbol and leaves it away. Both
forms are read by one table of columns, with all places moved by one. So they give the same ticker, or
fail in the same way: a row that is too short is short of one element more where the symbol counts, and
an element of the wrong kind stands one place further back.
-/
namespace MarketWire

/-- A result of reading a row that has one element more in front, and that of the row without it. -/
inductive Later : Except DecodeError α → Except DecodeError α → Prop where
  | ok (a : α) : Later (.ok a) (.ok a)
  | short (record : String) (expected actual : Nat) (raw raw' : String) :
    Later (.error (.tooShort record (expected + 1) (actual + 1) raw))
      (.error (.tooShort record expected actual raw'))
  | mismatch (record field : String) (index : Nat) (expected found raw raw' : String) :
    Later (.error (.mismatch record field (index + 1) expected found raw))
      (.error (.mismatch record field index expected found raw'))

theorem Later.map {r r' : Except DecodeError α} (h : Later r r') (f : α → β) :
    Later (r.map f) (r'.map f) := by
  cases h with
  | ok a => exact .ok (f a)
  | short record expected actual raw raw' => exact .short record expected actual raw raw'
  | mismatch record field index expected found raw raw' =>
    exact .mismatch record field index expected found raw raw'

/-- The column one place further back. -/
def Column.later (c : Column) : Column := { c with index := c.index + 1 }

/-- The values of columns do not depend on their places. -/
def Values.moved : {cs : List Column} → Values (cs.map Column.later) → Values cs
  | [], () => ()
  | _ :: _, (v, vs) => (v, Values.moved vs)

namespace Row

variable (record : String) (x : Json.Value) (v : List Json.Value)

theorem later_read (c : Cell) (field : String) (i : Nat) :
    Later (read ⟨record, x :: v⟩ c field (i + 1)) (read ⟨record, v⟩ c field i) := by
  have hget : get? ⟨record, x :: v⟩ (i + 1) = get? ⟨record, v⟩ i := rfl
  rw [read, read, hget]
  cases get? ⟨record, v⟩ i with
  | none => exact .ok _
  | some w =>
    cases hw : c.accept w with
    | ok a => simpa [hw, mapError_ok] using Later.ok a
    | error found =>
      simpa [hw, mapError_error, mismatch] using
        Later.mismatch record field i c.expected found (render (x :: v)) (render v)

theorem later_readAll (cs : List Column) :
    Later ((readAll ⟨record, x :: v⟩ (cs.map Column.later)).map Values.moved)
      (readAll ⟨record, v⟩ cs) := by
  induction cs with
  | nil => exact .ok ()
  | cons c cs ih =>
    have hread := later_read record x v c.cell c.field c.index
    have hfront : readAll ⟨record, x :: v⟩ ((c :: cs).map Column.later) =
        (read ⟨record, x :: v⟩ c.cell c.field (c.index + 1)).bind fun a =>
          (readAll ⟨record, x :: v⟩ (cs.map Column.later)).map (a, ·) :=
      readAll_cons ⟨record, x :: v⟩ c.later (cs.map Column.later)
    rw [hfront, readAll_cons]
    -- The first element decides if it fails, and else the columns behind it do.
    generalize read ⟨record, x :: v⟩ c.cell c.field (c.index + 1) = r at *
    generalize read ⟨record, v⟩ c.cell c.field c.index = r' at *
    cases hread with
    | ok a =>
      have hpair := ih.map (a, ·)
      generalize readAll ⟨record, x :: v⟩ (cs.map Column.later) = rest at *
      cases rest <;> exact hpair
    | short record expected actual raw raw' => exact .short record expected actual raw raw'
    | mismatch record field index expected found raw raw' =>
      exact .mismatch record field index expected found raw raw'

end Row

namespace Layout

/-- A record with its symbol, read by the same columns from a row that starts with the symbol and from
one that does not have it. -/
theorem later_decode (record : String) (least : Nat) (cs : List Column)
    (f : String → Values cs → α) (s : String) (v : List Json.Value) :
    Later
      (decode ⟨record, least + 1, ⟨"symbol", 0, .text⟩ :: cs.map Column.later,
        fun vs => .ok (f vs.1 vs.2.moved)⟩ (.text s :: v))
      (decode ⟨record, least, cs, fun vs => .ok (f s vs)⟩ v) := by
  by_cases hleast : least ≤ v.length
  · have hall := (Row.later_readAll record (.text s) v cs).map (f s)
    have hsymbol : Row.read ⟨record, .text s :: v⟩ .text "symbol" 0 = .ok s := rfl
    rw [decode_of_le _ (Nat.succ_le_succ hleast), decode_of_le _ hleast, decodeRow_eq, decodeRow_eq,
      Row.readAll_cons, hsymbol]
    generalize Row.readAll ⟨record, .text s :: v⟩ (cs.map Column.later) = r at *
    generalize Row.readAll ⟨record, v⟩ cs = r' at *
    cases r <;> cases r' <;> exact hall
  · have hshort := Nat.lt_of_not_le hleast
    have hshorter : (Json.Value.text s :: v).length < least + 1 := Nat.succ_lt_succ hshort
    rw [decode_of_lt _ hshorter, decode_of_lt _ hshort]
    exact .short record least v.length _ _

end Layout

/-- Tickers and funding tickers are the same in both forms, and so are their failures but for the
places and the lengths that they name, which are one larger with the symbol in front. -/
theorem ticker_forms_agree (s : String) (v : List Json.Value) :
    Later (Ticker.layout.decode (.text s :: v)) ((Ticker.streamLayout s).decode v) ∧
      Later (FundingTicker.layout.decode (.text s :: v))
        ((FundingTicker.streamLayout s).decode v) := by
  constructor
  · exact Layout.later_decode "ticker" 10 (Ticker.columns 0) (fun s => Ticker.ofValues s) s v
  · exact Layout.later_decode "funding_ticker" 13 (FundingTicker.columns 0)
      (fun s => FundingTicker.ofValues s) s v

end MarketWire
