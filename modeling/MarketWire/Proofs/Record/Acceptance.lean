import MarketWire.Proofs.Record.Compatibility

/-!
# Rows that are accepted

A row that is long enough is decoded exactly if each element that is read is absent, `null` or of the
form that its column takes. Otherwise the failure points at an element that is none of these. A post
reads one row more, that of the profile inside of it, and a failure there points into that row.
-/
namespace MarketWire

namespace Cell

/-- The items of a list of texts. -/
def isListed : Json.Value → Bool
  | .null | .text _ => true
  | _ => false

/-- The elements, `null` apart, that are taken. -/
def Takes : Cell → Json.Value → Prop
  | .decimal, .number n => (Decimal.ofNumber? n).isSome
  | .decimal, .text s => (Decimal.ofText? s).isSome
  | .integer, .number n => n.integer?.isSome
  | .text, .text _ => True
  | .flag, .bool _ => True
  | .flag, .number _ => True
  | .texts, .array vs => ∀ v ∈ vs, isListed v = true
  | .nested, .array _ => True
  | .raw, _ => True
  | _, _ => False

/-- What is shown of an element that is not taken: a text as it is where decimals are read, of a list
the first item that does not belong there, and else the element's own text. -/
def shown : Cell → Json.Value → String
  | .decimal, .text s => s
  | .texts, .array vs => ((vs.find? (!isListed ·)).getD .null).toText
  | _, v => v.toText

theorem textList_of_listed {vs : List Json.Value} (h : ∀ v ∈ vs, isListed v = true) :
    ∃ ss, textList vs = .ok ss := by
  induction vs with
  | nil => exact ⟨[], rfl⟩
  | cons v vs ih =>
    obtain ⟨ss, hss⟩ := ih fun w hw => h w (List.mem_cons_of_mem v hw)
    have hv := h v List.mem_cons_self
    cases v with
    | null => exact ⟨ss, by rw [textList, hss]⟩
    | text s => exact ⟨s :: ss, by rw [textList, hss]; rfl⟩
    | _ => cases hv

theorem textList_of_unlisted {vs : List Json.Value} (h : ¬∀ v ∈ vs, isListed v = true) :
    textList vs = .error (shown .texts (.array vs)) := by
  induction vs with
  | nil => exact absurd (fun _ hv => nomatch hv) h
  | cons v vs ih =>
    have hrest : isListed v = true → ¬∀ w ∈ vs, isListed w = true := fun hv hvs =>
      h fun w hw => (List.mem_cons.mp hw).elim (· ▸ hv) (hvs w)
    cases v with
    | null => simp [textList, ih (hrest rfl), shown, isListed]
    | text s => simp [textList, ih (hrest rfl), shown, isListed, Except.map]
    | _ => simp [textList, shown, isListed]

theorem accept_of_takes {c : Cell} {v : Json.Value} (h : c.Takes v) : ∃ a, c.accept v = .ok a := by
  unfold Takes at h
  split at h
  case h_1 n =>
    obtain ⟨d, hd⟩ := Option.isSome_iff_exists.mp h
    exact ⟨d, by simp [accept, hd]⟩
  case h_2 s =>
    obtain ⟨d, hd⟩ := Option.isSome_iff_exists.mp h
    exact ⟨d, by simp [accept, hd]⟩
  case h_3 n =>
    obtain ⟨i, hi⟩ := Option.isSome_iff_exists.mp h
    exact ⟨i, by simp [accept, hi]⟩
  case h_7 vs => exact textList_of_listed h
  case h_9 => exact ⟨v, rfl⟩
  case h_10 => exact h.elim
  all_goals exact ⟨_, rfl⟩

theorem accept_of_not_takes {c : Cell} {v : Json.Value} (h : ¬c.Takes v) :
    c.accept v = .error (c.shown v) := by
  unfold accept
  split
  case h_1 n =>
    have hnone : Decimal.ofNumber? n = none := by simpa [Takes] using h
    rw [hnone]
    rfl
  case h_2 s =>
    have hnone : Decimal.ofText? s = none := by simpa [Takes] using h
    rw [hnone]
    rfl
  case h_3 n =>
    have hnone : n.integer? = none := by simpa [Takes] using h
    rw [hnone]
    rfl
  case h_7 vs => exact textList_of_unlisted h
  case h_10 => unfold shown; split <;> simp_all
  all_goals exact absurd trivial h

end Cell

namespace Column

/-- Whether a row has nothing where the column reads, or something that is taken. -/
def Fits (c : Column) (values : List Json.Value) : Prop :=
  ∀ v, values[c.index]? = some v → v = .null ∨ c.cell.Takes v

/-- Whether a failure points at what a row has where the column reads, and that is not taken. -/
def Rejects (c : Column) (record : String) (values : List Json.Value) (e : DecodeError) : Prop :=
  ∃ v, values[c.index]? = some v ∧ v ≠ .null ∧ ¬c.cell.Takes v ∧
    e = .mismatch record c.field c.index c.cell.expected (c.cell.shown v) (Row.render values)

theorem Rejects.not_fits {c : Column} {record : String} {values : List Json.Value}
    {e : DecodeError} (h : c.Rejects record values e) : ¬c.Fits values := by
  obtain ⟨v, hv, hnull, htakes, -⟩ := h
  intro hfits
  exact (hfits v hv).elim hnull htakes

end Column

/-- The values of the columns behind the first `n`. -/
def Values.behind : (n : Nat) → {cs : List Column} → Values cs → Values (cs.drop n)
  | 0, _, vs => vs
  | _ + 1, [], vs => vs
  | n + 1, _ :: _, (_, vs) => behind n vs

namespace Row

variable {row : Row}

theorem get?_eq_some_iff {i : Nat} {v : Json.Value} :
    row.get? i = some v ↔ row.values[i]? = some v ∧ v ≠ .null := by
  unfold get?
  split
  case h_1 h => simp [h, eq_comm]
  case h_2 hnull =>
    refine ⟨fun h => ⟨h, ?_⟩, And.left⟩
    rintro rfl
    exact hnull h

theorem get?_eq_none_iff {i : Nat} :
    row.get? i = none ↔ ∀ v, row.values[i]? = some v → v = .null := by
  simp only [Option.eq_none_iff_forall_ne_some, ne_eq, get?_eq_some_iff, not_and, Classical.not_not]

theorem read_nested_eq_iff (row : Row) (field : String) (i : Nat) (values : List Json.Value) :
    row.read .nested field i = .ok (some values) ↔ row.values[i]? = some (.array values) := by
  have hpresent : row.values[i]? = some (.array values) ↔ row.get? i = some (.array values) := by
    simp [get?_eq_some_iff]
  rw [hpresent, read]
  cases row.get? i with
  | none => simp [Cell.zero]
  | some v => cases v <;> simp [Cell.accept, mapError_ok, mapError_error]

/-- The element of a column is read, or the failure points at it. -/
theorem read_cases (row : Row) (c : Column) :
    (c.Fits row.values ∧ ∃ v, row.read c.cell c.field c.index = .ok v) ∨
      ∃ e, row.read c.cell c.field c.index = .error e ∧ c.Rejects row.record row.values e := by
  rw [read]
  cases hget : row.get? c.index with
  | none =>
    have hnull := get?_eq_none_iff.mp hget
    exact .inl ⟨fun v hv => .inl (hnull v hv), c.cell.zero, rfl⟩
  | some v =>
    obtain ⟨hv, hnull⟩ := get?_eq_some_iff.mp hget
    by_cases htakes : c.cell.Takes v
    · obtain ⟨a, ha⟩ := Cell.accept_of_takes htakes
      refine .inl ⟨fun w hw => .inr ?_, a, by simp [ha, mapError_ok]⟩
      obtain rfl : v = w := Option.some.inj (hv.symm.trans hw)
      exact htakes
    · refine .inr ⟨_, ?_, v, hv, hnull, htakes, rfl⟩
      simp [Cell.accept_of_not_takes htakes, mapError_error, mismatch]

/-- All columns are read, or the failure points at the element of one of them. -/
theorem readAll_cases (row : Row) (cs : List Column) :
    ((∀ c ∈ cs, c.Fits row.values) ∧ ∃ vs, row.readAll cs = .ok vs) ∨
      ∃ e, row.readAll cs = .error e ∧ ∃ c ∈ cs, c.Rejects row.record row.values e := by
  induction cs with
  | nil => exact .inl ⟨by simp, (), rfl⟩
  | cons c cs ih =>
    rw [readAll_cons]
    rcases read_cases row c with ⟨hfits, v, hv⟩ | ⟨e, he, hrejects⟩
    · rw [hv]
      rcases ih with ⟨hrest, vs, hvs⟩ | ⟨e, he, c', hc', hrejects⟩
      · refine .inl ⟨fun c' hc' => ?_, (v, vs), by rw [hvs]; rfl⟩
        exact (List.mem_cons.mp hc').elim (· ▸ hfits) (hrest c')
      · exact .inr ⟨e, by rw [he]; rfl, c', List.mem_cons_of_mem c hc', hrejects⟩
    · exact .inr ⟨e, by rw [he]; rfl, c, List.mem_cons_self, hrejects⟩

/-- The first of some columns is read, and so are the others. -/
theorem readAll_cons_eq_ok {c : Column} {cs : List Column} {a : c.cell.Value} {vs : Values cs}
    (h : row.readAll (c :: cs) = .ok (a, vs)) :
    row.read c.cell c.field c.index = .ok a ∧ row.readAll cs = .ok vs := by
  rw [readAll_cons] at h
  cases ha : row.read c.cell c.field c.index with
  | error e => rw [ha] at h; cases h
  | ok a' =>
    cases hvs : row.readAll cs with
    | error e => rw [ha, hvs] at h; cases h
    | ok vs' => rw [ha, hvs] at h; cases h; exact ⟨rfl, rfl⟩

theorem readAll_behind (n : Nat) {cs : List Column} {vs : Values cs}
    (h : row.readAll cs = .ok vs) : row.readAll (cs.drop n) = .ok (vs.behind n) := by
  induction n generalizing cs with
  | zero => exact h
  | succ n ih =>
    cases cs with
    | nil => exact h
    | cons c cs =>
      exact ih (readAll_cons_eq_ok h).2

end Row

namespace Layout

/-- Whether a row is long enough and has what every column takes. -/
def Takes (l : Layout α) (values : List Json.Value) : Prop :=
  l.least ≤ values.length ∧ ∀ c ∈ l.columns, c.Fits values

/-- A failure of a row that is too short, or one that points at an element that is not taken. -/
def Faults (l : Layout α) (values : List Json.Value) (e : DecodeError) : Prop :=
  (values.length < l.least ∧
      e = .tooShort l.record l.least values.length (Row.render values)) ∨
    ∃ c ∈ l.columns, c.Rejects l.record values e

theorem Faults.not_takes {l : Layout α} {values : List Json.Value} {e : DecodeError}
    (h : l.Faults values e) : ¬l.Takes values := by
  rintro ⟨hleast, hfits⟩
  rcases h with ⟨hshort, -⟩ | ⟨c, hc, hrejects⟩
  · omega
  · exact hrejects.not_fits (hfits c hc)

/-- A row is read completely and the record is built from it, or it is at fault. -/
theorem decode_cases (l : Layout α) (values : List Json.Value) :
    (l.Takes values ∧ ∃ vs, Row.readAll ⟨l.record, values⟩ l.columns = .ok vs ∧
        l.decode values = l.build vs) ∨
      ∃ e, l.decode values = .error e ∧ l.Faults values e := by
  by_cases hleast : l.least ≤ values.length
  · rw [l.decode_of_le hleast, decodeRow_eq]
    rcases Row.readAll_cases ⟨l.record, values⟩ l.columns with ⟨hfits, vs, hvs⟩ | ⟨e, he, hrejects⟩
    · exact .inl ⟨⟨hleast, hfits⟩, vs, hvs, by rw [hvs]; rfl⟩
    · exact .inr ⟨e, by rw [he]; rfl, .inr hrejects⟩
  · have hshort := Nat.lt_of_not_le hleast
    exact .inr ⟨_, l.decode_of_lt hshort, .inl ⟨hshort, rfl⟩⟩

/-- What a record is built from has been read from the row. -/
theorem exists_readAll {l : Layout α} {values : List Json.Value} {a : α}
    (h : l.decode values = .ok a) :
    ∃ vs, Row.readAll ⟨l.record, values⟩ l.columns = .ok vs ∧ l.build vs = .ok a := by
  rcases l.decode_cases values with ⟨-, vs, hvs, hdecode⟩ | ⟨e, he, -⟩
  · exact ⟨vs, hvs, hdecode.symm.trans h⟩
  · cases he.symm.trans h

end Layout

namespace Profile

/-- What a post may hold in place of a profile: nothing, or the row of one, flat or wrapped once. -/
inductive Stands : List Json.Value → Prop where
  | empty : Stands []
  | null : Stands [.null]
  | flat {row : List Json.Value} (h : layout.Takes row) : Stands row
  | wrapped {row : List Json.Value} (h : layout.Takes row) : Stands [.array row]

/-- The row of a profile inside of a post. -/
inductive RowIn : List Json.Value → List Json.Value → Prop where
  | flat {row : List Json.Value} (h : ∀ values, row ≠ [.array values]) : RowIn row row
  | wrapped (row : List Json.Value) : RowIn [.array row] row

theorem decode_cases (row : List Json.Value) :
    (layout.Takes row ∧ ∃ p, layout.decode row = .ok p) ∨
      ∃ e, layout.decode row = .error e ∧ layout.Faults row e := by
  rcases layout.decode_cases row with ⟨htakes, vs, -, hdecode⟩ | hfault
  · exact .inl ⟨htakes, _, hdecode⟩
  · exact .inr hfault

theorem Stands.takes {row : List Json.Value} (h : Stands row) (hempty : row ≠ [])
    (hnull : row ≠ [.null]) (hflat : ∀ values, row ≠ [.array values]) : layout.Takes row := by
  cases h with
  | empty => exact absurd rfl hempty
  | null => exact absurd rfl hnull
  | flat h => exact h
  | wrapped => exact absurd rfl (hflat _)

theorem Stands.takes_of_wrapped {row : List Json.Value} (h : Stands [.array row]) :
    layout.Takes row := by
  cases h with
  | flat h =>
    have hleast : 10 ≤ 1 := h.1
    omega
  | wrapped h => exact h

/-- What a post holds in place of a profile is taken, or the row of the profile is at fault. -/
theorem ofNested_cases (values : List Json.Value) :
    (Stands values ∧ ∃ p, ofNested (some values) = .ok p) ∨
      ∃ e row, ofNested (some values) = .error e ∧ ¬Stands values ∧ RowIn values row ∧
        layout.Faults row e := by
  unfold ofNested
  split
  case h_1 h => cases h
  case h_2 h => cases h; exact .inl ⟨.empty, none, rfl⟩
  case h_3 h => cases h; exact .inl ⟨.null, none, rfl⟩
  case h_4 row h =>
    cases h
    rcases decode_cases row with ⟨htakes, p, hp⟩ | ⟨e, he, hfault⟩
    · exact .inl ⟨.wrapped htakes, some p, by rw [hp]; rfl⟩
    · exact .inr ⟨e, row, by rw [he]; rfl, fun h => hfault.not_takes h.takes_of_wrapped,
        .wrapped row, hfault⟩
  case h_5 row hempty hnull hflat h =>
    cases h
    have hwrapped : ∀ inner, values ≠ [.array inner] := fun inner heq => hflat inner (by rw [heq])
    rcases decode_cases values with ⟨htakes, p, hp⟩ | ⟨e, he, hfault⟩
    · exact .inl ⟨.flat htakes, some p, by rw [hp]; rfl⟩
    · refine .inr ⟨e, values, by rw [he]; rfl, fun h => hfault.not_takes ?_, .flat hwrapped, hfault⟩
      exact h.takes (fun heq => hempty (by rw [heq])) (fun heq => hnull (by rw [heq])) hwrapped

end Profile

namespace Post

/-- The last element that a post reads is what it holds in place of a profile. -/
theorem exists_nested {row : Row} {vs : Values layout.columns}
    (h : row.readAll layout.columns = .ok vs) :
    ∃ nested, row.read .nested "profile" 18 = .ok nested ∧
      ∃ f : Option Profile → Post, layout.build vs = (Profile.ofNested nested).map f := by
  obtain ⟨id, mts, userId, title, content, pinned, isPublic, commentsDisabled, tags, attachments,
    details, likes, nested, ⟨⟩⟩ := vs
  have hlast : row.readAll [⟨"profile", 18, .nested⟩] = .ok (nested, ()) := Row.readAll_behind 12 h
  exact ⟨nested, (Row.readAll_cons_eq_ok hlast).1, _, rfl⟩

/-- A post that is read from its elements is built, or the row of its profile is at fault. -/
theorem build_cases {row : Row} {vs : Values layout.columns}
    (h : row.readAll layout.columns = .ok vs) :
    ((∀ nested, row.values[18]? = some (.array nested) → Profile.Stands nested) ∧
        ∃ post, layout.build vs = .ok post) ∨
      ∃ e nested profile, layout.build vs = .error e ∧ row.values[18]? = some (.array nested) ∧
        ¬Profile.Stands nested ∧ Profile.RowIn nested profile ∧ Profile.layout.Faults profile e := by
  obtain ⟨found, hread, f, hbuild⟩ := exists_nested h
  rw [hbuild]
  have hfound := row.read_nested_eq_iff "profile" 18
  rw [hread] at hfound
  cases found with
  | none =>
    refine .inl ⟨fun nested hnested => ?_, f none, rfl⟩
    cases (hfound nested).mpr hnested
  | some values =>
    have hvalues := (hfound values).mp rfl
    rcases Profile.ofNested_cases values with ⟨hstands, p, hp⟩ |
      ⟨e, profile, he, hstands, hrow, hfault⟩
    · refine .inl ⟨fun nested hnested => ?_, f p, by rw [hp]; rfl⟩
      cases (hfound nested).mpr hnested
      exact hstands
    · exact .inr ⟨e, values, profile, by rw [he]; rfl, hvalues, hstands, hrow, hfault⟩

end Post

namespace Schema

/-- Whether a schema takes all that it reads of a row. -/
def Takes (s : Schema) (values : List Json.Value) : Prop :=
  s.layout.Takes values ∧
    (s = .post → ∀ nested, values[18]? = some (.array nested) → Profile.Stands nested)

/-- The rows that failures of a schema are about, with the records they should hold and the columns
that read them: the row itself, and the row of the profile inside of a post. -/
inductive Reads (s : Schema) (values : List Json.Value) :
    String → List Column → List Json.Value → Prop where
  | whole : Reads s values s.layout.record s.layout.columns values
  | profile {nested row : List Json.Value} (hs : s = .post)
      (hnested : values[18]? = some (.array nested)) (hrow : Profile.RowIn nested row) :
      Reads s values Profile.layout.record Profile.layout.columns row

/-- A record other than a post is built from whatever its columns read. -/
theorem build_of_ne_post {s : Schema} (h : s ≠ .post) (vs : Values s.layout.columns) :
    ∃ e, s.layout.build vs = .ok e := by
  cases s with
  | post => exact absurd rfl h
  | book l => cases l <;> exact ⟨_, rfl⟩
  | _ => exact ⟨_, rfl⟩

/-- Failures of a row that is long enough. They point at an element of the row that they name, where
it is present and the column of the field does not take it, and they keep the text of that element
and of that row. Otherwise the row of a profile is too short. -/
inductive Faults (s : Schema) (values : List Json.Value) : DecodeError → Prop where
  | element {record : String} {columns : List Column} {row : List Json.Value} {c : Column}
      {v : Json.Value} (hreads : s.Reads values record columns row) (hc : c ∈ columns)
      (hv : row[c.index]? = some v) (hnull : v ≠ .null) (htakes : ¬c.cell.Takes v) :
      Faults s values (.mismatch record c.field c.index c.cell.expected (c.cell.shown v)
        (Row.render row))
  | profile {row : List Json.Value}
      (hreads : s.Reads values Profile.layout.record Profile.layout.columns row)
      (hshort : row.length < 10) :
      Faults s values (.tooShort "profile" 10 row.length (Row.render row))

theorem Reads.faults {s : Schema} {values row : List Json.Value} {record : String}
    {columns : List Column} (h : s.Reads values record columns row) {c : Column} {e : DecodeError}
    (hc : c ∈ columns) (hrejects : c.Rejects record row e) : s.Faults values e := by
  obtain ⟨v, hv, hnull, htakes, rfl⟩ := hrejects
  exact .element h hc hv hnull htakes

/-- A row that is long enough is taken and decoded, or it is at fault. -/
theorem decode_cases (s : Schema) {values : List Json.Value}
    (hleast : s.layout.least ≤ values.length) :
    (s.Takes values ∧ ∃ e, s.decode values = .ok e) ∨
      ∃ e, s.decode values = .error e ∧ ¬s.Takes values ∧ s.Faults values e := by
  rcases s.layout.decode_cases values with ⟨htakes, vs, hvs, hdecode⟩ | ⟨e, he, hfault⟩
  -- Only a post can fail after its own elements have been read.
  · by_cases hs : s = .post
    · subst hs
      have hbuild : Schema.post.layout.build vs = (Post.layout.build vs).map .post := rfl
      rcases Post.build_cases hvs with ⟨hstands, post, hpost⟩ |
        ⟨e, nested, row, he, hnested, hstands, hrow, hfault⟩
      · refine .inl ⟨⟨htakes, fun _ => hstands⟩, .post post, ?_⟩
        rw [decode, hdecode, hbuild, hpost]
        rfl
      · have hreads : Reads .post values _ _ row := .profile rfl hnested hrow
        refine .inr ⟨e, ?_, fun h => hstands (h.2 rfl nested hnested), ?_⟩
        · rw [decode, hdecode, hbuild, he]
          rfl
        · rcases hfault with ⟨hshort, rfl⟩ | ⟨c, hc, hrejects⟩
          · exact .profile hreads hshort
          · exact hreads.faults hc hrejects
    · obtain ⟨e, he⟩ := build_of_ne_post hs vs
      exact .inl ⟨⟨htakes, fun h => absurd h hs⟩, e, hdecode.trans he⟩
  · refine .inr ⟨e, he, fun h => hfault.not_takes h.1, ?_⟩
    rcases hfault with ⟨hshort, -⟩ | ⟨c, hc, hrejects⟩
    · omega
    · exact Reads.whole.faults hc hrejects

/-- A row that is long enough is decoded exactly if the schema takes all that it reads of it, and
otherwise the failure points at what it does not take. -/
theorem decodes_exactly (s : Schema) (values : List Json.Value)
    (hleast : s.layout.least ≤ values.length) :
    ((∃ e, s.decode values = .ok e) ↔ s.Takes values) ∧
      ∀ e, s.decode values = .error e → s.Faults values e := by
  rcases s.decode_cases hleast with ⟨htakes, e, he⟩ | ⟨e, he, htakes, hfault⟩
  · refine ⟨⟨fun _ => htakes, fun _ => ⟨e, he⟩⟩, fun e' he' => ?_⟩
    cases he.symm.trans he'
  · refine ⟨⟨fun ⟨e', he'⟩ => ?_, fun h => absurd h htakes⟩, fun e' he' => ?_⟩
    · cases he.symm.trans he'
    · cases he.symm.trans he'
      exact hfault

/-- A post whose profile, wrapped once, has a word where it should count the followers. -/
theorem decodes_exactly_profile :
    let profile := List.replicate 11 Json.Value.null ++ [.text "many"]
    let values := List.replicate 18 Json.Value.null ++ [.array [.array profile]]
    (Schema.post.layout.least ≤ values.length ∧ ¬Schema.post.Takes values) ∧
      Schema.post.Faults values (.mismatch "profile" "followers" 11 "integer" "\"many\""
        (Row.render profile)) := by
  intro profile values
  have hdecode : Schema.post.decode values = .error (.mismatch "profile" "followers" 11 "integer"
      "\"many\"" (Row.render profile)) := rfl
  obtain ⟨htakes, hfault⟩ := decodes_exactly .post values (by decide)
  refine ⟨⟨by decide, fun h => ?_⟩, hfault _ hdecode⟩
  obtain ⟨e, he⟩ := htakes.mpr h
  cases hdecode.symm.trans he

end Schema
end MarketWire
