import MarketWire.Proofs.Record.Acceptance

/-!
# Two forms of profiles

A post holds the row of its author's profile as it is, or wrapped in an array once more. The profile
is the last that a post reads, so the form makes no difference to what is read before it, and both
forms lead to the same row. The exceptions are no elements and a lone `null`. They mean that there is
no profile, but only as they are: wrapped, they are the row of a profile, and one too short.
-/
namespace MarketWire

namespace Alike

variable {r : Except DecodeError α}

theorem eq_ok {a : α} (h : Alike (.ok a) r) : r = .ok a := by
  cases r with
  | ok b =>
    cases h
    rfl
  | error e => cases h

theorem exists_error {e : DecodeError} (h : Alike (.error e) r) :
    ∃ e', r = .error e' ∧ e.cause = e'.cause := by
  cases r with
  | ok a => cases h
  | error e' => exact ⟨e', rfl, Except.error.inj h⟩

end Alike

/-- The values of columns with that of one more column behind them. -/
def Values.snoc : {cs : List Column} → {c : Column} → Values cs → c.cell.Value → Values (cs ++ [c])
  | [], _, (), x => (x, ())
  | _ :: _, _, (v, vs), x => (v, vs.snoc x)

namespace Row

theorem readAll_concat (row : Row) (cs : List Column) (c : Column) :
    row.readAll (cs ++ [c]) =
      (row.readAll cs).bind fun vs => (row.read c.cell c.field c.index).map vs.snoc := by
  induction cs with
  | nil =>
    refine (row.readAll_cons c []).trans ?_
    cases row.read c.cell c.field c.index <;> rfl
  | cons d cs ih =>
    refine (row.readAll_cons d (cs ++ [c])).trans ?_
    rw [ih, readAll_cons]
    cases row.read d.cell d.field d.index with
    | error e => rfl
    | ok v =>
      cases row.readAll cs with
      | error e => rfl
      | ok vs => cases row.read c.cell c.field c.index <;> rfl

/-- Whether rows have the same elements where columns read. -/
def AgreeOn (cs : List Column) (values values' : List Json.Value) : Prop :=
  ∀ c ∈ cs, values[c.index]? = values'[c.index]?

theorem AgreeOn.alike_readAll {cs : List Column} {values values' : List Json.Value}
    (h : AgreeOn cs values values') (record : String) :
    Alike (readAll ⟨record, values⟩ cs) (readAll ⟨record, values'⟩ cs) := by
  refine Row.alike_readAll ?_ fun c hc => ?_
  · rfl
  · simp [get?, h c hc]

/-- Rows that agree with one row all give its values, or all fail at one of its elements, each with
its own text. -/
theorem readAll_of_agreeOn (record : String) (values : List Json.Value) (cs : List Column) :
    (∃ vs, ∀ values', AgreeOn cs values values' → readAll ⟨record, values'⟩ cs = .ok vs) ∨
      ∃ c ∈ cs, ∃ found, ∀ values', AgreeOn cs values values' →
        readAll ⟨record, values'⟩ cs =
          .error (.mismatch record c.field c.index c.cell.expected found (render values')) := by
  rcases readAll_cases ⟨record, values⟩ cs with ⟨-, vs, hvs⟩ | ⟨e, he, c, hc, v, -, -, -, rfl⟩
  · refine .inl ⟨vs, fun values' hagree => ?_⟩
    have halike := hagree.alike_readAll record
    rw [hvs] at halike
    exact halike.eq_ok
  · refine .inr ⟨c, hc, c.cell.shown v, fun values' hagree => ?_⟩
    have halike := hagree.alike_readAll record
    rw [he] at halike
    obtain ⟨e', he', hcause⟩ := halike.exists_error
    -- The other row fails at an element of its own, and the causes tell that it is the same one.
    rcases readAll_cases ⟨record, values'⟩ cs with
      ⟨-, vs', hvs'⟩ | ⟨_, hmismatch, c', -, v', -, -, -, rfl⟩
    · rw [hvs'] at he'
      cases he'
    · obtain rfl := Except.error.inj (he'.symm.trans hmismatch)
      simp only [DecodeError.cause, DecodeError.mismatch.injEq, true_and, and_true] at hcause
      obtain ⟨hfield, hindex, hexpected, hfound⟩ := hcause
      rw [he', hfield, hindex, hexpected, hfound]

end Row

namespace Profile

/-- What stands for a profile apart from no elements and a lone `null` is the row of one, flat as it
is or wrapped once more. -/
theorem ofNested_forms {p : List Json.Value} (hhead : ∀ values, p.head? ≠ some (.array values))
    (hempty : p ≠ []) (hnull : p ≠ [.null]) :
    ofNested (some p) = (layout.decode p).map some := by
  unfold ofNested
  split
  case h_1 h => cases h
  case h_2 h => exact absurd (Option.some.inj h) hempty
  case h_3 h => exact absurd (Option.some.inj h) hnull
  case h_4 values h =>
    cases h
    exact absurd rfl (hhead values)
  case h_5 values _ _ _ h =>
    cases h
    rfl

end Profile

namespace Post

/-- The columns of a post other than that of its profile. -/
def ownColumns : List Column := layout.columns.take 12

theorem index_ne_of_mem_ownColumns : ∀ c ∈ ownColumns, 18 ≠ c.index := by decide

/-- The post without a profile that has these values. -/
def ofOwn : Values ownColumns → Post :=
  fun (id, mts, userId, title, content, pinned, isPublic, commentsDisabled, tags, attachments,
      details, likes, ()) =>
    ⟨id, mts, userId, title, content, pinned, isPublic, commentsDisabled, tags, attachments, details,
      likes, none⟩

def withProfile (post : Post) (profile : Option Profile) : Post := { post with profile := profile }

theorem build_snoc (vs : Values ownColumns) (nested : Option (List Json.Value)) :
    layout.build (Values.snoc (c := ⟨"profile", 18, .nested⟩) vs nested) =
      (Profile.ofNested nested).map (ofOwn vs).withProfile := rfl

theorem agreeOn_set (row : List Json.Value) (v : Json.Value) :
    Row.AgreeOn ownColumns row (row.set 18 v) := fun c hc =>
  (List.getElem?_set_ne (index_ne_of_mem_ownColumns c hc)).symm

/-- A post reads its own elements, and then the profile that its row holds. -/
theorem decode_of_nested {values nested : List Json.Value}
    (h : values[18]? = some (.array nested)) :
    layout.decode values = (Row.readAll ⟨"post", values⟩ ownColumns).bind fun vs =>
      (Profile.ofNested (some nested)).map (ofOwn vs).withProfile := by
  obtain ⟨hlength, -⟩ := List.getElem?_eq_some_iff.mp h
  have hleast : 12 ≤ values.length := by omega
  have hread : Row.readAll ⟨"post", values⟩ layout.columns =
      (Row.readAll ⟨"post", values⟩ ownColumns).bind fun vs =>
        (Row.read ⟨"post", values⟩ .nested "profile" 18).map (Values.snoc vs) :=
    Row.readAll_concat _ ownColumns ⟨"profile", 18, .nested⟩
  rw [(Row.read_nested_eq_iff ⟨"post", values⟩ "profile" 18 nested).mpr h] at hread
  rw [layout.decode_of_le hleast, layout.decodeRow_eq]
  refine (congrArg (Except.bind · layout.build) hread).trans ?_
  cases Row.readAll ⟨"post", values⟩ ownColumns with
  | error e => rfl
  | ok vs => exact build_snoc vs (some nested)

/-- The profile of a post means the same flat and wrapped, but for no elements and a lone `null`,
which flat stand for no profile. Elements that a post reads before it come out the same or fail the
same in both forms, and a failure keeps the text of the row that was decoded. -/
theorem profile_forms_agree {row p : List Json.Value} (hrow : 18 < row.length)
    (hhead : ∀ values, p.head? ≠ some (.array values)) :
    let flat := row.set 18 (.array p)
    let wrapped := row.set 18 (.array [.array p])
    (∃ c ∈ ownColumns, ∃ found,
        layout.decode flat =
          .error (.mismatch "post" c.field c.index c.cell.expected found (Row.render flat)) ∧
        layout.decode wrapped =
          .error (.mismatch "post" c.field c.index c.cell.expected found (Row.render wrapped))) ∨
      ∃ vs, Row.readAll ⟨"post", row⟩ ownColumns = .ok vs ∧
        (p ≠ [] → p ≠ [.null] →
          layout.decode flat =
            (Profile.layout.decode p).map (fun profile => (ofOwn vs).withProfile (some profile)) ∧
          layout.decode wrapped = layout.decode flat) ∧
        (p = [] ∨ p = [.null] → layout.decode flat = .ok (ofOwn vs)) := by
  intro flat wrapped
  have hset (nested : List Json.Value) :=
    decode_of_nested (List.getElem?_set_self hrow (a := .array nested))
  rcases Row.readAll_of_agreeOn "post" row ownColumns with ⟨vs, hvs⟩ | ⟨c, hc, found, herror⟩
  · have hdecode (nested : List Json.Value) : layout.decode (row.set 18 (.array nested)) =
        (Profile.ofNested (some nested)).map (ofOwn vs).withProfile := by
      rw [hset, hvs _ (agreeOn_set row _)]
      rfl
    refine .inr ⟨vs, hvs row fun _ _ => rfl, fun hempty hnull => ?_, ?_⟩
    · have hflat : layout.decode flat =
          (Profile.layout.decode p).map (fun profile => (ofOwn vs).withProfile (some profile)) := by
        rw [hdecode p, Profile.ofNested_forms hhead hempty hnull]
        cases Profile.layout.decode p <;> rfl
      refine ⟨hflat, ?_⟩
      rw [hdecode p, hdecode [.array p], Profile.ofNested_forms hhead hempty hnull]
      rfl
    · rintro (rfl | rfl)
      · exact hdecode []
      · exact hdecode [.null]
  · refine .inl ⟨c, hc, found, ?_, ?_⟩
    · rw [hset, herror flat (agreeOn_set row _)]
      rfl
    · rw [hset, herror wrapped (agreeOn_set row _)]
      rfl

/-- A post that holds nothing but a profile with a name. -/
theorem profile_forms_agree_named :
    let row := List.replicate 19 Json.Value.null
    let p := .text "abc123" :: List.replicate 9 Json.Value.null
    (18 < row.length ∧ ∀ values, p.head? ≠ some (.array values)) ∧
      ∃ post, post.profile = some ⟨"abc123", 0, "", "", "", "", 0, 0⟩ ∧
        layout.decode (row.set 18 (.array p)) = .ok post ∧
        layout.decode (row.set 18 (.array [.array p])) = .ok post := by
  intro row p
  have hrow : 18 < row.length := by decide
  have hhead : ∀ values, p.head? ≠ some (.array values) := by
    intro values h
    cases h
  refine ⟨⟨hrow, hhead⟩, ?_⟩
  have hprofile : Profile.layout.decode p = .ok ⟨"abc123", 0, "", "", "", "", 0, 0⟩ := rfl
  rcases profile_forms_agree hrow hhead with ⟨c, hc, found, herror, -⟩ | ⟨vs, -, hforms, -⟩
  · cases herror
  · obtain ⟨hflat, hwrapped⟩ := hforms (List.cons_ne_nil _ _) (by simp [p])
    rw [hprofile] at hflat
    exact ⟨_, rfl, hflat, hwrapped.trans hflat⟩

/-- No elements and a lone `null` stand for no profile, but wrapped they are the row of one. And a
failure at another element keeps its own text of the row in each form. -/
theorem profile_forms_differ :
    let row := List.replicate 19 Json.Value.null
    let late := row.set 1 (.text "late")
    ((layout.decode (row.set 18 (.array []))).map (·.profile) = .ok none ∧
        layout.decode (row.set 18 (.array [.array []])) = .error (.tooShort "profile" 10 0 "[]")) ∧
      ((layout.decode (row.set 18 (.array [.null]))).map (·.profile) = .ok none ∧
        layout.decode (row.set 18 (.array [.array [.null]])) =
          .error (.tooShort "profile" 10 1 "[null]")) ∧
      layout.decode (late.set 18 (.array [.null])) ≠
        layout.decode (late.set 18 (.array [.array [.null]])) := by
  intro row late
  refine ⟨⟨rfl, rfl⟩, ⟨rfl, rfl⟩, fun h => ?_⟩
  have hlate (nested : List Json.Value) : layout.decode (late.set 18 (.array nested)) = .error
      (.mismatch "post" "mts" 1 "integer" "\"late\"" (Row.render (late.set 18 (.array nested)))) := rfl
  have hraw : Row.render (late.set 18 (.array [.null])) ≠
      Row.render (late.set 18 (.array [.array [.null]])) := by
    decide +kernel
  rw [hlate, hlate] at h
  exact hraw (DecodeError.mismatch.inj (Except.error.inj h)).2.2.2.2.2

end Post
end MarketWire
