import MarketWire.Proofs.Json.NumberText
import MarketWire.Proofs.Json.Quoted

/-!
# Reading written values

Every value is written as one tree, and no other value is written as that. The tree gives back the
value as long as its numbers are whole, its objects are in order and it nests no deeper than texts
may. The members of an object may be written in any order.
-/
namespace MarketWire
namespace Json

theorem token?_blank {c : Char} (h : isBlank c = true) (cs : List Char) :
    token? (c :: cs) = none := by
  simp only [isBlank, Bool.or_eq_true, beq_iff_eq] at h
  rcases h with ((rfl | rfl) | rfl) | rfl <;> rfl

theorem tokens?_of_token {cs rest : List Char} {t : Token} (h : token? cs = some (t, rest)) :
    tokens? cs = (tokens? rest).map (t :: ·) := by
  cases cs with
  | nil => cases h
  | cons c cs =>
    have hblank : isBlank c ≠ true := by
      intro hc
      rw [token?_blank hc] at h
      cases h
    rw [tokens?, if_neg hblank]
    split
    case h_1 heq =>
      rw [h] at heq
      cases heq
      rfl
    case h_2 heq =>
      rw [h] at heq
      cases heq

namespace Tree

/-- The state behind a text. -/
def advance (s : State) (cs : List Char) : Option State := (tokens? cs).bind (run s)

theorem advance_of_token {cs rest : List Char} {t : Token} (h : token? cs = some (t, rest))
    (s : State) : advance s cs = (step s t).bind (advance · rest) := by
  unfold advance
  rw [tokens?_of_token h]
  cases tokens? rest <;> simp [run]

theorem advance_mark {c : Char} {t : Token} (h : mark? c = some t) (s : State) (cs : List Char) :
    advance s (c :: cs) = (step s t).bind (advance · cs) :=
  advance_of_token (by simp [token?, h]) s

/-- Whether a value may come next. -/
def Expect.IsValue (e : Expect) : Prop := e = .value ∨ e = .valueOrClose

/-- Wherever a value may come, the text gives the tree. -/
def Reads (cs : List Char) (v : Tree) : Prop :=
  ∀ os e rest, Expect.IsValue e → EndsNumber rest →
    advance ⟨os, e⟩ (cs ++ rest) = advance (put v os) rest

theorem step_value {os : List Open} {e : Expect} (he : e.IsValue) {t : Token}
    (ht : t ≠ .closeArray) : step ⟨os, e⟩ t = beginValue os t := by
  rcases he with rfl | rfl
  · rfl
  · cases t <;> first | rfl | exact absurd rfl ht

theorem reads_of_scalar {cs : List Char} {t : Token} {v : Tree} (hv : scalar? t = some v)
    (h : ∀ rest, EndsNumber rest → token? (cs ++ rest) = some (t, rest)) : Reads cs v := by
  intro os e rest he hrest
  have hclose : t ≠ .closeArray := by rintro rfl; cases hv
  have hbegin : beginValue os t = some (put v os) := by
    cases t <;> cases hv <;> rfl
  rw [advance_of_token (h rest hrest), step_value he hclose, hbegin]
  rfl

theorem endsNumber_mark {c : Char} {t : Token} (h : mark? c = some t) (cs : List Char) :
    EndsNumber (c :: cs) := by
  rintro _ ⟨⟩
  unfold mark? at h
  split at h <;> first | decide | cases h

end Tree

namespace Value

open Json.Tree

/-! ## The tree that a value is written as -/

mutual

/-- The tree that a value is written as. -/
def tree : Value → Tree
  | .null => .null
  | .bool b => .bool b
  | .number n => .number n.token
  | .text s => .text (s.toList.map unitOf)
  | .array items => .array (itemTrees items)
  | .object fields => .object (memberTrees fields)

def itemTrees : List Value → List Tree
  | [] => []
  | v :: vs => tree v :: itemTrees vs

def memberTrees : List (String × Value) → List (List TextUnit × Tree)
  | [] => []
  | (k, v) :: fs => (k.toList.map unitOf, tree v) :: memberTrees fs

end

theorem reads_bool (b : Bool) : Reads (chars (.bool b)) (.bool b) := by
  refine reads_of_scalar (t := .bool b) rfl fun rest _ => ?_
  cases b <;> rfl

theorem reads_number (n : Number) : Reads (chars (.number n)) (.number n.token) := by
  refine reads_of_scalar (t := .number n.token) rfl fun rest hrest => ?_
  rw [chars, ← Number.chars_token]
  exact (Number.legal_token n).token? hrest

-- The finished items stay behind in `done`, so the induction has to run for every `done`.
theorem advance_items (v : Value) (vs : List Value)
    (h : ∀ w ∈ v :: vs, Reads w.chars w.tree) (done : List Tree) (os : List Open) {e : Expect}
    (he : e.IsValue) (rest : List Char) :
    advance ⟨.array done :: os, e⟩ (joined [','] (itemChars (v :: vs)) ++ ']' :: rest) =
      advance (put (.array (done.reverse ++ itemTrees (v :: vs))) os) rest := by
  induction vs generalizing v done e with
  | nil =>
    have hclose : mark? ']' = some .closeArray := rfl
    simp only [itemChars, joined]
    rw [h v List.mem_cons_self _ _ _ he (endsNumber_mark hclose rest), put, advance_mark hclose]
    simp [step, afterPart, afterItem, itemTrees]
  | cons w vs ih =>
    have hcomma : mark? ',' = some .comma := rfl
    have hnext := ih w (fun x hx => h x (List.mem_cons_of_mem v hx)) (v.tree :: done)
      (e := .value) (.inl rfl)
    simp only [itemChars, joined, List.append_assoc, List.cons_append, List.nil_append] at hnext ⊢
    rw [h v List.mem_cons_self _ _ _ he (endsNumber_mark hcomma _), put, advance_mark hcomma]
    simpa [step, afterPart, afterItem, itemTrees] using hnext

theorem reads_array {items : List Value} (h : ∀ v ∈ items, Reads v.chars v.tree) :
    Reads (chars (.array items)) (.array (itemTrees items)) := by
  intro os e rest he hrest
  have hopen : mark? '[' = some .openArray := rfl
  cases items with
  | nil =>
    have hclose : mark? ']' = some .closeArray := rfl
    simp only [chars, itemChars, joined, List.nil_append, List.cons_append]
    rw [advance_mark hopen, step_value he (by decide), beginValue, Option.bind_some,
      advance_mark hclose]
    rfl
  | cons v vs =>
    simp only [chars, List.cons_append, List.append_assoc, List.nil_append]
    rw [advance_mark hopen, step_value he (by decide), beginValue, Option.bind_some,
      advance_items v vs h [] os (.inr rfl)]
    rfl

/-- Whether a key may come next, behind finished members. -/
def IsKey (done : List (List TextUnit × Tree)) (e : Expect) : Prop :=
  e = .key done ∨ e = .keyOrClose ∧ done = []

theorem advance_member {k : String} {cs : List Char} {t : Tree} (ht : Reads cs t)
    {done : List (List TextUnit × Tree)} {e : Expect} (he : IsKey done e) (os : List Open)
    {rest : List Char} (hrest : EndsNumber rest) :
    advance ⟨os, e⟩ (quotedChars k ++ ':' :: (cs ++ rest)) =
      advance ⟨.object ((k.toList.map unitOf, t) :: done) [] :: os, .more⟩ rest := by
  have hcolon : mark? ':' = some .colon := rfl
  have hkey : step ⟨os, e⟩ (.text (k.toList.map unitOf)) =
      some ⟨os, .colon done (k.toList.map unitOf)⟩ := by
    rcases he with rfl | ⟨rfl, rfl⟩ <;> rfl
  have hvalue : step ⟨os, .colon done (k.toList.map unitOf)⟩ .colon =
      some ⟨.object done (k.toList.map unitOf) :: os, .value⟩ := rfl
  rw [advance_of_token (token?_quoted k _), hkey, Option.bind_some, advance_mark hcolon, hvalue,
    Option.bind_some, ht _ _ _ (.inl rfl) hrest, put]

theorem advance_members (f : String × Value) (fs : List (String × Value))
    (h : ∀ g ∈ f :: fs, Reads g.2.chars g.2.tree) (done : List (List TextUnit × Tree))
    (os : List Open) {e : Expect} (he : IsKey done e) (rest : List Char) :
    advance ⟨os, e⟩ (joined [','] (fieldChars (f :: fs)) ++ '}' :: rest) =
      advance (put (.object (done.reverse ++ memberTrees (f :: fs))) os) rest := by
  induction fs generalizing f done e with
  | nil =>
    have hclose : mark? '}' = some .closeObject := rfl
    simp only [fieldChars, joined, List.append_assoc, List.cons_append]
    rw [advance_member (h f List.mem_cons_self) he os (endsNumber_mark hclose rest),
      advance_mark hclose]
    simp [step, afterPart, afterMember, memberTrees]
  | cons g fs ih =>
    have hcomma : mark? ',' = some .comma := rfl
    have hnext := ih g (fun x hx => h x (List.mem_cons_of_mem f hx))
      ((f.1.toList.map unitOf, f.2.tree) :: done) (e := .key _) (.inl rfl)
    simp only [fieldChars, joined, List.append_assoc, List.cons_append, List.nil_append] at hnext ⊢
    rw [advance_member (h f List.mem_cons_self) he os (endsNumber_mark hcomma _),
      advance_mark hcomma]
    simpa [step, afterPart, afterMember, memberTrees] using hnext

theorem reads_object {fs : List (String × Value)} (h : ∀ f ∈ fs, Reads f.2.chars f.2.tree) :
    Reads (chars (.object fs)) (.object (memberTrees fs)) := by
  intro os e rest he hrest
  have hopen : mark? '{' = some .openObject := rfl
  cases fs with
  | nil =>
    have hclose : mark? '}' = some .closeObject := rfl
    simp only [chars, fieldChars, joined, List.nil_append, List.cons_append]
    rw [advance_mark hopen, step_value he (by decide), beginValue, Option.bind_some,
      advance_mark hclose]
    rfl
  | cons f fs =>
    simp only [chars, List.cons_append, List.append_assoc, List.nil_append]
    rw [advance_mark hopen, step_value he (by decide), beginValue, Option.bind_some,
      advance_members f fs h [] os (.inr ⟨rfl, rfl⟩)]
    rfl

mutual

theorem reads_tree : (v : Value) → Reads v.chars v.tree
  | .null => reads_of_scalar (t := .null) rfl fun _ _ => rfl
  | .bool b => reads_bool b
  | .number n => reads_number n
  | .text s => reads_of_scalar rfl fun rest _ => token?_quoted s rest
  | .array items => reads_array (reads_itemTrees items)
  | .object fields => reads_object (reads_memberTrees fields)

theorem reads_itemTrees : (vs : List Value) → ∀ v ∈ vs, Reads v.chars v.tree
  | [] => by simp
  | v :: vs => List.forall_mem_cons.mpr ⟨reads_tree v, reads_itemTrees vs⟩

theorem reads_memberTrees : (fs : List (String × Value)) → ∀ f ∈ fs, Reads f.2.chars f.2.tree
  | [] => by simp
  | (_, v) :: fs => List.forall_mem_cons.mpr ⟨reads_tree v, reads_memberTrees fs⟩

end

/-- Every value is read from its text as its tree. -/
theorem ofChars?_chars (v : Value) : Tree.ofChars? v.chars = some v.tree := by
  have hrun : advance start v.chars = some ⟨[], .nothing v.tree⟩ := by
    have hread := reads_tree v [] .value [] (.inl rfl) (by simp [EndsNumber])
    rw [List.append_nil] at hread
    rw [start, hread, advance, tokens?]
    rfl
  obtain ⟨ts, hts, hrun⟩ := Option.bind_eq_some_iff.mp hrun
  simp [Tree.ofChars?, hts, hrun]

theorem treeOfText?_toText (v : Value) : Tree.ofText? v.toText = some v.tree := by
  rw [Tree.ofText?, toText, String.toList_ofList, ofChars?_chars]

theorem units_injective {s t : String} (h : s.toList.map unitOf = t.toList.map unitOf) : s = t := by
  have hread := textOf?_unitOf s
  rw [h, textOf?_unitOf] at hread
  exact (Option.some.inj hread).symm

mutual

theorem tree_injective : (v w : Value) → v.tree = w.tree → v = w
  | .null, w, h => by cases w <;> simp_all [tree]
  | .bool b, w, h => by cases w <;> simp_all [tree]
  | .number n, w, h => by
    cases w <;> simp only [tree, reduceCtorEq, Tree.number.injEq] at h
    rw [Number.token_injective h]
  | .text s, w, h => by
    cases w <;> simp only [tree, reduceCtorEq, Tree.text.injEq] at h
    rw [units_injective h]
  | .array items, w, h => by
    cases w <;> simp only [tree, reduceCtorEq, Tree.array.injEq] at h
    rw [itemTrees_injective items _ h]
  | .object fields, w, h => by
    cases w <;> simp only [tree, reduceCtorEq, Tree.object.injEq] at h
    rw [memberTrees_injective fields _ h]

theorem itemTrees_injective : (vs ws : List Value) → itemTrees vs = itemTrees ws → vs = ws
  | [], ws, h => by cases ws <;> simp_all [itemTrees]
  | v :: vs, ws, h => by
    cases ws <;> simp only [itemTrees, reduceCtorEq, List.cons.injEq] at h
    rw [tree_injective v _ h.1, itemTrees_injective vs _ h.2]

theorem memberTrees_injective :
    (fs gs : List (String × Value)) → memberTrees fs = memberTrees gs → fs = gs
  | [], gs, h => by cases gs <;> simp_all [memberTrees]
  | (k, v) :: fs, gs, h => by
    cases gs <;> simp only [memberTrees, reduceCtorEq, List.cons.injEq, Prod.mk.injEq] at h
    rw [units_injective h.1.1, tree_injective v _ h.1.2, memberTrees_injective fs _ h.2]

end

/-- Different values have different texts. -/
theorem toText_injective {v w : Value} (h : v.toText = w.toText) : v = w := by
  have hread := treeOfText?_toText v
  rw [h, treeOfText?_toText] at hread
  exact tree_injective v w (Option.some.inj hread).symm

/-! ## Values that come back -/

/-- Values that texts give back: whole numbers, objects in order, and not too deep. -/
inductive Plain : Nat → Value → Prop where
  | null (depth : Nat) : Plain depth .null
  | bool (depth : Nat) (b : Bool) : Plain depth (.bool b)
  | whole (depth : Nat) (i : Int) (h) : Plain depth (.number (.whole i h))
  | text (depth : Nat) (s : String) : Plain depth (.text s)
  | array {depth : Nat} {items : List Value} (h : ∀ v ∈ items, Plain depth v) :
      Plain (depth + 1) (.array items)
  | object {depth : Nat} {fs : Fields} (h : ∀ f ∈ fs, Plain depth f.2)
      (horder : Fields.ofList fs = fs) : Plain (depth + 1) (.object fs)

theorem Plain.ofInt64 (depth : Nat) (i : Int64) : Plain depth (.ofInt64 i) :=
  .whole depth i.toInt _

variable {depth : Nat}

theorem values?_itemTrees {vs : List Value} (h : ∀ v ∈ vs, v.tree.value? depth = some v) :
    values? depth (itemTrees vs) = some vs := by
  induction vs with
  | nil => simp [itemTrees, values?]
  | cons v vs ih =>
    obtain ⟨hv, hvs⟩ := List.forall_mem_cons.mp h
    simp [itemTrees, values?, hv, ih hvs]

theorem fields?_memberTrees {fs : List (String × Value)}
    (h : ∀ f ∈ fs, f.2.tree.value? depth = some f.2) : fields? depth (memberTrees fs) = some fs := by
  induction fs with
  | nil => simp [memberTrees, fields?]
  | cons f fs ih =>
    obtain ⟨hf, hfs⟩ := List.forall_mem_cons.mp h
    simp [memberTrees, fields?, textOf?_unitOf, hf, ih hfs]

theorem value?_object {fs : List (String × Value)}
    (h : ∀ f ∈ fs, f.2.tree.value? depth = some f.2) :
    (tree (.object fs)).value? (depth + 1) = some (.object (Fields.ofList fs)) := by
  simp [tree, value?, fields?_memberTrees h]

theorem Plain.value?_tree {v : Value} (h : Plain depth v) : v.tree.value? depth = some v := by
  induction h with
  | null depth => simp [tree, value?]
  | bool depth b => simp [tree, value?]
  | whole depth i h => simp [tree, value?, Number.token, Number.ofToken?_ofInt i h]
  | text depth s => simp [tree, value?, textOf?_unitOf]
  | array _ ih => simp [tree, value?, values?_itemTrees ih]
  | object _ horder ih => rw [value?_object ih, horder]

/-- A plain value is read back from its text. -/
theorem Plain.ofText?_toText {v : Value} (h : Plain maxDepth v) : ofText? v.toText = some v := by
  rw [ofText?, toText, String.toList_ofList, ofChars?, ofChars?_chars, Option.bind_some,
    h.value?_tree]

theorem orderedObject_eq (fs : List (String × Value)) :
    orderedObject fs = (Value.object fs).toText := by
  rw [orderedObject, toText, chars]

/-- An object is read back whatever the order of its members. -/
theorem ofText?_orderedObject {fs : List (String × Value)} (h : ∀ f ∈ fs, Plain 126 f.2) :
    ofText? (orderedObject fs) = some (.object (Fields.ofList fs)) := by
  rw [orderedObject_eq, ofText?, toText, String.toList_ofList, ofChars?, ofChars?_chars,
    Option.bind_some]
  exact value?_object fun f hf => (h f hf).value?_tree

end Value
end Json
end MarketWire
