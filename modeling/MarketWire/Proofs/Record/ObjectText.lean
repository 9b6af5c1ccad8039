import MarketWire.Proofs.Json.RoundTrip
import MarketWire.Record.Shape

/-!
# Members of written objects

An object whose keys are all different is written with one member for each of its fields, and each
member is found by its name, in whatever order the members stand.
-/
namespace MarketWire

open Json (Value Tree)

namespace Json.Value

theorem text?_tree (s : String) : (tree (.text s)).text? = some s := by
  rw [tree, Tree.text?, textOf?_unitOf]

theorem integer?_tree (i : Int) (h) : (tree (.number (.whole i h))).integer? = some i := by
  simp [tree, Tree.integer?, Number.token, Number.ofToken?_ofInt i h]

theorem members?_memberTrees (fs : List (String × Value)) :
    Tree.members? (memberTrees fs) = some (fs.map fun f => (f.1, f.2.tree)) := by
  induction fs with
  | nil => rfl
  | cons f fs ih =>
    unfold Tree.members? at ih ⊢
    rw [memberTrees, List.mapM_cons, ih]
    simp [textOf?_unitOf]

end Json.Value

namespace Slots

theorem filter_eq_nil {name : String} {ms : List (String × Tree)}
    (h : name ∉ ms.map Prod.fst) : ms.filter (·.1 == name) = [] := by
  rw [List.filter_eq_nil_iff]
  intro m hm heq
  exact h (List.mem_map.mpr ⟨m, hm, beq_iff_eq.mp heq⟩)

/-- Of different names each is the name of one member at most. -/
theorem member?_of_nodup {name : String} {ms : List (String × Tree)}
    (h : (ms.map Prod.fst).Nodup) : member? name ms = some (ms.lookup name) := by
  have hfilter : ms.filter (·.1 == name) = ((ms.lookup name).map (name, ·)).toList := by
    induction ms with
    | nil => rfl
    | cons m ms ih =>
      obtain ⟨k, t⟩ := m
      rw [List.map_cons, List.nodup_cons] at h
      by_cases hk : k = name
      · subst hk
        simp [filter_eq_nil h.1]
      · have hne : (name == k) = false := beq_eq_false_iff_ne.mpr fun he => hk he.symm
        simp [hk, List.lookup_cons, hne, ih h.2]
  rw [member?, hfilter]
  cases ms.lookup name <;> rfl

theorem member?_of_mem {name : String} {t : Tree} {ms : List (String × Tree)}
    (h : (ms.map Prod.fst).Nodup) (hmem : (name, t) ∈ ms) :
    member? name ms = some (some t) := by
  obtain ⟨before, after, rfl⟩ := List.append_of_mem hmem
  rw [member?_of_nodup h, List.lookup_eq_some_iff.mpr ⟨before, after, rfl, fun p hp => ?_⟩]
  rw [List.map_append, List.map_cons, List.nodup_middle, List.nodup_cons] at h
  rw [bne_iff_ne]
  intro heq
  have hin : name ∈ before.map Prod.fst := heq ▸ List.mem_map_of_mem hp
  exact h.1 (List.mem_append_left _ hin)

theorem lookup_map_tree (name : String) (fs : List (String × Value)) :
    (fs.map fun f => (f.1, f.2.tree)).lookup name = (fs.lookup name).map Value.tree := by
  induction fs with
  | nil => rfl
  | cons f fs ih =>
    rw [List.map_cons, List.lookup_cons, List.lookup_cons, ih]
    cases name == f.1 <;> rfl

end Slots

/-- The member of an object's text, if the text is an object with one member of that name. -/
def Json.memberOf? (s name : String) : Option Tree :=
  match Tree.ofText? s with
  | some (.object ms) => (Tree.members? ms).bind fun ms => (Slots.member? name ms).join
  | _ => none

/-- Each field is found in the text of its object. -/
theorem Json.memberOf?_toText {fs : List (String × Value)} (h : (fs.map Prod.fst).Nodup)
    (name : String) :
    memberOf? (Value.object fs).toText name = (fs.lookup name).map Value.tree := by
  have hnodup : ((fs.map fun f => (f.1, f.2.tree)).map Prod.fst).Nodup := by
    simpa [Function.comp_def] using h
  rw [memberOf?, Value.treeOfText?_toText, Value.tree]
  simp only [Value.members?_memberTrees, Option.bind_some, Slots.member?_of_nodup hnodup,
    Option.join_some, Slots.lookup_map_tree]

end MarketWire
