import MarketWire.Json.Value
import Mathlib.Data.List.Nodup
import Mathlib.Data.List.Sort

/-!
# Fields of objects

The fields of an object are in ascending order of their keys, so each key occurs once. A key written
once in a list of members keeps its value, wherever in the list it stands.
-/
namespace MarketWire
namespace Json
namespace Fields

def Sorted (fs : Fields) : Prop := fs.Pairwise (·.1 < ·.1)

variable {fs : Fields} {k : String} {v : Value}

theorem lt_of_not_lt_of_ne {a b : String} (h : ¬a < b) (hne : a ≠ b) : b < a :=
  Decidable.byContradiction fun hc =>
    hne (String.le_antisymm (String.not_lt.mp hc) (String.not_lt.mp h))

theorem mem_insert {f : String × Value} (h : f ∈ insert k v fs) : f = (k, v) ∨ f ∈ fs := by
  induction fs with
  | nil => exact .inl (by simpa [insert] using h)
  | cons g fs ih => grind [insert]

theorem Sorted.insert (h : fs.Sorted) (k : String) (v : Value) : (fs.insert k v).Sorted := by
  induction fs with
  | nil => simp [Fields.insert, Sorted]
  | cons f fs ih =>
    obtain ⟨hhead, htail⟩ := List.pairwise_cons.mp h
    rw [Fields.insert]
    split
    case isTrue hlt =>
      refine List.pairwise_cons.mpr ⟨fun g hg => ?_, h⟩
      rcases List.mem_cons.mp hg with rfl | hg
      · exact hlt
      · exact String.lt_trans hlt (hhead g hg)
    case isFalse hlt =>
      split
      case isTrue heq => exact List.pairwise_cons.mpr ⟨heq ▸ hhead, htail⟩
      case isFalse hne =>
        refine List.pairwise_cons.mpr ⟨fun g hg => ?_, ih htail⟩
        rcases mem_insert hg with rfl | hg
        · exact lt_of_not_lt_of_ne hlt hne
        · exact hhead g hg

theorem sorted_ofList (l : List (String × Value)) : (ofList l).Sorted := by
  have hfold : ∀ acc : Fields, acc.Sorted →
      Sorted (l.foldl (fun fs m => Fields.insert m.1 m.2 fs) acc) := by
    induction l with
    | nil => exact fun _ h => h
    | cons f l ih => exact fun acc h => ih _ (h.insert f.1 f.2)
  exact hfold [] .nil

theorem Sorted.get?_of_mem (h : fs.Sorted) (hmem : (k, v) ∈ fs) : fs.get? k = some v := by
  induction fs with
  | nil => cases hmem
  | cons f fs ih =>
    obtain ⟨hhead, htail⟩ := List.pairwise_cons.mp h
    rcases List.mem_cons.mp hmem with rfl | hmem
    · simp [get?]
    · have hne : f.1 ≠ k := fun he => String.lt_irrefl k (he ▸ hhead (k, v) hmem)
      rw [get?, if_neg hne, ih htail hmem]

theorem Sorted.nodup (h : fs.Sorted) : (fs.map Prod.fst).Nodup := by
  rw [List.Nodup, List.pairwise_map]
  refine h.imp fun {f g} hlt heq => ?_
  rw [heq] at hlt
  exact String.lt_irrefl g.1 hlt

theorem lookup_eq_get? (k : String) (fs : Fields) : fs.lookup k = fs.get? k := by
  induction fs with
  | nil => rfl
  | cons f fs ih =>
    rw [List.lookup_cons, get?, ih]
    by_cases hk : f.1 = k
    · simp [hk]
    · have hne : (k == f.1) = false := beq_eq_false_iff_ne.mpr fun he => hk he.symm
      simp [hk, hne]

theorem mem_of_get? (h : fs.get? k = some v) : (k, v) ∈ fs := by
  induction fs with
  | nil => cases h
  | cons f fs ih =>
    rw [get?] at h
    split at h
    case isTrue hk =>
      rw [← hk, ← Option.some.inj h]
      exact List.mem_cons_self
    case isFalse => exact List.mem_cons_of_mem f (ih h)

theorem Sorted.mem_iff (h : fs.Sorted) : (k, v) ∈ fs ↔ fs.get? k = some v :=
  ⟨h.get?_of_mem, mem_of_get?⟩

/-- Fields in order are known by the value of each key. -/
theorem Sorted.ext {gs : Fields} (hf : fs.Sorted) (hg : gs.Sorted)
    (h : ∀ k, fs.get? k = gs.get? k) : fs = gs := by
  have hirrefl : Std.Irrefl fun f g : String × Value => f.1 < g.1 := ⟨fun f => String.lt_irrefl f.1⟩
  have hasymm : Std.Asymm fun f g : String × Value => f.1 < g.1 := ⟨fun f g => String.lt_asymm⟩
  exact List.Pairwise.eq_of_mem_iff hf hg fun f => by rw [hf.mem_iff, hg.mem_iff, h f.1]

theorem get?_foldl_of_forall_ne {l : List (String × Value)} (h : ∀ w, (k, w) ∉ l) (acc : Fields) :
    get? k (l.foldl (fun fs m => Fields.insert m.1 m.2 fs) acc) = get? k acc := by
  induction l generalizing acc with
  | nil => rfl
  | cons f l ih =>
    have hne : f.1 ≠ k := by
      rintro rfl
      exact h f.2 List.mem_cons_self
    rw [List.foldl_cons, ih fun w hw => h w (List.mem_cons_of_mem f hw), get?_insert_of_ne hne]

theorem get?_ofList_of_forall_ne {l : List (String × Value)} (h : ∀ w, (k, w) ∉ l) :
    get? k (ofList l) = none :=
  get?_foldl_of_forall_ne h []

theorem get?_ofList_of_unique {l : List (String × Value)} (hmem : (k, v) ∈ l)
    (hunique : ∀ w, (k, w) ∈ l → w = v) : get? k (ofList l) = some v := by
  have hfold : ∀ acc : Fields,
      get? k (l.foldl (fun fs m => Fields.insert m.1 m.2 fs) acc) = some v := by
    induction l with
    | nil => cases hmem
    | cons f l ih =>
      intro acc
      rw [List.foldl_cons]
      by_cases hin : (k, v) ∈ l
      · exact ih hin (fun w hw => hunique w (List.mem_cons_of_mem f hw)) _
      · have hlast : ∀ w, (k, w) ∉ l := fun w hw =>
          hin (hunique w (List.mem_cons_of_mem f hw) ▸ hw)
        obtain rfl := (List.mem_cons.mp hmem).resolve_right hin
        rw [get?_foldl_of_forall_ne hlast, get?_insert_self]
  exact hfold []

/-- Members of other keys do not matter, nor does the order of the members. -/
theorem get?_ofList_of_perm {order base extra : List (String × Value)}
    (hperm : order.Perm (base ++ extra)) (hbase : (base.map Prod.fst).Nodup)
    (hextra : ∀ e ∈ extra, e.1 ≠ k) : get? k (ofList order) = base.lookup k := by
  have hmem : ∀ w, (k, w) ∈ order ↔ (k, w) ∈ base := by
    intro w
    rw [hperm.mem_iff, List.mem_append, or_iff_left]
    exact fun hw => hextra (k, w) hw rfl
  cases hlookup : base.lookup k with
  | none =>
    refine get?_ofList_of_forall_ne fun w hw => ?_
    simpa using List.lookup_eq_none_iff.mp hlookup (k, w) ((hmem w).mp hw)
  | some v =>
    obtain ⟨before, after, rfl, -⟩ := List.lookup_eq_some_iff.mp hlookup
    rw [List.map_append, List.map_cons, List.nodup_middle, List.nodup_cons,
      ← List.map_append] at hbase
    refine get?_ofList_of_unique ((hmem v).mpr (by simp)) fun w hw => ?_
    by_cases heq : w = v
    · exact heq
    · have hin : (k, w) ∈ before ++ after := by simpa [heq] using (hmem w).mp hw
      exact absurd (List.mem_map_of_mem hin) hbase.1

end Fields
end Json
end MarketWire
