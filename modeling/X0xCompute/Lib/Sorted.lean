import Mathlib.Data.List.NodupEquivFin
import Mathlib.Tactic

/-!
# Ordered lists

Where the elements of a list stand when the list goes up in a relation: the first is below
every element and the last above, and an element comes before another exactly when it is
below it. "Before" is said with the two-element sublist.
-/

namespace Lib

open scoped List

variable {α β : Type} {r : α → α → Prop}

theorem rel_of_head? (hrefl : ∀ a, r a a) {l : List α} (h : l.Pairwise r) {first a : α}
    (hfirst : l.head? = some first) (ha : a ∈ l) : r first a := by
  cases l with
  | nil => cases hfirst
  | cons b l =>
    cases hfirst
    rcases List.mem_cons.mp ha with rfl | hmem
    · exact hrefl a
    · exact List.rel_of_pairwise_cons h hmem

theorem rel_of_getLast? (hrefl : ∀ a, r a a) {l : List α} (h : l.Pairwise r) {last a : α}
    (hlast : l.getLast? = some last) (ha : a ∈ l) : r a last := by
  obtain ⟨pre, rfl⟩ := List.getLast?_eq_some_iff.mp hlast
  rw [List.pairwise_append] at h
  rcases List.mem_append.mp ha with hpre | hsame
  · exact h.2.2 a hpre last (List.mem_singleton.mpr rfl)
  · rw [List.mem_singleton.mp hsame]
    exact hrefl last

/-- In a list that goes up strictly, the elements stand in the order of the relation. -/
theorem pair_sublist_iff (hasymm : ∀ a b, r a b → ¬ r b a) {l : List α} (h : l.Pairwise r)
    {a b : α} : [a, b] <+ l ↔ a ∈ l ∧ b ∈ l ∧ r a b := by
  refine ⟨?_, ?_⟩
  · intro hsub
    refine ⟨hsub.mem (by simp), hsub.mem (by simp), ?_⟩
    simpa using h.sublist hsub
  · intro hmem
    obtain ⟨ha, hb, hab⟩ := hmem
    induction l with
    | nil => cases ha
    | cons c l ih =>
      rw [List.pairwise_cons] at h
      rcases List.mem_cons.mp ha with rfl | ha'
      · rcases List.mem_cons.mp hb with rfl | hb'
        · exact (hasymm _ _ hab hab).elim
        · exact (List.singleton_sublist.mpr hb').cons_cons a
      · rcases List.mem_cons.mp hb with rfl | hb'
        · exact (hasymm _ _ hab (h.1 a ha')).elim
        · exact (ih h.2 ha' hb').cons c

theorem exists_getElem?_of_pair_sublist {l : List α} {a b : α} (h : [a, b] <+ l) :
    ∃ i j : Nat, i < j ∧ l[i]? = some a ∧ l[j]? = some b := by
  obtain ⟨f, hf⟩ := List.sublist_iff_exists_orderEmbedding_getElem?_eq.mp h
  exact ⟨f 0, f 1, f.strictMono (by decide), (hf 0).symm, (hf 1).symm⟩

/-- Equal beginnings do not matter to the lexicographic order. -/
theorem append_lt_append_left_iff [LT α] [Std.Irrefl (· < · : α → α → Prop)]
    {pre l l' : List α} : pre ++ l < pre ++ l' ↔ l < l' := by
  induction pre with
  | nil => rfl
  | cons a pre ih => simpa [List.cons_lt_cons_iff, Std.Irrefl.irrefl] using ih

/-- A selection that keeps whatever another keeps gives at least its list. -/
theorem filterMap_sublist_filterMap {f g : α → Option β}
    (h : ∀ a b, f a = some b → g a = some b) (l : List α) : l.filterMap f <+ l.filterMap g := by
  induction l with
  | nil => simp
  | cons a l ih =>
    cases hf : f a with
    | none =>
      rw [List.filterMap_cons_none hf, List.filterMap_cons]
      cases g a with
      | none => exact ih
      | some b => exact ih.cons b
    | some b =>
      rw [List.filterMap_cons_some hf, List.filterMap_cons_some (h a b hf)]
      exact ih.cons_cons b

end Lib
