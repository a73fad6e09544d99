import Mathlib.Data.Finmap
import Mathlib.Tactic

/-!
# Ordered maps as finite maps

The values of an extensional ordered map in key order, what collecting a list of entries
into one looks up, and the finite map that forgets the order. Sums and counts over the
values of an ordered map are taken on the finite map, where insertion and removal are
equations on a multiset of entries.
-/

namespace Lib

open Std

variable {α β : Type} {cmp : α → α → Ordering} [TransCmp cmp]

/-- The values of an ordered map, in the order of their keys. -/
def values (m : ExtTreeMap α β cmp) : List β := m.toList.map Prod.snd

theorem nodup_map_fst_toList (m : ExtTreeMap α β cmp) : (m.toList.map Prod.fst).Nodup := by
  rw [List.Nodup, List.pairwise_map]
  apply m.distinct_keys_toList.imp
  intro a b hne heq
  exact hne (by rw [heq]; exact ReflCmp.compare_self)

/-- The finite map an ordered map holds. -/
def toFinmap (m : ExtTreeMap α β cmp) : Finmap fun _ : α => β where
  entries := ↑(m.toList.map fun p => (⟨p.1, p.2⟩ : Sigma fun _ : α => β))
  nodupKeys := by
    rw [Multiset.coe_nodupKeys, List.NodupKeys, List.keys, List.map_map]
    exact nodup_map_fst_toList m

/-- The values in key order are, up to order, the values of the finite map. -/
theorem coe_values (m : ExtTreeMap α β cmp) :
    (↑(values m) : Multiset β) = (toFinmap m).entries.map Sigma.snd := by
  simp [values, toFinmap, Function.comp_def]

theorem values_map {γ : Type} (m : ExtTreeMap α β cmp) (f : β → γ) :
    values (m.map fun _ v => f v) = (values m).map f := by
  simp [values, ExtTreeMap.toList_map, Function.comp_def]

variable [LawfulEqCmp cmp]

theorem mem_values_iff {m : ExtTreeMap α β cmp} {v : β} :
    v ∈ values m ↔ ∃ k : α, m[k]? = some v := by
  rw [values, List.mem_map]
  refine ⟨?_, ?_⟩
  · rintro ⟨⟨k, v⟩, hmem, rfl⟩
    exact ⟨k, ExtTreeMap.mem_toList_iff_getElem?_eq_some.mp hmem⟩
  · rintro ⟨k, hk⟩
    exact ⟨(k, v), ExtTreeMap.mem_toList_iff_getElem?_eq_some.mpr hk, rfl⟩

/-- Values that know their keys are listed in the order of these. -/
theorem pairwise_values {m : ExtTreeMap α β cmp} {f : β → α}
    (hkeyed : ∀ (k : α) (v : β), m[k]? = some v → f v = k) :
    (values m).Pairwise fun v w => cmp (f v) (f w) = .lt := by
  rw [values, List.pairwise_map]
  apply m.ordered_keys_toList.imp_of_mem
  intro p q hp hq hlt
  rw [ExtTreeMap.mem_toList_iff_getElem?_eq_some] at hp hq
  rwa [hkeyed _ _ hp, hkeyed _ _ hq]

variable [DecidableEq α]

theorem getElem?_insert_eq (m : ExtTreeMap α β cmp) (k a : α) (v : β) :
    (m.insert k v)[a]? = if k = a then some v else m[a]? := by
  rw [ExtTreeMap.getElem?_insert]
  by_cases hk : k = a
  · subst hk
    simp
  · simp [hk]

theorem getElem?_erase_eq (m : ExtTreeMap α β cmp) (k a : α) :
    (m.erase k)[a]? = if k = a then none else m[a]? := by
  rw [ExtTreeMap.getElem?_erase]
  by_cases hk : k = a
  · subst hk
    simp
  · simp [hk]

/-- Collecting entries into an ordered map keeps, for each key, the last entry with it. -/
theorem getElem?_ofList_eq (l : List (α × β)) (k : α) :
    (ExtTreeMap.ofList l cmp)[k]? = (l.reverse.find? (·.1 = k)).map Prod.snd := by
  have general : ∀ m : ExtTreeMap α β cmp,
      (m.insertMany l)[k]? = ((l.reverse.find? (·.1 = k)).map Prod.snd).or m[k]? := by
    induction l with
    | nil => intro m; simp
    | cons p l ih =>
      intro m
      rw [ExtTreeMap.insertMany_cons, ih, List.reverse_cons, List.find?_append,
        getElem?_insert_eq]
      by_cases hp : p.1 = k
      · cases l.reverse.find? (·.1 = k) <;> simp [hp]
      · cases l.reverse.find? (·.1 = k) <;> simp [hp]
  rw [ExtTreeMap.ofList_eq_insertMany_empty, general]
  simp

omit [TransCmp cmp] [LawfulEqCmp cmp] in
/-- Of the elements with distinct keys, those with a given one's key are that one alone. -/
theorem filter_key_of_nodup {f : β → α} {l : List β} (hnodup : (l.map f).Nodup) {a : β}
    (h : a ∈ l) : l.filter (fun b => f b = f a) = [a] := by
  obtain ⟨pre, post, rfl⟩ := List.append_of_mem h
  rw [List.map_append, List.map_cons, List.nodup_append, List.nodup_cons] at hnodup
  obtain ⟨-, ⟨hpost, -⟩, hpre⟩ := hnodup
  have hpre' : pre.filter (fun b => f b = f a) = [] := by
    rw [List.filter_eq_nil_iff]
    intro b hb heq
    exact hpre _ (List.mem_map_of_mem hb) _ List.mem_cons_self (of_decide_eq_true heq)
  have hpost' : post.filter (fun b => f b = f a) = [] := by
    rw [List.filter_eq_nil_iff]
    intro b hb heq
    exact hpost ((of_decide_eq_true heq) ▸ List.mem_map_of_mem hb)
  simp [hpre', hpost']

theorem mem_of_getElem?_ofList {l : List (α × β)} {k : α} {v : β}
    (h : (ExtTreeMap.ofList l cmp)[k]? = some v) : (k, v) ∈ l := by
  rw [getElem?_ofList_eq, Option.map_eq_some_iff] at h
  obtain ⟨p, hfind, rfl⟩ := h
  have hkey : p.1 = k := by simpa using List.find?_some hfind
  rw [← hkey]
  exact List.mem_reverse.mp (List.mem_of_find?_eq_some hfind)

/-- Collecting entries with distinct keys loses none of them. -/
theorem getElem?_ofList_of_mem {l : List (α × β)} (hnodup : (l.map Prod.fst).Nodup) {k : α}
    {v : β} (h : (k, v) ∈ l) : (ExtTreeMap.ofList l cmp)[k]? = some v := by
  cases hlookup : (ExtTreeMap.ofList l cmp)[k]? with
  | none =>
    rw [getElem?_ofList_eq, Option.map_eq_none_iff, List.find?_eq_none] at hlookup
    exact (hlookup (k, v) (List.mem_reverse.mpr h) (decide_eq_true rfl)).elim
  | some v' =>
    have hsame := List.inj_on_of_nodup_map hnodup (mem_of_getElem?_ofList hlookup) h rfl
    cases hsame
    rfl

theorem values_ofList_perm {l : List (α × β)} (hnodup : (l.map Prod.fst).Nodup) :
    (values (ExtTreeMap.ofList l cmp)).Perm (l.map Prod.snd) := by
  apply List.Perm.map
  have hnodup' := (nodup_map_fst_toList (ExtTreeMap.ofList l cmp)).of_map
  rw [List.perm_ext_iff_of_nodup hnodup' hnodup.of_map]
  rintro ⟨k, v⟩
  rw [ExtTreeMap.mem_toList_iff_getElem?_eq_some]
  exact ⟨mem_of_getElem?_ofList, getElem?_ofList_of_mem hnodup⟩

@[simp] theorem lookup_toFinmap (m : ExtTreeMap α β cmp) (k : α) :
    (toFinmap m).lookup k = m[k]? := by
  apply Option.ext
  intro v
  rw [← Option.mem_def, Finmap.mem_lookup_iff, ← ExtTreeMap.mem_toList_iff_getElem?_eq_some]
  simp [toFinmap]

end Lib
