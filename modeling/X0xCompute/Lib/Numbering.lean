import X0xCompute.Lib.Saturating

/-!
# Numbers from a saturating counter

A counter that starts at zero and is advanced before each use gives out the numbers from
one on, and gives out its largest value again and again once it has reached it. So the
names it makes are distinct exactly while no more of them are made than it can count.
-/

namespace Lib

variable {α : Type}

/-- The first `n` names made from a counter that stops at `limit`. -/
def numbered (limit : ℕ) (name : ℕ → α) (n : ℕ) : List α :=
  (List.range n).map fun k => name (min (k + 1) limit)

theorem numbered_succ (limit : ℕ) (name : ℕ → α) (n : ℕ) :
    numbered limit name (n + 1) = numbered limit name n ++ [name (min (n + 1) limit)] := by
  rw [numbered, List.range_succ, List.map_append]
  rfl

/-- The place of a name tells it. -/
theorem eq_of_getElem?_numbered {limit n i : ℕ} {name : ℕ → α} {a : α}
    (h : (numbered limit name n)[i]? = some a) : a = name (min (i + 1) limit) := by
  rw [numbered, List.getElem?_map, Option.map_eq_some_iff] at h
  rcases h with ⟨k, hk, rfl⟩
  obtain ⟨hlt, rfl⟩ := List.getElem?_eq_some_iff.mp hk
  rw [List.getElem_range]

/-- Making more names leaves those made before. -/
theorem numbered_prefix_of_le (limit : ℕ) (name : ℕ → α) {m n : ℕ} (h : m ≤ n) :
    numbered limit name m <+: numbered limit name n := by
  induction n, h using Nat.le_induction with
  | base => exact List.prefix_refl _
  | succ n _ ih =>
    rw [numbered_succ]
    exact ih.trans (List.prefix_append _ _)

/-- The names are distinct exactly while the counter does not stop. -/
theorem nodup_numbered_iff {limit n : ℕ} (hlimit : 0 < limit) {name : ℕ → α}
    (hname : Function.Injective name) : (numbered limit name n).Nodup ↔ n ≤ limit := by
  rw [numbered, List.nodup_map_iff_inj_on List.nodup_range]
  refine ⟨?_, ?_⟩
  · intro hinj
    by_contra hlt
    have hsame := hinj (limit - 1) (List.mem_range.mpr (by omega)) limit
      (List.mem_range.mpr (by omega)) (congrArg name (by omega))
    omega
  · intro hle j hj k hk heq
    rw [List.mem_range] at hj hk
    have hnumber := hname heq
    omega

/-- The names of the numbers from one on are among those made. -/
theorem mem_numbered {limit k n : ℕ} (name : ℕ → α) (hk : k + 1 ≤ n) (hn : n ≤ limit) :
    name (k + 1) ∈ numbered limit name n := by
  refine List.mem_map.mpr ⟨k, List.mem_range.mpr hk, ?_⟩
  rw [Nat.min_eq_left (by omega)]

/-- A name not made yet, while the counter does not stop. -/
theorem notMem_numbered {limit n : ℕ} {name : ℕ → α} (hname : Function.Injective name)
    (hle : n + 1 ≤ limit) : name (min (n + 1) limit) ∉ numbered limit name n := by
  intro hmem
  rcases List.mem_map.mp hmem with ⟨k, hk, heq⟩
  rw [List.mem_range] at hk
  have hnumber := hname heq
  omega

end Lib
