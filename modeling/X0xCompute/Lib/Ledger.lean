import Mathlib.Data.Finmap
import Mathlib.Tactic

/-!
# Capacity ledgers

A ledger is a finite map from the ids of live grants to grants; each grant takes an amount
of one resource. The usage of a resource is the exact sum of the amounts granted on it, and
a ledger is within capacity when no usage exceeds its bound. The facts below say how the
usage moves when a grant is entered or withdrawn, which is all that a capacity argument
about a store of grants needs.
-/

namespace Lib

/-- A finite map from grant ids to grants. -/
abbrev Ledger (ι γ : Type) : Type := Finmap fun _ : ι => γ

namespace Ledger

variable {ι κ γ : Type} [DecidableEq κ] (resource : γ → κ) (amount : γ → ℕ)

/-- The grants held on `k`. -/
def held (l : Ledger ι γ) (k : κ) : Multiset γ :=
  (l.entries.map Sigma.snd).filter fun g => resource g = k

/-- The exact sum of the amounts granted on `k`. -/
def usage (l : Ledger ι γ) (k : κ) : ℕ := ((held resource l k).map amount).sum

/-- What a grant takes of `k`. -/
def share (g : γ) (k : κ) : ℕ := if resource g = k then amount g else 0

@[simp] theorem share_self (g : γ) : share resource amount g (resource g) = amount g :=
  if_pos rfl

theorem share_of_ne {g : γ} {k : κ} (h : resource g ≠ k) : share resource amount g k = 0 :=
  if_neg h

@[simp] theorem usage_empty (k : κ) : usage resource amount (∅ : Ledger ι γ) k = 0 := rfl

variable [DecidableEq ι]

omit [DecidableEq κ] in
theorem insert_of_lookup {l : Ledger ι γ} {i : ι} {g : γ} (h : l.lookup i = some g) :
    l.insert i g = l := by
  apply Finmap.ext_lookup
  intro j
  by_cases hj : j = i
  · subst hj
    rw [Finmap.lookup_insert, h]
  · rw [Finmap.lookup_insert_of_ne _ hj]

omit [DecidableEq κ] in
theorem insert_erase (l : Ledger ι γ) (i : ι) (g : γ) : (l.erase i).insert i g = l.insert i g := by
  apply Finmap.ext_lookup
  intro j
  by_cases hj : j = i
  · subst hj
    rw [Finmap.lookup_insert, Finmap.lookup_insert]
  · rw [Finmap.lookup_insert_of_ne _ hj, Finmap.lookup_insert_of_ne _ hj,
      Finmap.lookup_erase_ne hj]

omit [DecidableEq κ] in
theorem erase_of_notMem {l : Ledger ι γ} {i : ι} (h : i ∉ l) : l.erase i = l := by
  apply Finmap.ext_lookup
  intro j
  by_cases hj : j = i
  · subst hj
    rw [Finmap.lookup_erase, Finmap.lookup_eq_none.mpr h]
  · rw [Finmap.lookup_erase_ne hj]

theorem usage_insert_of_notMem {l : Ledger ι γ} {i : ι} (h : i ∉ l) (g : γ) (k : κ) :
    usage resource amount (l.insert i g) k =
      share resource amount g k + usage resource amount l k := by
  unfold usage held share
  rw [Finmap.entries_insert_of_notMem h, Multiset.map_cons, Multiset.filter_cons]
  split <;> simp

/-- Withdrawing a live grant gives back its share. -/
theorem usage_erase {l : Ledger ι γ} {i : ι} {g : γ} (h : l.lookup i = some g) (k : κ) :
    share resource amount g k + usage resource amount (l.erase i) k =
      usage resource amount l k := by
  rw [← usage_insert_of_notMem resource amount Finmap.notMem_erase_self, insert_erase,
    insert_of_lookup h]

theorem usage_erase_le (l : Ledger ι γ) (i : ι) (k : κ) :
    usage resource amount (l.erase i) k ≤ usage resource amount l k := by
  cases h : l.lookup i with
  | some g =>
    have := usage_erase resource amount h k
    omega
  | none => rw [erase_of_notMem (Finmap.lookup_eq_none.mp h)]

/-- Entering a grant, over another one or not, adds at most its share. -/
theorem usage_insert_le (l : Ledger ι γ) (i : ι) (g : γ) (k : κ) :
    usage resource amount (l.insert i g) k ≤
      share resource amount g k + usage resource amount l k := by
  rw [← insert_erase, usage_insert_of_notMem resource amount Finmap.notMem_erase_self]
  exact Nat.add_le_add_left (usage_erase_le resource amount l i k) _

omit [DecidableEq ι] in
/-- Grants that take at least one each are no more than what they take together. -/
theorem card_held_le_usage {l : Ledger ι γ} {k : κ}
    (h : ∀ g ∈ held resource l k, 1 ≤ amount g) :
    (held resource l k).card ≤ usage resource amount l k := by
  have := Multiset.card_nsmul_le_sum (s := (held resource l k).map amount) (a := 1) (by
    intro n hn
    rcases Multiset.mem_map.mp hn with ⟨g, hg, rfl⟩
    exact h g hg)
  simpa [usage] using this

/-- No resource is granted beyond its capacity. -/
def WithinCapacity (cap : κ → ℕ) (l : Ledger ι γ) : Prop :=
  ∀ k, usage resource amount l k ≤ cap k

omit [DecidableEq ι] in
theorem withinCapacity_empty (cap : κ → ℕ) :
    WithinCapacity resource amount cap (∅ : Ledger ι γ) :=
  fun _ => Nat.zero_le _

variable {resource amount}

/-- A grant that fits in what is left keeps the ledger within capacity. -/
theorem WithinCapacity.insert {cap : κ → ℕ} {l : Ledger ι γ}
    (h : WithinCapacity resource amount cap l) (i : ι) {g : γ}
    (hfit : amount g + usage resource amount l (resource g) ≤ cap (resource g)) :
    WithinCapacity resource amount cap (l.insert i g) := by
  intro k
  apply le_trans (usage_insert_le resource amount l i g k)
  by_cases hk : resource g = k
  · subst hk
    rwa [share_self]
  · rw [share_of_ne resource amount hk, Nat.zero_add]
    exact h k

theorem WithinCapacity.erase {cap : κ → ℕ} {l : Ledger ι γ}
    (h : WithinCapacity resource amount cap l) (i : ι) :
    WithinCapacity resource amount cap (l.erase i) :=
  fun k => le_trans (usage_erase_le resource amount l i k) (h k)

end Ledger

end Lib
