import Mathlib.Tactic

/-!
# Saturating unsigned arithmetic

Fixed-width unsigned addition and subtraction that stop at the ends of the range instead
of wrapping, and what a left fold of the addition computes. The width is a parameter, so
the `u16`, `u32` and `u64` operations of a program are instances of one definition.
-/

namespace Lib

variable {w : Nat}

/-- Addition that stops at the largest `w`-bit value. -/
def satAdd (a b : BitVec w) : BitVec w :=
  if a.toNat + b.toNat < 2 ^ w then a + b else BitVec.allOnes w

/-- Subtraction that stops at zero. -/
def satSub (a b : BitVec w) : BitVec w :=
  if b.toNat ≤ a.toNat then a - b else 0#w

@[simp] theorem toNat_satAdd (a b : BitVec w) :
    (satAdd a b).toNat = min (a.toNat + b.toNat) (2 ^ w - 1) := by
  have hpos : 0 < 2 ^ w := Nat.two_pow_pos w
  unfold satAdd
  split
  · rename_i hlt
    rw [BitVec.toNat_add, Nat.mod_eq_of_lt hlt]
    omega
  · rw [BitVec.toNat_allOnes]
    omega

theorem le_satAdd_left (a b : BitVec w) : a ≤ satAdd a b := by
  have ha := a.isLt
  rw [BitVec.le_def, toNat_satAdd]
  omega

theorem le_satAdd_right (a b : BitVec w) : b ≤ satAdd a b := by
  have hb := b.isLt
  rw [BitVec.le_def, toNat_satAdd]
  omega

@[simp] theorem toNat_satSub (a b : BitVec w) : (satSub a b).toNat = a.toNat - b.toNat := by
  unfold satSub
  split
  · rename_i hle
    exact BitVec.toNat_sub_of_le (BitVec.le_def.mpr hle)
  · rw [BitVec.toNat_zero]
    omega

/-- A fold of saturating additions clamps the exact sum once: the addends are nonnegative,
so a partial sum that has reached the top stays there. -/
theorem toNat_foldl_satAdd (xs : List (BitVec w)) (a : BitVec w) :
    (xs.foldl satAdd a).toNat = min (a.toNat + (xs.map BitVec.toNat).sum) (2 ^ w - 1) := by
  induction xs generalizing a with
  | nil =>
    have := a.isLt
    simp only [List.foldl_nil, List.map_nil, List.sum_nil]
    omega
  | cons x xs ih =>
    rw [List.foldl_cons, ih, toNat_satAdd, List.map_cons, List.sum_cons]
    omega

end Lib
