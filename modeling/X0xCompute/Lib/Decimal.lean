import X0xCompute.Lib.Sorted

/-!
# Zero-padded decimal rendering

The decimal digits of a number, padded on the left with zeros to a least width. Padding
does not lose the number: reading the digits back ignores leading zeros, so the rendering
is injective on numbers of every size, also past the width. Numbers printed with as many
digits are in the order of their texts; a number past the width is not.
-/

namespace Lib

/-- The decimal digits of `n` with at least `width` of them. -/
def zeroPadded (width n : Nat) : String :=
  String.ofList ((Nat.toDigits 10 n).leftpad width '0')

theorem ofDigitChars_zeroPadded (width n : Nat) :
    Nat.ofDigitChars 10 (zeroPadded width n).toList 0 = n := by
  rw [zeroPadded, String.toList_ofList, List.leftpad, Nat.ofDigitChars_append,
    Nat.ofDigitChars_replicate_zero, Nat.mul_zero, Nat.ofDigitChars_ten_toDigits]

/-- A fixed text followed by a padded number determines the number. -/
theorem append_zeroPadded_inj {text : String} {width m n : Nat} :
    text ++ zeroPadded width m = text ++ zeroPadded width n ↔ m = n := by
  refine ⟨?_, ?_⟩
  · intro h
    have hlist := congrArg String.toList h
    rw [String.toList_append, String.toList_append, List.append_cancel_left_eq] at hlist
    rw [← ofDigitChars_zeroPadded width m, hlist, ofDigitChars_zeroPadded]
  · rintro rfl
    rfl

/-! ## Texts of digits -/

/-- The number that decimal digits spell. -/
def digitsValue (cs : List Char) : Nat := Nat.ofDigitChars 10 cs 0

theorem digitsValue_cons (c : Char) (cs : List Char) :
    digitsValue (c :: cs) = (c.toNat - 48) * 10 ^ cs.length + digitsValue cs := by
  rw [digitsValue, Nat.ofDigitChars_cons, Nat.ofDigitChars_eq_ofDigitChars_zero, digitsValue]
  simp [Nat.mul_comm]

theorem toNat_of_isDigit {c : Char} (h : c.isDigit = true) : 48 ≤ c.toNat ∧ c.toNat ≤ 57 := by
  simpa [Char.isDigit, UInt32.le_iff_toNat_le] using h

theorem digitsValue_lt {cs : List Char} (h : ∀ c ∈ cs, c.isDigit = true) :
    digitsValue cs < 10 ^ cs.length := by
  induction cs with
  | nil => decide
  | cons c cs ih =>
    have hc := toNat_of_isDigit (h c List.mem_cons_self)
    have hrest := ih fun d hd => h d (List.mem_cons_of_mem c hd)
    rw [digitsValue_cons, List.length_cons, Nat.pow_succ]
    have hmul : (c.toNat - 48) * 10 ^ cs.length ≤ 9 * 10 ^ cs.length :=
      Nat.mul_le_mul_right _ (by omega)
    omega

/-- Comparing two numbers of one width goes by the leading digit, and then by the rest. -/
theorem leading_lt_iff {a b p x y : Nat} (hx : x < p) (hy : y < p) :
    a * p + x < b * p + y ↔ a < b ∨ a = b ∧ x < y := by
  rcases Nat.lt_trichotomy a b with hlt | rfl | hgt
  · have hmul : (a + 1) * p ≤ b * p := Nat.mul_le_mul_right p hlt
    rw [Nat.add_mul, Nat.one_mul] at hmul
    exact iff_of_true (by omega) (Or.inl hlt)
  · simp
  · have hmul : (b + 1) * p ≤ a * p := Nat.mul_le_mul_right p hgt
    rw [Nat.add_mul, Nat.one_mul] at hmul
    exact iff_of_false (by omega) (by omega)

/-- A text of digits comes before one that is no longer exactly when its number is below that
of the other, carried to its own width. -/
theorem digits_lt_iff {cs ds : List Char} (hcs : ∀ c ∈ cs, c.isDigit = true)
    (hds : ∀ d ∈ ds, d.isDigit = true) (hlength : cs.length ≤ ds.length) :
    ds < cs ↔ digitsValue ds < digitsValue cs * 10 ^ (ds.length - cs.length) := by
  induction cs generalizing ds with
  | nil => simp [digitsValue]
  | cons c cs ih =>
    cases ds with
    | nil => simp at hlength
    | cons d ds =>
      have hc := toNat_of_isDigit (hcs c List.mem_cons_self)
      have hd := toNat_of_isDigit (hds d List.mem_cons_self)
      have hcs' : ∀ c ∈ cs, c.isDigit = true := fun e he => hcs e (List.mem_cons_of_mem c he)
      have hds' : ∀ d ∈ ds, d.isDigit = true := fun e he => hds e (List.mem_cons_of_mem d he)
      have hlength' : cs.length ≤ ds.length := by simpa using hlength
      have hpow : 10 ^ cs.length * 10 ^ (ds.length - cs.length) = 10 ^ ds.length := by
        rw [← Nat.pow_add, Nat.add_sub_cancel' hlength']
      have hlow := digitsValue_lt hds'
      have hcarried : digitsValue cs * 10 ^ (ds.length - cs.length) < 10 ^ ds.length := by
        rw [← hpow]
        exact Nat.mul_lt_mul_of_pos_right (digitsValue_lt hcs') (Nat.pow_pos (by decide))
      have hchar : d < c ↔ d.toNat < c.toNat := Iff.rfl
      rw [List.cons_lt_cons_iff, ih hcs' hds' hlength', digitsValue_cons, digitsValue_cons,
        List.length_cons, List.length_cons, Nat.add_sub_add_right, Nat.add_mul, Nat.mul_assoc,
        hpow, hchar, ← Char.toNat_inj]
      rw [leading_lt_iff hlow hcarried]
      omega

/-! ## Order of padded numbers -/

theorem isDigit_of_mem_zeroPadded {width n : Nat} {c : Char}
    (h : c ∈ (zeroPadded width n).toList) : c.isDigit = true := by
  rw [zeroPadded, String.toList_ofList, List.leftpad, List.mem_append] at h
  rcases h with hzero | hdigit
  · rw [List.eq_of_mem_replicate hzero]
    decide
  · exact Nat.isDigit_of_mem_toDigits (by decide) (by decide) hdigit

/-- How many digits a padded number is printed with. -/
def paddedLength (width n : Nat) : Nat := max width (Nat.toDigits 10 n).length

theorem length_zeroPadded (width n : Nat) :
    (zeroPadded width n).toList.length = paddedLength width n := by
  rw [zeroPadded, String.toList_ofList, List.length_leftpad, paddedLength]

theorem length_toDigits_mono {m n : Nat} (h : m ≤ n) :
    (Nat.toDigits 10 m).length ≤ (Nat.toDigits 10 n).length := by
  have hpos : 0 < (Nat.toDigits 10 n).length := Nat.length_toDigits_pos
  have hn := (Nat.length_toDigits_le_iff (by decide : 1 < 10) hpos).mp le_rfl
  exact (Nat.length_toDigits_le_iff (by decide) hpos).mpr (lt_of_le_of_lt h hn)

theorem paddedLength_mono {width m n : Nat} (h : m ≤ n) :
    paddedLength width m ≤ paddedLength width n :=
  max_le_max_left width (length_toDigits_mono h)

theorem paddedLength_eq_width {width n : Nat} (hwidth : 0 < width) (h : n < 10 ^ width) :
    paddedLength width n = width :=
  max_eq_left ((Nat.length_toDigits_le_iff (by decide) hwidth).mpr h)

/-- A smaller number is printed before a larger one exactly when, carried to the width of the
larger, it is still no larger. Of two numbers of one width this always holds. -/
theorem zeroPadded_lt_iff {width m n : Nat} (h : m < n) :
    zeroPadded width m < zeroPadded width n ↔
      m * 10 ^ (paddedLength width n - paddedLength width m) ≤ n := by
  have hlength : (zeroPadded width m).toList.length ≤ (zeroPadded width n).toList.length := by
    rw [length_zeroPadded, length_zeroPadded]
    exact paddedLength_mono h.le
  have hne : (zeroPadded width m).toList ≠ (zeroPadded width n).toList := by
    intro heq
    have hvalue := congrArg digitsValue heq
    rw [digitsValue, digitsValue, ofDigitChars_zeroPadded, ofDigitChars_zeroPadded] at hvalue
    exact h.ne hvalue
  have hafter := digits_lt_iff (fun _ => isDigit_of_mem_zeroPadded)
    (fun _ => isDigit_of_mem_zeroPadded) hlength
  rw [digitsValue, digitsValue, ofDigitChars_zeroPadded, ofDigitChars_zeroPadded,
    length_zeroPadded, length_zeroPadded] at hafter
  rw [String.lt_iff, ← Nat.not_lt, ← hafter]
  refine ⟨List.lt_asymm, ?_⟩
  intro hnot
  exact (List.le_iff_lt_or_eq.mp hnot).resolve_right hne

theorem append_lt_append_iff {text s t : String} : text ++ s < text ++ t ↔ s < t := by
  rw [String.lt_iff, String.lt_iff, String.toList_append, String.toList_append,
    append_lt_append_left_iff]

end Lib
