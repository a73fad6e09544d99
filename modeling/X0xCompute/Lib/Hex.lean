import Mathlib.Tactic

/-!
# Hexadecimal text of byte strings

Two lowercase digits for each byte, high half first, and the reader that takes digits of
either case. Reading back what was written gives the bytes, so the writing is injective;
writing back what was read gives the text in lowercase; and texts are in the order of the
bytes they spell.
-/

namespace Lib

/-- The two lowercase digits of a byte. -/
def hexPair (b : BitVec 8) : List Char :=
  [Nat.digitChar (b.toNat / 16), Nat.digitChar (b.toNat % 16)]

/-- Two lowercase digits for each byte, high digit first. -/
def hexLower (bs : List (BitVec 8)) : String := String.ofList (bs.flatMap hexPair)

/-- The value of a hexadecimal digit of either case. -/
def hexValue? (c : Char) : Option Nat :=
  if '0' ≤ c ∧ c ≤ '9' then some (c.toNat - '0'.toNat)
  else if 'a' ≤ c ∧ c ≤ 'f' then some (c.toNat - 'a'.toNat + 10)
  else if 'A' ≤ c ∧ c ≤ 'F' then some (c.toNat - 'A'.toNat + 10)
  else none

/-- An ASCII hexadecimal digit of either case. -/
def IsHexDigit (c : Char) : Prop :=
  ('0' ≤ c ∧ c ≤ '9') ∨ ('a' ≤ c ∧ c ≤ 'f') ∨ ('A' ≤ c ∧ c ≤ 'F')

instance (c : Char) : Decidable (IsHexDigit c) :=
  inferInstanceAs (Decidable (_ ∨ _ ∨ _))

/-- Digits taken two by two; an odd digit or a character that is no digit fails. -/
def hexBytes? : List Char → Option (List (BitVec 8))
  | [] => some []
  | [_] => none
  | hi :: lo :: cs =>
    match hexValue? hi, hexValue? lo with
    | some h, some l => (hexBytes? cs).map (BitVec.ofNat 8 (16 * h + l) :: ·)
    | _, _ => none

theorem hexValue?_digitChar {n : Nat} (h : n < 16) : hexValue? (Nat.digitChar n) = some n := by
  interval_cases n <;> rfl

theorem hexBytes?_flatMap_hexPair (bs : List (BitVec 8)) :
    hexBytes? (bs.flatMap hexPair) = some bs := by
  induction bs with
  | nil => rfl
  | cons b bs ih =>
    have hb : b.toNat < 256 := b.isLt
    have hback : BitVec.ofNat 8 (16 * (b.toNat / 16) + b.toNat % 16) = b := by
      rw [Nat.div_add_mod, BitVec.ofNat_toNat, BitVec.setWidth_eq]
    rw [List.flatMap_cons, hexPair, List.cons_append, List.cons_append, List.nil_append,
      hexBytes?, hexValue?_digitChar (by omega), hexValue?_digitChar (by omega), ih]
    simp [hback]

theorem hexBytes?_hexLower (bs : List (BitVec 8)) : hexBytes? (hexLower bs).toList = some bs := by
  rw [hexLower, String.toList_ofList, hexBytes?_flatMap_hexPair]

theorem hexLower_injective : Function.Injective hexLower := by
  intro bs cs h
  have hsame := congrArg (fun s : String => hexBytes? s.toList) h
  simpa [hexBytes?_hexLower] using hsame

/-! ## What the reader accepts -/

theorem hexValue?_isSome_iff {c : Char} : (hexValue? c).isSome ↔ IsHexDigit c := by
  unfold hexValue? IsHexDigit
  split_ifs with hdigit hlower hupper
  · simp [hdigit]
  · simp [hlower]
  · simp [hupper]
  · simp [hdigit, hlower, hupper]

/-- A character between two others has its code between theirs. -/
theorem toNat_mem_Icc {lo hi c : Char} (h : lo ≤ c ∧ c ≤ hi) :
    lo.toNat ≤ c.toNat ∧ c.toNat ≤ hi.toNat := by
  exact ⟨UInt32.le_iff_toNat_le.mp h.1, UInt32.le_iff_toNat_le.mp h.2⟩

/-- A digit of either case is read as the value whose lowercase digit it spells. -/
theorem digitChar_of_hexValue? {c : Char} {n : Nat} (h : hexValue? c = some n) :
    n < 16 ∧ Nat.digitChar n = c.toLower := by
  have hback : Char.ofNat c.toNat = c := Char.ofNat_toNat c
  unfold hexValue? at h
  split_ifs at h with hdigit hlower hupper
  · have hlo : 48 ≤ c.toNat := (toNat_mem_Icc hdigit).1
    have hhi : c.toNat ≤ 57 := (toNat_mem_Icc hdigit).2
    cases h
    rw [← hback]
    interval_cases c.toNat <;> decide
  · have hlo : 97 ≤ c.toNat := (toNat_mem_Icc hlower).1
    have hhi : c.toNat ≤ 102 := (toNat_mem_Icc hlower).2
    cases h
    rw [← hback]
    interval_cases c.toNat <;> decide
  · have hlo : 65 ≤ c.toNat := (toNat_mem_Icc hupper).1
    have hhi : c.toNat ≤ 70 := (toNat_mem_Icc hupper).2
    cases h
    rw [← hback]
    interval_cases c.toNat <;> decide

theorem isHexDigit_of_hexValue? {c : Char} {n : Nat} (h : hexValue? c = some n) :
    IsHexDigit c := by
  rw [← hexValue?_isSome_iff, h]
  rfl

/-- What the reader accepts: digits of either case whose lowercase forms spell the bytes. -/
theorem flatMap_hexPair_of_hexBytes? {cs : List Char} {bs : List (BitVec 8)}
    (h : hexBytes? cs = some bs) :
    bs.flatMap hexPair = cs.map Char.toLower ∧ ∀ c ∈ cs, IsHexDigit c := by
  induction cs using hexBytes?.induct generalizing bs with
  | case1 =>
    cases h
    simp
  | case2 c => simp [hexBytes?] at h
  | case3 hi lo cs i j hlo hhi ih =>
    obtain ⟨hi16, hihi⟩ := digitChar_of_hexValue? hhi
    obtain ⟨hj16, hjlo⟩ := digitChar_of_hexValue? hlo
    simp only [hexBytes?, hhi, hlo, Option.map_eq_some_iff] at h
    obtain ⟨rest, hrest, rfl⟩ := h
    obtain ⟨hchars, hdigits⟩ := ih hrest
    have hvalue : (BitVec.ofNat 8 (16 * i + j)).toNat = 16 * i + j := by
      rw [BitVec.toNat_ofNat]
      omega
    have hpair : hexPair (BitVec.ofNat 8 (16 * i + j)) = [hi.toLower, lo.toLower] := by
      rw [hexPair, hvalue, ← hihi, ← hjlo]
      congr <;> omega
    refine ⟨?_, ?_⟩
    · rw [List.flatMap_cons, hpair, hchars]
      rfl
    · simp only [List.mem_cons]
      rintro c (rfl | rfl | hc)
      · exact isHexDigit_of_hexValue? hhi
      · exact isHexDigit_of_hexValue? hlo
      · exact hdigits c hc
  | case4 hi lo cs hnone =>
    rw [hexBytes?] at h
    split at h
    · rename_i i j hhi hlo
      exact (hnone i j hhi hlo).elim
    · cases h

theorem exists_hexBytes?_of_isHexDigit {cs : List Char} (hlength : cs.length % 2 = 0)
    (hdigits : ∀ c ∈ cs, IsHexDigit c) : ∃ bs, hexBytes? cs = some bs := by
  induction cs using hexBytes?.induct with
  | case1 => exact ⟨[], rfl⟩
  | case2 c => simp at hlength
  | case3 hi lo cs i j hlo hhi ih =>
    simp only [List.length_cons] at hlength
    obtain ⟨rest, hrest⟩ := ih (by omega) fun c hc => hdigits c (by simp [hc])
    exact ⟨BitVec.ofNat 8 (16 * i + j) :: rest, by simp [hexBytes?, hhi, hlo, hrest]⟩
  | case4 hi lo cs hnone =>
    have hhi := hexValue?_isSome_iff.mpr (hdigits hi (by simp))
    have hlo := hexValue?_isSome_iff.mpr (hdigits lo (by simp))
    rw [Option.isSome_iff_exists] at hhi hlo
    obtain ⟨i, hi⟩ := hhi
    obtain ⟨j, hj⟩ := hlo
    exact (hnone i j hi hj).elim

theorem length_flatMap_hexPair (bs : List (BitVec 8)) :
    (bs.flatMap hexPair).length = 2 * bs.length := by
  simp [hexPair, List.length_flatMap, Nat.mul_comm]

/-- The reader accepts exactly the digits of either case whose lowercase forms spell the
bytes. -/
theorem hexBytes?_eq_some_iff {cs : List Char} {bs : List (BitVec 8)} :
    hexBytes? cs = some bs ↔
      bs.flatMap hexPair = cs.map Char.toLower ∧ ∀ c ∈ cs, IsHexDigit c := by
  refine ⟨flatMap_hexPair_of_hexBytes?, ?_⟩
  intro h
  obtain ⟨hchars, hdigits⟩ := h
  have hlength : cs.length = 2 * bs.length := by
    rw [← length_flatMap_hexPair, hchars, List.length_map]
  obtain ⟨cs', hread⟩ := exists_hexBytes?_of_isHexDigit (by omega) hdigits
  have hsame : cs'.flatMap hexPair = bs.flatMap hexPair := by
    rw [(flatMap_hexPair_of_hexBytes? hread).1, hchars]
  have := congrArg hexBytes? hsame
  rw [hexBytes?_flatMap_hexPair, hexBytes?_flatMap_hexPair] at this
  rw [hread, this]

/-- Which texts are read as a given number of bytes. -/
theorem exists_hexBytes?_length_iff {cs : List Char} {n : Nat} :
    (∃ bs, hexBytes? cs = some bs ∧ bs.length = n) ↔
      cs.length = 2 * n ∧ ∀ c ∈ cs, IsHexDigit c := by
  refine ⟨?_, ?_⟩
  · rintro ⟨bs, hread, rfl⟩
    obtain ⟨hchars, hdigits⟩ := hexBytes?_eq_some_iff.mp hread
    refine ⟨?_, hdigits⟩
    rw [← length_flatMap_hexPair, hchars, List.length_map]
  · intro h
    obtain ⟨bs, hread⟩ := exists_hexBytes?_of_isHexDigit (by omega) h.2
    refine ⟨bs, hread, ?_⟩
    have hlength := congrArg List.length (hexBytes?_eq_some_iff.mp hread).1
    rw [length_flatMap_hexPair, List.length_map] at hlength
    omega

theorem toList_toLower (s : String) : s.toLower.toList = s.toList.map Char.toLower := by
  show (s.map Char.toLower).toList = s.toList.map Char.toLower
  rw [String.toList_map]

/-- Writing what was read gives the text with its letters lowercased. -/
theorem hexLower_of_hexBytes? {s : String} {bs : List (BitVec 8)}
    (h : hexBytes? s.toList = some bs) : hexLower bs = s.toLower := by
  rw [← String.toList_inj, hexLower, String.toList_ofList, (hexBytes?_eq_some_iff.mp h).1,
    toList_toLower]

theorem toLower_char_eq_self_iff {c : Char} : c.toLower = c ↔ c.isUpper = false := by
  unfold Char.toLower Char.isUpper
  split
  · rename_i h
    simpa [Char.ext_iff] using h
  · rename_i h
    simpa using h

/-- Lowercasing leaves exactly the texts with no uppercase letter. -/
theorem toLower_eq_self_iff {s : String} :
    s.toLower = s ↔ ∀ c ∈ s.toList, c.isUpper = false := by
  rw [← String.toList_inj, toList_toLower]
  nth_rewrite 2 [← List.map_id s.toList]
  rw [List.map_inj_left]
  simp only [id_eq, toLower_char_eq_self_iff]

/-- The texts of bytes are the even-length texts of digits with no uppercase letter. -/
theorem exists_hexLower_iff {s : String} {n : Nat} :
    (∃ bs, bs.length = n ∧ s = hexLower bs) ↔
      s.toList.length = 2 * n ∧ (∀ c ∈ s.toList, IsHexDigit c) ∧
        ∀ c ∈ s.toList, c.isUpper = false := by
  rw [← toLower_eq_self_iff, ← and_assoc, ← exists_hexBytes?_length_iff]
  refine ⟨?_, ?_⟩
  · rintro ⟨bs, hlength, rfl⟩
    have hread := hexBytes?_hexLower bs
    exact ⟨⟨bs, hread, hlength⟩, (hexLower_of_hexBytes? hread).symm⟩
  · rintro ⟨⟨bs, hread, hlength⟩, hlower⟩
    exact ⟨bs, hlength, by rw [hexLower_of_hexBytes? hread, hlower]⟩

/-! ## Order -/

theorem digitChar_lt_digitChar {m n : Nat} (hm : m < 16) (hn : n < 16) :
    Nat.digitChar m < Nat.digitChar n ↔ m < n := by
  interval_cases m <;> interval_cases n <;> decide

theorem digitChar_inj {m n : Nat} (hm : m < 16) (hn : n < 16) :
    Nat.digitChar m = Nat.digitChar n ↔ m = n := by
  refine ⟨?_, congrArg _⟩
  intro h
  have := congrArg hexValue? h
  rwa [hexValue?_digitChar hm, hexValue?_digitChar hn, Option.some.injEq] at this

/-- The digits are in the order of the bytes, both compared lexicographically. -/
theorem flatMap_hexPair_lt_iff {bs cs : List (BitVec 8)} :
    bs.flatMap hexPair < cs.flatMap hexPair ↔ bs < cs := by
  induction bs generalizing cs with
  | nil => cases cs <;> simp [hexPair]
  | cons b bs ih =>
    cases cs with
    | nil => simp
    | cons c cs =>
      have hb : b.toNat < 256 := b.isLt
      have hc : c.toNat < 256 := c.isLt
      simp only [List.flatMap_cons, hexPair, List.cons_append, List.nil_append,
        List.cons_lt_cons_iff, ih, BitVec.lt_def, ← BitVec.toNat_inj,
        digitChar_lt_digitChar (by omega : b.toNat / 16 < 16) (by omega : c.toNat / 16 < 16),
        digitChar_lt_digitChar (by omega : b.toNat % 16 < 16) (by omega : c.toNat % 16 < 16),
        digitChar_inj (by omega : b.toNat / 16 < 16) (by omega : c.toNat / 16 < 16),
        digitChar_inj (by omega : b.toNat % 16 < 16) (by omega : c.toNat % 16 < 16)]
      by_cases hrest : bs < cs
      · simp only [hrest, and_true]
        omega
      · simp only [hrest, and_false, or_false]
        omega

theorem hexLower_lt_iff {bs cs : List (BitVec 8)} : hexLower bs < hexLower cs ↔ bs < cs := by
  rw [String.lt_iff, hexLower, hexLower, String.toList_ofList, String.toList_ofList,
    flatMap_hexPair_lt_iff]

end Lib
