import Mathlib.Data.Char
import X0xCompute.Lib.Sorted

/-!
# UTF-8 bytes of a text

The bytes of a text and the text that given bytes spell, if they do. Comparing texts by
their characters is comparing them by their bytes.
-/

namespace Lib

/-- The UTF-8 bytes of a character. -/
def utf8Char (c : Char) : List (BitVec 8) := (String.utf8EncodeChar c).map UInt8.toBitVec

/-- The UTF-8 bytes of a text. -/
def utf8 (s : String) : List (BitVec 8) := s.toList.flatMap utf8Char

/-- The text that the bytes are the UTF-8 form of. -/
def utf8Text? (bs : List (BitVec 8)) : Option String :=
  String.fromUTF8? ⟨(bs.map UInt8.ofBitVec).toArray⟩

theorem toByteArray_eq_iff {s : String} {bs : List (BitVec 8)} :
    s.toByteArray = ⟨(bs.map UInt8.ofBitVec).toArray⟩ ↔ utf8 s = bs := by
  have hbytes : utf8 s = s.toByteArray.data.toList.map UInt8.toBitVec := by
    rw [← String.utf8Encode_toList, List.utf8Encode, utf8, List.data_toByteArray,
      List.map_flatMap]
    rfl
  rw [hbytes, ByteArray.ext_iff, ← Array.toList_inj]
  refine ⟨?_, ?_⟩
  · intro h
    simp [h, Function.comp_def]
  · rintro rfl
    simp [Function.comp_def]

theorem utf8Text?_eq_some_iff {bs : List (BitVec 8)} {s : String} :
    utf8Text? bs = some s ↔ utf8 s = bs := by
  rw [← toByteArray_eq_iff, utf8Text?, String.fromUTF8?]
  split
  · rw [Option.some.injEq]
    refine ⟨?_, ?_⟩
    · rintro rfl
      rfl
    · intro h
      rw [← String.toByteArray_inj, h]
      rfl
  · rename_i hvalid
    refine ⟨nofun, ?_⟩
    intro h
    exact (hvalid (h ▸ s.isValidUTF8)).elim

/-! ## Order -/

/-- A smaller character has smaller bytes, whatever follows it. -/
theorem utf8Char_append_lt {c d : Char} (h : c < d) (bs cs : List (BitVec 8)) :
    utf8Char c ++ bs < utf8Char d ++ cs := by
  have hlt : c.val.toNat < d.val.toNat := h
  have hd : d.val.toNat < 1114112 := by
    rcases d.valid with hlow | hhigh
    · have : d.val.toNat < 55296 := hlow
      omega
    · exact hhigh.2
  unfold utf8Char String.utf8EncodeChar
  generalize c.val.toNat = v at hlt ⊢
  generalize d.val.toNat = w at hlt hd ⊢
  simp only
  split_ifs
  all_goals
    simp only [List.map_cons, List.map_nil, List.cons_append, List.nil_append,
      List.cons_lt_cons_iff, BitVec.lt_def, ← BitVec.toNat_inj, UInt8.toNat_toBitVec,
      UInt8.toNat_ofNat']
    simp (disch := omega) only [Nat.mod_eq_of_lt]
    omega

theorem utf8Char_append_lt_iff {c d : Char} {bs cs : List (BitVec 8)} :
    utf8Char c ++ bs < utf8Char d ++ cs ↔ c < d ∨ c = d ∧ bs < cs := by
  rcases lt_trichotomy c d with hlt | rfl | hgt
  · simp [hlt, utf8Char_append_lt hlt bs cs]
  · simp [append_lt_append_left_iff]
  · have hbytes := utf8Char_append_lt hgt cs bs
    simp [hgt.ne', hgt.not_gt, List.lt_asymm hbytes]

theorem utf8Char_append_pos (c : Char) (bs : List (BitVec 8)) : [] < utf8Char c ++ bs := by
  unfold utf8Char String.utf8EncodeChar
  simp only
  split_ifs <;> simp

/-- Comparing texts character by character is comparing their bytes. -/
theorem utf8_lt_iff {s t : String} : utf8 s < utf8 t ↔ s < t := by
  rw [String.lt_iff, utf8, utf8]
  generalize s.toList = cs
  generalize t.toList = ds
  induction cs generalizing ds with
  | nil =>
    cases ds with
    | nil => simp
    | cons d ds => simp [utf8Char_append_pos]
  | cons c cs ih =>
    cases ds with
    | nil => simp
    | cons d ds =>
      rw [List.flatMap_cons, List.flatMap_cons, utf8Char_append_lt_iff, ih,
        List.cons_lt_cons_iff]

end Lib
