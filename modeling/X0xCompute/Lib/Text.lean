import Mathlib.Data.List.DropRight
import Mathlib.Tactic

/-!
# Whitespace, trimming and words

The characters with the Unicode `White_Space` property, the text left when they are removed
from both ends, and the words between them. Trimming stops at a character that is no
whitespace, and neither trimming nor joining with spaces changes the number of words.
-/

namespace Lib

/-- The Unicode `White_Space` property. -/
def isWhitespace (c : Char) : Bool :=
  (0x09 ≤ c.toNat && c.toNat ≤ 0x0D) || c.toNat == 0x20 || c.toNat == 0x85 ||
    c.toNat == 0xA0 || c.toNat == 0x1680 || (0x2000 ≤ c.toNat && c.toNat ≤ 0x200A) ||
    c.toNat == 0x2028 || c.toNat == 0x2029 || c.toNat == 0x202F || c.toNat == 0x205F ||
    c.toNat == 0x3000

/-- The text without leading and trailing whitespace. -/
def trim (s : String) : String :=
  String.ofList ((s.toList.dropWhile isWhitespace).rdropWhile isWhitespace)

/-- The maximal runs of characters that are not whitespace. -/
def words (s : String) : List (List Char) :=
  (s.toList.splitOnP isWhitespace).filter (· ≠ [])

/-- The text without leading whitespace. -/
def trimStart (s : String) : String := String.ofList (s.toList.dropWhile isWhitespace)

/-- The text neither starts nor ends with whitespace. -/
structure Trimmed (s : String) : Prop where
  head (c : Char) : s.toList.head? = some c → isWhitespace c = false
  last (c : Char) : s.toList.getLast? = some c → isWhitespace c = false

/-- The runs of characters that are not whitespace that start in `cs`. The flag says whether
the character before them belongs to a run, which then goes on and is not counted. -/
def runsFrom (inRun : Bool) : List Char → Nat
  | [] => 0
  | c :: cs =>
    if isWhitespace c then runsFrom false cs
    else (if inRun then 0 else 1) + runsFrom true cs

/-- The number of maximal runs of characters that are not whitespace. -/
def wordCount (s : String) : Nat := runsFrom false s.toList

/-- A text is blank when it has nothing but whitespace. -/
def Blank (s : String) : Prop := ∀ c ∈ s.toList, isWhitespace c = true

instance (s : String) : Decidable (Blank s) :=
  decidable_of_iff (s.toList.all isWhitespace = true) List.all_eq_true

theorem trim_eq_empty_iff {s : String} : trim s = "" ↔ Blank s := by
  rw [trim, ← String.toList_inj, String.toList_ofList, String.toList_empty,
    List.rdropWhile_eq_nil_iff, Blank]
  refine ⟨?_, ?_⟩
  · intro h c hc
    rw [← List.takeWhile_append_dropWhile (p := isWhitespace) (l := s.toList),
      List.mem_append] at hc
    rcases hc with htake | hdrop
    · exact List.mem_takeWhile_imp htake
    · exact h c hdrop
  · intro h c hc
    exact h c (((List.dropWhile_sublist _).mem hc))

/-! ## Trimming -/

section

variable {α : Type} {p : α → Bool} {a : α}

theorem dropWhile_append_cons_of_not (h : p a = false) (l l' : List α) :
    (l ++ a :: l').dropWhile p = l.dropWhile p ++ a :: l' := by
  induction l with
  | nil => simp [h]
  | cons b l ih =>
    by_cases hb : p b = true
    · simp [hb, ih]
    · simp [hb]

theorem rdropWhile_append_cons_of_not (h : p a = false) (l l' : List α) :
    (l ++ a :: l').rdropWhile p = l ++ a :: l'.rdropWhile p := by
  have hreverse := dropWhile_append_cons_of_not h l'.reverse l.reverse
  simpa [List.rdropWhile] using congrArg List.reverse hreverse

theorem head?_dropWhile_not {l : List α} (h : (l.dropWhile p).head? = some a) :
    p a = false := by
  induction l with
  | nil => cases h
  | cons b l ih =>
    by_cases hb : p b = true
    · exact ih (by simpa [hb] using h)
    · rw [List.dropWhile_cons_of_neg hb, List.head?_cons, Option.some.injEq] at h
      rw [← h]
      simpa using hb

theorem getLast?_rdropWhile_not {l : List α} (h : (l.rdropWhile p).getLast? = some a) :
    p a = false := by
  rw [List.rdropWhile, List.getLast?_reverse] at h
  exact head?_dropWhile_not h

end

/-- What trimming leaves neither starts nor ends with whitespace. -/
theorem trimmed_trim (s : String) : Trimmed (trim s) where
  head c h := by
    rw [trim, String.toList_ofList] at h
    cases hdrop : s.toList.dropWhile isWhitespace with
    | nil =>
      rw [hdrop] at h
      cases h
    | cons d l =>
      have hd : isWhitespace d = false := head?_dropWhile_not (by rw [hdrop]; rfl)
      rw [hdrop] at h
      have hkeep := rdropWhile_append_cons_of_not hd [] l
      rw [List.nil_append] at hkeep
      rw [hkeep] at h
      cases h
      exact hd
  last c h := by
    rw [trim, String.toList_ofList] at h
    exact getLast?_rdropWhile_not h

/-! ## Words -/

theorem runsFrom_blank {cs : List Char} (h : ∀ c ∈ cs, isWhitespace c = true)
    (inRun : Bool) : runsFrom inRun cs = 0 := by
  induction cs generalizing inRun with
  | nil => rfl
  | cons c cs ih =>
    rw [runsFrom, if_pos (h c List.mem_cons_self)]
    exact ih (fun d hd => h d (List.mem_cons_of_mem c hd)) false

/-- Whitespace ends a run, so the runs before and after it are counted apart. -/
theorem runsFrom_append_cons {c : Char} (h : isWhitespace c = true) (inRun : Bool)
    (cs ds : List Char) :
    runsFrom inRun (cs ++ c :: ds) = runsFrom inRun cs + runsFrom false ds := by
  induction cs generalizing inRun with
  | nil => simp [runsFrom, h]
  | cons d cs ih =>
    rw [List.cons_append, runsFrom, runsFrom]
    split
    · exact ih false
    · rw [ih true, Nat.add_assoc]

theorem runsFrom_append_blank {ds : List Char} (h : ∀ c ∈ ds, isWhitespace c = true)
    (inRun : Bool) (cs : List Char) : runsFrom inRun (cs ++ ds) = runsFrom inRun cs := by
  cases ds with
  | nil => rw [List.append_nil]
  | cons d ds =>
    rw [runsFrom_append_cons (h d List.mem_cons_self),
      runsFrom_blank fun c hc => h c (List.mem_cons_of_mem d hc), Nat.add_zero]

theorem runsFrom_blank_append {cs : List Char} (h : ∀ c ∈ cs, isWhitespace c = true)
    (ds : List Char) : runsFrom false (cs ++ ds) = runsFrom false ds := by
  induction cs with
  | nil => rfl
  | cons c cs ih =>
    rw [List.cons_append, runsFrom, if_pos (h c List.mem_cons_self)]
    exact ih fun d hd => h d (List.mem_cons_of_mem c hd)

/-- The words are the runs. -/
theorem length_words (s : String) : (words s).length = wordCount s := by
  have general : ∀ cs : List Char,
      ((cs.splitOnP isWhitespace).filter (· ≠ [])).length = runsFrom false cs ∧
        ((cs.splitOnP isWhitespace).tail.filter (· ≠ [])).length = runsFrom true cs := by
    intro cs
    induction cs with
    | nil => simp [runsFrom]
    | cons c cs ih =>
      rw [List.splitOnP_cons_eq_if_modifyHead]
      by_cases hc : isWhitespace c = true
      · simpa [hc, runsFrom] using ih.1
      · cases hsplit : cs.splitOnP isWhitespace with
        | nil => exact (List.splitOnP_ne_nil _ _ hsplit).elim
        | cons w ws =>
          have htail := ih.2
          rw [hsplit, List.tail_cons] at htail
          simp only [hc, runsFrom, Bool.false_eq_true, if_false, if_true, List.modifyHead_cons]
          refine ⟨?_, ?_⟩
          · rw [List.filter_cons_of_pos (by simp), List.length_cons, htail, Nat.add_comm]
          · rw [List.tail_cons, htail, Nat.zero_add]
  exact (general s.toList).1

/-- Trimming loses no word. -/
theorem wordCount_trim (s : String) : wordCount (trim s) = wordCount s := by
  rw [wordCount, wordCount, trim, String.toList_ofList]
  conv_rhs =>
    rw [← List.takeWhile_append_dropWhile (p := isWhitespace) (l := s.toList)]
  rw [runsFrom_blank_append fun c hc => List.mem_takeWhile_imp hc]
  conv_rhs =>
    rw [← List.rdropWhile_append_rtakeWhile (p := isWhitespace)
      (l := s.toList.dropWhile isWhitespace)]
  rw [runsFrom_append_blank fun c hc => List.mem_rtakeWhile_imp hc]

/-- Joining with a space loses and merges no word. -/
theorem wordCount_append_space (s t : String) :
    wordCount (s ++ " " ++ t) = wordCount s + wordCount t := by
  rw [wordCount, String.toList_append, String.toList_append, List.append_assoc]
  exact runsFrom_append_cons (by decide) false s.toList t.toList

theorem wordCount_intercalate_space (texts : List String) :
    wordCount (" ".intercalate texts) = (texts.map wordCount).sum := by
  induction texts with
  | nil => rfl
  | cons s texts ih =>
    cases texts with
    | nil => simp
    | cons t texts =>
      rw [String.intercalate_cons_cons, wordCount_append_space, ih]
      simp only [List.map_cons, List.sum_cons]

end Lib
