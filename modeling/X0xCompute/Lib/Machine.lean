import Mathlib.Tactic

/-!
# Machines and their runs

A deterministic machine answers each input and moves to a next state; a run feeds it a list
of inputs. This file has the run's final state and events, and the rules by which a fact
about one step becomes a fact about every run: an invariant, an invariant that also sees
the events so far, and a relation between two machines of which the second takes only some
of the inputs of the first.
-/

namespace Lib

/-- A deterministic machine with states `σ`, inputs `ι` and outputs `ο`. -/
structure Machine (σ ι ο : Type) where
  step : σ → ι → ο × σ

namespace Machine

variable {σ ι ο : Type} (M : Machine σ ι ο)

/-- The state after the inputs `is` from `s`. -/
def exec : σ → List ι → σ
  | s, [] => s
  | s, i :: is => exec (M.step s i).2 is

/-- The inputs of a run from `s`, each with the output it got. -/
def events : σ → List ι → List (ι × ο)
  | _, [] => []
  | s, i :: is => (i, (M.step s i).1) :: events (M.step s i).2 is

@[simp] theorem exec_nil (s : σ) : M.exec s [] = s := rfl

@[simp] theorem exec_cons (s : σ) (i : ι) (is : List ι) :
    M.exec s (i :: is) = M.exec (M.step s i).2 is := rfl

@[simp] theorem events_nil (s : σ) : M.events s [] = [] := rfl

@[simp] theorem events_cons (s : σ) (i : ι) (is : List ι) :
    M.events s (i :: is) = (i, (M.step s i).1) :: M.events (M.step s i).2 is := rfl

theorem exec_append (s : σ) (is js : List ι) :
    M.exec s (is ++ js) = M.exec (M.exec s is) js := by
  induction is generalizing s with
  | nil => rfl
  | cons i is ih => simp [ih]

theorem events_append (s : σ) (is js : List ι) :
    M.events s (is ++ js) = M.events s is ++ M.events (M.exec s is) js := by
  induction is generalizing s with
  | nil => rfl
  | cons i is ih => simp [ih]

theorem exec_snoc (s : σ) (is : List ι) (i : ι) :
    M.exec s (is ++ [i]) = (M.step (M.exec s is) i).2 := by
  rw [exec_append]
  rfl

theorem events_snoc (s : σ) (is : List ι) (i : ι) :
    M.events s (is ++ [i]) = M.events s is ++ [(i, (M.step (M.exec s is) i).1)] := by
  rw [events_append]
  rfl

@[simp] theorem map_fst_events (s : σ) (is : List ι) : (M.events s is).map Prod.fst = is := by
  induction is generalizing s with
  | nil => rfl
  | cons i is ih => simp [ih]

@[simp] theorem length_events (s : σ) (is : List ι) : (M.events s is).length = is.length := by
  rw [← List.length_map Prod.fst, map_fst_events]

/-- Two machines that answer alike run alike. -/
theorem exec_alike {σ' : Type} {N : Machine σ' ι ο} {f : σ → σ'}
    (hstep : ∀ s i, ((M.step s i).1, f (M.step s i).2) = N.step (f s) i) (s : σ) (is : List ι) :
    f (M.exec s is) = N.exec (f s) is ∧ M.events s is = N.events (f s) is := by
  induction is generalizing s with
  | nil => exact ⟨rfl, rfl⟩
  | cons i is ih =>
    obtain ⟨hexec, hevents⟩ := ih (M.step s i).2
    rw [exec_cons, events_cons, exec_cons, events_cons, ← hstep, hexec, hevents]
    exact ⟨rfl, rfl⟩

/-- What every step keeps, every run keeps. -/
theorem exec_invariant {P : σ → Prop} (hstep : ∀ s i, P s → P (M.step s i).2) {s : σ}
    (h : P s) (is : List ι) : P (M.exec s is) := by
  induction is generalizing s with
  | nil => exact h
  | cons i is ih => exact ih (hstep s i h)

/-- A relation between the events so far and the state that every step keeps holds after
every run. -/
theorem exec_history {P : List (ι × ο) → σ → Prop}
    (hstep : ∀ es s i, P es s → P (es ++ [(i, (M.step s i).1)]) (M.step s i).2) {s : σ}
    (h : P [] s) (is : List ι) : P (M.events s is) (M.exec s is) := by
  have general : ∀ (is : List ι) (es : List (ι × ο)) (s : σ), P es s →
      P (es ++ M.events s is) (M.exec s is) := by
    intro is
    induction is with
    | nil => intro es s hes; simpa using hes
    | cons i is ih =>
      intro es s hes
      simpa using ih _ _ (hstep es s i hes)
  exact general is [] s h

/-- Erasing the inputs that a view of the state does not see: if a hidden input keeps the
relation with no move of the second run, and a visible one is answered alike in related
states and keeps the relation, then the second run on the visible inputs alone ends in a
related state and has exactly the visible events of the first. -/
theorem exec_visible {R : σ → σ → Prop} {visible : ι → Bool}
    (hidden : ∀ s t i, R s t → visible i = false → R (M.step s i).2 t)
    (seen : ∀ s t i, R s t → visible i = true →
      (M.step s i).1 = (M.step t i).1 ∧ R (M.step s i).2 (M.step t i).2)
    {s t : σ} (h : R s t) (is : List ι) :
    R (M.exec s is) (M.exec t (is.filter visible)) ∧
      (M.events s is).filter (fun e => visible e.1) = M.events t (is.filter visible) := by
  induction is generalizing s t with
  | nil => exact ⟨h, rfl⟩
  | cons i is ih =>
    cases hi : visible i with
    | false =>
      have := ih (hidden s t i h hi)
      simpa [hi] using this
    | true =>
      obtain ⟨hout, hrel⟩ := seen s t i h hi
      have := ih hrel
      simpa [hi, hout] using this

/-- Erasing and translating inputs: a relation between two runs, of which the second takes
the translations of the inputs that are kept, holds at every point of the runs if it holds
at their start and each input of the first run, dropped or kept, maintains it. -/
theorem exec_filterMap (keep : ι → Option ι) (is : List ι) {R : List ι → σ → σ → Prop}
    {s t : σ} (h : R [] s t)
    (hdrop : ∀ pre i post, is = pre ++ i :: post → keep i = none →
      R pre (M.exec s pre) (M.exec t (pre.filterMap keep)) →
      R (pre ++ [i]) (M.step (M.exec s pre) i).2 (M.exec t (pre.filterMap keep)))
    (hkeep : ∀ pre i post i', is = pre ++ i :: post → keep i = some i' →
      R pre (M.exec s pre) (M.exec t (pre.filterMap keep)) →
      R (pre ++ [i]) (M.step (M.exec s pre) i).2
        (M.step (M.exec t (pre.filterMap keep)) i').2)
    (pre post : List ι) (hsplit : is = pre ++ post) :
    R pre (M.exec s pre) (M.exec t (pre.filterMap keep)) := by
  induction pre using List.reverseRecOn generalizing post with
  | nil => exact h
  | append_singleton pre i ih =>
    rw [List.append_assoc, List.singleton_append] at hsplit
    have hrel := ih (i :: post) hsplit
    rw [exec_snoc, List.filterMap_append]
    cases hi : keep i with
    | none =>
      rw [List.filterMap_cons_none hi, List.filterMap_nil, List.append_nil]
      exact hdrop pre i post hsplit hi hrel
    | some i' =>
      rw [List.filterMap_cons_some hi, List.filterMap_nil, exec_snoc]
      exact hkeep pre i post i' hsplit hi hrel

/-! ## A part of the state -/

section

variable {σ' ι' ο' : Type} (N : Machine σ' ι' ο') (part : σ → σ') (input : ι → Option ι')
  {P : σ → Prop}

/-- If every step acts on a part of the state as a second machine does on some of the inputs,
and leaves the part alone on the others, then so does every run. -/
theorem exec_part (hkeep : ∀ s i, P s → P (M.step s i).2)
    (hskip : ∀ s i, P s → input i = none → part (M.step s i).2 = part s)
    (hstep : ∀ s i j, P s → input i = some j →
      part (M.step s i).2 = (N.step (part s) j).2)
    {s : σ} (h : P s) (is : List ι) :
    part (M.exec s is) = N.exec (part s) (is.filterMap input) := by
  induction is generalizing s with
  | nil => rfl
  | cons i is ih =>
    rw [exec_cons, ih (hkeep s i h)]
    cases hi : input i with
    | none => rw [List.filterMap_cons_none hi, hskip s i h hi]
    | some j => rw [List.filterMap_cons_some hi, exec_cons, hstep s i j h hi]

/-- And what is read off the events of the run can be read off those of the part. -/
theorem filterMap_events_part {γ : Type} (read : ι × ο → Option γ)
    (readPart : ι' × ο' → Option γ) (hkeep : ∀ s i, P s → P (M.step s i).2)
    (hskip : ∀ s i, P s → input i = none →
      part (M.step s i).2 = part s ∧ read (i, (M.step s i).1) = none)
    (hstep : ∀ s i j, P s → input i = some j →
      part (M.step s i).2 = (N.step (part s) j).2 ∧
        read (i, (M.step s i).1) = readPart (j, (N.step (part s) j).1))
    {s : σ} (h : P s) (is : List ι) :
    (M.events s is).filterMap read =
      (N.events (part s) (is.filterMap input)).filterMap readPart := by
  induction is generalizing s with
  | nil => rfl
  | cons i is ih =>
    rw [events_cons, List.filterMap_cons, ih (hkeep s i h)]
    cases hi : input i with
    | none =>
      obtain ⟨hpart, hread⟩ := hskip s i h hi
      rw [hread, List.filterMap_cons_none hi, hpart]
    | some j =>
      obtain ⟨hpart, hread⟩ := hstep s i j h hi
      rw [hread, List.filterMap_cons_some hi, events_cons, List.filterMap_cons, hpart]

end

/-! ## Refinement -/

/-- A run of a specification: each event takes the abstract state before it to the one
after it. -/
inductive SpecRun {α : Type} (spec : α → ι → ο → α → Prop) : α → List (ι × ο) → α → Prop
  | nil (a : α) : SpecRun spec a [] a
  | snoc {a b c : α} {es : List (ι × ο)} {i : ι} {o : ο} :
      SpecRun spec a es b → spec b i o c → SpecRun spec a (es ++ [(i, o)]) c

/-- Simulation: if a relation between the events so far and the state is kept by every step,
and a step within the bound is one the specification allows between the abstractions, then
a run within the bound is a run of the specification. -/
theorem exec_refines {α : Type} (spec : α → ι → ο → α → Prop) (abstraction : σ → α)
    (P : List (ι × ο) → σ → Prop) (bound : List (ι × ο) → Prop)
    (hstep : ∀ es s i, P es s → P (es ++ [(i, (M.step s i).1)]) (M.step s i).2)
    (hbound : ∀ es e, bound (es ++ [e]) → bound es)
    (hsim : ∀ es s i, P es s → bound (es ++ [(i, (M.step s i).1)]) →
      spec (abstraction s) i (M.step s i).1 (abstraction (M.step s i).2))
    {s : σ} (h : P [] s) (is : List ι) (hrun : bound (M.events s is)) :
    SpecRun spec (abstraction s) (M.events s is) (abstraction (M.exec s is)) := by
  induction is using List.reverseRecOn with
  | nil => exact SpecRun.nil _
  | append_singleton is i ih =>
    rw [events_snoc] at hrun ⊢
    rw [exec_snoc]
    have hP := M.exec_history hstep h is
    exact SpecRun.snoc (ih (hbound _ _ hrun)) (hsim _ _ i hP hrun)

end Machine

end Lib
