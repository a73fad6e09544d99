import X0xCompute.Lib.Guarded
import X0xCompute.Lib.Machine

/-!
# Threads that share a locked object

Threads call an object whose calls run under one lock. A call may be answered before the
lock is taken; otherwise it waits for the lock, makes its writes one at a time, and either
releases the lock and answers or is abandoned where it stands, the lock being recovered by
the next holder. Every schedule of the threads is linearizable: the calls took effect one
after the other, in an order that respects real time, and each caller got the answer of
the sequential run.
-/

namespace Lib

/-- A call that runs to its end, or is abandoned after some of its writes. -/
inductive Attempt (ι : Type) where
  | completed (call : ι)
  | abandoned (call : ι) (writes : ℕ)
  deriving DecidableEq

def Attempt.call {ι : Type} : Attempt ι → ι
  | .completed call | .abandoned call _ => call

/-- An object whose calls run under one lock: what a call is answered before it takes the
lock, if it never takes it, and otherwise, from the value it finds, its answer and the
values it writes, in order. -/
structure Locked (σ ι ο : Type) where
  beforeLock : ι → Option ο
  underLock : ι → σ → ο × List σ

/-- Where a thread is in its call. Calls are numbered as they are made. -/
inductive Phase (σ ι ο : Type) where
  | idle
  | called (number : ℕ) (call : ι)
  | holding (number : ℕ) (call : ι) (answer : ο) (written left : List σ)
  | answered (number : ℕ) (answer : ο)

/-- What a caller sees. -/
inductive Notice (ι ο : Type) where
  | invoked (number : ℕ) (call : ι)
  | returned (number : ℕ) (answer : ο)
  deriving DecidableEq

/-- How a call took effect, with its answer unless it was abandoned. -/
structure Effect (ι ο : Type) where
  number : ℕ
  attempt : Attempt ι
  answer : Option ο

/-- The threads `τ` and the object they share, with what the callers have seen so far and
the order in which calls took effect. -/
structure Threads (τ σ ι ο : Type) where
  value : σ
  holder : Option τ
  phase : τ → Phase σ ι ο
  calls : ℕ
  history : List (Notice ι ο)
  effects : List (Effect ι ο)

namespace Phase

variable {σ ι ο : Type}

/-- The number of the call a thread is in. -/
def number? : Phase σ ι ο → Option ℕ
  | idle => none
  | called number _ | holding number _ _ _ _ | answered number _ => some number

/-- The call of a thread that has not taken effect. -/
def pending? : Phase σ ι ο → Option (ℕ × ι)
  | called number call | holding number call _ _ _ => some (number, call)
  | idle | answered _ _ => none

/-- Whether the thread is making its writes. -/
def holds : Phase σ ι ο → Bool
  | holding _ _ _ _ _ => true
  | idle | called _ _ | answered _ _ => false

theorem number?_of_pending? {phase : Phase σ ι ο} {number : ℕ} {call : ι}
    (h : phase.pending? = some (number, call)) : phase.number? = some number := by
  cases phase with
  | called | holding =>
    cases h
    rfl
  | idle | answered => cases h

end Phase

namespace Locked

variable {τ σ ι ο : Type} (obj : Locked σ ι ο)

/-- The object as a machine that takes attempts one at a time. -/
def machine : Machine σ (Attempt ι) (Option ο) where
  step s attempt :=
    match attempt with
    | .completed call =>
      match obj.beforeLock call with
      | some answer => (some answer, s)
      | none => (some (obj.underLock call s).1, Guarded.after s (obj.underLock call s).2)
    | .abandoned call writes => (none, Guarded.after s ((obj.underLock call s).2.take writes))

/-- The threads before any call. -/
def start (τ : Type) (ι ο : Type) (s : σ) : Threads τ σ ι ο where
  value := s
  holder := none
  phase _ := .idle
  calls := 0
  history := []
  effects := []

variable [DecidableEq τ]

/-- What one thread can do next. -/
inductive Step : Threads τ σ ι ο → Threads τ σ ι ο → Prop where
  | invoke {sys : Threads τ σ ι ο} {t : τ} (call : ι) (hphase : sys.phase t = .idle) :
      Step sys
        { sys with
          phase := Function.update sys.phase t (.called sys.calls call)
          calls := sys.calls + 1
          history := sys.history ++ [.invoked sys.calls call] }
  | answer {sys : Threads τ σ ι ο} {t : τ} {number : ℕ} {call : ι} {answer : ο}
      (hphase : sys.phase t = .called number call)
      (hanswer : obj.beforeLock call = some answer) :
      Step sys
        { sys with
          phase := Function.update sys.phase t (.answered number answer)
          effects := sys.effects ++ [⟨number, .completed call, some answer⟩] }
  | acquire {sys : Threads τ σ ι ο} {t : τ} {number : ℕ} {call : ι}
      (hphase : sys.phase t = .called number call) (hlock : obj.beforeLock call = none)
      (hfree : sys.holder = none) :
      Step sys
        { sys with
          holder := some t
          phase := Function.update sys.phase t
            (.holding number call (obj.underLock call sys.value).1 []
              (obj.underLock call sys.value).2) }
  | write {sys : Threads τ σ ι ο} {t : τ} {number : ℕ} {call : ι} {answer : ο}
      {written left : List σ} {w : σ}
      (hphase : sys.phase t = .holding number call answer written (w :: left)) :
      Step sys
        { sys with
          value := w
          phase := Function.update sys.phase t
            (.holding number call answer (written ++ [w]) left) }
  | release {sys : Threads τ σ ι ο} {t : τ} {number : ℕ} {call : ι} {answer : ο}
      {written : List σ} (hphase : sys.phase t = .holding number call answer written []) :
      Step sys
        { sys with
          holder := none
          phase := Function.update sys.phase t (.answered number answer)
          effects := sys.effects ++ [⟨number, .completed call, some answer⟩] }
  | abandon {sys : Threads τ σ ι ο} {t : τ} {number : ℕ} {call : ι} {answer : ο}
      {written left : List σ}
      (hphase : sys.phase t = .holding number call answer written left) :
      Step sys
        { sys with
          holder := none
          phase := Function.update sys.phase t .idle
          effects := sys.effects ++ [⟨number, .abandoned call written.length, none⟩] }
  | return {sys : Threads τ σ ι ο} {t : τ} {number : ℕ} {answer : ο}
      (hphase : sys.phase t = .answered number answer) :
      Step sys
        { sys with
          phase := Function.update sys.phase t .idle
          history := sys.history ++ [.returned number answer] }

theorem Step.acquire_of_code {sys : Threads τ σ ι ο} {t : τ} {number : ℕ} {call : ι}
    {answer : ο} {writes : List σ} (hphase : sys.phase t = .called number call)
    (hlock : obj.beforeLock call = none) (hfree : sys.holder = none)
    (hcode : obj.underLock call sys.value = (answer, writes)) :
    obj.Step sys
      { sys with
        holder := some t
        phase := Function.update sys.phase t (.holding number call answer [] writes) } := by
  have hstep := Step.acquire hphase hlock hfree
  rwa [hcode] at hstep

/-- The threads reached from the start by some schedule. -/
def Reaches (s : σ) (sys : Threads τ σ ι ο) : Prop :=
  Relation.ReflTransGen obj.Step (start τ ι ο s) sys

end Locked

namespace Locked

variable {τ σ ι ο : Type} [DecidableEq τ] {obj : Locked σ ι ο} {s : σ}
  {sys sys' : Threads τ σ ι ο} {effects : List (Effect ι ο)}

/-! ## The value is that of the sequential run -/

/-- The value after the effects so far, one after the other. -/
def settled (obj : Locked σ ι ο) (s : σ) (effects : List (Effect ι ο)) : σ :=
  obj.machine.exec s (effects.map Effect.attempt)

/-- The answers are those of the sequential run. -/
def Legal (obj : Locked σ ι ο) (s : σ) (effects : List (Effect ι ο)) : Prop :=
  obj.machine.events s (effects.map Effect.attempt) =
    effects.map fun effect => (effect.attempt, effect.answer)

theorem settled_concat (effect : Effect ι ο) :
    obj.settled s (effects ++ [effect]) =
      (obj.machine.step (obj.settled s effects) effect.attempt).2 := by
  rw [settled, List.map_append, List.map_singleton, Machine.exec_snoc]
  rfl

theorem Legal.concat (h : obj.Legal s effects) {effect : Effect ι ο}
    (hanswer : (obj.machine.step (obj.settled s effects) effect.attempt).1 = effect.answer) :
    obj.Legal s (effects ++ [effect]) := by
  unfold Legal at h ⊢
  rw [List.map_append, List.map_singleton, Machine.events_snoc, h, List.map_append,
    List.map_singleton, ← hanswer]
  rfl

/-- The effects are those of the sequential run, and the value is the one it leaves but for
the writes of the thread that holds the lock. -/
structure Serial (obj : Locked σ ι ο) (s : σ) (sys : Threads τ σ ι ο) : Prop where
  legal : obj.Legal s sys.effects
  free : sys.holder = none → sys.value = obj.settled s sys.effects
  held : ∀ t number call answer written left,
    sys.phase t = .holding number call answer written left →
      sys.holder = some t ∧ obj.beforeLock call = none ∧
        obj.underLock call (obj.settled s sys.effects) = (answer, written ++ left) ∧
        sys.value = Guarded.after (obj.settled s sys.effects) written
  holding : ∀ t, sys.holder = some t → (sys.phase t).holds = true

/-- A step of a thread that neither holds the lock nor takes it, and has no effect on the
value. -/
theorem Serial.aside (h : Serial obj s sys) {t : τ} {phase : Phase σ ι ο}
    (hbefore : (sys.phase t).holds = false) (hphase : phase.holds = false)
    (hphases : sys'.phase = Function.update sys.phase t phase)
    (hvalue : sys'.value = sys.value) (hholder : sys'.holder = sys.holder)
    (hlegal : obj.Legal s sys'.effects)
    (hsettled : obj.settled s sys'.effects = obj.settled s sys.effects) :
    Serial obj s sys' where
  legal := hlegal
  free := by
    rw [hholder, hvalue, hsettled]
    exact h.free
  held := by
    intro u number call answer written left hu
    rw [hphases] at hu
    rw [hholder, hvalue, hsettled]
    rcases eq_or_ne u t with rfl | hne
    · rw [Function.update_self] at hu
      subst hu
      cases hphase
    · rw [Function.update_of_ne hne] at hu
      exact h.held u number call answer written left hu
  holding := by
    intro u hu
    rw [hholder] at hu
    have hheld := h.holding u hu
    rw [hphases]
    rcases eq_or_ne u t with rfl | hne
    · rw [hbefore] at hheld
      cases hheld
    · rwa [Function.update_of_ne hne]

/-- A step of the thread that holds the lock, which keeps it. -/
theorem Serial.inside (h : Serial obj s sys) {t : τ} (hholder : sys.holder = some t ∨
      sys.holder = none) {number : ℕ} {call : ι} {answer : ο} {written left : List σ}
    (hphases : sys'.phase = Function.update sys.phase t
      (.holding number call answer written left))
    (hholder' : sys'.holder = some t) (heffects : sys'.effects = sys.effects)
    (hlock : obj.beforeLock call = none)
    (hcode : obj.underLock call (obj.settled s sys.effects) = (answer, written ++ left))
    (hvalue : sys'.value = Guarded.after (obj.settled s sys.effects) written) :
    Serial obj s sys' where
  legal := by
    rw [heffects]
    exact h.legal
  free := by
    rw [hholder']
    intro hfree
    cases hfree
  held := by
    intro u number' call' answer' written' left' hu
    rw [hphases] at hu
    rw [heffects, hholder']
    rcases eq_or_ne u t with rfl | hne
    · rw [Function.update_self] at hu
      cases hu
      exact ⟨rfl, hlock, hcode, hvalue⟩
    · rw [Function.update_of_ne hne] at hu
      have hheld := (h.held u _ _ _ _ _ hu).1
      rcases hholder with hholder | hholder <;> rw [hholder] at hheld <;> cases hheld
      exact absurd rfl hne
  holding := by
    intro u hu
    rw [hholder'] at hu
    cases hu
    rw [hphases, Function.update_self]
    rfl

/-- A step by which the thread that holds the lock lets it go. -/
theorem Serial.outside (h : Serial obj s sys) {t : τ} (hholder : sys.holder = some t)
    {phase : Phase σ ι ο} (hphase : phase.holds = false)
    (hphases : sys'.phase = Function.update sys.phase t phase)
    (hholder' : sys'.holder = none) (hlegal : obj.Legal s sys'.effects)
    (hvalue : sys'.value = obj.settled s sys'.effects) : Serial obj s sys' where
  legal := hlegal
  free _ := hvalue
  held := by
    intro u number call answer written left hu
    rw [hphases] at hu
    rcases eq_or_ne u t with rfl | hne
    · rw [Function.update_self] at hu
      subst hu
      cases hphase
    · rw [Function.update_of_ne hne] at hu
      have hheld := (h.held u _ _ _ _ _ hu).1
      rw [hholder] at hheld
      cases hheld
      exact absurd rfl hne
  holding := by
    intro u hu
    rw [hholder'] at hu
    cases hu

theorem Serial.step (h : Serial obj s sys) (hstep : obj.Step sys sys') :
    Serial obj s sys' := by
  cases hstep with
  | invoke call hphase =>
    exact h.aside (congrArg Phase.holds hphase) rfl rfl rfl rfl h.legal rfl
  | «return» hphase =>
    exact h.aside (congrArg Phase.holds hphase) rfl rfl rfl rfl h.legal rfl
  | @answer t number call answer hphase hanswer =>
    have hstep : obj.machine.step (obj.settled s sys.effects) (.completed call) =
        (some answer, obj.settled s sys.effects) := by
      simp only [machine, hanswer]
    refine h.aside (congrArg Phase.holds hphase) rfl rfl rfl rfl ?_ ?_
    · exact h.legal.concat (congrArg Prod.fst hstep)
    · rw [settled_concat, hstep]
  | @acquire t number call hphase hlock hfree =>
    refine h.inside (Or.inr hfree) rfl rfl rfl hlock ?_ (h.free hfree)
    rw [← h.free hfree]
    rfl
  | @write t number call answer written left w hphase =>
    obtain ⟨hholder, hlock, hcode, -⟩ := h.held _ _ _ _ _ _ hphase
    refine h.inside (Or.inl hholder) rfl hholder rfl hlock ?_ ?_
    · rw [hcode, List.append_assoc, List.singleton_append]
    · rw [Guarded.after_concat]
  | @release t number call answer written hphase =>
    obtain ⟨hholder, hlock, hcode, hvalue⟩ := h.held _ _ _ _ _ _ hphase
    rw [List.append_nil] at hcode
    have hstep : obj.machine.step (obj.settled s sys.effects) (.completed call) =
        (some answer, sys.value) := by
      simp only [machine, hlock, hcode, hvalue]
    refine h.outside hholder rfl rfl rfl ?_ ?_
    · exact h.legal.concat (congrArg Prod.fst hstep)
    · rw [settled_concat, hstep]
  | @abandon t number call answer written left hphase =>
    obtain ⟨hholder, hlock, hcode, hvalue⟩ := h.held _ _ _ _ _ _ hphase
    have hstep : obj.machine.step (obj.settled s sys.effects)
        (.abandoned call written.length) = (none, sys.value) := by
      simp only [machine, hcode, hvalue, List.take_left]
    refine h.outside hholder rfl rfl rfl ?_ ?_
    · exact h.legal.concat (congrArg Prod.fst hstep)
    · rw [settled_concat, hstep]

omit [DecidableEq τ] in
theorem Serial.start (obj : Locked σ ι ο) (s : σ) : Serial obj s (start τ ι ο s) where
  legal := rfl
  free _ := rfl
  held := by
    intro t number call answer written left h
    cases h
  holding := by
    intro t h
    cases h

/-! ## The order of effects respects real time -/

/-- The numbers of the calls that took effect, in order. -/
def numbers (effects : List (Effect ι ο)) : List ℕ := effects.map Effect.number

theorem numbers_concat (effects : List (Effect ι ο)) (effect : Effect ι ο) :
    numbers (effects ++ [effect]) = numbers effects ++ [effect.number] := by
  rw [numbers, List.map_append]
  rfl

/-- One element before another in a list that is one longer. -/
theorem pair_sublist_concat {α : Type} {x y z : α} {l : List α} :
    List.Sublist [x, y] (l ++ [z]) ↔ List.Sublist [x, y] l ∨ x ∈ l ∧ y = z := by
  rw [← List.reverse_sublist, List.reverse_append, List.reverse_singleton,
    List.singleton_append, ← @List.reverse_sublist _ [x, y] l]
  show List.Sublist [y, x] (z :: l.reverse) ↔ List.Sublist [y, x] l.reverse ∨ _
  rw [List.sublist_cons_iff]
  refine or_congr_right ⟨?_, ?_⟩
  · rintro ⟨r, heq, hsub⟩
    cases heq
    exact ⟨List.mem_reverse.mp (List.singleton_sublist.mp hsub), rfl⟩
  · rintro ⟨hmem, rfl⟩
    exact ⟨[x], rfl, List.singleton_sublist.mpr (List.mem_reverse.mpr hmem)⟩

/-- Threads are in different calls, each one made already. -/
structure Apart (phase : τ → Phase σ ι ο) (calls : ℕ) : Prop where
  below : ∀ t number, (phase t).number? = some number → number < calls
  apart : ∀ t u number, (phase t).number? = some number → (phase u).number? = some number →
    t = u

/-- A thread goes on in its call, or ends it. -/
theorem Apart.update {phase : τ → Phase σ ι ο} {calls : ℕ} (h : Apart phase calls) {t : τ}
    {next : Phase σ ι ο}
    (hnext : ∀ number, next.number? = some number → (phase t).number? = some number) :
    Apart (Function.update phase t next) calls := by
  have hnumber : ∀ u number, (Function.update phase t next u).number? = some number →
      (phase u).number? = some number := by
    intro u number hu
    rcases eq_or_ne u t with rfl | hne
    · rw [Function.update_self] at hu
      exact hnext number hu
    · rwa [Function.update_of_ne hne] at hu
  refine ⟨?_, ?_⟩
  · intro u number hu
    exact h.below u number (hnumber u number hu)
  · intro u v number hu hv
    exact h.apart u v number (hnumber u number hu) (hnumber v number hv)

/-- A thread makes a new call. -/
theorem Apart.invoke {phase : τ → Phase σ ι ο} {calls : ℕ} (h : Apart phase calls) (t : τ)
    (call : ι) : Apart (Function.update phase t (.called calls call)) (calls + 1) := by
  have hnumber : ∀ u number,
      (Function.update phase t (.called calls call) u).number? = some number →
      u = t ∧ number = calls ∨ u ≠ t ∧ (phase u).number? = some number := by
    intro u number hu
    rcases eq_or_ne u t with rfl | hne
    · rw [Function.update_self] at hu
      cases hu
      exact Or.inl ⟨rfl, rfl⟩
    · rw [Function.update_of_ne hne] at hu
      exact Or.inr ⟨hne, hu⟩
  refine ⟨?_, ?_⟩
  · intro u number hu
    rcases hnumber u number hu with ⟨-, rfl⟩ | ⟨-, hold⟩
    · exact Nat.lt_succ_self _
    · exact Nat.lt_succ_of_lt (h.below u number hold)
  · intro u v number hu hv
    rcases hnumber u number hu with ⟨rfl, rfl⟩ | ⟨-, hold⟩ <;>
      rcases hnumber v _ hv with ⟨rfl, heq⟩ | ⟨-, hv⟩
    · rfl
    · exact absurd (h.below v _ hv) (lt_irrefl _)
    · subst heq
      exact absurd (h.below u _ hold) (lt_irrefl _)
    · exact h.apart u v number hold hv

/-- What links the threads, the history and the effects. -/
structure Tracked (sys : Threads τ σ ι ο) : Prop where
  apart : Apart sys.phase sys.calls
  pending : ∀ t number call, (sys.phase t).pending? = some (number, call) →
    number ∉ numbers sys.effects ∧ .invoked number call ∈ sys.history
  answered : ∀ t number answer, sys.phase t = .answered number answer →
    ∃ call, ⟨number, .completed call, some answer⟩ ∈ sys.effects
  once : (numbers sys.effects).Nodup
  invoked : ∀ effect ∈ sys.effects,
    .invoked effect.number effect.attempt.call ∈ sys.history
  below : ∀ number call, .invoked number call ∈ sys.history → number < sys.calls
  returned : ∀ number answer, .returned number answer ∈ sys.history →
    ∃ call, ⟨number, .completed call, some answer⟩ ∈ sys.effects
  realTime : ∀ a answer b call,
    List.Sublist [.returned a answer, .invoked b call] sys.history →
      b ∈ numbers sys.effects → List.Sublist [a, b] (numbers sys.effects)

theorem mem_numbers {effect : Effect ι ο} (h : effect ∈ effects) :
    effect.number ∈ numbers effects :=
  List.mem_map_of_mem h

/-- A step without an effect, after which the callers see at most one thing more. -/
theorem Tracked.quiet (h : Tracked sys) {t : τ} {next : Phase σ ι ο}
    (notice : Option (Notice ι ο)) (hphases : sys'.phase = Function.update sys.phase t next)
    (hhistory : sys'.history = sys.history ++ notice.toList)
    (heffects : sys'.effects = sys.effects) (hcalls : sys.calls ≤ sys'.calls)
    (hapart : Apart sys'.phase sys'.calls)
    (hpending : ∀ number call, next.pending? = some (number, call) →
      number ∉ numbers sys.effects ∧ .invoked number call ∈ sys'.history)
    (hanswered : ∀ number answer, next ≠ .answered number answer)
    (hinvoked : ∀ number call, notice = some (.invoked number call) →
      number < sys'.calls ∧ number ∉ numbers sys.effects)
    (hreturned : ∀ number answer, notice = some (.returned number answer) →
      ∃ call, ⟨number, .completed call, some answer⟩ ∈ sys.effects) : Tracked sys' := by
  have hkept : ∀ {n}, n ∈ sys.history → n ∈ sys'.history := by
    intro n hmem
    rw [hhistory]
    exact List.mem_append_left _ hmem
  have hseen : ∀ {n}, n ∈ sys'.history → n ∈ sys.history ∨ notice = some n := by
    intro n hmem
    rwa [hhistory, List.mem_append, Option.mem_toList] at hmem
  constructor
  case apart => exact hapart
  case pending =>
    intro u number call hu
    rw [hphases] at hu
    rw [heffects]
    rcases eq_or_ne u t with rfl | hne
    · rw [Function.update_self] at hu
      exact hpending number call hu
    · rw [Function.update_of_ne hne] at hu
      obtain ⟨hnew, hmem⟩ := h.pending u number call hu
      exact ⟨hnew, hkept hmem⟩
  case answered =>
    intro u number answer hu
    rw [hphases] at hu
    rw [heffects]
    rcases eq_or_ne u t with rfl | hne
    · rw [Function.update_self] at hu
      exact absurd hu (hanswered number answer)
    · rw [Function.update_of_ne hne] at hu
      exact h.answered u number answer hu
  case once =>
    rw [heffects]
    exact h.once
  case invoked =>
    rw [heffects]
    intro effect hmem
    exact hkept (h.invoked effect hmem)
  case below =>
    intro number call hmem
    rcases hseen hmem with hmem | hlast
    · exact lt_of_lt_of_le (h.below number call hmem) hcalls
    · exact (hinvoked number call hlast).1
  case returned =>
    rw [heffects]
    intro number answer hmem
    rcases hseen hmem with hmem | hlast
    · exact h.returned number answer hmem
    · exact hreturned number answer hlast
  case realTime =>
    rw [heffects, hhistory]
    intro a answer b call hbefore hb
    cases notice with
    | none =>
      rw [Option.toList_none, List.append_nil] at hbefore
      exact h.realTime a answer b call hbefore hb
    | some last =>
      rcases pair_sublist_concat.mp hbefore with hbefore | ⟨-, hlast⟩
      · exact h.realTime a answer b call hbefore hb
      · exact absurd hb (hinvoked b call (congrArg some hlast.symm)).2

/-- A thread makes a call. -/
theorem Tracked.invoke (h : Tracked sys) (t : τ) (call : ι)
    (hphases : sys'.phase = Function.update sys.phase t (.called sys.calls call))
    (hcalls : sys'.calls = sys.calls + 1)
    (hhistory : sys'.history = sys.history ++ [.invoked sys.calls call])
    (heffects : sys'.effects = sys.effects) : Tracked sys' := by
  have hnew : sys.calls ∉ numbers sys.effects := by
    intro hmem
    rcases List.mem_map.mp hmem with ⟨effect, heffect, hnumber⟩
    have hbelow := h.below _ _ (h.invoked effect heffect)
    rw [hnumber] at hbelow
    exact lt_irrefl _ hbelow
  refine h.quiet (some (.invoked sys.calls call)) hphases hhistory heffects ?_ ?_ ?_ nofun ?_
    nofun
  · rw [hcalls]
    exact Nat.le_succ _
  · rw [hphases, hcalls]
    exact h.apart.invoke t call
  · intro number call' hpending
    cases hpending
    rw [hhistory]
    exact ⟨hnew, List.mem_append_right _ List.mem_cons_self⟩
  · intro number call' heq
    cases heq
    rw [hcalls]
    exact ⟨Nat.lt_succ_self _, hnew⟩

/-- A thread goes on in its call with no effect yet. -/
theorem Tracked.aside (h : Tracked sys) {t : τ} {next : Phase σ ι ο} {number : ℕ} {call : ι}
    (hpending : (sys.phase t).pending? = some (number, call))
    (hnext : next.pending? = some (number, call))
    (hphases : sys'.phase = Function.update sys.phase t next)
    (hcalls : sys'.calls = sys.calls) (hhistory : sys'.history = sys.history)
    (heffects : sys'.effects = sys.effects) : Tracked sys' := by
  refine h.quiet none hphases ?_ heffects hcalls.ge ?_ ?_ ?_ nofun nofun
  · rw [hhistory, Option.toList_none, List.append_nil]
  · rw [hphases, hcalls]
    apply h.apart.update
    intro n hn
    rw [Phase.number?_of_pending? hnext] at hn
    rw [← hn]
    exact Phase.number?_of_pending? hpending
  · intro n c hn
    rw [hnext] at hn
    cases hn
    rw [hhistory]
    exact h.pending t number call hpending
  · rintro n answer rfl
    cases hnext

/-- A thread gets its answer. -/
theorem Tracked.return (h : Tracked sys) {t : τ} {number : ℕ} {answer : ο}
    (hphase : sys.phase t = .answered number answer)
    (hphases : sys'.phase = Function.update sys.phase t .idle)
    (hcalls : sys'.calls = sys.calls)
    (hhistory : sys'.history = sys.history ++ [.returned number answer])
    (heffects : sys'.effects = sys.effects) : Tracked sys' := by
  refine h.quiet (some (.returned number answer)) hphases hhistory heffects hcalls.ge ?_ nofun
    nofun nofun ?_
  · rw [hphases, hcalls]
    apply h.apart.update
    intro n hn
    cases hn
  · intro n a heq
    cases heq
    exact h.answered t number answer hphase

/-- The call a thread is in takes effect. -/
theorem Tracked.effect (h : Tracked sys) {t : τ} {next : Phase σ ι ο} {effect : Effect ι ο}
    (hpending : (sys.phase t).pending? = some (effect.number, effect.attempt.call))
    (hnext : next.pending? = none)
    (hnumber : ∀ number, next.number? = some number → number = effect.number)
    (hanswer : ∀ number answer, next = .answered number answer →
      ∃ call, effect = ⟨number, .completed call, some answer⟩)
    (hphases : sys'.phase = Function.update sys.phase t next)
    (hcalls : sys'.calls = sys.calls) (hhistory : sys'.history = sys.history)
    (heffects : sys'.effects = sys.effects ++ [effect]) : Tracked sys' where
  apart := by
    rw [hphases, hcalls]
    apply h.apart.update
    intro number hn
    rw [hnumber number hn]
    exact Phase.number?_of_pending? hpending
  pending := by
    intro u number call hu
    rw [hphases] at hu
    rw [heffects, hhistory, numbers_concat]
    rcases eq_or_ne u t with rfl | hne
    · rw [Function.update_self, hnext] at hu
      cases hu
    · rw [Function.update_of_ne hne] at hu
      obtain ⟨hnew, hinvoked⟩ := h.pending u number call hu
      refine ⟨?_, hinvoked⟩
      rw [List.mem_append, List.mem_singleton]
      rintro (hmem | heq)
      · exact hnew hmem
      · -- two threads in one call
        have hsame := Phase.number?_of_pending? hu
        rw [heq] at hsame
        exact hne (h.apart.apart u t _ hsame (Phase.number?_of_pending? hpending))
  answered := by
    intro u number answer hu
    rw [hphases] at hu
    rw [heffects]
    rcases eq_or_ne u t with rfl | hne
    · rw [Function.update_self] at hu
      rcases hanswer number answer hu with ⟨call, rfl⟩
      exact ⟨call, List.mem_append_right _ List.mem_cons_self⟩
    · rw [Function.update_of_ne hne] at hu
      rcases h.answered u number answer hu with ⟨call, hmem⟩
      exact ⟨call, List.mem_append_left _ hmem⟩
  once := by
    rw [heffects, numbers_concat, List.nodup_append]
    refine ⟨h.once, List.nodup_singleton _, ?_⟩
    rintro a ha b hb rfl
    rw [List.mem_singleton] at hb
    subst hb
    exact (h.pending t _ _ hpending).1 ha
  invoked := by
    rw [heffects, hhistory]
    intro e hmem
    rcases List.mem_append.mp hmem with hmem | hmem
    · exact h.invoked e hmem
    · rw [List.mem_singleton] at hmem
      subst hmem
      exact (h.pending t _ _ hpending).2
  below := by
    rw [hcalls, hhistory]
    exact h.below
  returned := by
    rw [heffects, hhistory]
    intro number answer hmem
    rcases h.returned number answer hmem with ⟨call, heffect⟩
    exact ⟨call, List.mem_append_left _ heffect⟩
  realTime := by
    rw [heffects, hhistory, numbers_concat]
    intro a answer b call hbefore hb
    rw [pair_sublist_concat]
    rcases List.mem_append.mp hb with hb | hb
    · exact Or.inl (h.realTime a answer b call hbefore hb)
    · -- what has returned has taken effect before
      rw [List.mem_singleton] at hb
      have hreturned : .returned a answer ∈ sys.history :=
        hbefore.subset List.mem_cons_self
      rcases h.returned a answer hreturned with ⟨_, heffect⟩
      exact Or.inr ⟨mem_numbers heffect, hb⟩

theorem Tracked.step (h : Tracked sys) (hstep : obj.Step sys sys') : Tracked sys' := by
  cases hstep with
  | invoke call hphase => exact h.invoke _ call rfl rfl rfl rfl
  | «return» hphase => exact h.return hphase rfl rfl rfl rfl
  | acquire hphase hlock hfree =>
    refine h.aside ?_ rfl rfl rfl rfl rfl
    rw [hphase]
    rfl
  | write hphase =>
    refine h.aside ?_ rfl rfl rfl rfl rfl
    rw [hphase]
    rfl
  | answer hphase _ | release hphase | abandon hphase =>
    refine h.effect ?_ rfl ?_ ?_ rfl rfl rfl rfl
    · rw [hphase]
      rfl
    · intro number hnumber
      cases hnumber
      try rfl
    · intro number answer heq
      cases heq
      try exact ⟨_, rfl⟩

omit [DecidableEq τ] in
theorem Tracked.start (s : σ) : Tracked (start τ ι ο s) where
  apart := ⟨nofun, nofun⟩
  pending := nofun
  answered := nofun
  once := List.nodup_nil
  invoked := nofun
  below := nofun
  returned := nofun
  realTime := nofun

/-! ## Every schedule is linearizable -/

/-- The calls took effect one at a time, in the order of `effects`: each is one that was
made, and took effect once; the answers, which are those the callers got, are the ones of
the sequential run; a call that returned before another was made took effect before it;
and while no thread holds the lock the value is the one the sequential run leaves. -/
structure Linearized (obj : Locked σ ι ο) (s : σ) (sys : Threads τ σ ι ο) : Prop where
  invoked : ∀ effect ∈ sys.effects,
    .invoked effect.number effect.attempt.call ∈ sys.history
  once : (numbers sys.effects).Nodup
  legal : obj.Legal s sys.effects
  returned : ∀ number answer, .returned number answer ∈ sys.history →
    ∃ call, ⟨number, .completed call, some answer⟩ ∈ sys.effects
  realTime : ∀ a answer b call,
    List.Sublist [.returned a answer, .invoked b call] sys.history →
      b ∈ numbers sys.effects → List.Sublist [a, b] (numbers sys.effects)
  value : sys.holder = none → sys.value = obj.settled s sys.effects

omit [DecidableEq τ] in
/-- An effect is that of a call that was made, which took effect only then, and it answers
what the call answers after the effects before it. -/
theorem Linearized.effect (h : Linearized obj s sys) {pre post : List (Effect ι ο)}
    {effect : Effect ι ο} (hsplit : sys.effects = pre ++ effect :: post) :
    .invoked effect.number effect.attempt.call ∈ sys.history ∧
      (∀ earlier ∈ pre, earlier.number ≠ effect.number) ∧
      effect.answer = (obj.machine.step (obj.settled s pre) effect.attempt).1 := by
  refine ⟨?_, ?_, ?_⟩
  · apply h.invoked
    rw [hsplit]
    exact List.mem_append_right _ List.mem_cons_self
  · have honce := h.once
    rw [numbers, hsplit, List.map_append, List.nodup_append] at honce
    intro earlier hmem
    exact honce.2.2 _ (List.mem_map_of_mem hmem) _ List.mem_cons_self
  · have hlegal := h.legal
    rw [Legal, hsplit, List.map_append, List.map_cons, Machine.events_append, List.map_append,
      List.map_cons, Machine.events_cons] at hlegal
    have hlength : (obj.machine.events s (pre.map Effect.attempt)).length =
        (pre.map fun effect => (effect.attempt, effect.answer)).length := by
      rw [Machine.length_events, List.length_map, List.length_map]
    have hhead := (List.cons.inj (List.append_inj hlegal hlength).2).1
    exact (congrArg Prod.snd hhead).symm

theorem Reaches.serial_and_tracked (h : obj.Reaches s sys) :
    Serial obj s sys ∧ Tracked sys := by
  induction h with
  | refl => exact ⟨Serial.start obj s, Tracked.start s⟩
  | tail _ hstep ih => exact ⟨ih.1.step hstep, ih.2.step hstep⟩

theorem Reaches.linearized (h : obj.Reaches s sys) : Linearized obj s sys := by
  obtain ⟨hserial, htracked⟩ := h.serial_and_tracked
  exact
    { invoked := htracked.invoked
      once := htracked.once
      legal := hserial.legal
      returned := htracked.returned
      realTime := htracked.realTime
      value := hserial.free }

/-- At every moment, also while a thread is making its writes, the value is one that some
sequential run of attempts leaves. -/
theorem Reaches.exists_attempts (h : obj.Reaches s sys) :
    ∃ attempts, sys.value = obj.machine.exec s attempts := by
  have hserial := h.serial_and_tracked.1
  cases hholder : sys.holder with
  | none => exact ⟨_, hserial.free hholder⟩
  | some t =>
    have hholds := hserial.holding t hholder
    cases hphase : sys.phase t with
    | holding number call answer written left =>
      obtain ⟨-, -, hcode, hvalue⟩ := hserial.held t _ _ _ _ _ hphase
      refine ⟨sys.effects.map Effect.attempt ++ [.abandoned call written.length], ?_⟩
      rw [Machine.exec_snoc, hvalue]
      show _ = Guarded.after (obj.settled s sys.effects)
        ((obj.underLock call (obj.settled s sys.effects)).2.take written.length)
      rw [hcode, List.take_left]
    | idle | called | answered =>
      rw [hphase] at hholds
      cases hholds

end Locked

end Lib
