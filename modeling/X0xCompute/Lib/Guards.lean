import X0xCompute.Lib.Threads

/-!
# Threads that share several guarded objects

A call answers at once, or from a value that it reads under a shared guard, or under an
exclusive guard, making its writes one at a time. Guards of different objects are held side
by side, and so are the shared guards of one object. Every schedule is one of a single lock
around all the objects, so it is linearizable.
-/

namespace Lib

/-- What a call does to objects with values `σ k`. -/
inductive Access {κ : Type} (σ : κ → Type) (ο : Type) where
  | reply (answer : ο)
  | shared (k : κ) (answer : σ k → ο)
  | exclusive (k : κ) (code : σ k → ο × List (σ k))

/-- Where a thread is in its call. -/
inductive Stage {κ : Type} (σ : κ → Type) (ι ο : Type) where
  | idle
  | called (number : ℕ) (call : ι)
  | reading (number : ℕ) (call : ι) (k : κ) (answer : σ k → ο)
  | writing (number : ℕ) (call : ι) (k : κ) (answer : ο) (written left : List (σ k))
  | answered (number : ℕ) (answer : ο)

/-- The threads `τ` and the objects they share. A thread holds a guard of an object while it
reads or writes it. -/
structure Sharing (τ : Type) {κ : Type} (σ : κ → Type) (ι ο : Type) where
  value : ∀ k, σ k
  stage : τ → Stage σ ι ο
  calls : ℕ
  history : List (Notice ι ο)

namespace Stage

variable {κ : Type} {σ : κ → Type} {ι ο : Type}

/-- The stage as one of a single lock around all the objects, not taken before the call
takes effect. -/
def phase : Stage σ ι ο → Phase (∀ k, σ k) ι ο
  | idle => .idle
  | called number call | reading number call _ _ | writing number call _ _ _ _ =>
    .called number call
  | answered number answer => .answered number answer

/-- The thread holds the exclusive guard of an object. -/
def Writes (k : κ) : Stage σ ι ο → Prop
  | writing _ _ j _ _ _ => j = k
  | idle | called _ _ | reading _ _ _ _ | answered _ _ => False

/-- The thread holds a guard of an object. -/
def Guards (k : κ) : Stage σ ι ο → Prop
  | reading _ _ j _ | writing _ _ j _ _ _ => j = k
  | idle | called _ _ | answered _ _ => False

theorem Writes.guards {k : κ} {stage : Stage σ ι ο} (h : stage.Writes k) : stage.Guards k := by
  cases stage with
  | writing => exact h
  | idle | called | reading | answered => cases h

end Stage

namespace Access

variable {τ κ : Type} {σ : κ → Type} {ι ο : Type} [DecidableEq κ]

/-- The call from the values of all the objects. -/
def whole (values : ∀ k, σ k) : Access σ ο → ο × List (∀ k, σ k)
  | reply answer => (answer, [])
  | shared k answer => (answer (values k), [])
  | exclusive k code =>
    ((code (values k)).1, (code (values k)).2.map (Function.update values k))

/-- The call with its answer put in another form. -/
def map {ο' : Type} (f : ο → ο') : Access σ ο → Access σ ο'
  | reply answer => .reply (f answer)
  | shared k answer => .shared k fun value => f (answer value)
  | exclusive k code => .exclusive k fun value => (f (code value).1, (code value).2)

theorem whole_map {ο' : Type} (f : ο → ο') (values : ∀ k, σ k) (access : Access σ ο) :
    (access.map f).whole values = (f (access.whole values).1, (access.whole values).2) := by
  cases access <;> rfl

/-- One lock around all the objects. -/
def oneLock (access : ι → Access σ ο) : Locked (∀ k, σ k) ι ο where
  beforeLock _ := none
  underLock call values := (access call).whole values

/-- The threads before any call. -/
def start (τ : Type) (ι ο : Type) (values : ∀ k, σ k) : Sharing τ σ ι ο where
  value := values
  stage _ := .idle
  calls := 0
  history := []

variable [DecidableEq τ] (access : ι → Access σ ο)

/-- What one thread can do next. A call may be given up wherever it stands; what it has
written stays. -/
inductive Step : Sharing τ σ ι ο → Sharing τ σ ι ο → Prop where
  | invoke {sys : Sharing τ σ ι ο} {t : τ} (call : ι) (hstage : sys.stage t = .idle) :
      Step sys
        { sys with
          stage := Function.update sys.stage t (.called sys.calls call)
          calls := sys.calls + 1
          history := sys.history ++ [.invoked sys.calls call] }
  | reply {sys : Sharing τ σ ι ο} {t : τ} {number : ℕ} {call : ι} {answer : ο}
      (hstage : sys.stage t = .called number call) (haccess : access call = .reply answer) :
      Step sys { sys with stage := Function.update sys.stage t (.answered number answer) }
  | share {sys : Sharing τ σ ι ο} {t : τ} {number : ℕ} {call : ι} {k : κ} {answer : σ k → ο}
      (hstage : sys.stage t = .called number call) (haccess : access call = .shared k answer)
      (hfree : ∀ u, ¬ (sys.stage u).Writes k) :
      Step sys
        { sys with stage := Function.update sys.stage t (.reading number call k answer) }
  | read {sys : Sharing τ σ ι ο} {t : τ} {number : ℕ} {call : ι} {k : κ} {answer : σ k → ο}
      (hstage : sys.stage t = .reading number call k answer) :
      Step sys
        { sys with
          stage := Function.update sys.stage t (.answered number (answer (sys.value k))) }
  | acquire {sys : Sharing τ σ ι ο} {t : τ} {number : ℕ} {call : ι} {k : κ}
      {code : σ k → ο × List (σ k)} (hstage : sys.stage t = .called number call)
      (haccess : access call = .exclusive k code) (hfree : ∀ u, ¬ (sys.stage u).Guards k) :
      Step sys
        { sys with
          stage := Function.update sys.stage t
            (.writing number call k (code (sys.value k)).1 [] (code (sys.value k)).2) }
  | write {sys : Sharing τ σ ι ο} {t : τ} {number : ℕ} {call : ι} {k : κ} {answer : ο}
      {written left : List (σ k)} {w : σ k}
      (hstage : sys.stage t = .writing number call k answer written (w :: left)) :
      Step sys
        { sys with
          value := Function.update sys.value k w
          stage := Function.update sys.stage t
            (.writing number call k answer (written ++ [w]) left) }
  | release {sys : Sharing τ σ ι ο} {t : τ} {number : ℕ} {call : ι} {k : κ} {answer : ο}
      {written : List (σ k)}
      (hstage : sys.stage t = .writing number call k answer written []) :
      Step sys { sys with stage := Function.update sys.stage t (.answered number answer) }
  | giveUp {sys : Sharing τ σ ι ο} {t : τ} {number : ℕ} {call : ι}
      (hphase : (sys.stage t).phase = .called number call) :
      Step sys { sys with stage := Function.update sys.stage t .idle }
  | return {sys : Sharing τ σ ι ο} {t : τ} {number : ℕ} {answer : ο}
      (hstage : sys.stage t = .answered number answer) :
      Step sys
        { sys with
          stage := Function.update sys.stage t .idle
          history := sys.history ++ [.returned number answer] }

theorem Step.acquire_of_code {sys : Sharing τ σ ι ο} {t : τ} {number : ℕ} {call : ι} {k : κ}
    {code : σ k → ο × List (σ k)} {answer : ο} {writes : List (σ k)}
    (hstage : sys.stage t = .called number call) (haccess : access call = .exclusive k code)
    (hfree : ∀ u, ¬ (sys.stage u).Guards k) (hcode : code (sys.value k) = (answer, writes)) :
    Step access sys
      { sys with
        stage := Function.update sys.stage t (.writing number call k answer [] writes) } := by
  have hstep := Step.acquire hstage haccess hfree
  rwa [hcode] at hstep

/-- The threads reached from the start by some schedule. -/
def Reaches (values : ∀ k, σ k) (sys : Sharing τ σ ι ο) : Prop :=
  Relation.ReflTransGen (Step access) (start τ ι ο values) sys

end Access

/-! ## A call made in one go -/

namespace Locked

variable {τ σ ι ο : Type} [DecidableEq τ] {obj : Locked σ ι ο} {sys : Threads τ σ ι ο} {t : τ}
  {number : ℕ} {call : ι} {answer : ο}

/-- The thread that holds the lock makes some of its writes. -/
theorem writes_path {written left : List σ} (made : List σ)
    (hphase : sys.phase t = .holding number call answer written (made ++ left)) :
    Relation.ReflTransGen obj.Step sys
      { sys with
        value := Guarded.after sys.value made
        phase := Function.update sys.phase t
          (.holding number call answer (written ++ made) left) } := by
  induction made generalizing sys written with
  | nil =>
    rw [List.nil_append] at hphase
    rw [List.append_nil, ← hphase, Function.update_eq_self, Guarded.after_nil]
  | cons w made ih =>
    refine Relation.ReflTransGen.head (Step.write hphase) ?_
    have hrest := @ih
      { sys with
        value := w
        phase := Function.update sys.phase t
          (.holding number call answer (written ++ [w]) (made ++ left)) }
      (written ++ [w]) (Function.update_self ..)
    rw [List.append_assoc, List.singleton_append, Function.update_idem] at hrest
    rwa [Guarded.after_cons]

/-- A thread takes the lock and makes some of its writes. -/
theorem holding_path (hphase : sys.phase t = .called number call)
    (hlock : obj.beforeLock call = none) (hfree : sys.holder = none) {made left : List σ}
    (hcode : obj.underLock call sys.value = (answer, made ++ left)) :
    Relation.ReflTransGen obj.Step sys
      { sys with
        value := Guarded.after sys.value made
        holder := some t
        phase := Function.update sys.phase t (.holding number call answer made left) } := by
  refine Relation.ReflTransGen.head (Step.acquire_of_code obj hphase hlock hfree hcode) ?_
  have hwrites := @writes_path _ _ _ _ _ obj
    { sys with
      holder := some t
      phase := Function.update sys.phase t (.holding number call answer [] (made ++ left)) }
    t number call answer [] left made (Function.update_self ..)
  rwa [List.nil_append, Function.update_idem] at hwrites

/-- A thread makes its whole call. -/
theorem completed_path (hphase : sys.phase t = .called number call)
    (hlock : obj.beforeLock call = none) (hfree : sys.holder = none) {made : List σ}
    (hcode : obj.underLock call sys.value = (answer, made)) :
    Relation.ReflTransGen obj.Step sys
      { sys with
        value := Guarded.after sys.value made
        holder := none
        phase := Function.update sys.phase t (.answered number answer)
        effects := sys.effects ++ [⟨number, .completed call, some answer⟩] } := by
  rw [← List.append_nil made] at hcode
  refine (holding_path hphase hlock hfree hcode).tail ?_
  have hrelease := @Step.release _ _ _ _ obj _
    { sys with
      value := Guarded.after sys.value made
      holder := some t
      phase := Function.update sys.phase t (.holding number call answer made []) }
    t number call answer made (Function.update_self ..)
  rwa [Function.update_idem] at hrelease

/-- A thread takes the lock and is abandoned after some of its writes. -/
theorem abandoned_path (hphase : sys.phase t = .called number call)
    (hlock : obj.beforeLock call = none) (hfree : sys.holder = none) {made left : List σ}
    (hcode : obj.underLock call sys.value = (answer, made ++ left)) :
    Relation.ReflTransGen obj.Step sys
      { sys with
        value := Guarded.after sys.value made
        holder := none
        phase := Function.update sys.phase t .idle
        effects := sys.effects ++ [⟨number, .abandoned call made.length, none⟩] } := by
  refine (holding_path hphase hlock hfree hcode).tail ?_
  have habandon := @Step.abandon _ _ _ _ obj _
    { sys with
      value := Guarded.after sys.value made
      holder := some t
      phase := Function.update sys.phase t (.holding number call answer made left) }
    t number call answer made left (Function.update_self ..)
  rwa [Function.update_idem] at habandon

end Locked

/-! ## Every schedule is one of a single lock -/

namespace Access

variable {τ κ : Type} {σ : κ → Type} {ι ο : Type}

/-- What a thread has got so far is what its call does, the objects having the values
`settled` when it took its guard. -/
def Follows (access : ι → Access σ ο) (settled value : ∀ k, σ k) : Stage σ ι ο → Prop
  | .reading _ call k answer => access call = .shared k answer
  | .writing _ call k answer written left =>
    (∃ code, access call = .exclusive k code ∧ code (settled k) = (answer, written ++ left)) ∧
      value k = Guarded.after (settled k) written
  | .idle | .called _ _ | .answered _ _ => True

theorem Follows.congr {access : ι → Access σ ο} {settled settled' value value' : ∀ k, σ k}
    {stage : Stage σ ι ο} (h : Follows access settled value stage)
    (heq : ∀ k, stage.Writes k → value' k = value k ∧ settled' k = settled k) :
    Follows access settled' value' stage := by
  cases stage with
  | writing number call k answer written left =>
    obtain ⟨hvalue, hsettled⟩ := heq k rfl
    obtain ⟨⟨code, haccess, hcode⟩, hwritten⟩ := h
    refine ⟨⟨code, haccess, ?_⟩, ?_⟩
    · rw [hsettled]
      exact hcode
    · rw [hvalue, hsettled]
      exact hwritten
  | idle | called | reading | answered => exact h

/-- The threads do what the threads of a single lock do, which has made every call whole
when it takes effect. -/
structure Refines (access : ι → Access σ ο) (sys : Sharing τ σ ι ο)
    (lock : Threads τ (∀ k, σ k) ι ο) : Prop where
  calls : lock.calls = sys.calls
  history : lock.history = sys.history
  phase : ∀ t, lock.phase t = (sys.stage t).phase
  free : lock.holder = none
  apart : ∀ k t u, (sys.stage t).Writes k → (sys.stage u).Guards k → t = u
  value : ∀ k, (∀ t, ¬ (sys.stage t).Writes k) → sys.value k = lock.value k
  follows : ∀ t, Follows access lock.value sys.value (sys.stage t)

variable [DecidableEq τ] {access : ι → Access σ ο} {sys sys' : Sharing τ σ ι ο}
  {lock lock' : Threads τ (∀ k, σ k) ι ο}

/-- One thread moves on, and changes at most what it writes. -/
theorem Refines.update (h : Refines access sys lock) {t : τ} {next : Stage σ ι ο}
    (hstages : sys'.stage = Function.update sys.stage t next)
    (hphases : lock'.phase = Function.update lock.phase t next.phase)
    (hfree : lock'.holder = none) (hcalls : lock'.calls = sys'.calls)
    (hhistory : lock'.history = sys'.history)
    (hvalues : ∀ k, ¬ (sys.stage t).Writes k →
      sys'.value k = sys.value k ∧ lock'.value k = lock.value k)
    (hsettled : ∀ k, (sys.stage t).Writes k → ¬ next.Writes k → sys'.value k = lock'.value k)
    (hwrites : ∀ k, next.Writes k → (sys.stage t).Writes k ∨ ∀ u, ¬ (sys.stage u).Guards k)
    (hguards : ∀ k, next.Guards k → (sys.stage t).Guards k ∨ ∀ u, ¬ (sys.stage u).Writes k)
    (hfollows : Follows access lock'.value sys'.value next) : Refines access sys' lock' where
  calls := hcalls
  history := hhistory
  phase := by
    intro u
    rw [hstages, hphases]
    rcases eq_or_ne u t with rfl | hne
    · rw [Function.update_self, Function.update_self]
    · rw [Function.update_of_ne hne, Function.update_of_ne hne]
      exact h.phase u
  free := hfree
  apart := by
    intro k u v hu hv
    rw [hstages] at hu hv
    rcases eq_or_ne u t with rfl | hut <;> rcases eq_or_ne v u with hvu | hvu
    · exact hvu.symm
    · rw [Function.update_self] at hu
      rw [Function.update_of_ne hvu] at hv
      rcases hwrites k hu with hu | hnone
      · exact h.apart k u v hu hv
      · exact absurd hv (hnone v)
    · exact hvu.symm
    · rw [Function.update_of_ne hut] at hu
      rcases eq_or_ne v t with rfl | hvt
      · rw [Function.update_self] at hv
        rcases hguards k hv with hv | hnone
        · exact h.apart k u v hu hv
        · exact absurd hu (hnone u)
      · rw [Function.update_of_ne hvt] at hv
        exact h.apart k u v hu hv
  value := by
    intro k hnone
    have hnext := hnone t
    rw [hstages, Function.update_self] at hnext
    by_cases hbefore : (sys.stage t).Writes k
    · exact hsettled k hbefore hnext
    · rw [(hvalues k hbefore).1, (hvalues k hbefore).2]
      apply h.value
      intro u hu
      rcases eq_or_ne u t with rfl | hne
      · exact hbefore hu
      · apply hnone u
        rwa [hstages, Function.update_of_ne hne]
  follows := by
    intro u
    rw [hstages]
    rcases eq_or_ne u t with rfl | hne
    · rw [Function.update_self]
      exact hfollows
    · rw [Function.update_of_ne hne]
      apply (h.follows u).congr
      intro k hu
      -- two threads do not write one object
      exact hvalues k fun ht => hne (h.apart k t u ht hu.guards).symm

omit [DecidableEq τ] in
theorem Refines.phase_of (h : Refines access sys lock) {t : τ} {stage : Stage σ ι ο}
    (hstage : sys.stage t = stage) : lock.phase t = stage.phase := by
  rw [h.phase, hstage]

omit [DecidableEq τ] in
theorem Refines.follows_of (h : Refines access sys lock) {t : τ} {stage : Stage σ ι ο}
    (hstage : sys.stage t = stage) : Follows access lock.value sys.value stage := by
  rw [← hstage]
  exact h.follows t

/-- A step by which a thread takes or leaves no exclusive guard and no value changes. -/
theorem Refines.aside (h : Refines access sys lock) {t : τ} {next : Stage σ ι ο}
    (hbefore : ∀ k, ¬ (sys.stage t).Writes k) (hnext : ∀ k, ¬ next.Writes k)
    (hstages : sys'.stage = Function.update sys.stage t next)
    (hvalue : sys'.value = sys.value)
    (hphases : lock'.phase = Function.update lock.phase t next.phase)
    (hfree : lock'.holder = none) (hvalue' : lock'.value = lock.value)
    (hcalls : lock'.calls = sys'.calls) (hhistory : lock'.history = sys'.history)
    (hguards : ∀ k, next.Guards k → ∀ u, ¬ (sys.stage u).Writes k)
    (hfollows : Follows access lock.value sys.value next) : Refines access sys' lock' := by
  refine h.update hstages hphases hfree hcalls hhistory ?_ ?_ ?_ ?_ ?_
  · intro k _
    rw [hvalue, hvalue']
    exact ⟨rfl, rfl⟩
  · intro k hk
    exact absurd hk (hbefore k)
  · intro k hk
    exact absurd hk (hnext k)
  · intro k hk
    exact Or.inr (hguards k hk)
  · rw [hvalue, hvalue']
    exact hfollows

variable [DecidableEq κ]

theorem after_map_update (values : ∀ k, σ k) (k : κ) (writes : List (σ k)) :
    Guarded.after values (writes.map (Function.update values k)) =
      Function.update values k (Guarded.after (values k) writes) := by
  unfold Guarded.after
  rw [List.getLast?_map]
  cases writes.getLast? with
  | none => exact (Function.update_eq_self k values).symm
  | some w => rfl

/-- A thread gives up an exclusive guard, and its writes take effect. -/
theorem Refines.leave (h : Refines access sys lock) {t : τ} {number : ℕ} {call : ι} {k : κ}
    {answer : ο} {written left : List (σ k)}
    (hstage : sys.stage t = .writing number call k answer written left) {next : Stage σ ι ο}
    (hnext : ∀ j, ¬ next.Guards j) (hfollows : Follows access lock'.value sys'.value next)
    (hstages : sys'.stage = Function.update sys.stage t next) (hvalue : sys'.value = sys.value)
    (hphases : lock'.phase = Function.update lock.phase t next.phase)
    (hfree : lock'.holder = none)
    (hwritten : lock'.value =
      Guarded.after lock.value (written.map (Function.update lock.value k)))
    (hcalls : lock'.calls = sys'.calls) (hhistory : lock'.history = sys'.history) :
    Refines access sys' lock' := by
  rw [after_map_update] at hwritten
  refine h.update hstages hphases hfree hcalls hhistory ?_ ?_ ?_ ?_ hfollows
  · intro j hj
    rw [hstage] at hj
    rw [hvalue, hwritten]
    exact ⟨rfl, Function.update_of_ne (Ne.symm hj) ..⟩
  · intro j hj _
    rw [hstage] at hj
    cases hj
    rw [hvalue, hwritten, (h.follows_of hstage).2]
    exact (Function.update_self ..).symm
  · intro j hj
    exact absurd hj.guards (hnext j)
  · intro j hj
    exact absurd hj (hnext j)

/-- What a thread that holds a guard would do under the single lock. -/
theorem underLock_of_exclusive {call : ι} {k : κ} {code : σ k → ο × List (σ k)}
    {values : ∀ k, σ k} {answer : ο} {written left : List (σ k)}
    (haccess : access call = .exclusive k code)
    (hcode : code (values k) = (answer, written ++ left)) :
    (oneLock access).underLock call values =
      (answer, written.map (Function.update values k) ++ left.map (Function.update values k)) := by
  simp only [oneLock, haccess, whole, hcode, List.map_append]

theorem Refines.step (h : Refines access sys lock) (hstep : Step access sys sys') :
    ∃ lock', Relation.ReflTransGen (oneLock access).Step lock lock' ∧
      Refines access sys' lock' := by
  cases hstep with
  | @invoke t call hstage =>
    have hphase := h.phase_of hstage
    refine ⟨_, .single (.invoke call hphase), h.aside ?_ ?_ rfl rfl ?_ h.free rfl ?_ ?_ ?_ trivial⟩
    · simp [hstage, Stage.Writes]
    · simp [Stage.Writes]
    · rw [h.calls]
      rfl
    · exact congrArg (· + 1) h.calls
    · rw [h.calls, h.history]
    · simp [Stage.Guards]
  | @reply t number call answer hstage haccess =>
    have hphase := h.phase_of hstage
    have hcode : (oneLock access).underLock call lock.value = (answer, []) := by
      simp only [oneLock, haccess, whole]
    refine ⟨_, Locked.completed_path hphase rfl h.free hcode,
      h.aside ?_ ?_ rfl rfl rfl rfl rfl h.calls h.history ?_ trivial⟩
    · simp [hstage, Stage.Writes]
    · simp [Stage.Writes]
    · simp [Stage.Guards]
  | @share t number call k answer hstage haccess hfree =>
    have hphase := h.phase_of hstage
    refine ⟨lock, .refl, h.aside ?_ ?_ rfl rfl ?_ h.free rfl h.calls h.history ?_ haccess⟩
    · simp [hstage, Stage.Writes]
    · simp [Stage.Writes]
    · exact (Function.update_eq_iff.mpr ⟨hphase.symm, fun _ _ => rfl⟩).symm
    · rintro j rfl
      exact hfree
  | @read t number call k answer hstage =>
    have hphase := h.phase_of hstage
    have haccess : access call = .shared k answer := h.follows_of hstage
    have hnone : ∀ u, ¬ (sys.stage u).Writes k := by
      intro u hu
      have hguards : (sys.stage t).Guards k := by
        rw [hstage]
        rfl
      have hsame := h.apart k u t hu hguards
      rw [hsame, hstage] at hu
      cases hu
    have hcode : (oneLock access).underLock call lock.value = (answer (sys.value k), []) := by
      simp only [oneLock, haccess, whole, h.value k hnone]
    refine ⟨_, Locked.completed_path hphase rfl h.free hcode,
      h.aside ?_ ?_ rfl rfl rfl rfl rfl h.calls h.history ?_ trivial⟩
    · simp [hstage, Stage.Writes]
    · simp [Stage.Writes]
    · simp [Stage.Guards]
  | @acquire t number call k code hstage haccess hfree =>
    have hphase := h.phase_of hstage
    have hvalue := h.value k fun u hu => hfree u hu.guards
    refine ⟨lock, .refl, h.update rfl ?_ h.free h.calls h.history ?_ ?_ ?_ ?_ ?_⟩
    · exact (Function.update_eq_iff.mpr ⟨hphase.symm, fun _ _ => rfl⟩).symm
    · exact fun _ _ => ⟨rfl, rfl⟩
    · simp [hstage, Stage.Writes]
    · rintro j rfl
      exact Or.inr hfree
    · rintro j rfl
      exact Or.inr fun u hu => hfree u hu.guards
    · refine ⟨⟨code, haccess, ?_⟩, hvalue⟩
      rw [← hvalue]
      rfl
  | @write t number call k answer written left w hstage =>
    have hphase := h.phase_of hstage
    obtain ⟨⟨code, haccess, hcode⟩, -⟩ := h.follows_of hstage
    refine ⟨lock, .refl, h.update rfl ?_ h.free h.calls h.history ?_ ?_ ?_ ?_ ?_⟩
    · exact (Function.update_eq_iff.mpr ⟨hphase.symm, fun _ _ => rfl⟩).symm
    · intro j hj
      rw [hstage] at hj
      exact ⟨Function.update_of_ne (Ne.symm hj) .., rfl⟩
    · intro j hj hnext
      rw [hstage] at hj
      exact absurd hj hnext
    · intro j hj
      rw [hstage]
      exact Or.inl hj
    · intro j hj
      rw [hstage]
      exact Or.inl hj
    · refine ⟨⟨code, haccess, ?_⟩, ?_⟩
      · rw [hcode, List.append_assoc, List.singleton_append]
      · rw [Guarded.after_concat]
        exact Function.update_self ..
  | @release t number call k answer written hstage =>
    have hphase := h.phase_of hstage
    obtain ⟨⟨code, haccess, hcode⟩, -⟩ := h.follows_of hstage
    have hunder := underLock_of_exclusive haccess hcode
    rw [List.map_nil, List.append_nil] at hunder
    refine ⟨_, Locked.completed_path hphase rfl h.free hunder,
      h.leave hstage ?_ ?_ rfl rfl rfl rfl rfl h.calls h.history⟩
    · simp [Stage.Guards]
    · trivial
  | @giveUp t number call hphase =>
    have hphase' := (h.phase t).trans hphase
    cases hstage : sys.stage t with
    | writing number' call' k answer written left =>
      rw [hstage] at hphase
      cases hphase
      obtain ⟨⟨code, haccess, hcode⟩, -⟩ := h.follows_of hstage
      refine ⟨_, Locked.abandoned_path hphase' rfl h.free (underLock_of_exclusive haccess hcode),
        h.leave hstage ?_ ?_ rfl rfl rfl rfl rfl h.calls h.history⟩
      · simp [Stage.Guards]
      · trivial
    | called | reading =>
      refine ⟨_, @Locked.abandoned_path _ _ _ _ _ (oneLock access) lock t number call
        ((access call).whole lock.value).1 hphase' rfl h.free []
        ((access call).whole lock.value).2 rfl,
        h.aside ?_ ?_ rfl rfl rfl rfl rfl h.calls h.history ?_ trivial⟩
      · simp [hstage, Stage.Writes]
      · simp [Stage.Writes]
      · simp [Stage.Guards]
    | idle | answered =>
      rw [hstage] at hphase
      cases hphase
  | @«return» t number answer hstage =>
    have hphase := h.phase_of hstage
    refine ⟨_, .single (.return hphase),
      h.aside ?_ ?_ rfl rfl rfl h.free rfl h.calls ?_ ?_ trivial⟩
    · simp [hstage, Stage.Writes]
    · simp [Stage.Writes]
    · rw [h.history]
    · simp [Stage.Guards]

omit [DecidableEq τ] [DecidableEq κ] in
theorem Refines.start (access : ι → Access σ ο) (values : ∀ k, σ k) :
    Refines access (start τ ι ο values) (Locked.start τ ι ο values) where
  calls := rfl
  history := rfl
  phase _ := rfl
  free := rfl
  apart _ _ _ h := h.elim
  value _ _ := rfl
  follows _ := trivial

/-- Every schedule is one of a single lock around all the objects: the callers see the same,
and an object on which no thread has the exclusive guard has the same value. -/
theorem Reaches.exists_lock {values : ∀ k, σ k} (h : Reaches access values sys) :
    ∃ lock, (oneLock access).Reaches values lock ∧ Refines access sys lock := by
  induction h with
  | refl => exact ⟨_, .refl, Refines.start access values⟩
  | tail _ hstep ih =>
    obtain ⟨lock, hreaches, hrefines⟩ := ih
    obtain ⟨lock', hpath, hrefines'⟩ := hrefines.step hstep
    exact ⟨lock', hreaches.trans hpath, hrefines'⟩

end Access

end Lib
