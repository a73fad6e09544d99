import X0xCompute.Lib.Threads
import X0xCompute.Runtime.Reuse

/-!
# The adapter called by many threads

The calls of the adapter as calls of an object behind a lock: what each checks before
`lock_state`, and what it reads and writes while it holds the guard. Every schedule of any
number of threads, in which a thread may panic while it holds the lock, answers its callers
as one run of the calls would, and never lets the clients hold more than the slots of a
model.
-/

namespace X0xCompute

open Lib

namespace SkeletonRuntimeAdapter

variable (self : SkeletonRuntimeAdapter)

/-- What a call is answered before `lock_state`. -/
def beforeLock : RuntimeCall → Option RuntimeResponse
  | .createReservation request _ =>
    if trim request.consumer = "" then
      some (.created (.error (.invalidReservationRequest "consumer must not be empty")))
    else if request.requestedSlots = 0 then
      some (.created (.error (.invalidReservationRequest "requested_slots must be at least 1")))
    else
      match self.ensureModelExists request.model with
      | .error error => some (.created (.error error))
      | .ok _ => none
  | .chatCompletion request _ =>
    (self.chatRefusal request).map fun error => .completed (.error error)
  | .localModels | .reservations | .releaseReservation _ | .openaiModels => none

/-- The answer of a call that holds the lock, and the states it writes. -/
def underLock (call : RuntimeCall) (state : SkeletonRuntimeState) :
    RuntimeResponse × List SkeletonRuntimeState :=
  match call with
  | .localModels => (.localModels (self.localModels state), [])
  | .createReservation request now =>
    let code := (self.createReservation request now).run state
    (.created code.1, code.2)
  | .reservations => (.reservations (reservations state), [])
  | .releaseReservation reservationId =>
    let code := (releaseReservation reservationId).run state
    (.released code.1, code.2)
  | .openaiModels => (.openaiModels (self.openaiModels state), [])
  | .chatCompletion request now =>
    let code := (self.chatCompletion request now).run state
    (.completed code.1, code.2)

/-- The adapter as an object behind a lock. -/
def locked : Locked SkeletonRuntimeState RuntimeCall RuntimeResponse where
  beforeLock := self.beforeLock
  underLock := self.underLock

end SkeletonRuntimeAdapter

/-- The attempt of the adapter's run that an attempt of a thread is. -/
def RuntimeAttempt.ofAttempt : Attempt RuntimeCall → RuntimeAttempt
  | .completed call => .completed call
  | .abandoned call writes => .abandoned call writes

variable {adapter : SkeletonRuntimeAdapter} {state : SkeletonRuntimeState}

theorem underLock_eq_step (call : RuntimeCall) :
    ((adapter.underLock call state).1, Guarded.after state (adapter.underLock call state).2) =
      (runtimeMachine adapter).step state call := by
  cases call with
  | createReservation | releaseReservation | chatCompletion =>
    simp only [SkeletonRuntimeAdapter.underLock, runtimeMachine, Guarded.result, Guarded.final,
      Guarded.writes]
  | localModels | reservations | openaiModels => rfl

/-- A reservation request that is answered before the lock is refused in every state. -/
theorem refusal_of_beforeLock (state : SkeletonRuntimeState)
    {request : CreateReservationRequest} {now : U64} {response : RuntimeResponse}
    (h : adapter.beforeLock (.createReservation request now) = some response) :
    ∃ error, adapter.refusal state request = some error ∧ response = .created (.error error) := by
  unfold SkeletonRuntimeAdapter.beforeLock SkeletonRuntimeAdapter.ensureModelExists at h
  unfold SkeletonRuntimeAdapter.refusal
  dsimp only at h
  by_cases hconsumer : trim request.consumer = ""
  · rw [if_pos hconsumer, Option.some.injEq] at h
    rw [if_pos hconsumer]
    exact ⟨_, rfl, h.symm⟩
  rw [if_neg hconsumer] at h ⊢
  by_cases hslots : request.requestedSlots = 0
  · rw [if_pos hslots, Option.some.injEq] at h
    rw [if_pos hslots]
    exact ⟨_, rfl, h.symm⟩
  rw [if_neg hslots] at h ⊢
  cases hmodel : adapter.models[request.model]? with
  | none =>
    rw [hmodel] at h
    dsimp only at h
    rw [Option.some.injEq] at h
    exact ⟨_, rfl, h.symm⟩
  | some model =>
    rw [hmodel] at h
    dsimp only at h
    cases h

/-- What is answered before the lock is what would be answered under it, with no write. -/
theorem step_of_beforeLock {call : RuntimeCall} {response : RuntimeResponse}
    (h : adapter.beforeLock call = some response) :
    (runtimeMachine adapter).step state call = (response, state) := by
  cases call with
  | createReservation request now =>
    rcases refusal_of_beforeLock _ h with ⟨error, herror, rfl⟩
    exact step_create_of_refusal herror now
  | chatCompletion request now =>
    rcases Option.map_eq_some_iff.mp h with ⟨error, herror, rfl⟩
    exact step_chat_of_refusal herror now
  | localModels | reservations | releaseReservation | openaiModels => cases h

/-- A completed call of a thread answers and leaves what a call of the run does. -/
theorem locked_step_completed (call : RuntimeCall) :
    adapter.locked.machine.step state (.completed call) =
      (some ((runtimeMachine adapter).step state call).1,
        ((runtimeMachine adapter).step state call).2) := by
  cases hbefore : adapter.beforeLock call with
  | some response =>
    rw [step_of_beforeLock hbefore]
    simp only [Locked.machine, SkeletonRuntimeAdapter.locked, hbefore]
  | none =>
    rw [← underLock_eq_step]
    simp only [Locked.machine, SkeletonRuntimeAdapter.locked, hbefore]

theorem locked_step_snd (attempt : Attempt RuntimeCall) :
    (adapter.locked.machine.step state attempt).2 =
      (RuntimeAttempt.ofAttempt attempt).final adapter state := by
  cases attempt with
  | completed call => rw [locked_step_completed]; rfl
  | abandoned call writes =>
    cases call with
    | createReservation | releaseReservation | chatCompletion =>
      simp only [Locked.machine, SkeletonRuntimeAdapter.locked,
        SkeletonRuntimeAdapter.underLock, RuntimeAttempt.ofAttempt, RuntimeAttempt.final,
        Guarded.abandoned, Guarded.writes]
    | localModels | reservations | openaiModels =>
      show Guarded.after state (List.take writes []) = state
      rw [List.take_nil, Guarded.after_nil]

theorem locked_exec (attempts : List (Attempt RuntimeCall)) :
    adapter.locked.machine.exec state attempts =
      (attemptMachine adapter).exec state (attempts.map RuntimeAttempt.ofAttempt) := by
  induction attempts generalizing state with
  | nil => rfl
  | cons attempt attempts ih =>
    rw [Machine.exec_cons, ih, locked_step_snd]
    rfl

/-! ## A race -/

/-- A request for a slot, at a clock reading. -/
def slotCall (consumer : String) (now : U64) : RuntimeCall :=
  .createReservation (slotRequest "gemma" consumer) now

/-- What the second of two racing threads is granted, the first having been abandoned with
its number issued. -/
def racedReservation : ModelReservation :=
  SkeletonRuntimeState.new.issued.grant (slotRequest "gemma" "bob") 2

theorem underLock_slotCall {state : SkeletonRuntimeState}
    (h : Sound (SkeletonRuntimeAdapter.new twoModelConfig) state) {consumer : String}
    (hconsumer : trim consumer ≠ "") (hfree : state.liveSlots "gemma" ≤ 1) (now : U64) :
    (SkeletonRuntimeAdapter.new twoModelConfig).locked.underLock (slotCall consumer now) state =
      (.created (.ok (state.grant (slotRequest "gemma" consumer) now)),
        [state.issued, state.granted (slotRequest "gemma" consumer) now]) := by
  have haccepted := gemma_refusal_eq_none h consumer hconsumer hfree
  simp only [SkeletonRuntimeAdapter.locked, SkeletonRuntimeAdapter.underLock, slotCall,
    SkeletonRuntimeAdapter.createReservation_run, haccepted]

theorem beforeLock_slotCall {consumer : String} (hconsumer : trim consumer ≠ "") (now : U64) :
    (SkeletonRuntimeAdapter.new twoModelConfig).locked.beforeLock (slotCall consumer now) =
      none := by
  have haccepted := gemma_refusal_eq_none (Sound.new _) consumer hconsumer (Nat.zero_le 1)
  cases hbefore : (SkeletonRuntimeAdapter.new twoModelConfig).beforeLock
      (slotCall consumer now) with
  | none => exact hbefore
  | some response =>
    rcases refusal_of_beforeLock .new hbefore with ⟨error, herror, -⟩
    rw [haccepted] at herror
    cases herror

/-- Two threads race for the lock; the one that gets it first is abandoned between its two
writes, the other one returns. -/
theorem exists_race {σ ι ο : Type} {obj : Locked σ ι ο} {s first last first' last' : σ}
    {call call' : ι} {answer answer' : ο} (hlock : obj.beforeLock call = none)
    (hlock' : obj.beforeLock call' = none)
    (hcode : obj.underLock call s = (answer, [first, last]))
    (hcode' : obj.underLock call' first = (answer', [first', last'])) :
    ∃ sys : Threads Bool σ ι ο, obj.Reaches s sys ∧
      sys.history = [.invoked 0 call, .invoked 1 call', .returned 1 answer'] ∧
      sys.effects =
        [⟨0, .abandoned call 1, none⟩, ⟨1, .completed call', some answer'⟩] := by
  refine ⟨_, Relation.ReflTransGen.refl
    |>.tail (.invoke (t := true) call rfl)
    |>.tail (.invoke (t := false) call' rfl)
    |>.tail (Locked.Step.acquire_of_code _ (t := true) rfl hlock rfl hcode)
    |>.tail (.write (t := true) rfl)
    |>.tail (.abandon (t := true) rfl)
    |>.tail (Locked.Step.acquire_of_code _ (t := false) rfl hlock' rfl hcode')
    |>.tail (.write (t := false) rfl)
    |>.tail (.write (t := false) rfl)
    |>.tail (.release (t := false) rfl)
    |>.tail (.return (t := false) rfl), rfl, rfl⟩

/-- Two threads ask for a slot; the one that gets the lock first panics between its writes. -/
theorem exists_raced : ∃ sys : Threads Bool SkeletonRuntimeState RuntimeCall RuntimeResponse,
    (SkeletonRuntimeAdapter.new twoModelConfig).locked.Reaches .new sys ∧
      sys.history =
        [.invoked 0 (slotCall "alice" 1), .invoked 1 (slotCall "bob" 2),
          .returned 1 (.created (.ok racedReservation))] ∧
      sys.effects =
        [⟨0, .abandoned (slotCall "alice" 1) 1, none⟩,
          ⟨1, .completed (slotCall "bob" 2), some (.created (.ok racedReservation))⟩] := by
  have halice : trim "alice" ≠ "" := by decide
  have hbob : trim "bob" ≠ "" := by decide
  have hnew := Sound.new (SkeletonRuntimeAdapter.new twoModelConfig)
  exact exists_race (beforeLock_slotCall halice 1) (beforeLock_slotCall hbob 2)
    (underLock_slotCall hnew halice (Nat.zero_le 1) 1)
    (underLock_slotCall hnew.issued hbob (Nat.zero_le 1) 2)

/-! ## Every schedule -/

variable {τ : Type} [DecidableEq τ]
  {sys : Threads τ SkeletonRuntimeState RuntimeCall RuntimeResponse}

/-- The answers that callers get are those of one run of the calls: each effect is that of a
call that was made, has not taken effect before, and answers what the adapter answers after
the effects before it; what a caller got is the answer of its call's effect; a call that
returned before another was made took effect before it; and while no thread holds the lock
the state is the one that the effects leave. -/
theorem runtime_linearizable (config : ComputeConfig)
    (h : (SkeletonRuntimeAdapter.new config).locked.Reaches .new sys) :
    let adapter := SkeletonRuntimeAdapter.new config
    let after := fun effects : List (Effect RuntimeCall RuntimeResponse) =>
      (attemptMachine adapter).exec .new
        (effects.map fun effect => RuntimeAttempt.ofAttempt effect.attempt)
    (∀ pre effect post, sys.effects = pre ++ effect :: post →
      .invoked effect.number effect.attempt.call ∈ sys.history ∧
      (∀ earlier ∈ pre, earlier.number ≠ effect.number) ∧
      (∀ call, effect.attempt = .completed call →
        effect.answer = some ((runtimeMachine adapter).step (after pre) call).1) ∧
      ∀ call writes, effect.attempt = .abandoned call writes → effect.answer = none) ∧
    (∀ number answer, .returned number answer ∈ sys.history →
      ∃ call, ⟨number, .completed call, some answer⟩ ∈ sys.effects) ∧
    (∀ a answer b call, List.Sublist [.returned a answer, .invoked b call] sys.history →
      b ∈ sys.effects.map Effect.number →
      List.Sublist [a, b] (sys.effects.map Effect.number)) ∧
    (sys.holder = none → sys.value = after sys.effects) := by
  intro adapter after
  have hlinearized := h.linearized
  refine ⟨?effects, hlinearized.returned, hlinearized.realTime, ?value⟩
  case effects =>
    intro pre effect post hsplit
    obtain ⟨hinvoked, honce, hanswer⟩ := hlinearized.effect hsplit
    rw [Locked.settled, locked_exec, List.map_map] at hanswer
    refine ⟨hinvoked, honce, ?_, ?_⟩
    · intro call hcall
      rw [hanswer, hcall, locked_step_completed]
      rfl
    · intro call writes hcall
      rw [hanswer, hcall]
      rfl
  case value =>
    intro hfree
    rw [hlinearized.value hfree, Locked.settled, locked_exec, List.map_map]
    rfl

/-- The thread that returned was answered as if the abandoned call had come first. -/
theorem runtime_linearizable_raced :
    ∃ sys : Threads Bool SkeletonRuntimeState RuntimeCall RuntimeResponse,
      (SkeletonRuntimeAdapter.new twoModelConfig).locked.Reaches .new sys ∧
        .returned 1 ((runtimeMachine (SkeletonRuntimeAdapter.new twoModelConfig)).step
          ((attemptMachine (SkeletonRuntimeAdapter.new twoModelConfig)).exec .new
            [.abandoned (slotCall "alice" 1) 1]) (slotCall "bob" 2)).1 ∈ sys.history := by
  rcases exists_raced with ⟨sys, hreaches, hhistory, heffects⟩
  have hanswer := ((runtime_linearizable twoModelConfig hreaches).1
    [⟨0, .abandoned (slotCall "alice" 1) 1, none⟩] _ [] heffects).2.2.1 _ rfl
  refine ⟨sys, hreaches, ?_⟩
  rw [Option.some.injEq] at hanswer
  rw [hhistory]
  apply List.mem_cons_of_mem
  apply List.mem_cons_of_mem
  rw [List.mem_singleton, Notice.returned.injEq]
  exact ⟨rfl, hanswer.symm⟩

end X0xCompute
