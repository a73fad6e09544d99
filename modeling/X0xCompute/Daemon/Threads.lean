import X0xCompute.Daemon.Reservations
import X0xCompute.Lib.Guards
import X0xCompute.Runtime.Threads

/-!
# The daemon called by many threads

The handlers and the subscription loop as threads that share the registry, behind its
read-write lock, and the state of the runtime, behind the mutex of its adapter. The two are
guarded apart, so the schedules are more than those of one lock; still the daemon does what
it does when it takes its inputs one at a time.
-/

namespace X0xCompute

open Lib

/-- What the threads of the daemon guard. -/
inductive SharedPart where
  | peers
  | runtimeState
  deriving DecidableEq

abbrev SharedPart.Value : SharedPart → Type
  | peers => TrustedPeerRegistry
  | runtimeState => SkeletonRuntimeState

namespace AppState

variable {ContactStore : Type} (http : HttpCrates) (mesh : MeshCrates ContactStore)
  (state : AppState)

/-- The guarded parts of the state. -/
def parts : ∀ part : SharedPart, part.Value
  | .peers => state.peers
  | .runtimeState => state.runtimeState

/-- The state with other guarded parts. -/
def withParts (values : ∀ part : SharedPart, part.Value) : AppState :=
  { state with peers := values .peers, runtimeState := values .runtimeState }

/-- A call of the runtime: what it checks before `lock_state`, or its code under the mutex. -/
def accessRuntime (call : RuntimeCall) : Access SharedPart.Value HttpResponse :=
  match state.runtime.beforeLock call with
  | some answer => .reply (respond http answer)
  | none =>
    .exclusive .runtimeState fun runtimeState =>
      let code := state.runtime.underLock call runtimeState
      (respond http code.1, code.2)

/-- What a handler does with the guarded parts. -/
def accessHandler (request : HttpRequest) (now : U64) :
    Handler → Access SharedPart.Value HttpResponse
  | .health => .reply ⟨.ok, .health "ok"⟩
  | .identityHandler => .reply ⟨.ok, .identity state.identity⟩
  | .localCapability => .reply ⟨.ok, .capability state.capability⟩
  | .peerCapabilities => .shared .peers fun peers => ⟨.ok, .peers peers.snapshot⟩
  | .configView => .reply (configResponse state.config)
  | .localModels => state.accessRuntime http .localModels
  | .listReservations => state.accessRuntime http .reservations
  | .createReservation =>
    match http.jsonReservation request with
    | .error rejection => .reply rejection.intoResponse
    | .ok body => state.accessRuntime http (.createReservation body now)
  | .deleteReservation segment =>
    match http.pathSegment segment with
    | .error text => .reply ⟨.badRequest, .text text⟩
    | .ok id => state.accessRuntime http (.releaseReservation id)
  | .openaiModels => state.accessRuntime http .openaiModels
  | .openaiChatCompletions =>
    match http.jsonChat request with
    | .error rejection => .reply rejection.intoResponse
    | .ok body => state.accessRuntime http (.chatCompletion body now)

/-- What the router does with them. -/
def accessRequest (request : HttpRequest) (now : U64) : Access SharedPart.Value HttpResponse :=
  match matchRoute request.path with
  | none => .reply ⟨.notFound, .empty⟩
  | some methods =>
    match matchMethod methods request.method with
    | none => .reply ⟨.methodNotAllowed, .empty⟩
    | some handler => (state.accessHandler http request now handler).map request.sent

/-- What an input does with them. The loop holds the write guard of the registry while it
applies a message, which changes one record at most. -/
def access : DaemonInput ContactStore → Access SharedPart.Value DaemonOutput
  | .request request now => (state.accessRequest http request now).map .response
  | .message step =>
    .exclusive .peers fun peers =>
      let answer := peers.applyMessage mesh state.config state.identity.agentId step.contacts
        step.now step.message
      (.disposition answer.1, [answer.2])

/-- What is left of the state by an input that is given up after some of its writes. -/
def abandoned (input : DaemonInput ContactStore) (writes : ℕ) : AppState :=
  match input with
  | .request request now =>
    match request.call? http now with
    | some call =>
      { state with
        runtimeState :=
          (RuntimeAttempt.abandoned call writes).final state.runtime state.runtimeState }
    | none => state
  | .message step =>
    if writes = 0 then state else ((daemonMachine http mesh).step state (.message step)).2

end AppState

/-- The daemon as a machine of attempts. -/
def daemonAttempts {ContactStore : Type} (http : HttpCrates) (mesh : MeshCrates ContactStore) :
    Machine AppState (Attempt (DaemonInput ContactStore)) (Option DaemonOutput) where
  step state attempt :=
    match attempt with
    | .completed input =>
      let answer := (daemonMachine http mesh).step state input
      (some answer.1, answer.2)
    | .abandoned input writes => (none, state.abandoned http mesh input writes)

/-! ## One input under its guard -/

/-- A call that is answered before the lock would make no write under it. -/
theorem underLock_of_beforeLock {adapter : SkeletonRuntimeAdapter} {call : RuntimeCall}
    {response : RuntimeResponse} (h : adapter.beforeLock call = some response)
    (state : SkeletonRuntimeState) : (adapter.underLock call state).2 = [] := by
  cases call with
  | createReservation request now =>
    rcases refusal_of_beforeLock state h with ⟨error, hrefusal, -⟩
    simp only [SkeletonRuntimeAdapter.underLock, adapter.createReservation_run, hrefusal]
  | chatCompletion request now =>
    rcases Option.map_eq_some_iff.mp h with ⟨error, hrefusal, -⟩
    simp only [SkeletonRuntimeAdapter.underLock,
      adapter.chatCompletion_run_of_refusal hrefusal]
  | localModels | reservations | releaseReservation | openaiModels => cases h

namespace AppState

variable {ContactStore : Type} {http : HttpCrates} {mesh : MeshCrates ContactStore}
  (state : AppState) (values : ∀ part : SharedPart, part.Value)

@[simp] theorem withParts_parts : state.withParts state.parts = state := rfl

@[simp] theorem withParts_update_peers (peers : TrustedPeerRegistry) :
    state.withParts (Function.update values .peers peers) =
      { state.withParts values with peers := peers } := rfl

@[simp] theorem withParts_update_runtimeState (runtimeState : SkeletonRuntimeState) :
    state.withParts (Function.update values .runtimeState runtimeState) =
      { state.withParts values with runtimeState := runtimeState } := rfl

/-- A call of the runtime under its mutex. -/
theorem whole_accessRuntime (call : RuntimeCall) :
    (((state.accessRuntime http call).whole values).1,
        state.withParts (Guarded.after values ((state.accessRuntime http call).whole values).2)) =
      (state.withParts values).callRuntime call (respond http) := by
  unfold accessRuntime callRuntime
  cases hbefore : state.runtime.beforeLock call with
  | some answer =>
    have hstep := @step_of_beforeLock state.runtime (values .runtimeState) _ _ hbefore
    simp only [withParts, Access.whole, Guarded.after_nil, hstep]
  | none =>
    have hstep := @underLock_eq_step state.runtime (values .runtimeState) call
    simp only [Access.whole, Access.after_map_update, withParts_update_runtimeState]
    simp only [withParts, ← hstep]

/-- A call of the runtime that is given up after some of its writes. -/
theorem taken_accessRuntime (call : RuntimeCall) (writes : ℕ) :
    state.withParts (Guarded.after values
        (((state.accessRuntime http call).whole values).2.take writes)) =
      { state.withParts values with
        runtimeState :=
          (RuntimeAttempt.abandoned call writes).final state.runtime (values .runtimeState) } := by
  have hfinal : Guarded.after (values .runtimeState)
      ((state.runtime.underLock call (values .runtimeState)).2.take writes) =
        (RuntimeAttempt.abandoned call writes).final state.runtime (values .runtimeState) :=
    locked_step_snd (.abandoned call writes)
  rw [← hfinal]
  unfold accessRuntime
  cases hbefore : state.runtime.beforeLock call with
  | some answer =>
    rw [underLock_of_beforeLock hbefore]
    simp only [Access.whole, List.take_nil, Guarded.after_nil]
    rfl
  | none =>
    simp only [Access.whole, ← List.map_take, Access.after_map_update,
      withParts_update_runtimeState]

theorem accessHandler_of_call {request : HttpRequest} {now : U64} {handler : Handler}
    {call : RuntimeCall} (h : handler.call? http request now = some call) :
    state.accessHandler http request now handler = state.accessRuntime http call := by
  cases handler with
  | createReservation =>
    cases hbody : http.jsonReservation request with
    | error rejection => simp [Handler.call?, hbody, Except.toOption] at h
    | ok body =>
      simp only [Handler.call?, hbody, Except.toOption, Option.map_some,
        Option.some.injEq] at h
      simp only [accessHandler, hbody, h]
  | deleteReservation segment =>
    cases hid : http.pathSegment segment with
    | error text => simp [Handler.call?, hid, Except.toOption] at h
    | ok id =>
      simp only [Handler.call?, hid, Except.toOption, Option.map_some,
        Option.some.injEq] at h
      simp only [accessHandler, hid, h]
  | openaiChatCompletions =>
    cases hbody : http.jsonChat request with
    | error rejection => simp [Handler.call?, hbody, Except.toOption] at h
    | ok body =>
      simp only [Handler.call?, hbody, Except.toOption, Option.map_some,
        Option.some.injEq] at h
      simp only [accessHandler, hbody, h]
  | localModels | listReservations | openaiModels =>
    cases h
    rfl
  | health | identityHandler | localCapability | peerCapabilities | configView => cases h

/-- A handler that makes no call of the runtime writes nothing. -/
theorem whole_accessHandler_of_no_call {request : HttpRequest} {now : U64} {handler : Handler}
    (h : handler.call? http request now = none) :
    (state.accessHandler http request now handler).whole values =
      (((state.withParts values).handle http request now handler).1, []) := by
  cases handler with
  | createReservation =>
    cases hbody : http.jsonReservation request with
    | error rejection => simp only [accessHandler, handle, hbody, Access.whole]
    | ok body => simp [Handler.call?, hbody, Except.toOption] at h
  | deleteReservation segment =>
    cases hid : http.pathSegment segment with
    | error text => simp only [accessHandler, handle, hid, Access.whole]
    | ok id => simp [Handler.call?, hid, Except.toOption] at h
  | openaiChatCompletions =>
    cases hbody : http.jsonChat request with
    | error rejection => simp only [accessHandler, handle, hbody, Access.whole]
    | ok body => simp [Handler.call?, hbody, Except.toOption] at h
  | localModels | listReservations | openaiModels => cases h
  | health | identityHandler | localCapability | peerCapabilities | configView => rfl

/-- A handler answers and leaves what `handle` does. -/
theorem whole_accessHandler (request : HttpRequest) (now : U64) (handler : Handler) :
    (((state.accessHandler http request now handler).whole values).1,
        state.withParts (Guarded.after values
          ((state.accessHandler http request now handler).whole values).2)) =
      (state.withParts values).handle http request now handler := by
  cases hcall : handler.call? http request now with
  | some call =>
    rw [accessHandler_of_call state hcall, handle_of_call _ hcall]
    exact state.whole_accessRuntime values call
  | none =>
    rw [whole_accessHandler_of_no_call state values hcall]
    exact Prod.ext rfl (handle_of_no_call _ hcall).symm

theorem accessRequest_of_handler {request : HttpRequest} {now : U64} {handler : Handler}
    (h : request.handler? = some handler) :
    state.accessRequest http request now =
      (state.accessHandler http request now handler).map request.sent := by
  rcases Option.bind_eq_some_iff.mp h with ⟨methods, hroute, hmethod⟩
  simp only [accessRequest, hroute, hmethod]

/-- A request that reaches no handler. -/
theorem whole_accessRequest_of_no_handler {request : HttpRequest} {now : U64}
    (h : request.handler? = none) :
    (state.accessRequest http request now).whole values =
      (((state.withParts values).serve http request now).1, []) := by
  unfold HttpRequest.handler? at h
  unfold accessRequest serve
  cases hroute : matchRoute request.path with
  | none => rfl
  | some methods =>
    rw [hroute, Option.bind_some] at h
    simp only [h]
    rfl

/-- A request is answered and leaves what `serve` does. -/
theorem whole_accessRequest (request : HttpRequest) (now : U64) :
    (((state.accessRequest http request now).whole values).1,
        state.withParts (Guarded.after values
          ((state.accessRequest http request now).whole values).2)) =
      (state.withParts values).serve http request now := by
  cases hhandler : request.handler? with
  | none =>
    rw [whole_accessRequest_of_no_handler state values hhandler]
    exact Prod.ext rfl (serve_of_no_handler _ hhandler).1.symm
  | some handler =>
    rw [accessRequest_of_handler state hhandler, serve_of_handler _ hhandler,
      ← whole_accessHandler, Access.whole_map]

/-- A request that is given up after some of its writes. -/
theorem taken_accessRequest (request : HttpRequest) (now : U64) (writes : ℕ) :
    state.withParts (Guarded.after values
        (((state.accessRequest http request now).whole values).2.take writes)) =
      (state.withParts values).abandoned http mesh (.request request now) writes := by
  simp only [abandoned, HttpRequest.call?]
  cases hhandler : request.handler? with
  | none =>
    rw [whole_accessRequest_of_no_handler state values hhandler, List.take_nil]
    rfl
  | some handler =>
    rw [accessRequest_of_handler state hhandler, Access.whole_map, Option.bind_some]
    cases hcall : handler.call? http request now with
    | some call =>
      rw [accessHandler_of_call state hcall]
      exact state.taken_accessRuntime values call writes
    | none =>
      rw [whole_accessHandler_of_no_call state values hcall, List.take_nil]
      rfl

end AppState

/-! ## A sequential run under one lock is a run of attempts -/

section

variable {ContactStore : Type} (http : HttpCrates) (mesh : MeshCrates ContactStore)
  (state : AppState)

theorem oneLock_step (values : ∀ part : SharedPart, part.Value)
    (attempt : Attempt (DaemonInput ContactStore)) :
    (((Access.oneLock (state.access http mesh)).machine.step values attempt).1,
        state.withParts
          ((Access.oneLock (state.access http mesh)).machine.step values attempt).2) =
      (daemonAttempts http mesh).step (state.withParts values) attempt := by
  cases attempt with
  | completed input =>
    cases input with
    | message step => rfl
    | request request now =>
      have hserve := @AppState.whole_accessRequest http state values request now
      simp only [Locked.machine, Access.oneLock, AppState.access, Access.whole_map,
        daemonAttempts, daemonMachine, ← hserve]
  | abandoned input writes =>
    refine Prod.ext rfl ?_
    cases input with
    | message step =>
      cases writes with
      | zero => rfl
      | succ n =>
        show state.withParts (Guarded.after values
          (List.map (Function.update values .peers) [_] |>.take (n + 1))) = _
        rw [← List.map_take, List.take_succ_cons, List.take_nil]
        rfl
    | request request now =>
      have htaken := @AppState.taken_accessRequest _ http mesh state values request now writes
      simp only [Locked.machine, Access.oneLock, AppState.access, Access.whole_map,
        daemonAttempts]
      exact htaken

theorem oneLock_exec (values : ∀ part : SharedPart, part.Value)
    (attempts : List (Attempt (DaemonInput ContactStore))) :
    state.withParts
        ((Access.oneLock (state.access http mesh)).machine.exec values attempts) =
      (daemonAttempts http mesh).exec (state.withParts values) attempts :=
  (Machine.exec_alike _ (oneLock_step http mesh state) values attempts).1

/-- Inputs that are not given up are a run of the daemon. -/
theorem daemonAttempts_completed (inputs : List (DaemonInput ContactStore)) :
    (daemonAttempts http mesh).exec state (inputs.map .completed) =
        (daemonMachine http mesh).exec state inputs ∧
      (daemonAttempts http mesh).events state (inputs.map .completed) =
        ((daemonMachine http mesh).events state inputs).map
          fun e => (.completed e.1, some e.2) := by
  induction inputs generalizing state with
  | nil => exact ⟨rfl, rfl⟩
  | cons input inputs ih =>
    obtain ⟨hexec, hevents⟩ := ih ((daemonMachine http mesh).step state input).2
    rw [List.map_cons, Machine.exec_cons, Machine.events_cons, Machine.exec_cons,
      Machine.events_cons, List.map_cons]
    exact ⟨hexec, congrArg _ hevents⟩

end

/-! ## Every schedule -/

section

variable {τ ContactStore : Type} [DecidableEq τ] {http : HttpCrates}
  {mesh : MeshCrates ContactStore} {state : AppState}
  {sys : Sharing τ SharedPart.Value (DaemonInput ContactStore) DaemonOutput}

/-- The daemon may be taken to handle its inputs one at a time. Whatever threads make
requests and deliver messages, each under the guard of the part it touches, and wherever some
of them are given up: there is one order in which the inputs took effect such that each was
made, takes effect once, and is answered what the daemon answers after those before it; what
a caller got is the answer of its input's effect; an input that was answered before another
was made took effect before it; while no thread writes, the state is the one that the inputs
leave; and if no input was given up, they are a run of the daemon. -/
theorem daemon_linearizable
    (h : Access.Reaches (state.access http mesh) state.parts sys) :
    ∃ effects : List (Effect (DaemonInput ContactStore) DaemonOutput),
      let after := fun effects : List (Effect (DaemonInput ContactStore) DaemonOutput) =>
        (daemonAttempts http mesh).exec state (effects.map Effect.attempt)
      let inputs := effects.map fun effect => effect.attempt.call
      (∀ pre effect post, effects = pre ++ effect :: post →
        .invoked effect.number effect.attempt.call ∈ sys.history ∧
        (∀ earlier ∈ pre, earlier.number ≠ effect.number) ∧
        ∀ input, effect.attempt = .completed input →
          effect.answer = some ((daemonMachine http mesh).step (after pre) input).1) ∧
      (∀ number answer, .returned number answer ∈ sys.history →
        ∃ input, ⟨number, .completed input, some answer⟩ ∈ effects) ∧
      (∀ a answer b input, List.Sublist [.returned a answer, .invoked b input] sys.history →
        b ∈ effects.map Effect.number → List.Sublist [a, b] (effects.map Effect.number)) ∧
      ((∀ t part, ¬ (sys.stage t).Writes part) → state.withParts sys.value = after effects) ∧
      ((∀ effect ∈ effects, effect.attempt = .completed effect.attempt.call) →
        after effects = (daemonMachine http mesh).exec state inputs ∧
        effects.map (fun effect => (effect.attempt.call, effect.answer)) =
          ((daemonMachine http mesh).events state inputs).map fun e => (e.1, some e.2)) := by
  rcases h.exists_lock with ⟨lock, hreaches, hrefines⟩
  have hlinearized := hreaches.linearized
  rw [← hrefines.history]
  refine ⟨lock.effects, ?effects, hlinearized.returned, hlinearized.realTime, ?value, ?run⟩
  case effects =>
    intro pre effect post hsplit
    obtain ⟨hinvoked, honce, hanswer⟩ := hlinearized.effect hsplit
    refine ⟨hinvoked, honce, ?_⟩
    intro input hinput
    have hstep := congrArg Prod.fst (oneLock_step http mesh state
      (Locked.settled (Access.oneLock (state.access http mesh)) state.parts pre) effect.attempt)
    rw [hanswer]
    refine hstep.trans ?_
    rw [Locked.settled, oneLock_exec, hinput]
    rfl
  case value =>
    intro hquiet
    have hvalue : sys.value = lock.value := by
      funext part
      exact hrefines.value part fun t => hquiet t part
    rw [hvalue, hlinearized.value hrefines.free]
    exact oneLock_exec http mesh state _ _
  case run =>
    intro hcompleted
    have hattempts : lock.effects.map Effect.attempt =
        (lock.effects.map fun effect => effect.attempt.call).map .completed := by
      rw [List.map_map]
      exact List.map_congr_left hcompleted
    obtain ⟨hexec, hevents⟩ := daemonAttempts_completed http mesh state
      (lock.effects.map fun effect => effect.attempt.call)
    have halike := (Machine.exec_alike _ (oneLock_step http mesh state) state.parts
      (lock.effects.map Effect.attempt)).2
    rw [hlinearized.legal, AppState.withParts_parts, hattempts, hevents] at halike
    refine ⟨?_, ?_⟩
    · show (daemonAttempts http mesh).exec state (lock.effects.map Effect.attempt) = _
      rw [hattempts, hexec]
    · have hcalls := congrArg (List.map fun e => (e.1.call, e.2)) halike
      rw [List.map_map, List.map_map] at hcalls
      exact hcalls

end

/-! ## A look at the peers during a reservation -/

/-- While one thread reads under a shared guard, another one takes the exclusive guard of
another object. -/
theorem exists_overlap {κ : Type} [DecidableEq κ] {σ : κ → Type} {ι ο : Type}
    {access : ι → Access σ ο} {values : ∀ k, σ k} {look make : ι} {k j : κ} {see : σ k → ο}
    {code : σ j → ο × List (σ j)} {answer : ο} {first last : σ j}
    (hlook : access look = .shared k see) (hmake : access make = .exclusive j code)
    (hne : k ≠ j) (hcode : code (values j) = (answer, [first, last])) :
    ∃ sys : Sharing Bool σ ι ο, Access.Reaches access values sys ∧
      sys.history = [.invoked 0 look, .invoked 1 make, .returned 0 (see (values k)),
        .returned 1 answer] ∧
      ∀ t part, ¬ (sys.stage t).Writes part := by
  refine ⟨_, Relation.ReflTransGen.refl
    |>.tail (.invoke (t := true) look rfl)
    |>.tail (.invoke (t := false) make rfl)
    |>.tail (.share (t := true) rfl hlook fun u => by cases u <;> exact id)
    |>.tail (Access.Step.acquire_of_code _ (t := false) rfl hmake
      (fun u => by cases u; exacts [id, hne]) hcode)
    |>.tail (.read (t := true) rfl)
    |>.tail (.return (t := true) rfl)
    |>.tail (.write (t := false) rfl)
    |>.tail (.write (t := false) rfl)
    |>.tail (.release (t := false) rfl)
    |>.tail (.return (t := false) rfl), rfl, ?_⟩
  intro t part
  cases t <;> exact id

theorem access_peerCapabilities :
    friendDaemon.access plainHttp friendsCrates
        (.request ⟨.get, "/v1/capabilities/peers", none, []⟩ 2) =
      .shared .peers fun peers => .response ⟨.ok, .peers peers.snapshot⟩ := by
  have hhandler : HttpRequest.handler? ⟨.get, "/v1/capabilities/peers", none, []⟩ =
      some .peerCapabilities :=
    HttpRequest.handler?_eq_some_iff.mpr ⟨rfl, trivial, Or.inl rfl⟩
  rw [AppState.access, AppState.accessRequest_of_handler _ hhandler]
  rfl

theorem access_alicePost :
    friendDaemon.access plainHttp friendsCrates (.request alicePost 2) =
      .exclusive .runtimeState fun runtimeState =>
        let code := (SkeletonRuntimeAdapter.new twoModelConfig).locked.underLock
          (slotCall "alice" 2) runtimeState
        (.response (AppState.respond plainHttp code.1), code.2) := by
  have hhandler : alicePost.handler? = some .createReservation :=
    HttpRequest.handler?_eq_some_iff.mpr ⟨rfl, trivial, Or.inl rfl⟩
  have hbody : plainHttp.jsonReservation alicePost = .ok (slotRequest "gemma" "alice") := by
    simp [plainHttp, alicePost]
  have halice : trim "alice" ≠ "" := by decide
  have hbefore : friendDaemon.runtime.beforeLock
      (.createReservation (slotRequest "gemma" "alice") 2) = none :=
    beforeLock_slotCall halice 2
  rw [AppState.access, AppState.accessRequest_of_handler _ hhandler]
  simp only [AppState.accessHandler, hbody, AppState.accessRuntime, hbefore]
  rfl

/-- Alice's request runs while another client reads the list of peers. -/
theorem daemon_linearizable_alice :
    ∃ sys : Sharing Bool SharedPart.Value (DaemonInput (List (AgentId × TrustDecision)))
        DaemonOutput,
      Access.Reaches (friendDaemon.access plainHttp friendsCrates) friendDaemon.parts sys ∧
      ∃ effects : List (Effect (DaemonInput (List (AgentId × TrustDecision))) DaemonOutput),
        (∃ input, ⟨0, .completed input, some (.response ⟨.ok, .peers []⟩)⟩ ∈ effects) ∧
        friendDaemon.withParts sys.value =
          (daemonAttempts plainHttp friendsCrates).exec friendDaemon
            (effects.map Effect.attempt) := by
  have halice : trim "alice" ≠ "" := by decide
  have hgranted := underLock_slotCall (Sound.new _) halice (Nat.zero_le 1) 2
  have hcode := congrArg (fun code : RuntimeResponse × List SkeletonRuntimeState =>
    (DaemonOutput.response (AppState.respond plainHttp code.1), code.2)) hgranted
  have hne : SharedPart.peers ≠ .runtimeState := by decide
  rcases @exists_overlap _ _ _ _ _ _ friendDaemon.parts _ _ _ _ _ _ _ _ _
    access_peerCapabilities access_alicePost hne hcode with ⟨sys, hreaches, hhistory, hquiet⟩
  rcases daemon_linearizable hreaches with ⟨effects, -, hreturned, -, hvalue, -⟩
  refine ⟨sys, hreaches, effects, hreturned 0 _ ?_, hvalue hquiet⟩
  rw [hhistory]
  exact List.mem_cons_of_mem _ (List.mem_cons_of_mem _ List.mem_cons_self)

end X0xCompute
