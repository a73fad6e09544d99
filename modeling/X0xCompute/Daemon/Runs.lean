import X0xCompute.Daemon.Routes
import X0xCompute.Runtime.Lifecycle

/-!
# What a run of the daemon does to its parts

The requests of a run are calls of the runtime, and its messages are steps of the registry.
Neither touches the part of the other, and no input touches the rest of the state; so what
holds of the runs of the parts holds of the runs of the daemon.
-/

namespace X0xCompute

open Lib

/-- The runtime call that a handler makes for a request. -/
def Handler.call? (crates : HttpCrates) (request : HttpRequest) (now : U64) :
    Handler → Option RuntimeCall
  | localModels => some .localModels
  | listReservations => some .reservations
  | createReservation =>
    (crates.jsonReservation request).toOption.map fun body => .createReservation body now
  | deleteReservation segment => (crates.pathSegment segment).toOption.map .releaseReservation
  | openaiModels => some .openaiModels
  | openaiChatCompletions =>
    (crates.jsonChat request).toOption.map fun body => .chatCompletion body now
  | health | identityHandler | localCapability | peerCapabilities | configView => none

/-- The runtime call that a request makes. -/
def HttpRequest.call? (crates : HttpCrates) (request : HttpRequest) (now : U64) :
    Option RuntimeCall :=
  request.handler?.bind fun handler => handler.call? crates request now

/-- The response to a request as it is sent: without the body to `HEAD`. -/
def HttpRequest.sent (request : HttpRequest) (response : HttpResponse) : HttpResponse :=
  if request.method = .head then { response with body := .empty } else response

@[simp] theorem HttpRequest.sent_status (request : HttpRequest) (response : HttpResponse) :
    (request.sent response).status = response.status := by
  unfold HttpRequest.sent
  split <;> rfl

theorem HttpRequest.sent_of_ne {request : HttpRequest} (h : request.method ≠ .head)
    (response : HttpResponse) : request.sent response = response := if_neg h

namespace AppState

variable {crates : HttpCrates} {request : HttpRequest} {now : U64} {handler : Handler}
  {call : RuntimeCall} (state : AppState)

theorem handle_of_call (h : handler.call? crates request now = some call) :
    state.handle crates request now handler = state.callRuntime call (respond crates) := by
  cases handler with
  | createReservation =>
    cases hbody : crates.jsonReservation request with
    | error rejection => simp [Handler.call?, hbody, Except.toOption] at h
    | ok body =>
      simp only [Handler.call?, hbody, Except.toOption, Option.map_some,
        Option.some.injEq] at h
      simp only [handle, hbody, h]
  | deleteReservation segment =>
    cases hid : crates.pathSegment segment with
    | error text => simp [Handler.call?, hid, Except.toOption] at h
    | ok id =>
      simp only [Handler.call?, hid, Except.toOption, Option.map_some,
        Option.some.injEq] at h
      simp only [handle, hid, h]
  | openaiChatCompletions =>
    cases hbody : crates.jsonChat request with
    | error rejection => simp [Handler.call?, hbody, Except.toOption] at h
    | ok body =>
      simp only [Handler.call?, hbody, Except.toOption, Option.map_some,
        Option.some.injEq] at h
      simp only [handle, hbody, h]
  | localModels | listReservations | openaiModels =>
    cases h
    rfl
  | health | identityHandler | localCapability | peerCapabilities | configView => cases h

theorem handle_of_no_call (h : handler.call? crates request now = none) :
    (state.handle crates request now handler).2 = state := by
  cases handler with
  | createReservation =>
    cases hbody : crates.jsonReservation request with
    | error rejection => simp only [handle, hbody]
    | ok body => simp [Handler.call?, hbody, Except.toOption] at h
  | deleteReservation segment =>
    cases hid : crates.pathSegment segment with
    | error text => simp only [handle, hid]
    | ok id => simp [Handler.call?, hid, Except.toOption] at h
  | openaiChatCompletions =>
    cases hbody : crates.jsonChat request with
    | error rejection => simp only [handle, hbody]
    | ok body => simp [Handler.call?, hbody, Except.toOption] at h
  | localModels | listReservations | openaiModels => cases h
  | health | identityHandler | localCapability | peerCapabilities | configView => rfl

theorem serve_of_handler (h : request.handler? = some handler) :
    state.serve crates request now =
      (request.sent (state.handle crates request now handler).1,
        (state.handle crates request now handler).2) := by
  rcases Option.bind_eq_some_iff.mp h with ⟨methods, hroute, hmethod⟩
  simp only [serve, hroute, hmethod, HttpRequest.sent]
  split <;> rfl

/-- A request that reaches no handler. -/
theorem serve_of_no_handler (h : request.handler? = none) :
    (state.serve crates request now).2 = state ∧
      (state.serve crates request now).1.body = .empty ∧
      ((state.serve crates request now).1.status = .notFound ∨
        (state.serve crates request now).1.status = .methodNotAllowed) := by
  unfold HttpRequest.handler? at h
  unfold serve
  cases hroute : matchRoute request.path with
  | none => exact ⟨rfl, rfl, Or.inl rfl⟩
  | some methods =>
    rw [hroute, Option.bind_some] at h
    simp only [h]
    exact ⟨trivial, trivial, Or.inr trivial⟩

/-- A request that calls the runtime is answered what the runtime answers. -/
theorem serve_of_call (h : request.call? crates now = some call) :
    state.serve crates request now =
      (request.sent (respond crates
          ((runtimeMachine state.runtime).step state.runtimeState call).1),
        { state with
          runtimeState := ((runtimeMachine state.runtime).step state.runtimeState call).2 }) := by
  rcases Option.bind_eq_some_iff.mp h with ⟨handler, hhandler, hcall⟩
  rw [state.serve_of_handler hhandler, state.handle_of_call hcall]
  rfl

/-- Every other request leaves the state. -/
theorem serve_of_no_call (h : request.call? crates now = none) :
    (state.serve crates request now).2 = state := by
  cases hhandler : request.handler? with
  | none => exact (state.serve_of_no_handler hhandler).1
  | some handler =>
    rw [HttpRequest.call?, hhandler, Option.bind_some] at h
    rw [state.serve_of_handler hhandler]
    exact state.handle_of_no_call h

/-- A `GET` on the path of a handler. -/
theorem serve_get (handler : Handler) (now : U64) (hmethod : request.method = .get)
    (hpath : request.path = handler.path) (hproper : handler.Proper)
    (hget : handler.method = .get) :
    state.serve crates request now = state.handle crates request now handler := by
  have hhandler : request.handler? = some handler :=
    HttpRequest.handler?_eq_some_iff.mpr ⟨hpath, hproper, Or.inl (hmethod.trans hget.symm)⟩
  have hne : request.method ≠ .head := by simp [hmethod]
  rw [state.serve_of_handler hhandler, HttpRequest.sent_of_ne hne]

end AppState

/-! ## The parts -/

section

variable {ContactStore : Type} (http : HttpCrates) (mesh : MeshCrates ContactStore)

/-- The runtime call that an input makes. -/
def DaemonInput.call? : DaemonInput ContactStore → Option RuntimeCall
  | .request incoming now => incoming.call? http now
  | .message _ => none

/-- The step of the registry that an input is. -/
def DaemonInput.step? : DaemonInput ContactStore → Option (MeshStep ContactStore)
  | .request _ _ => none
  | .message step => some step

/-- What an input does to the state: the parts move as their machines do, and nothing else
changes. -/
theorem daemon_step (state : AppState) (input : DaemonInput ContactStore) :
    ((daemonMachine http mesh).step state input).2 =
      { state with
        peers := (input.step?.map fun step =>
          ((registryMachine mesh state.config state.identity.agentId).step state.peers
            step).2).getD state.peers
        runtimeState := ((input.call? http).map fun call =>
          ((runtimeMachine state.runtime).step state.runtimeState call).2).getD
            state.runtimeState } := by
  cases input with
  | message step => rfl
  | request request now =>
    show (state.serve http request now).2 = _
    cases hcall : request.call? http now with
    | none =>
      rw [state.serve_of_no_call hcall]
      simp only [DaemonInput.call?, DaemonInput.step?, hcall, Option.map_none, Option.getD_none]
    | some call =>
      rw [state.serve_of_call hcall]
      simp only [DaemonInput.call?, DaemonInput.step?, hcall, Option.map_none, Option.map_some,
        Option.getD_none, Option.getD_some]

/-- The part of the state that no input changes. -/
def AppState.Serves (start state : AppState) : Prop :=
  state.config = start.config ∧ state.identity = start.identity ∧
    state.capability = start.capability ∧ state.runtime = start.runtime

theorem serves_step {start : AppState} (state : AppState) (input : DaemonInput ContactStore)
    (h : start.Serves state) :
    start.Serves ((daemonMachine http mesh).step state input).2 := by
  rw [daemon_step]
  exact h

theorem serves_exec (start : AppState) (inputs : List (DaemonInput ContactStore)) :
    start.Serves ((daemonMachine http mesh).exec start inputs) :=
  Machine.exec_invariant _ (serves_step http mesh) ⟨rfl, rfl, rfl, rfl⟩ inputs

/-- The runtime of the daemon has run the calls of the requests, whatever messages came. -/
theorem runtimeState_exec (start : AppState) (inputs : List (DaemonInput ContactStore)) :
    ((daemonMachine http mesh).exec start inputs).runtimeState =
      (runtimeMachine start.runtime).exec start.runtimeState
        (inputs.filterMap (DaemonInput.call? http)) := by
  refine Machine.exec_part _ (runtimeMachine start.runtime) AppState.runtimeState
    (DaemonInput.call? http) (serves_step http mesh) ?_ ?_ ⟨rfl, rfl, rfl, rfl⟩ inputs
  · intro state input h hcall
    rw [daemon_step, hcall]
    rfl
  · intro state input call h hcall
    rw [daemon_step, hcall, h.2.2.2]
    rfl

/-- The registry of the daemon has taken the messages, whatever requests came. -/
theorem peers_exec_daemon (start : AppState) (inputs : List (DaemonInput ContactStore)) :
    ((daemonMachine http mesh).exec start inputs).peers =
      (registryMachine mesh start.config start.identity.agentId).exec start.peers
        (inputs.filterMap DaemonInput.step?) := by
  refine Machine.exec_part _ (registryMachine mesh start.config start.identity.agentId)
    AppState.peers DaemonInput.step? (serves_step http mesh) ?_ ?_ ⟨rfl, rfl, rfl, rfl⟩ inputs
  · intro state input h hstep
    rw [daemon_step, hstep]
    rfl
  · intro state input step h hstep
    rw [daemon_step, hstep, h.1, h.2.1]
    rfl

end

end X0xCompute
