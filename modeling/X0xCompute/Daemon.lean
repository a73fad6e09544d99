import X0xCompute.Http
import X0xCompute.Mesh.Admission

/-!
# The daemon

`daemon.rs`: the routes, the handlers and the state they share. The daemon takes HTTP
requests, each with the clock reading a handler would find, and the messages of the
capability topic, in any order.
-/

namespace X0xCompute

open Lib

/-- What the handlers share. The state of the runtime, which the source keeps behind the
adapter's lock, is beside the adapter. -/
structure AppState where
  config : ComputeConfig
  identity : AgentIdentitySnapshot
  capability : CapabilityAnnouncement
  peers : TrustedPeerRegistry
  runtime : SkeletonRuntimeAdapter
  runtimeState : SkeletonRuntimeState

/-- The handlers, with the path segment that one of them takes. -/
inductive Handler where
  | health
  | identityHandler
  | localCapability
  | peerCapabilities
  | configView
  | localModels
  | listReservations
  | createReservation
  | deleteReservation (segment : String)
  | openaiModels
  | openaiChatCompletions
  deriving DecidableEq

/-! ## Routes -/

/-- The routes of `build_router` without a parameter. -/
def staticRoutes : List (String × List (Method × Handler)) :=
  [("/health", [(.get, .health)]),
    ("/v1/identity", [(.get, .identityHandler)]),
    ("/v1/capabilities/local", [(.get, .localCapability)]),
    ("/v1/capabilities/peers", [(.get, .peerCapabilities)]),
    ("/v1/config", [(.get, .configView)]),
    ("/v1/models/local", [(.get, .localModels)]),
    ("/v1/reservations", [(.get, .listReservations), (.post, .createReservation)]),
    ("/v1/openai/models", [(.get, .openaiModels)]),
    ("/v1/openai/chat/completions", [(.post, .openaiChatCompletions)])]

/-- What stands before the parameter of the route `/v1/reservations/:id`. -/
def reservationPrefix : String := "/v1/reservations/"

/-- The parameter of a path on that route: one segment, not empty. -/
def reservationSegment? (path : String) : Option String :=
  if reservationPrefix.toList <+: path.toList then
    let segment := path.toList.drop reservationPrefix.toList.length
    if segment ≠ [] ∧ '/' ∉ segment then some (String.ofList segment) else none
  else none

/-- The methods of the route that a path is on. -/
def matchRoute (path : String) : Option (List (Method × Handler)) :=
  match staticRoutes.lookup path with
  | some methods => some methods
  | none =>
    (reservationSegment? path).map fun segment => [(.delete, .deleteReservation segment)]

/-- The handler of a method; `HEAD` is handled as `GET`. -/
def matchMethod (methods : List (Method × Handler)) : Method → Option Handler
  | .head => methods.lookup .get
  | method => methods.lookup method

/-! ## Handlers -/

section

variable (crates : HttpCrates)

/-- `Json` of a configuration: the paths in it must be UTF-8. -/
def configResponse (config : ComputeConfig) : HttpResponse :=
  match config.paths.mapM PathBuf.text with
  | .error text => ⟨.internalServerError, .text text⟩
  | .ok _ => ⟨.ok, .config config⟩

namespace AppState

variable (state : AppState)

/-- A call of the runtime and the response that its answer is turned into. -/
def callRuntime (call : RuntimeCall) (respond : RuntimeResponse → HttpResponse) :
    HttpResponse × AppState :=
  let answer := (runtimeMachine state.runtime).step state.runtimeState call
  (respond answer.1, { state with runtimeState := answer.2 })

/-- The response to an answer of the runtime, under the status of a success. -/
def respond (crates : HttpCrates) : RuntimeResponse → HttpResponse
  | .localModels models => ⟨.ok, .inventory models⟩
  | .created (.ok reservation) => ⟨.created, .reservation reservation⟩
  | .reservations reservations => ⟨.ok, .reservations reservations⟩
  | .released (.ok ()) => ⟨.noContent, .empty⟩
  | .openaiModels models => ⟨.ok, .models models⟩
  | .completed (.ok completion) => ⟨.ok, .completion completion⟩
  | .created (.error error) | .released (.error error) | .completed (.error error) =>
    error.intoResponse crates.displayPath

/-- What a handler answers to a request. -/
def handle (request : HttpRequest) (now : U64) : Handler → HttpResponse × AppState
  | .health => (⟨.ok, .health "ok"⟩, state)
  | .identityHandler => (⟨.ok, .identity state.identity⟩, state)
  | .localCapability => (⟨.ok, .capability state.capability⟩, state)
  | .peerCapabilities => (⟨.ok, .peers state.peers.snapshot⟩, state)
  | .configView => (configResponse state.config, state)
  | .localModels => state.callRuntime .localModels (respond crates)
  | .listReservations => state.callRuntime .reservations (respond crates)
  | .createReservation =>
    match crates.jsonReservation request with
    | .error rejection => (rejection.intoResponse, state)
    | .ok body => state.callRuntime (.createReservation body now) (respond crates)
  | .deleteReservation segment =>
    match crates.pathSegment segment with
    | .error text => (⟨.badRequest, .text text⟩, state)
    | .ok id => state.callRuntime (.releaseReservation id) (respond crates)
  | .openaiModels => state.callRuntime .openaiModels (respond crates)
  | .openaiChatCompletions =>
    match crates.jsonChat request with
    | .error rejection => (rejection.intoResponse, state)
    | .ok body => state.callRuntime (.chatCompletion body now) (respond crates)

/-- The router: a request on no route is not found, one whose method the route does not have
is not allowed, and a response to `HEAD` has no body. -/
def serve (request : HttpRequest) (now : U64) : HttpResponse × AppState :=
  match matchRoute request.path with
  | none => (⟨.notFound, .empty⟩, state)
  | some methods =>
    match matchMethod methods request.method with
    | none => (⟨.methodNotAllowed, .empty⟩, state)
    | some handler =>
      let answer := state.handle crates request now handler
      if request.method = .head then ({ answer.1 with body := .empty }, answer.2) else answer

end AppState

end

/-! ## The daemon as a machine -/

/-- What the daemon takes: a request with the clock reading of its handler, or a message of
the capability topic. -/
inductive DaemonInput (ContactStore : Type) where
  | request (request : HttpRequest) (now : U64)
  | message (step : MeshStep ContactStore)

inductive DaemonOutput where
  | response (response : HttpResponse)
  | disposition (disposition : CapabilityDisposition)

/-- The running daemon: its server beside the loop that `start_capability_subscription_loop`
spawns. -/
def daemonMachine {ContactStore : Type} (http : HttpCrates) (mesh : MeshCrates ContactStore) :
    Machine AppState (DaemonInput ContactStore) DaemonOutput where
  step state input :=
    match input with
    | .request request now =>
      let answer := state.serve http request now
      (.response answer.1, answer.2)
    | .message step =>
      let answer := state.peers.applyMessage mesh state.config state.identity.agentId
        step.contacts step.now step.message
      (.disposition answer.1, { state with peers := answer.2 })

/-- The state that `ComputeDaemon::from_config` builds for an agent. -/
def AppState.new (hex : HexCrate) (config : ComputeConfig) (agent : Agent)
    (system : SystemReport) (now : U64) : AppState where
  config := config
  identity := .fromAgent hex agent
  capability := .local config (.fromAgent hex agent) system now
  peers := .new
  runtime := buildRuntime config
  runtimeState := .new

@[simp] theorem AppState.new_runtime (hex : HexCrate) (config : ComputeConfig) (agent : Agent)
    (system : SystemReport) (now : U64) :
    (AppState.new hex config agent system now).runtime = .new config := rfl

@[simp] theorem AppState.new_runtimeState (hex : HexCrate) (config : ComputeConfig)
    (agent : Agent) (system : SystemReport) (now : U64) :
    (AppState.new hex config agent system now).runtimeState = .new := rfl

end X0xCompute
