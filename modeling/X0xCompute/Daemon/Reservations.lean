import X0xCompute.Daemon.Runs
import X0xCompute.Mesh.Provenance

/-!
# The reservations as the clients of the daemon see them

A client sees statuses and bodies. From these alone, whatever requests and messages came in
whatever order, one can tell which reservations are outstanding: those of the `201` answers
whose `DELETE` was not answered `204`. The listing, the inventory and the answer to the next
`POST` are what the outstanding reservations say.
-/

namespace X0xCompute

open Lib

/-- The reservation that a response says was created. -/
def HttpResponse.created? (response : HttpResponse) : Option ModelReservation :=
  match response.body with
  | .reservation reservation =>
    if response.status = .created then some reservation else none
  | _ => none

theorem ComputeError.statusAndType_ne (error : ComputeError) :
    error.statusAndType.1 ≠ .noContent ∧ error.statusAndType.1.isSuccess = false := by
  cases error <;> exact ⟨nofun, rfl⟩

/-- A response is the creation of a reservation exactly when the runtime granted it. -/
theorem created?_respond (crates : HttpCrates) (response : RuntimeResponse) :
    (AppState.respond crates response).created? = response.granted? := by
  cases response with
  | created result | released result | completed result => cases result <;> rfl
  | localModels | reservations | openaiModels => rfl

/-- And it has the status of a deletion exactly when the runtime released one. -/
theorem respond_status_eq_noContent_iff (crates : HttpCrates) (response : RuntimeResponse) :
    (AppState.respond crates response).status = .noContent ↔
      response = .released (.ok ()) := by
  cases response with
  | created result | released result | completed result =>
    cases result with
    | error error => exact iff_of_false error.statusAndType_ne.1 nofun
    | ok _ => simp [AppState.respond]
  | localModels | reservations | openaiModels => simp [AppState.respond]

section

variable {crates : HttpCrates} {request : HttpRequest} {now : U64} {call : RuntimeCall}

/-- What reaches the runtime by `HEAD` only reads. -/
theorem granted?_of_head (h : request.call? crates now = some call)
    (hhead : request.method = .head) (adapter : SkeletonRuntimeAdapter)
    (state : SkeletonRuntimeState) :
    ((runtimeMachine adapter).step state call).1.granted? = none := by
  rcases Option.bind_eq_some_iff.mp h with ⟨handler, hhandler, hcall⟩
  obtain ⟨-, -, hmethod⟩ := HttpRequest.handler?_eq_some_iff.mp hhandler
  rw [hhead] at hmethod
  cases handler with
  | localModels | listReservations | openaiModels =>
    cases hcall
    rfl
  | createReservation | deleteReservation | openaiChatCompletions =>
    rcases hmethod with heq | ⟨-, heq⟩ <;> cases heq
  | health | identityHandler | localCapability | peerCapabilities | configView => cases hcall

theorem created?_sent (h : request.call? crates now = some call)
    (adapter : SkeletonRuntimeAdapter) (state : SkeletonRuntimeState) :
    (request.sent (AppState.respond crates
        ((runtimeMachine adapter).step state call).1)).created? =
      ((runtimeMachine adapter).step state call).1.granted? := by
  by_cases hhead : request.method = .head
  · rw [granted?_of_head h hhead, HttpRequest.sent, if_pos hhead]
    rfl
  · rw [HttpRequest.sent_of_ne hhead, created?_respond]

theorem configResponse_ne (config : ComputeConfig) :
    (configResponse config).status ≠ .noContent ∧ (configResponse config).created? = none := by
  unfold configResponse
  split <;> exact ⟨nofun, rfl⟩

/-- A request that makes no call of the runtime creates nothing and deletes nothing. -/
theorem serve_of_no_call_ne (h : request.call? crates now = none) (state : AppState) :
    (state.serve crates request now).1.status ≠ .noContent ∧
      (state.serve crates request now).1.created? = none := by
  cases hhandler : request.handler? with
  | none =>
    obtain ⟨-, hbody, hstatus⟩ :=
      @AppState.serve_of_no_handler crates request now state hhandler
    rw [HttpResponse.created?, hbody]
    refine ⟨?_, rfl⟩
    rcases hstatus with heq | heq <;> simp [heq]
  | some handler =>
    rw [HttpRequest.call?, hhandler, Option.bind_some] at h
    have hhandle : (state.handle crates request now handler).1.status ≠ .noContent ∧
        (state.handle crates request now handler).1.created? = none := by
      cases handler with
      | health | identityHandler | localCapability | peerCapabilities =>
        simp [AppState.handle, HttpResponse.created?]
      | configView => exact configResponse_ne state.config
      | createReservation =>
        cases hbody : crates.jsonReservation request with
        | error rejection =>
          cases rejection <;>
            simp [AppState.handle, hbody, JsonRejection.intoResponse, JsonRejection.status,
              HttpResponse.created?]
        | ok body => simp [Handler.call?, hbody, Except.toOption] at h
      | deleteReservation segment =>
        cases hid : crates.pathSegment segment with
        | error text => simp [AppState.handle, hid, HttpResponse.created?]
        | ok id => simp [Handler.call?, hid, Except.toOption] at h
      | openaiChatCompletions =>
        cases hbody : crates.jsonChat request with
        | error rejection =>
          cases rejection <;>
            simp [AppState.handle, hbody, JsonRejection.intoResponse, JsonRejection.status,
              HttpResponse.created?]
        | ok body => simp [Handler.call?, hbody, Except.toOption] at h
      | localModels | listReservations | openaiModels => cases h
    rw [state.serve_of_handler hhandler]
    refine ⟨?_, ?_⟩
    · rw [HttpRequest.sent_status]
      exact hhandle.1
    · unfold HttpRequest.sent
      split
      · rfl
      · exact hhandle.2

/-- The id that a request asks to be deleted. -/
def HttpRequest.deletes? (crates : HttpCrates) (request : HttpRequest) : Option String :=
  if request.method = .delete then
    (reservationSegment? request.path).bind fun segment => (crates.pathSegment segment).toOption
  else none

theorem deletes?_eq_some_iff {id : String} :
    request.deletes? crates = some id ↔
      request.call? crates now = some (.releaseReservation id) := by
  unfold HttpRequest.deletes? HttpRequest.call?
  rw [Option.bind_eq_some_iff]
  refine ⟨?_, ?_⟩
  · intro h
    split at h
    · rename_i hmethod
      rcases Option.bind_eq_some_iff.mp h with ⟨segment, hsegment, hid⟩
      obtain ⟨hpath, hproper⟩ := reservationSegment?_eq_some_iff.mp hsegment
      refine ⟨.deleteReservation segment, ?_, ?_⟩
      · exact HttpRequest.handler?_eq_some_iff.mpr ⟨hpath, hproper, Or.inl hmethod⟩
      · simp only [Handler.call?, hid, Option.map_some]
    · cases h
  · rintro ⟨handler, hhandler, hcall⟩
    obtain ⟨hpath, hproper, hmethod⟩ := HttpRequest.handler?_eq_some_iff.mp hhandler
    cases handler with
    | deleteReservation segment =>
      rcases hmethod with hmethod | ⟨-, hget⟩
      · rcases Option.map_eq_some_iff.mp hcall with ⟨id', hid, heq⟩
        cases heq
        rw [if_pos (show request.method = .delete from hmethod),
          reservationSegment?_eq_some_iff.mpr ⟨hpath, hproper⟩, Option.bind_some, hid]
      · cases hget
    | createReservation | openaiChatCompletions =>
      rcases Option.map_eq_some_iff.mp hcall with ⟨body, -, heq⟩
      cases heq
    | localModels | listReservations | openaiModels | health | identityHandler
    | localCapability | peerCapabilities | configView => cases hcall

end

/-! ## Reading a run -/

section

variable {ContactStore : Type}

/-- The reservations that the responses of a run say were created, in order. -/
def httpGrants (events : List (DaemonInput ContactStore × DaemonOutput)) :
    List ModelReservation :=
  events.filterMap fun e =>
    match e.2 with
    | .response response => response.created?
    | .disposition _ => none

/-- The ids whose deletion was answered `204` in a run, in order. -/
def httpReleases (http : HttpCrates)
    (events : List (DaemonInput ContactStore × DaemonOutput)) : List String :=
  events.filterMap fun e =>
    match e with
    | (.request request _, .response response) =>
      if response.status = .noContent then request.deletes? http else none
    | _ => none

/-- The reservations that a client can still count on: created, and not deleted. -/
def outstanding (http : HttpCrates)
    (events : List (DaemonInput ContactStore × DaemonOutput)) : List ModelReservation :=
  (httpGrants events).filter fun reservation =>
    reservation.reservationId ∉ httpReleases http events

/-- The id of a release that succeeded. -/
def releasedId? : RuntimeCall × RuntimeResponse → Option String
  | (.releaseReservation id, .released (.ok ())) => some id
  | _ => none

theorem releasedId?_eq_some_iff {e : RuntimeCall × RuntimeResponse} {id : String} :
    releasedId? e = some id ↔ e = releasedEvent id := by
  unfold releasedId? releasedEvent
  split
  · rw [Option.some.injEq, Prod.mk.injEq, RuntimeCall.releaseReservation.injEq]
    exact ⟨fun h => ⟨h, rfl⟩, fun h => h.1⟩
  · rename_i hne
    refine iff_of_false nofun ?_
    rintro rfl
    exact hne id rfl

variable (http : HttpCrates) (mesh : MeshCrates ContactStore)

/-- The creations of a run of the daemon are the grants of its runtime. -/
theorem httpGrants_events (start : AppState) (inputs : List (DaemonInput ContactStore)) :
    httpGrants ((daemonMachine http mesh).events start inputs) =
      grants ((runtimeMachine start.runtime).events start.runtimeState
        (inputs.filterMap (DaemonInput.call? http))) := by
  refine Machine.filterMap_events_part _ (runtimeMachine start.runtime) AppState.runtimeState
    (DaemonInput.call? http) _ _ (serves_step http mesh) ?_ ?_ ⟨rfl, rfl, rfl, rfl⟩ inputs
  · intro state input h hcall
    refine ⟨by rw [daemon_step, hcall]; rfl, ?_⟩
    cases input with
    | message step => rfl
    | request request now => exact (serve_of_no_call_ne hcall state).2
  · intro state input call h hcall
    refine ⟨by rw [daemon_step, hcall, h.2.2.2]; rfl, ?_⟩
    cases input with
    | message step => cases hcall
    | request request now =>
      show (state.serve http request now).1.created? = _
      rw [state.serve_of_call hcall, created?_sent hcall, h.2.2.2]

/-- And its deletions are the releases of its runtime. -/
theorem httpReleases_events (start : AppState) (inputs : List (DaemonInput ContactStore)) :
    httpReleases http ((daemonMachine http mesh).events start inputs) =
      ((runtimeMachine start.runtime).events start.runtimeState
        (inputs.filterMap (DaemonInput.call? http))).filterMap releasedId? := by
  refine Machine.filterMap_events_part _ (runtimeMachine start.runtime) AppState.runtimeState
    (DaemonInput.call? http) _ _ (serves_step http mesh) ?_ ?_ ⟨rfl, rfl, rfl, rfl⟩ inputs
  · intro state input h hcall
    refine ⟨by rw [daemon_step, hcall]; rfl, ?_⟩
    cases input with
    | message step => rfl
    | request request now =>
      show (if (state.serve http request now).1.status = .noContent then _ else none) = none
      exact if_neg (serve_of_no_call_ne hcall state).1
  · intro state input call h hcall
    refine ⟨by rw [daemon_step, hcall, h.2.2.2]; rfl, ?_⟩
    cases input with
    | message step => cases hcall
    | request request now =>
      have hown : request.call? http now = some call := hcall
      show (if (state.serve http request now).1.status = .noContent then
        request.deletes? http else none) = _
      rw [state.serve_of_call hcall, HttpRequest.sent_status, ← h.2.2.2]
      apply Option.ext
      intro id
      rw [releasedId?_eq_some_iff, releasedEvent, Prod.mk.injEq]
      by_cases hreleased :
          ((runtimeMachine state.runtime).step state.runtimeState call).1 = .released (.ok ())
      · rw [if_pos ((respond_status_eq_noContent_iff http _).mpr hreleased),
          @deletes?_eq_some_iff _ _ now, hown, Option.some.injEq]
        exact (and_iff_left hreleased).symm
      · rw [if_neg (mt (respond_status_eq_noContent_iff http _).mp hreleased)]
        simp [hreleased]

/-! ## What is outstanding -/

/-- The slots of a model that are outstanding. -/
def outstandingSlots (events : List (DaemonInput ContactStore × DaemonOutput))
    (model : String) : ℕ :=
  (((outstanding http events).filter (·.model = model)).map
    fun reservation => reservation.requestedSlots.toNat).sum

variable (hex : HexCrate) (config : ComputeConfig) (agent : Agent) (system : SystemReport)
  (startedAt : U64) (inputs : List (DaemonInput ContactStore))

/-- What is live in the runtime is what is outstanding. -/
theorem reservations_perm_outstanding
    (hbound : (httpGrants ((daemonMachine http mesh).events
      (.new hex config agent system startedAt) inputs)).length ≤ counterMax) :
    (SkeletonRuntimeAdapter.reservations ((daemonMachine http mesh).exec
      (.new hex config agent system startedAt) inputs).runtimeState).Perm
        (outstanding http ((daemonMachine http mesh).events
          (.new hex config agent system startedAt) inputs)) := by
  rw [httpGrants_events, AppState.new_runtime, AppState.new_runtimeState] at hbound
  rw [runtimeState_exec, outstanding, httpGrants_events, httpReleases_events,
    AppState.new_runtime, AppState.new_runtimeState]
  generalize inputs.filterMap (DaemonInput.call? http) = calls at hbound ⊢
  have hnumbered := numbered_exec (SkeletonRuntimeAdapter.new config) calls
  have hgrants := (hnumbered.nodup_reservationIds_iff.mpr hbound).of_map
  have hlisted : (SkeletonRuntimeAdapter.reservations
      ((runtimeMachine (SkeletonRuntimeAdapter.new config)).exec .new calls)).Nodup := by
    have hpairwise := pairwise_values
      fun id reservation hstored => (hnumbered.live id reservation hstored).1
    apply hpairwise.imp
    rintro a b hlt rfl
    rw [Std.compare_self] at hlt
    cases hlt
  refine (List.perm_ext_iff_of_nodup hlisted (hgrants.filter _)).mpr ?_
  intro reservation
  rw [live_iff_granted _ _ hbound, List.mem_filter, decide_eq_true_iff]
  refine and_congr_right fun _ => not_congr ?_
  rw [List.mem_filterMap]
  simp only [releasedId?_eq_some_iff, exists_eq_right]

theorem liveSlots_eq_outstandingSlots
    (hbound : (httpGrants ((daemonMachine http mesh).events
      (.new hex config agent system startedAt) inputs)).length ≤ counterMax)
    (model : String) :
    ((daemonMachine http mesh).exec (.new hex config agent system startedAt)
        inputs).runtimeState.liveSlots model =
      outstandingSlots http ((daemonMachine http mesh).events
        (.new hex config agent system startedAt) inputs) model :=
  (((reservations_perm_outstanding http mesh hex config agent system startedAt inputs
    hbound).filter _).map _).sum_eq

/-- The runtime of a daemon is sound after every run. -/
theorem sound_daemon :
    Sound (SkeletonRuntimeAdapter.new config) ((daemonMachine http mesh).exec
      (.new hex config agent system startedAt) inputs).runtimeState := by
  rw [runtimeState_exec]
  exact Machine.exec_invariant _ (fun _ call h => h.step call) (Sound.new _) _

/-- A request that a handler takes and passes to the runtime. -/
theorem call?_of_handler {request : HttpRequest} (handler : Handler) (now : U64)
    (hpath : request.path = handler.path) (hproper : handler.Proper)
    (hmethod : request.method = handler.method) :
    request.call? http now = handler.call? http request now := by
  rw [HttpRequest.call?, HttpRequest.handler?_eq_some_iff.mpr ⟨hpath, hproper, Or.inl hmethod⟩,
    Option.bind_some]

/-- The listing and the inventory say what is outstanding. However requests and messages
were interleaved before, as long as no more reservations were created than the counter can
number: `GET /v1/reservations` lists exactly the reservations of the `201` answers whose
deletion was not answered `204`; and `GET /v1/models/local` reports, for each model it
lists, the slots that these take as reserved and all others of the model as available. -/
theorem listing_is_outstanding
    (hbound : (httpGrants ((daemonMachine http mesh).events
      (.new hex config agent system startedAt) inputs)).length ≤ counterMax) :
    let start := AppState.new hex config agent system startedAt
    let events := (daemonMachine http mesh).events start inputs
    let state := (daemonMachine http mesh).exec start inputs
    (∃ listed, listed.Perm (outstanding http events) ∧
      ∀ request now, request.method = .get → request.path = "/v1/reservations" →
        state.serve http request now = (⟨.ok, .reservations listed⟩, state)) ∧
    ∃ inventory,
      (∀ request now, request.method = .get → request.path = "/v1/models/local" →
        state.serve http request now = (⟨.ok, .inventory inventory⟩, state)) ∧
      ∀ entry ∈ inventory, ∃ model, config.configuredModel entry.id = some model ∧
        entry.totalSlots = model.maxParallelReservations ∧
        entry.reservedSlots.toNat = outstandingSlots http events entry.id ∧
        entry.reservedSlots.toNat + entry.availableSlots.toNat = entry.totalSlots.toNat := by
  intro start events state
  refine ⟨⟨_, reservations_perm_outstanding http mesh hex config agent system startedAt inputs
    hbound, ?listing⟩, state.runtime.localModels state.runtimeState, ?inventory, ?entries⟩
  case listing =>
    intro request now hmethod hpath
    have hcall := call?_of_handler http .listReservations now hpath trivial hmethod
    have hget : request.method ≠ .head := by simp [hmethod]
    rw [state.serve_of_call hcall, HttpRequest.sent_of_ne hget]
    rfl
  case inventory =>
    intro request now hmethod hpath
    have hcall := call?_of_handler http .localModels now hpath trivial hmethod
    have hget : request.method ≠ .head := by simp [hmethod]
    rw [state.serve_of_call hcall, HttpRequest.sent_of_ne hget]
    rfl
  case entries =>
    intro entry hentry
    have hruntime : state.runtime = .new config := (serves_exec http mesh start inputs).2.2.2
    have hsound := sound_daemon http mesh hex config agent system startedAt inputs
    rw [hruntime] at hentry
    obtain ⟨model, hmodel, htotal, hreserved, hsplit⟩ := hsound.inventory hentry
    rw [getElem?_models_new] at hmodel
    refine ⟨model, hmodel, htotal, ?_, hsplit⟩
    rw [hreserved]
    exact liveSlots_eq_outstandingSlots http mesh hex config agent system startedAt inputs
      hbound entry.id

end

/-- A run creates no more than it has inputs. -/
theorem length_httpGrants_le {ContactStore : Type} (http : HttpCrates)
    (mesh : MeshCrates ContactStore) (start : AppState)
    (inputs : List (DaemonInput ContactStore)) :
    (httpGrants ((daemonMachine http mesh).events start inputs)).length ≤ inputs.length := by
  rw [← (daemonMachine http mesh).length_events start inputs]
  exact List.length_filterMap_le _ _

/-! ## A client of a daemon with two models -/

/-- The body with which Alice asks for a slot. -/
def aliceBody : List U8 :=
  utf8 "\x7b\"model\":\"gemma\",\"consumer\":\"alice\"\x7d"

/-- Extractors that know one body. -/
def plainHttp : HttpCrates where
  jsonReservation request :=
    if request.contentType ≠ some "application/json" then
      .error (.missingJsonContentType
        "Expected request with Content-Type: application/json")
    else if request.body = aliceBody then .ok (slotRequest "gemma" "alice")
    else .error (.jsonSyntaxError "Failed to parse the request body as JSON")
  jsonChat _ := .error (.jsonSyntaxError "Failed to parse the request body as JSON")
  pathSegment segment :=
    if '%' ∈ segment.toList then .error "Invalid UTF-8 in path parameter" else .ok segment
  displayPath path := ((utf8Text? path.bytes).getD "")

theorem plainHttp_keepsPlain : plainHttp.KeepsPlain := fun _ h => if_neg h

/-- Alice's request. -/
def alicePost : HttpRequest where
  method := .post
  path := "/v1/reservations"
  contentType := some "application/json"
  body := aliceBody

/-- The daemon of the node `0xaa` as it starts. -/
def friendDaemon : AppState :=
  .new .usual twoModelConfig (uniformAgent 0xaa) friendsSystem 1

/-- Alice asks for a slot at the time 2. -/
def aliceAsks : List (DaemonInput (List (AgentId × TrustDecision))) := [.request alicePost 2]

theorem listing_is_outstanding_alice :
    ∃ listed, listed.Perm
        (outstanding plainHttp ((daemonMachine plainHttp friendsCrates).events friendDaemon
          aliceAsks)) ∧
      (((daemonMachine plainHttp friendsCrates).exec friendDaemon aliceAsks).serve plainHttp
        ⟨.get, "/v1/reservations", none, []⟩ 3).1 = ⟨.ok, .reservations listed⟩ := by
  have hbound : aliceAsks.length ≤ counterMax := by decide
  obtain ⟨⟨listed, hperm, hserve⟩, -⟩ := listing_is_outstanding plainHttp friendsCrates .usual
    twoModelConfig (uniformAgent 0xaa) friendsSystem 1 aliceAsks
    (le_trans (length_httpGrants_le _ _ _ _) hbound)
  exact ⟨listed, hperm, congrArg Prod.fst (hserve ⟨.get, "/v1/reservations", none, []⟩ 3 rfl rfl)⟩

end X0xCompute
