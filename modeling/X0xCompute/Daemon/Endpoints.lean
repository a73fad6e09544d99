import X0xCompute.Daemon.Reservations

/-!
# The answers to `POST` and `DELETE`

What the daemon answers when a reservation is asked for or given back, told from what it has
answered before: the reservations outstanding decide it, together with the configuration.
-/

namespace X0xCompute

open Lib

variable {ContactStore : Type} (http : HttpCrates) (mesh : MeshCrates ContactStore)
  (hex : HexCrate) (config : ComputeConfig) (agent : Agent) (system : SystemReport)
  (startedAt : U64) (inputs : List (DaemonInput ContactStore))

/-- The status of the answer to a reservation request, given the slots of its model that are
outstanding. -/
def creationStatus (config : ComputeConfig) (outstanding : String → ℕ)
    (body : CreateReservationRequest) : StatusCode :=
  if trim body.consumer = "" ∨ body.requestedSlots = 0 then .badRequest
  else
    match config.configuredModel body.model with
    | none => .notFound
    | some model =>
      if body.requestedSlots.toNat + outstanding body.model ≤
          model.maxParallelReservations.toNat then .created
      else .conflict

/-- In a sound state the answer to a request is decided by the live slots. -/
theorem status_create {state : SkeletonRuntimeState}
    (h : Sound (SkeletonRuntimeAdapter.new config) state) (body : CreateReservationRequest)
    (now : U64) :
    (AppState.respond http ((runtimeMachine (SkeletonRuntimeAdapter.new config)).step state
      (.createReservation body now)).1).status =
        creationStatus config state.liveSlots body := by
  unfold creationStatus
  have hlisted := getElem?_models_new config body.model
  by_cases hbody : trim body.consumer = "" ∨ body.requestedSlots = 0
  · have hrefusal : ∃ message, (SkeletonRuntimeAdapter.new config).refusal state body =
        some (.invalidReservationRequest message) := by
      unfold SkeletonRuntimeAdapter.refusal
      rcases hbody with hconsumer | hslots
      · rw [if_pos hconsumer]
        exact ⟨_, rfl⟩
      · rw [if_pos hslots]
        split <;> exact ⟨_, rfl⟩
    rcases hrefusal with ⟨message, hrefusal⟩
    rw [step_create_of_refusal hrefusal, if_pos hbody]
    rfl
  · rw [if_neg hbody]
    rw [not_or] at hbody
    cases hmodel : config.configuredModel body.model with
    | none =>
      rw [hmodel] at hlisted
      have hrefusal : (SkeletonRuntimeAdapter.new config).refusal state body =
          some (.modelNotFound body.model) := by
        unfold SkeletonRuntimeAdapter.refusal
        rw [if_neg hbody.1, if_neg hbody.2, hlisted]
      rw [step_create_of_refusal hrefusal]
      rfl
    | some model =>
      rw [hmodel] at hlisted
      dsimp only
      by_cases hfit : body.requestedSlots.toNat + state.liveSlots body.model ≤
          model.maxParallelReservations.toNat
      · have haccepted : (SkeletonRuntimeAdapter.new config).refusal state body = none :=
          h.refusal_eq_none_iff.mpr ⟨hbody.1, hbody.2, model, hlisted, hfit⟩
        rw [step_create_of_accepted haccepted, if_pos hfit]
        rfl
      · have hrefusal : ∃ available, (SkeletonRuntimeAdapter.new config).refusal state body =
            some (.modelCapacityExceeded model.id body.requestedSlots available) := by
          cases hrefusal : (SkeletonRuntimeAdapter.new config).refusal state body with
          | none =>
            rcases h.refusal_eq_none_iff.mp hrefusal with ⟨-, -, model', hlisted', hfit'⟩
            rw [hlisted] at hlisted'
            cases hlisted'
            exact absurd hfit' hfit
          | some error =>
            unfold SkeletonRuntimeAdapter.refusal at hrefusal
            rw [if_neg hbody.1, if_neg hbody.2, hlisted] at hrefusal
            dsimp only at hrefusal
            split at hrefusal
            · exact ⟨_, hrefusal.symm⟩
            · cases hrefusal
        rcases hrefusal with ⟨available, hrefusal⟩
        rw [step_create_of_refusal hrefusal, if_neg hfit]
        rfl

/-- A `POST` with a body that is taken is answered by what is outstanding. However requests
and messages were interleaved before, and while the counter can number one more grant, its
status is `400` for a blank consumer or no slots, else `404` for a model that is not
configured, else `201` if the slots asked for fit beside those outstanding on the model, and
else `409`. A `201` carries the reservation, as it was asked for, under an id that no answer
has carried before; any other answer leaves the daemon as it was. -/
theorem create_answer
    (hbound : (httpGrants ((daemonMachine http mesh).events
      (.new hex config agent system startedAt) inputs)).length < counterMax)
    {request : HttpRequest} (hmethod : request.method = .post)
    (hpath : request.path = "/v1/reservations") {body : CreateReservationRequest}
    (hbody : http.jsonReservation request = .ok body) (now : U64) :
    let start := AppState.new hex config agent system startedAt
    let events := (daemonMachine http mesh).events start inputs
    let state := (daemonMachine http mesh).exec start inputs
    let answer := state.serve http request now
    answer.1.status = creationStatus config (outstandingSlots http events) body ∧
    (answer.1.status = .created → ∃ reservation,
      answer.1.body = .reservation reservation ∧
        reservation.grant = ⟨body.model, body.consumer, body.requestedSlots, now⟩ ∧
        reservation.reservationId ∉ (httpGrants events).map ModelReservation.reservationId) ∧
    (answer.1.status ≠ .created → answer.2 = state) := by
  intro start events state answer
  have hruntime : state.runtime = .new config := (serves_exec http mesh start inputs).2.2.2
  have hsound : Sound (SkeletonRuntimeAdapter.new config) state.runtimeState :=
    sound_daemon http mesh hex config agent system startedAt inputs
  have hcall : request.call? http now = some (.createReservation body now) := by
    rw [call?_of_handler http .createReservation now hpath trivial hmethod]
    simp only [Handler.call?, hbody, Except.toOption, Option.map_some]
  have hpost : request.method ≠ .head := by simp [hmethod]
  have hslots : state.runtimeState.liveSlots = outstandingSlots http events := by
    funext model
    exact liveSlots_eq_outstandingSlots http mesh hex config agent system startedAt inputs
      hbound.le model
  have hstatus : answer.1.status = creationStatus config (outstandingSlots http events) body := by
    rw [← hslots, ← status_create http config hsound body now, ← hruntime]
    show (state.serve http request now).1.status = _
    rw [state.serve_of_call hcall, HttpRequest.sent_status]
  refine ⟨hstatus, ?_⟩
  cases hrefusal : state.runtime.refusal state.runtimeState body with
  | some error =>
    have hanswer : answer = (error.intoResponse http.displayPath, state) := by
      show state.serve http request now = _
      rw [state.serve_of_call hcall, HttpRequest.sent_of_ne hpost, step_create_of_refusal hrefusal]
      rfl
    refine ⟨?_, fun _ => congrArg Prod.snd hanswer⟩
    intro hcreated
    have hfailed := error.statusAndType_ne.2
    rw [hanswer] at hcreated
    rw [show error.statusAndType.1 = .created from hcreated] at hfailed
    cases hfailed
  | none =>
    have hanswer : answer =
        (⟨.created, .reservation (state.runtimeState.grant body now)⟩,
          { state with runtimeState := state.runtimeState.granted body now }) := by
      show state.serve http request now = _
      rw [state.serve_of_call hcall, HttpRequest.sent_of_ne hpost,
        step_create_of_accepted hrefusal]
      rfl
    refine ⟨?_, ?_⟩
    · intro _
      refine ⟨_, congrArg (fun a : HttpResponse × AppState => a.1.body) hanswer, rfl, ?_⟩
      have hnumbered := numbered_exec (SkeletonRuntimeAdapter.new config)
        (inputs.filterMap (DaemonInput.call? http))
      have hgrants := httpGrants_events http mesh start inputs
      rw [hgrants, runtimeState_exec http mesh start inputs]
      apply hnumbered.fresh
      rw [hgrants] at hbound
      exact hbound
    · intro hrefused
      rw [hanswer] at hrefused
      exact absurd rfl hrefused

/-- Alice's second request is granted beside her first, and a third one does not fit. -/
theorem create_answer_alice :
    (((daemonMachine plainHttp friendsCrates).exec friendDaemon aliceAsks).serve plainHttp
        alicePost 3).1.status = .created ∧
      (((daemonMachine plainHttp friendsCrates).exec friendDaemon
        (aliceAsks ++ [.request alicePost 3])).serve plainHttp alicePost 4).1.status =
          .conflict := by
  have hbody : plainHttp.jsonReservation alicePost = .ok (slotRequest "gemma" "alice") := by
    simp [plainHttp, alicePost]
  have hone := length_httpGrants_le plainHttp friendsCrates friendDaemon aliceAsks
  have htwo := length_httpGrants_le plainHttp friendsCrates friendDaemon
    (aliceAsks ++ [.request alicePost 3])
  refine ⟨?_, ?_⟩
  · refine (create_answer plainHttp friendsCrates .usual twoModelConfig (uniformAgent 0xaa)
      friendsSystem 1 _ (lt_of_le_of_lt hone (by decide)) rfl rfl hbody 3).1.trans ?_
    decide +kernel
  · refine (create_answer plainHttp friendsCrates .usual twoModelConfig (uniformAgent 0xaa)
      friendsSystem 1 _ (lt_of_le_of_lt htwo (by decide)) rfl rfl hbody 4).1.trans ?_
    decide +kernel

/-! ## Deleting -/

/-- The id of a reservation is a path segment with nothing to escape. -/
theorem resvId_plain (n : ℕ) :
    resvId n ≠ "" ∧ '/' ∉ (resvId n).toList ∧ '%' ∉ (resvId n).toList := by
  have hchar : ∀ c ∈ (resvId n).toList, c ∈ ['r', 'e', 's', 'v', '-'] ∨ c.isDigit = true := by
    intro c hc
    rw [resvId, String.toList_append, List.mem_append] at hc
    rcases hc with hc | hc
    · exact Or.inl hc
    · exact Or.inr (isDigit_of_mem_zeroPadded hc)
  refine ⟨?_, ?_, ?_⟩
  · intro hempty
    have hlist := congrArg String.toList hempty
    rw [resvId, String.toList_append] at hlist
    exact absurd hlist (List.append_ne_nil_of_left_ne_nil (by decide) _)
  · intro hmem
    exact absurd (hchar _ hmem) (by decide)
  · intro hmem
    exact absurd (hchar _ hmem) (by decide)

/-- A granted id is one of those numbered. -/
theorem exists_resvId_of_granted {events : List (RuntimeCall × RuntimeResponse)}
    {state : SkeletonRuntimeState} (h : Numbered events state) {reservation : ModelReservation}
    (hgranted : reservation ∈ grants events) : ∃ n, reservation.reservationId = resvId n := by
  have hid := List.mem_map_of_mem (f := ModelReservation.reservationId) hgranted
  rw [h.reservationIds] at hid
  rcases List.mem_map.mp hid with ⟨k, -, heq⟩
  exact ⟨_, heq.symm⟩

/-- The ids that are live in the runtime are those outstanding. -/
theorem live_iff_outstanding
    (hbound : (httpGrants ((daemonMachine http mesh).events
      (.new hex config agent system startedAt) inputs)).length ≤ counterMax) (id : String) :
    (∃ reservation, ((daemonMachine http mesh).exec (.new hex config agent system startedAt)
        inputs).runtimeState.reservations[id]? = some reservation) ↔
      id ∈ (outstanding http ((daemonMachine http mesh).events
        (.new hex config agent system startedAt) inputs)).map ModelReservation.reservationId := by
  have hperm := reservations_perm_outstanding http mesh hex config agent system startedAt
    inputs hbound
  have hsound := sound_daemon http mesh hex config agent system startedAt inputs
  rw [← (hperm.map ModelReservation.reservationId).mem_iff, List.mem_map]
  refine ⟨?_, ?_⟩
  · intro h
    rcases h with ⟨reservation, hstored⟩
    exact ⟨reservation, mem_values_iff.mpr ⟨id, hstored⟩,
      (hsound.storedWell id reservation hstored).keyed⟩
  · intro h
    rcases h with ⟨reservation, hlisted, rfl⟩
    rcases mem_values_iff.mp hlisted with ⟨key, hstored⟩
    rw [(hsound.storedWell key reservation hstored).keyed]
    exact ⟨reservation, hstored⟩

theorem serve_delete {request : HttpRequest} {now : U64} {id : String}
    (hdeletes : request.deletes? http = some id) (state : AppState) :
    ((∃ reservation, state.runtimeState.reservations[id]? = some reservation) →
      (state.serve http request now).1 = ⟨.noContent, .empty⟩) ∧
    (state.runtimeState.reservations[id]? = none →
      (state.serve http request now).1.status = .notFound ∧
        (state.serve http request now).2 = state) := by
  have hcall := (@deletes?_eq_some_iff _ _ now _).mp hdeletes
  have hmethod : request.method ≠ .head := by
    intro hhead
    unfold HttpRequest.deletes? at hdeletes
    rw [hhead] at hdeletes
    cases hdeletes
  rw [state.serve_of_call hcall, HttpRequest.sent_of_ne hmethod]
  refine ⟨?_, ?_⟩
  · intro hlive
    rcases hlive with ⟨reservation, hstored⟩
    rw [step_release_of_live hstored]
    rfl
  · intro hnone
    rw [step_release_of_missing hnone]
    exact ⟨rfl, rfl⟩

/-- The path of a reservation that was created asks for its deletion. -/
theorem deletes?_of_created (hplain : http.KeepsPlain) {reservation : ModelReservation}
    (hcreated : reservation ∈ httpGrants ((daemonMachine http mesh).events
      (.new hex config agent system startedAt) inputs)) {request : HttpRequest}
    (hmethod : request.method = .delete)
    (hpath : request.path = "/v1/reservations/" ++ reservation.reservationId) :
    request.deletes? http = some reservation.reservationId := by
  rw [httpGrants_events] at hcreated
  rcases exists_resvId_of_granted (numbered_exec _ _) hcreated with ⟨n, hid⟩
  obtain ⟨hempty, hslash, hpercent⟩ := resvId_plain n
  rw [← hid] at hempty hslash hpercent
  have hsegment := reservationSegment?_eq_some_iff.mpr ⟨hpath, hempty, hslash⟩
  rw [HttpRequest.deletes?, if_pos hmethod, hsegment, Option.bind_some, hplain _ hpercent]
  rfl

/-- A `DELETE` is answered by what is outstanding. However requests and messages were
interleaved before, as long as no more reservations were created than the counter can
number: deleting an id is answered `204` if a reservation of the id is outstanding, and
otherwise `404` with the daemon left as it was; and the path `/v1/reservations/` with the id
of a reservation that was created deletes that reservation. -/
theorem delete_answer (hplain : http.KeepsPlain)
    (hbound : (httpGrants ((daemonMachine http mesh).events
      (.new hex config agent system startedAt) inputs)).length ≤ counterMax) :
    let start := AppState.new hex config agent system startedAt
    let events := (daemonMachine http mesh).events start inputs
    let state := (daemonMachine http mesh).exec start inputs
    (∀ request now id, request.deletes? http = some id →
      (id ∈ (outstanding http events).map ModelReservation.reservationId →
        (state.serve http request now).1 = ⟨.noContent, .empty⟩) ∧
      (id ∉ (outstanding http events).map ModelReservation.reservationId →
        (state.serve http request now).1.status = .notFound ∧
          (state.serve http request now).2 = state)) ∧
    ∀ reservation ∈ httpGrants events, ∀ request : HttpRequest, request.method = .delete →
      request.path = "/v1/reservations/" ++ reservation.reservationId →
        request.deletes? http = some reservation.reservationId := by
  intro start events state
  refine ⟨?_, ?_⟩
  · intro request now id hdeletes
    have hlive := live_iff_outstanding http mesh hex config agent system startedAt inputs hbound id
    obtain ⟨hfound, hmissing⟩ := @serve_delete http _ now _ hdeletes state
    rw [← hlive]
    refine ⟨hfound, ?_⟩
    intro hnone
    exact hmissing (Option.eq_none_iff_forall_ne_some.mpr fun reservation hstored =>
      hnone ⟨reservation, hstored⟩)
  · intro reservation hcreated request hmethod hpath
    exact deletes?_of_created http mesh hex config agent system startedAt inputs hplain hcreated
      hmethod hpath

/-- Alice's reservation is deleted under its id; another id is not found. -/
theorem delete_answer_alice :
    (((daemonMachine plainHttp friendsCrates).exec friendDaemon aliceAsks).serve plainHttp
        ⟨.delete, "/v1/reservations/resv-000001", none, []⟩ 3).1 = ⟨.noContent, .empty⟩ ∧
      (((daemonMachine plainHttp friendsCrates).exec friendDaemon aliceAsks).serve plainHttp
        ⟨.delete, "/v1/reservations/resv-000002", none, []⟩ 3).1.status = .notFound := by
  have hbound : aliceAsks.length ≤ counterMax := by decide
  obtain ⟨hdelete, -⟩ := delete_answer plainHttp friendsCrates .usual twoModelConfig
    (uniformAgent 0xaa) friendsSystem 1 aliceAsks plainHttp_keepsPlain
    (le_trans (length_httpGrants_le _ _ _ _) hbound)
  refine ⟨?_, ?_⟩
  · exact (hdelete _ 3 "resv-000001" (by decide +kernel)).1 (by decide +kernel)
  · exact ((hdelete _ 3 "resv-000002" (by decide +kernel)).2 (by decide +kernel)).1

/-! ## What can go wrong -/

theorem statusAndType_of_refusal {adapter : SkeletonRuntimeAdapter}
    {state : SkeletonRuntimeState} {request : CreateReservationRequest} {error : ComputeError}
    (h : adapter.refusal state request = some error) :
    error.statusAndType.1 ≠ .internalServerError := by
  unfold SkeletonRuntimeAdapter.refusal at h
  split at h
  · simp [← Option.some.inj h, ComputeError.statusAndType]
  · split at h
    · simp [← Option.some.inj h, ComputeError.statusAndType]
    · split at h
      · simp [← Option.some.inj h, ComputeError.statusAndType]
      · dsimp only at h
        split at h
        · simp [← Option.some.inj h, ComputeError.statusAndType]
        · cases h

theorem statusAndType_of_chatRefusal {adapter : SkeletonRuntimeAdapter}
    {request : OpenAiChatCompletionRequest} {error : ComputeError}
    (h : adapter.chatRefusal request = some error) :
    error.statusAndType.1 ≠ .internalServerError := by
  unfold SkeletonRuntimeAdapter.chatRefusal at h
  split at h
  · simp [← Option.some.inj h, ComputeError.statusAndType]
  · split at h
    · simp [← Option.some.inj h, ComputeError.statusAndType]
    · split at h
      · simp [← Option.some.inj h, ComputeError.statusAndType]
      · cases h

/-- A path that is not UTF-8 fails the serialisation of the paths. -/
theorem mapM_text_eq_error_iff (paths : List PathBuf) :
    (∃ text, paths.mapM PathBuf.text = .error text) ↔
      ∃ path ∈ paths, utf8Text? path.bytes = none := by
  induction paths with
  | nil => simp [pure, Except.pure]
  | cons path paths ih =>
    rw [List.mapM_cons]
    cases htext : utf8Text? path.bytes with
    | none =>
      simp only [PathBuf.text, htext]
      exact iff_of_true ⟨_, rfl⟩ ⟨path, List.mem_cons_self, htext⟩
    | some text =>
      simp only [List.exists_mem_cons_iff, htext, ← ih, PathBuf.text]
      cases paths.mapM PathBuf.text with
      | error text' => exact iff_of_true ⟨_, rfl⟩ (Or.inr ⟨_, rfl⟩)
      | ok texts => simp [bind, Except.bind, pure, Except.pure]

theorem configResponse_status_iff (config : ComputeConfig) :
    (configResponse config).status = .internalServerError ↔
      ∃ path ∈ config.paths, utf8Text? path.bytes = none := by
  rw [← mapM_text_eq_error_iff]
  unfold configResponse
  cases config.paths.mapM PathBuf.text with
  | error text => exact iff_of_true rfl ⟨text, rfl⟩
  | ok texts => simp

/-- What the runtime answers is never an internal error, and if it is not a success the
runtime is left as it was. -/
theorem respond_status {adapter : SkeletonRuntimeAdapter} {state next : SkeletonRuntimeState}
    {call : RuntimeCall} {response : RuntimeResponse}
    (heffect : CallEffect adapter state call response next) :
    (AppState.respond http response).status ≠ .internalServerError ∧
      ((AppState.respond http response).status.isSuccess = false → next = state) := by
  cases heffect with
  | refused hrefusal _ => exact ⟨statusAndType_of_refusal hrefusal, fun _ => rfl⟩
  | chatRefused hrefusal _ => exact ⟨statusAndType_of_chatRefusal hrefusal, fun _ => rfl⟩
  | missing _ =>
    simp [AppState.respond, ComputeError.intoResponse, ComputeError.statusAndType]
  | localModels | reservations | openaiModels => simp [AppState.respond]
  | granted _ _ | released _ | chatted _ _ =>
    simp [AppState.respond, StatusCode.isSuccess, StatusCode.code]

/-- The status of a request that makes no call of the runtime is an internal error only if it
asks for a configuration that cannot be serialised. -/
theorem status_of_no_call {request : HttpRequest} {now : U64}
    (h : request.call? http now = none) (state : AppState) :
    (state.serve http request now).1.status = .internalServerError ↔
      request.handler? = some .configView ∧
        ∃ path ∈ state.config.paths, utf8Text? path.bytes = none := by
  cases hhandler : request.handler? with
  | none =>
    obtain ⟨-, -, hstatus⟩ := @AppState.serve_of_no_handler http request now state hhandler
    rcases hstatus with heq | heq <;> simp [heq]
  | some handler =>
    rw [HttpRequest.call?, hhandler, Option.bind_some] at h
    rw [state.serve_of_handler hhandler, HttpRequest.sent_status, Option.some.injEq]
    cases handler with
    | configView =>
      rw [eq_self_iff_true, true_and]
      exact configResponse_status_iff state.config
    | health | identityHandler | localCapability | peerCapabilities =>
      simp [AppState.handle]
    | createReservation =>
      cases hbody : http.jsonReservation request with
      | error rejection =>
        cases rejection <;>
          simp [AppState.handle, hbody, JsonRejection.intoResponse, JsonRejection.status]
      | ok body => simp [Handler.call?, hbody, Except.toOption] at h
    | deleteReservation segment =>
      cases hid : http.pathSegment segment with
      | error text => simp [AppState.handle, hid]
      | ok id => simp [Handler.call?, hid, Except.toOption] at h
    | openaiChatCompletions =>
      cases hbody : http.jsonChat request with
      | error rejection =>
        cases rejection <;>
          simp [AppState.handle, hbody, JsonRejection.intoResponse, JsonRejection.status]
      | ok body => simp [Handler.call?, hbody, Except.toOption] at h
    | localModels | listReservations | openaiModels => cases h

/-- A call that a request makes without `POST` or `DELETE` changes nothing. -/
theorem step_of_reading {request : HttpRequest} {now : U64} {call : RuntimeCall}
    (h : request.call? http now = some call) (hpost : request.method ≠ .post)
    (hdelete : request.method ≠ .delete) (adapter : SkeletonRuntimeAdapter)
    (state : SkeletonRuntimeState) : ((runtimeMachine adapter).step state call).2 = state := by
  rcases Option.bind_eq_some_iff.mp h with ⟨handler, hhandler, hcall⟩
  obtain ⟨-, -, hmethod⟩ := HttpRequest.handler?_eq_some_iff.mp hhandler
  cases handler with
  | localModels | listReservations | openaiModels =>
    cases hcall
    rfl
  | createReservation | openaiChatCompletions =>
    rcases hmethod with heq | ⟨-, heq⟩
    · exact absurd heq hpost
    · cases heq
  | deleteReservation =>
    rcases hmethod with heq | ⟨-, heq⟩
    · exact absurd heq hdelete
    · cases heq
  | health | identityHandler | localCapability | peerCapabilities | configView => cases hcall

/-- What a call of the runtime leaves and answers, as the daemon does. -/
theorem serve_call {request : HttpRequest} {now : U64} {call : RuntimeCall}
    (h : request.call? http now = some call) (state : AppState) :
    (state.serve http request now).1.status ≠ .internalServerError ∧
      ((state.serve http request now).1.status.isSuccess = false →
        (state.serve http request now).2 = state) := by
  obtain ⟨hstatus, hkept⟩ :=
    respond_status http (step_effect state.runtime state.runtimeState call)
  rw [state.serve_of_call h, HttpRequest.sent_status]
  refine ⟨hstatus, ?_⟩
  intro hfailed
  rw [hkept hfailed]

/-- Every internal error is one of the configuration. -/
theorem status_serve_iff (state : AppState) (request : HttpRequest) (now : U64) :
    (state.serve http request now).1.status = .internalServerError ↔
      request.handler? = some .configView ∧
        ∃ path ∈ state.config.paths, utf8Text? path.bytes = none := by
  cases hcall : request.call? http now with
  | none => exact status_of_no_call http hcall state
  | some call =>
    refine iff_of_false (serve_call http hcall state).1 ?_
    intro h
    rcases h with ⟨hview, -⟩
    rw [HttpRequest.call?, hview, Option.bind_some] at hcall
    cases hcall

theorem handler?_eq_configView_iff {request : HttpRequest} :
    request.handler? = some .configView ↔
      request.path = "/v1/config" ∧ (request.method = .get ∨ request.method = .head) := by
  rw [HttpRequest.handler?_eq_some_iff]
  simp [Handler.path, Handler.Proper, Handler.method]

/-- A request that neither posts nor deletes, and one that is not answered with a success,
leaves the daemon as it was; and the only internal errors are those of `GET` or `HEAD` on
`/v1/config` when a path in the configuration is not UTF-8. -/
theorem failure_answer (state : AppState) (request : HttpRequest) (now : U64) :
    let answer := state.serve http request now
    (answer.1.status.isSuccess = false → answer.2 = state) ∧
    (request.method ≠ .post → request.method ≠ .delete → answer.2 = state) ∧
    (answer.1.status = .internalServerError ↔
      request.path = "/v1/config" ∧ (request.method = .get ∨ request.method = .head) ∧
        ∃ path ∈ state.config.paths, utf8Text? path.bytes = none) := by
  intro answer
  have hstatus := status_serve_iff http state request now
  rw [handler?_eq_configView_iff, and_assoc] at hstatus
  cases hcall : request.call? http now with
  | none =>
    have hstate : answer.2 = state := state.serve_of_no_call hcall
    exact ⟨fun _ => hstate, fun _ _ => hstate, hstatus⟩
  | some call =>
    refine ⟨(serve_call http hcall state).2, ?_, hstatus⟩
    intro hpost hdelete
    show (state.serve http request now).2 = state
    rw [state.serve_of_call hcall, step_of_reading http hcall hpost hdelete]

end X0xCompute
