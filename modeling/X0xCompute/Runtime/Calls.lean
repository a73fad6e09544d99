import X0xCompute.Runtime

/-!
# What each call of the runtime does

One lemma for each call: the error it fails with, as a function of what it finds, or else
the states it writes and the record it returns. The later files use these lemmas and the
states named here, and never unfold a call again.
-/

namespace X0xCompute

open Std Lib

namespace SkeletonRuntimeState

variable (state : SkeletonRuntimeState)

/-- The reservation counter is advanced. -/
def issued : SkeletonRuntimeState :=
  { state with nextReservationId := satAdd state.nextReservationId 1 }

/-- The record a successful request gets. -/
def grant (request : CreateReservationRequest) (now : U64) : ModelReservation where
  reservationId := resvId (satAdd state.nextReservationId 1).toNat
  model := request.model
  consumer := request.consumer
  requestedSlots := request.requestedSlots
  grantedAtUnixSecs := now

/-- The counter is advanced and the record of a request entered. -/
def granted (request : CreateReservationRequest) (now : U64) : SkeletonRuntimeState :=
  { state.issued with
    reservations :=
      state.reservations.insert (state.grant request now).reservationId
        (state.grant request now) }

/-- A reservation is withdrawn. -/
def released (reservationId : String) : SkeletonRuntimeState :=
  { state with reservations := state.reservations.erase reservationId }

/-- The completion counter is advanced. -/
def chatted : SkeletonRuntimeState :=
  { state with nextCompletionId := satAdd state.nextCompletionId 1 }

@[simp] theorem granted_nextReservationId (request : CreateReservationRequest) (now : U64) :
    (state.granted request now).nextReservationId = satAdd state.nextReservationId 1 := rfl

@[simp] theorem granted_nextCompletionId (request : CreateReservationRequest) (now : U64) :
    (state.granted request now).nextCompletionId = state.nextCompletionId := rfl

@[simp] theorem granted_reservations (request : CreateReservationRequest) (now : U64) :
    (state.granted request now).reservations =
      state.reservations.insert (state.grant request now).reservationId
        (state.grant request now) := rfl

@[simp] theorem released_reservations (reservationId : String) :
    (state.released reservationId).reservations = state.reservations.erase reservationId := rfl

@[simp] theorem chatted_nextReservationId :
    state.chatted.nextReservationId = state.nextReservationId := rfl

@[simp] theorem chatted_nextCompletionId :
    state.chatted.nextCompletionId = satAdd state.nextCompletionId 1 := rfl

end SkeletonRuntimeState

namespace SkeletonRuntimeAdapter

variable (self : SkeletonRuntimeAdapter)

/-- The error a reservation request fails with, if it fails. -/
def refusal (state : SkeletonRuntimeState) (request : CreateReservationRequest) :
    Option ComputeError :=
  if trim request.consumer = "" then
    some (.invalidReservationRequest "consumer must not be empty")
  else if request.requestedSlots = 0 then
    some (.invalidReservationRequest "requested_slots must be at least 1")
  else
    match self.models[request.model]? with
    | none => some (.modelNotFound request.model)
    | some model =>
      let availableSlots :=
        satSub model.maxParallelReservations (state.reservedSlotsForModel model.id)
      if request.requestedSlots > availableSlots then
        some (.modelCapacityExceeded model.id request.requestedSlots availableSlots)
      else none

/-- A request is refused without a write, or it writes twice: the advanced counter, and then
the record. -/
theorem createReservation_run (state : SkeletonRuntimeState)
    (request : CreateReservationRequest) (now : U64) :
    (self.createReservation request now).run state =
      match self.refusal state request with
      | some error => (.error error, [])
      | none =>
        (.ok (state.grant request now), [state.issued, state.granted request now]) := by
  unfold createReservation refusal
  by_cases hconsumer : trim request.consumer = ""
  · simp [hconsumer]
  by_cases hslots : request.requestedSlots = 0
  · simp [hconsumer, hslots]
  simp only [hconsumer, hslots, if_false, ensureModelExists]
  cases hmodel : self.models[request.model]? with
  | none => simp
  | some model =>
    have hid := self.keyed _ _ hmodel
    simp only [Guarded.run_lift_ok_bind, Guarded.run_read_bind]
    by_cases hfit : request.requestedSlots >
        satSub model.maxParallelReservations (state.reservedSlotsForModel model.id)
    · rw [if_pos hfit, if_pos hfit, Guarded.run_fail]
    · rw [if_neg hfit, if_neg hfit]
      simp only [Guarded.run_write_bind, Guarded.run_pure, hid]
      rfl

theorem releaseReservation_run (state : SkeletonRuntimeState) (reservationId : String) :
    (releaseReservation reservationId).run state =
      match state.reservations[reservationId]? with
      | some _ => (.ok (), [state.released reservationId])
      | none => (.error (.reservationNotFound reservationId), []) := by
  unfold releaseReservation
  rw [Guarded.run_read_bind]
  cases state.reservations[reservationId]? <;> rfl

/-- The error a chat request fails with, if it fails. -/
def chatRefusal (request : OpenAiChatCompletionRequest) : Option ComputeError :=
  match self.models[request.model]? with
  | none => some (.modelNotFound request.model)
  | some _ =>
    if request.stream then
      some (.unsupportedFeature "streaming chat completions are not implemented yet")
    else if request.messages = [] then
      some (.invalidChatRequest "messages must not be empty")
    else none

/-- The text of a reply. -/
def chatReply (request : OpenAiChatCompletionRequest) : String :=
  trim (self.responsePrefix ++ " [" ++ request.model ++ "] " ++ trim (chatPrompt request.messages))

def chatUsage (request : OpenAiChatCompletionRequest) : OpenAiUsage where
  promptTokens :=
    estimatedTokens (" ".intercalate (request.messages.map OpenAiChatMessage.content))
  completionTokens := estimatedTokens (self.chatReply request)
  totalTokens :=
    satAdd (estimatedTokens (" ".intercalate (request.messages.map OpenAiChatMessage.content)))
      (estimatedTokens (self.chatReply request))

/-- What a successful chat request is answered with. -/
def chatResponse (state : SkeletonRuntimeState) (request : OpenAiChatCompletionRequest)
    (now : U64) : OpenAiChatCompletionResponse where
  id := chatcmplId (satAdd state.nextCompletionId 1).toNat
  object := "chat.completion"
  created := now
  model := request.model
  choices := [
    { index := 0
      message := { role := "assistant", content := self.chatReply request }
      finishReason := "stop" }]
  usage := self.chatUsage request

@[simp] theorem chatResponse_usage (state : SkeletonRuntimeState)
    (request : OpenAiChatCompletionRequest) (now : U64) :
    (self.chatResponse state request now).usage = self.chatUsage request := rfl

theorem chatUsage_completionTokens (request : OpenAiChatCompletionRequest) :
    (self.chatUsage request).completionTokens = estimatedTokens (self.chatReply request) := rfl

theorem chatUsage_totalTokens (request : OpenAiChatCompletionRequest) :
    (self.chatUsage request).totalTokens =
      satAdd (self.chatUsage request).promptTokens (self.chatUsage request).completionTokens := by
  unfold chatUsage
  with_reducible rfl

/-- A chat request is refused without a write, or it writes once: the advanced counter. -/
theorem chatCompletion_run (state : SkeletonRuntimeState)
    (request : OpenAiChatCompletionRequest) (now : U64) :
    (self.chatCompletion request now).run state =
      match self.chatRefusal request with
      | some error => (.error error, [])
      | none => (.ok (self.chatResponse state request now), [state.chatted]) := by
  unfold chatRefusal
  simp only [chatCompletion, ensureModelExists]
  cases hmodel : self.models[request.model]? with
  | none => rfl
  | some model =>
    have hid := self.keyed _ _ hmodel
    rw [Guarded.run_lift_ok_bind]
    by_cases hstream : request.stream = true
    · simp [hstream]
    · by_cases hempty : request.messages = []
      · simp [hstream, hempty]
      · simp only [hstream, hempty, if_false, hid]
        rfl

theorem chatCompletion_run_of_refusal {request : OpenAiChatCompletionRequest}
    {error : ComputeError} (h : self.chatRefusal request = some error)
    (state : SkeletonRuntimeState) (now : U64) :
    (self.chatCompletion request now).run state = (.error error, []) := by
  rw [chatCompletion_run, h]

/-- A chat writes once, the advanced counter, and answers under the new number. -/
theorem chatCompletion_run_of_accepted {request : OpenAiChatCompletionRequest}
    (h : self.chatRefusal request = none) (state : SkeletonRuntimeState) (now : U64) :
    (self.chatCompletion request now).run state =
      (.ok (self.chatResponse state request now), [state.chatted]) := by
  rw [chatCompletion_run, h]

end SkeletonRuntimeAdapter

/-! ## Steps -/

variable {self : SkeletonRuntimeAdapter} {state : SkeletonRuntimeState}

theorem step_create_of_refusal {request : CreateReservationRequest} {error : ComputeError}
    (h : self.refusal state request = some error) (now : U64) :
    (runtimeMachine self).step state (.createReservation request now) =
      (.created (.error error), state) := by
  simp [runtimeMachine, Guarded.result, Guarded.final, Guarded.writes,
    self.createReservation_run state request now, h]

theorem step_create_of_accepted {request : CreateReservationRequest}
    (h : self.refusal state request = none) (now : U64) :
    (runtimeMachine self).step state (.createReservation request now) =
      (.created (.ok (state.grant request now)), state.granted request now) := by
  simp [runtimeMachine, Guarded.result, Guarded.final, Guarded.writes,
    self.createReservation_run state request now, h]

theorem step_release_of_live {reservationId : String} {reservation : ModelReservation}
    (h : state.reservations[reservationId]? = some reservation) :
    (runtimeMachine self).step state (.releaseReservation reservationId) =
      (.released (.ok ()), state.released reservationId) := by
  simp [runtimeMachine, Guarded.result, Guarded.final, Guarded.writes,
    SkeletonRuntimeAdapter.releaseReservation_run state reservationId, h]

theorem step_release_of_missing {reservationId : String}
    (h : state.reservations[reservationId]? = none) :
    (runtimeMachine self).step state (.releaseReservation reservationId) =
      (.released (.error (.reservationNotFound reservationId)), state) := by
  simp [runtimeMachine, Guarded.result, Guarded.final, Guarded.writes,
    SkeletonRuntimeAdapter.releaseReservation_run state reservationId, h]

theorem step_chat_of_refusal {request : OpenAiChatCompletionRequest} {error : ComputeError}
    (h : self.chatRefusal request = some error) (now : U64) :
    (runtimeMachine self).step state (.chatCompletion request now) =
      (.completed (.error error), state) := by
  simp [runtimeMachine, Guarded.result, Guarded.final, Guarded.writes,
    self.chatCompletion_run_of_refusal h state now]

theorem step_chat_of_accepted {request : OpenAiChatCompletionRequest}
    (h : self.chatRefusal request = none) (state : SkeletonRuntimeState) (now : U64) :
    (runtimeMachine self).step state (.chatCompletion request now) =
      (.completed (.ok (self.chatResponse state request now)), state.chatted) := by
  simp [runtimeMachine, Guarded.result, Guarded.final, Guarded.writes,
    self.chatCompletion_run_of_accepted h state now]

/-- What a call can do, one constructor for each way it can end: its answer, and the state it
leaves. -/
inductive CallEffect (self : SkeletonRuntimeAdapter) (state : SkeletonRuntimeState) :
    RuntimeCall → RuntimeResponse → SkeletonRuntimeState → Prop where
  | localModels :
      CallEffect self state .localModels (.localModels (self.localModels state)) state
  | refused {request : CreateReservationRequest} {error : ComputeError}
      (h : self.refusal state request = some error) (now : U64) :
      CallEffect self state (.createReservation request now) (.created (.error error)) state
  | granted {request : CreateReservationRequest} (h : self.refusal state request = none)
      (now : U64) :
      CallEffect self state (.createReservation request now)
        (.created (.ok (state.grant request now))) (state.granted request now)
  | reservations :
      CallEffect self state .reservations
        (.reservations (SkeletonRuntimeAdapter.reservations state)) state
  | missing {reservationId : String} (h : state.reservations[reservationId]? = none) :
      CallEffect self state (.releaseReservation reservationId)
        (.released (.error (.reservationNotFound reservationId))) state
  | released {reservationId : String} {reservation : ModelReservation}
      (h : state.reservations[reservationId]? = some reservation) :
      CallEffect self state (.releaseReservation reservationId) (.released (.ok ()))
        (state.released reservationId)
  | openaiModels :
      CallEffect self state .openaiModels (.openaiModels (self.openaiModels state)) state
  | chatRefused {request : OpenAiChatCompletionRequest} {error : ComputeError}
      (h : self.chatRefusal request = some error) (now : U64) :
      CallEffect self state (.chatCompletion request now) (.completed (.error error)) state
  | chatted {request : OpenAiChatCompletionRequest} {response : OpenAiChatCompletionResponse}
      (hid : response.id = chatcmplId (satAdd state.nextCompletionId 1).toNat) (now : U64) :
      CallEffect self state (.chatCompletion request now) (.completed (.ok response))
        state.chatted

/-- Every call has one of these effects. -/
theorem step_effect (self : SkeletonRuntimeAdapter) (state : SkeletonRuntimeState)
    (call : RuntimeCall) :
    CallEffect self state call ((runtimeMachine self).step state call).1
      ((runtimeMachine self).step state call).2 := by
  cases call with
  | createReservation request now =>
    cases hrefusal : self.refusal state request with
    | some error =>
      rw [step_create_of_refusal hrefusal]
      exact .refused hrefusal now
    | none =>
      rw [step_create_of_accepted hrefusal]
      exact .granted hrefusal now
  | releaseReservation reservationId =>
    cases hlive : state.reservations[reservationId]? with
    | none =>
      rw [step_release_of_missing hlive]
      exact .missing hlive
    | some reservation =>
      rw [step_release_of_live hlive]
      exact .released hlive
  | chatCompletion request now =>
    cases hrefusal : self.chatRefusal request with
    | some error =>
      rw [step_chat_of_refusal hrefusal]
      exact .chatRefused hrefusal now
    | none =>
      rw [step_chat_of_accepted hrefusal]
      exact .chatted rfl now
  | localModels => exact .localModels
  | reservations => exact .reservations
  | openaiModels => exact .openaiModels

end X0xCompute
