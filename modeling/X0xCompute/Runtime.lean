import X0xCompute.Config
import X0xCompute.Error
import X0xCompute.Lib.Decimal
import X0xCompute.Lib.Guarded
import X0xCompute.Lib.Machine
import X0xCompute.Lib.Saturating
import X0xCompute.Lib.Text
import X0xCompute.Lib.TreeMap

/-!
# The skeleton runtime

`runtime.rs`: the model inventory, the reservations and the chat completions of the skeleton
runtime adapter. The state behind the mutex is the state of a `Guarded` computation; what is
computed before the lock is taken is lifted into it. The clock reading of a call is an
argument.
-/

namespace X0xCompute

open Std Lib

/-- Inventory record for a local model runtime. -/
structure LocalModelInventory where
  id : String
  family : String
  runtimeBackend : RuntimeBackend
  contextWindowTokens : U32
  maxOutputTokens : U32
  totalSlots : U16
  reservedSlots : U16
  availableSlots : U16
  tags : List String
  deriving DecidableEq

/-- Reservation creation request. -/
structure CreateReservationRequest where
  model : String
  consumer : String
  requestedSlots : U16
  deriving DecidableEq

/-- Active reservation record. -/
structure ModelReservation where
  reservationId : String
  model : String
  consumer : String
  requestedSlots : U16
  grantedAtUnixSecs : U64
  deriving DecidableEq

/-- OpenAI-compatible model card. -/
structure OpenAiModelCard where
  id : String
  object : String
  created : U64
  ownedBy : String
  deriving DecidableEq

/-- OpenAI-compatible `/models` response. -/
structure OpenAiModelListResponse where
  object : String
  data : List OpenAiModelCard
  deriving DecidableEq

/-- OpenAI-compatible chat message. -/
structure OpenAiChatMessage where
  role : String
  content : String
  deriving DecidableEq, Inhabited

/-- OpenAI-compatible chat completion request, without the two options the runtime never
reads. -/
structure OpenAiChatCompletionRequest where
  model : String
  messages : List OpenAiChatMessage
  stream : Bool
  deriving DecidableEq

/-- OpenAI-compatible choice. -/
structure OpenAiChatChoice where
  index : U32
  message : OpenAiChatMessage
  finishReason : String
  deriving DecidableEq

/-- OpenAI-compatible usage block. -/
structure OpenAiUsage where
  promptTokens : U32
  completionTokens : U32
  totalTokens : U32
  deriving DecidableEq

/-- OpenAI-compatible chat completion response. -/
structure OpenAiChatCompletionResponse where
  id : String
  object : String
  created : U64
  model : String
  choices : List OpenAiChatChoice
  usage : OpenAiUsage
  deriving DecidableEq

/-- What the mutex of the adapter guards. -/
structure SkeletonRuntimeState where
  nextReservationId : U64
  nextCompletionId : U64
  reservations : ExtTreeMap String ModelReservation

/-- The fields of the adapter that never change. Every model is listed under its own id. -/
structure SkeletonRuntimeAdapter where
  backend : RuntimeBackend
  responsePrefix : String
  models : ExtTreeMap String ModelConfig
  keyed : ∀ (id : String) (model : ModelConfig), models[id]? = some model → model.id = id

/-- `format!("resv-{:06}", n)`. -/
def resvId (n : Nat) : String := "resv-" ++ zeroPadded 6 n

/-- `format!("chatcmpl-{:06}", n)`. -/
def chatcmplId (n : Nat) : String := "chatcmpl-" ++ zeroPadded 6 n

/-- `estimated_tokens`. -/
def estimatedTokens (text : String) : U32 :=
  BitVec.ofNat 32 (min (max (words text).length 1) (2 ^ 32 - 1))

namespace SkeletonRuntimeState

/-- `SkeletonRuntimeState::default`. -/
def new : SkeletonRuntimeState where
  nextReservationId := 0
  nextCompletionId := 0
  reservations := ∅

/-- `reserved_slots_for_model`. -/
def reservedSlotsForModel (state : SkeletonRuntimeState) (model : String) : U16 :=
  ((values state.reservations).filter (·.model = model)).foldl
    (fun acc reservation => satAdd acc reservation.requestedSlots) 0

end SkeletonRuntimeState

namespace SkeletonRuntimeAdapter

/-- `SkeletonRuntimeAdapter::new`: of several entries with one id the last is kept. -/
def new (config : ComputeConfig) : SkeletonRuntimeAdapter where
  backend := config.runtime.backend
  responsePrefix := config.runtime.skeletonResponsePrefix
  models := ExtTreeMap.ofList (config.models.map fun model => (model.id, model))
  keyed := by
    intro id model h
    rw [getElem?_ofList_eq, Option.map_eq_some_iff] at h
    obtain ⟨p, hfind, rfl⟩ := h
    have hkey := List.find?_some hfind
    have hmem := List.mem_of_find?_eq_some hfind
    rw [List.mem_reverse, List.mem_map] at hmem
    obtain ⟨model, -, rfl⟩ := hmem
    exact of_decide_eq_true hkey

variable (self : SkeletonRuntimeAdapter)

def inventoryForModel (model : ModelConfig) (reservedSlots : U16) : LocalModelInventory where
  id := model.id
  family := model.family
  runtimeBackend := self.backend
  contextWindowTokens := model.contextWindowTokens
  maxOutputTokens := model.maxOutputTokens
  totalSlots := model.maxParallelReservations
  reservedSlots := reservedSlots
  availableSlots := satSub model.maxParallelReservations reservedSlots
  tags := model.tags

def ensureModelExists (model : String) : Except ComputeError ModelConfig :=
  match self.models[model]? with
  | some config => .ok config
  | none => .error (.modelNotFound model)

def localModels (state : SkeletonRuntimeState) : List LocalModelInventory :=
  (values self.models).map fun model =>
    self.inventoryForModel model (state.reservedSlotsForModel model.id)

def createReservation (request : CreateReservationRequest) (now : U64) :
    Guarded SkeletonRuntimeState ComputeError ModelReservation := do
  if trim request.consumer = "" then
    Guarded.fail (.invalidReservationRequest "consumer must not be empty")
  else if request.requestedSlots = 0 then
    Guarded.fail (.invalidReservationRequest "requested_slots must be at least 1")
  else
    let model ← self.ensureModelExists request.model
    let state ← Guarded.read
    let reservedSlots := state.reservedSlotsForModel model.id
    let availableSlots := satSub model.maxParallelReservations reservedSlots
    if request.requestedSlots > availableSlots then
      Guarded.fail (.modelCapacityExceeded model.id request.requestedSlots availableSlots)
    else
      let state := { state with nextReservationId := satAdd state.nextReservationId 1 }
      Guarded.write state
      let reservation : ModelReservation :=
        { reservationId := resvId state.nextReservationId.toNat
          model := model.id
          consumer := request.consumer
          requestedSlots := request.requestedSlots
          grantedAtUnixSecs := now }
      Guarded.write
        { state with
          reservations := state.reservations.insert reservation.reservationId reservation }
      return reservation

def reservations (state : SkeletonRuntimeState) : List ModelReservation :=
  values state.reservations

def releaseReservation (reservationId : String) :
    Guarded SkeletonRuntimeState ComputeError Unit := do
  let state ← Guarded.read
  match state.reservations[reservationId]? with
  | some _ =>
    Guarded.write { state with reservations := state.reservations.erase reservationId }
  | none => Guarded.fail (.reservationNotFound reservationId)

def openaiModels (state : SkeletonRuntimeState) : OpenAiModelListResponse where
  object := "list"
  data := (self.localModels state).map fun model =>
    { id := model.id
      object := "model"
      created := 0
      ownedBy := "x0x-compute" }

/-- The prompt of a chat: the last message of the user, or else the last message. -/
def chatPrompt (messages : List OpenAiChatMessage) : String :=
  match messages.reverse.find? (·.role = "user") with
  | some message => message.content
  | none => (messages.getLast?.map OpenAiChatMessage.content).getD ""

def chatCompletion (request : OpenAiChatCompletionRequest) (now : U64) :
    Guarded SkeletonRuntimeState ComputeError OpenAiChatCompletionResponse := do
  let model ← self.ensureModelExists request.model
  if request.stream then
    Guarded.fail
      (.unsupportedFeature "streaming chat completions are not implemented yet")
  else if request.messages = [] then
    Guarded.fail (.invalidChatRequest "messages must not be empty")
  else
    let prompt := chatPrompt request.messages
    let completion :=
      trim (self.responsePrefix ++ " [" ++ model.id ++ "] " ++ trim prompt)
    let promptTokens :=
      estimatedTokens (" ".intercalate (request.messages.map OpenAiChatMessage.content))
    let completionTokens := estimatedTokens completion
    let totalTokens := satAdd promptTokens completionTokens
    let state ← Guarded.read
    let state := { state with nextCompletionId := satAdd state.nextCompletionId 1 }
    Guarded.write state
    return {
      id := chatcmplId state.nextCompletionId.toNat
      object := "chat.completion"
      created := now
      model := model.id
      choices := [
        { index := 0
          message := { role := "assistant", content := completion }
          finishReason := "stop" }]
      usage :=
        { promptTokens := promptTokens
          completionTokens := completionTokens
          totalTokens := totalTokens } }

end SkeletonRuntimeAdapter

/-- `build_runtime`. -/
def buildRuntime (config : ComputeConfig) : SkeletonRuntimeAdapter := .new config

/-! ## Calls -/

/-- A call of the runtime adapter. -/
inductive RuntimeCall where
  | localModels
  | createReservation (request : CreateReservationRequest) (now : U64)
  | reservations
  | releaseReservation (reservationId : String)
  | openaiModels
  | chatCompletion (request : OpenAiChatCompletionRequest) (now : U64)
  deriving DecidableEq

/-- What a call answers. -/
inductive RuntimeResponse where
  | localModels (models : List LocalModelInventory)
  | created (result : Except ComputeError ModelReservation)
  | reservations (reservations : List ModelReservation)
  | released (result : Except ComputeError Unit)
  | openaiModels (response : OpenAiModelListResponse)
  | completed (result : Except ComputeError OpenAiChatCompletionResponse)

/-- The adapter as a machine that takes calls one at a time, as the mutex makes it. -/
def runtimeMachine (self : SkeletonRuntimeAdapter) :
    Machine SkeletonRuntimeState RuntimeCall RuntimeResponse where
  step state call :=
    match call with
    | .localModels => (.localModels (self.localModels state), state)
    | .createReservation request now =>
      let code := self.createReservation request now
      (.created (code.result state), code.final state)
    | .reservations => (.reservations (SkeletonRuntimeAdapter.reservations state), state)
    | .releaseReservation reservationId =>
      let code := SkeletonRuntimeAdapter.releaseReservation reservationId
      (.released (code.result state), code.final state)
    | .openaiModels => (.openaiModels (self.openaiModels state), state)
    | .chatCompletion request now =>
      let code := self.chatCompletion request now
      (.completed (code.result state), code.final state)

/-- A call that runs to its end, or is abandoned after some of its state writes. -/
inductive RuntimeAttempt where
  | completed (call : RuntimeCall)
  | abandoned (call : RuntimeCall) (writes : Nat)

/-- The state an attempt leaves. An abandoned call poisons the mutex, and the next one
recovers the state as it was left. -/
def RuntimeAttempt.final (self : SkeletonRuntimeAdapter) (state : SkeletonRuntimeState) :
    RuntimeAttempt → SkeletonRuntimeState
  | .completed call => ((runtimeMachine self).step state call).2
  | .abandoned (.createReservation request now) writes =>
    (self.createReservation request now).abandoned writes state
  | .abandoned (.releaseReservation reservationId) writes =>
    (SkeletonRuntimeAdapter.releaseReservation reservationId).abandoned writes state
  | .abandoned (.chatCompletion request now) writes =>
    (self.chatCompletion request now).abandoned writes state
  | .abandoned _ _ => state

/-- The adapter as a machine of attempts. -/
def attemptMachine (self : SkeletonRuntimeAdapter) :
    Machine SkeletonRuntimeState RuntimeAttempt Unit where
  step state attempt := ((), attempt.final self state)

end X0xCompute
