import X0xCompute.Lib.Ledger
import X0xCompute.Runtime.Calls

/-!
# No model is oversubscribed

The reservations are a capacity ledger: the slots granted on a model, summed without a
bound, stay within the model's configured number. Every state write of every call keeps
this, so a call that is abandoned between two writes keeps it too; and it is what makes the
saturating sums of the code exact.
-/

namespace X0xCompute

open Lib

/-- The model configured under an id: of several entries with one id the last. -/
def ComputeConfig.configuredModel (config : ComputeConfig) (id : String) : Option ModelConfig :=
  config.models.reverse.find? (·.id = id)

theorem ComputeConfig.configuredModel_mem {config : ComputeConfig} {id : String}
    {model : ModelConfig} (h : config.configuredModel id = some model) :
    model ∈ config.models ∧ model.id = id := by
  have hmem := List.mem_of_find?_eq_some h
  have hid := List.find?_some h
  exact ⟨List.mem_reverse.mp hmem, of_decide_eq_true hid⟩

theorem ComputeConfig.configuredModel_eq_none_iff {config : ComputeConfig} {id : String} :
    config.configuredModel id = none ↔ ∀ model ∈ config.models, model.id ≠ id := by
  rw [configuredModel, List.find?_eq_none]
  simp

/-- The adapter lists exactly the configured models. -/
theorem getElem?_models_new (config : ComputeConfig) (id : String) :
    (SkeletonRuntimeAdapter.new config).models[id]? = config.configuredModel id := by
  rw [SkeletonRuntimeAdapter.new, getElem?_ofList_eq, ← List.map_reverse, List.find?_map,
    Option.map_map]
  simp only [Function.comp_def, Option.map_id', ComputeConfig.configuredModel]

/-- What is granted: a reservation without its id. -/
structure Grant where
  model : String
  consumer : String
  requestedSlots : U16
  grantedAtUnixSecs : U64
  deriving DecidableEq

def Grant.slots (grant : Grant) : ℕ := grant.requestedSlots.toNat

def ModelReservation.grant (reservation : ModelReservation) : Grant where
  model := reservation.model
  consumer := reservation.consumer
  requestedSlots := reservation.requestedSlots
  grantedAtUnixSecs := reservation.grantedAtUnixSecs

namespace SkeletonRuntimeState

/-- The reservations as a ledger of grants. -/
def ledger (state : SkeletonRuntimeState) : Ledger String Grant :=
  toFinmap (state.reservations.map fun _ reservation => reservation.grant)

/-- The stored reservations for a model. -/
def liveOn (state : SkeletonRuntimeState) (model : String) : List ModelReservation :=
  (values state.reservations).filter (·.model = model)

/-- The exact sum of the slots reserved on a model. -/
def liveSlots (state : SkeletonRuntimeState) (model : String) : ℕ :=
  ((state.liveOn model).map fun reservation => reservation.requestedSlots.toNat).sum

theorem lookup_ledger (state : SkeletonRuntimeState) (id : String) :
    state.ledger.lookup id = state.reservations[id]?.map ModelReservation.grant := by
  rw [ledger, lookup_toFinmap, Std.ExtTreeMap.getElem?_map]

theorem ledger_new : SkeletonRuntimeState.new.ledger = ∅ := by
  apply Finmap.ext_lookup
  intro id
  rw [lookup_ledger, new, Std.ExtTreeMap.getElem?_empty, Finmap.lookup_empty]
  rfl

/-- A grant enters one entry into the ledger. -/
theorem ledger_granted (state : SkeletonRuntimeState) (request : CreateReservationRequest)
    (now : U64) :
    (state.granted request now).ledger =
      state.ledger.insert (state.grant request now).reservationId
        (state.grant request now).grant := by
  apply Finmap.ext_lookup
  intro id
  rw [lookup_ledger, granted_reservations, getElem?_insert_eq]
  split
  · rename_i hid
    subst hid
    rw [Finmap.lookup_insert]
    rfl
  · rename_i hid
    rw [Finmap.lookup_insert_of_ne _ (Ne.symm hid), lookup_ledger]

/-- A release takes one entry from the ledger. -/
theorem ledger_released (state : SkeletonRuntimeState) (reservationId : String) :
    (state.released reservationId).ledger = state.ledger.erase reservationId := by
  apply Finmap.ext_lookup
  intro id
  rw [lookup_ledger, released_reservations, getElem?_erase_eq]
  split
  · rename_i hid
    subst hid
    rw [Finmap.lookup_erase]
    rfl
  · rename_i hid
    rw [Finmap.lookup_erase_ne (Ne.symm hid), lookup_ledger]

theorem coe_map_grant_liveOn (state : SkeletonRuntimeState) (model : String) :
    (↑((state.liveOn model).map ModelReservation.grant) : Multiset Grant) =
      Ledger.held Grant.model state.ledger model := by
  rw [Ledger.held, ledger, ← coe_values, Multiset.filter_coe, values_map, List.filter_map]
  rfl

/-- The slots reserved on a model are its usage in the ledger. -/
theorem liveSlots_eq_usage (state : SkeletonRuntimeState) (model : String) :
    state.liveSlots model = Ledger.usage Grant.model Grant.slots state.ledger model := by
  rw [Ledger.usage, ← coe_map_grant_liveOn, Multiset.map_coe, Multiset.sum_coe, List.map_map]
  rfl

/-- A grant under a fresh id adds its slots to its model. -/
theorem liveSlots_granted (state : SkeletonRuntimeState) {request : CreateReservationRequest}
    {now : U64} (hfresh : state.reservations[(state.grant request now).reservationId]? = none)
    (model : String) :
    (state.granted request now).liveSlots model =
      (if request.model = model then request.requestedSlots.toNat else 0) +
        state.liveSlots model := by
  have hnotMem : (state.grant request now).reservationId ∉ state.ledger := by
    rw [← Finmap.lookup_eq_none, lookup_ledger, hfresh]
    rfl
  rw [liveSlots_eq_usage, ledger_granted, Ledger.usage_insert_of_notMem _ _ hnotMem,
    ← liveSlots_eq_usage]
  rfl

/-- A release takes the slots of its reservation from its model. -/
theorem liveSlots_released (state : SkeletonRuntimeState) {id : String}
    {reservation : ModelReservation} (hlive : state.reservations[id]? = some reservation)
    (model : String) :
    (if reservation.model = model then reservation.requestedSlots.toNat else 0) +
        (state.released id).liveSlots model = state.liveSlots model := by
  have hlookup : state.ledger.lookup id = some reservation.grant := by
    rw [lookup_ledger, hlive]
    rfl
  rw [liveSlots_eq_usage, ledger_released, liveSlots_eq_usage]
  exact Ledger.usage_erase Grant.model Grant.slots hlookup model

/-- The code's sum is the exact one, clamped once. -/
theorem toNat_reservedSlotsForModel (state : SkeletonRuntimeState) (model : String) :
    (state.reservedSlotsForModel model).toNat = min (state.liveSlots model) (2 ^ 16 - 1) := by
  have hfold := toNat_foldl_satAdd
    ((state.liveOn model).map ModelReservation.requestedSlots) 0#16
  rw [List.foldl_map, List.map_map, BitVec.toNat_zero, Nat.zero_add] at hfold
  exact hfold

end SkeletonRuntimeState

namespace SkeletonRuntimeAdapter

variable (self : SkeletonRuntimeAdapter)

/-- The number of slots of a model, zero for a model that is not configured. -/
def capacity (model : String) : ℕ :=
  (self.models[model]?.map fun config => config.maxParallelReservations.toNat).getD 0

theorem capacity_of_models {self : SkeletonRuntimeAdapter} {id : String} {model : ModelConfig}
    (h : self.models[id]? = some model) :
    self.capacity id = model.maxParallelReservations.toNat := by
  rw [capacity, h]
  rfl

theorem capacity_lt (id : String) : self.capacity id < 2 ^ 16 := by
  unfold capacity
  cases self.models[id]? with
  | none => exact Nat.two_pow_pos 16
  | some model => exact model.maxParallelReservations.isLt

end SkeletonRuntimeAdapter

/-- What holds of a stored reservation. -/
structure StoredWell (adapter : SkeletonRuntimeAdapter) (id : String)
    (reservation : ModelReservation) : Prop where
  keyed : reservation.reservationId = id
  known : ∃ model, adapter.models[reservation.model]? = some model
  positive : 1 ≤ reservation.requestedSlots.toNat
  named : trim reservation.consumer ≠ ""

/-- The invariant of the runtime: every reservation is stored well, and no model is granted
beyond its slots. -/
structure Sound (adapter : SkeletonRuntimeAdapter) (state : SkeletonRuntimeState) : Prop where
  storedWell : ∀ id reservation,
    state.reservations[id]? = some reservation → StoredWell adapter id reservation
  withinCapacity :
    Ledger.WithinCapacity Grant.model Grant.slots adapter.capacity state.ledger

namespace Sound

variable {adapter : SkeletonRuntimeAdapter} {state : SkeletonRuntimeState}

theorem liveSlots_le (h : Sound adapter state) (model : String) :
    state.liveSlots model ≤ adapter.capacity model := by
  rw [state.liveSlots_eq_usage]
  exact h.withinCapacity model

/-- In a sound state the code's saturating sum is exact. -/
theorem toNat_reservedSlots (h : Sound adapter state) (model : String) :
    (state.reservedSlotsForModel model).toNat = state.liveSlots model := by
  have hle := h.liveSlots_le model
  have hlt := adapter.capacity_lt model
  rw [state.toNat_reservedSlotsForModel]
  omega

/-- In a sound state the code's saturating difference is exact. -/
theorem toNat_available (h : Sound adapter state) (model : ModelConfig) :
    (satSub model.maxParallelReservations (state.reservedSlotsForModel model.id)).toNat =
      model.maxParallelReservations.toNat - state.liveSlots model.id := by
  rw [toNat_satSub, h.toNat_reservedSlots]

/-- Each reservation takes a slot, so there are no more of them than slots. -/
theorem length_liveOn_le (h : Sound adapter state) (model : String) :
    (state.liveOn model).length ≤ state.liveSlots model := by
  have hpositive : ∀ grant ∈ Ledger.held Grant.model state.ledger model, 1 ≤ grant.slots := by
    intro grant hmem
    rw [← state.coe_map_grant_liveOn, Multiset.mem_coe, List.mem_map] at hmem
    obtain ⟨reservation, hlive, rfl⟩ := hmem
    rcases mem_values_iff.mp (List.mem_filter.mp hlive).1 with ⟨id, hid⟩
    exact (h.storedWell id reservation hid).positive
  have hcard := Ledger.card_held_le_usage Grant.model Grant.slots hpositive
  rwa [← state.coe_map_grant_liveOn, Multiset.coe_card, List.length_map,
    ← state.liveSlots_eq_usage] at hcard

/-- In a sound state a request is granted exactly when it names a consumer, asks for a slot
at least, and the slots it asks for fit beside those reserved on a configured model. -/
theorem refusal_eq_none_iff (h : Sound adapter state) {request : CreateReservationRequest} :
    adapter.refusal state request = none ↔
      trim request.consumer ≠ "" ∧ request.requestedSlots ≠ 0 ∧
        ∃ model, adapter.models[request.model]? = some model ∧
          request.requestedSlots.toNat + state.liveSlots request.model ≤
            model.maxParallelReservations.toNat := by
  unfold SkeletonRuntimeAdapter.refusal
  by_cases hconsumer : trim request.consumer = ""
  · simp [hconsumer]
  by_cases hslots : request.requestedSlots = 0
  · simp [hconsumer, hslots]
  simp only [hconsumer, hslots, if_false, ne_eq, not_false_eq_true, true_and]
  cases hmodel : adapter.models[request.model]? with
  | none => simp
  | some model =>
    have hid := adapter.keyed _ _ hmodel
    have hle := h.liveSlots_le model.id
    rw [hid, SkeletonRuntimeAdapter.capacity_of_models hmodel] at hle
    have havailable := h.toNat_available model
    rw [hid] at havailable
    have hfit : ¬ request.requestedSlots >
          satSub model.maxParallelReservations (state.reservedSlotsForModel model.id) ↔
        request.requestedSlots.toNat + state.liveSlots request.model ≤
          model.maxParallelReservations.toNat := by
      rw [gt_iff_lt, BitVec.lt_def, hid, havailable]
      omega
    simp only [Option.some.injEq, exists_eq_left']
    rw [← hfit]
    simp

/-- In a sound state every inventory entry is that of a listed model, and splits the model's
slots into the reserved and the available ones. -/
theorem inventory (h : Sound adapter state) {entry : LocalModelInventory}
    (hentry : entry ∈ adapter.localModels state) :
    ∃ model, adapter.models[entry.id]? = some model ∧
      entry.totalSlots = model.maxParallelReservations ∧
      entry.reservedSlots.toNat = state.liveSlots entry.id ∧
      entry.reservedSlots.toNat + entry.availableSlots.toNat = entry.totalSlots.toNat := by
  rcases List.mem_map.mp hentry with ⟨model, hmem, rfl⟩
  rcases mem_values_iff.mp hmem with ⟨id, hlisted⟩
  have hid := adapter.keyed id model hlisted
  subst hid
  have hle := h.liveSlots_le model.id
  rw [SkeletonRuntimeAdapter.capacity_of_models hlisted] at hle
  refine ⟨model, hlisted, rfl, h.toNat_reservedSlots model.id, ?_⟩
  simp only [SkeletonRuntimeAdapter.inventoryForModel]
  rw [h.toNat_available, h.toNat_reservedSlots]
  omega

/-! ## Preservation -/

theorem new (adapter : SkeletonRuntimeAdapter) : Sound adapter .new where
  storedWell := by
    intro id reservation h
    rw [SkeletonRuntimeState.new, Std.ExtTreeMap.getElem?_empty] at h
    cases h
  withinCapacity := by
    rw [SkeletonRuntimeState.ledger_new]
    exact Ledger.withinCapacity_empty _ _ _

theorem issued (h : Sound adapter state) : Sound adapter state.issued where
  storedWell := h.storedWell
  withinCapacity := h.withinCapacity

theorem chatted (h : Sound adapter state) : Sound adapter state.chatted where
  storedWell := h.storedWell
  withinCapacity := h.withinCapacity

/-- A grant is stored well and fits, whether or not its id was in use. -/
theorem granted (h : Sound adapter state) {request : CreateReservationRequest}
    (haccepted : adapter.refusal state request = none) (now : U64) :
    Sound adapter (state.granted request now) := by
  rcases h.refusal_eq_none_iff.mp haccepted with ⟨hconsumer, hslots, model, hmodel, hfit⟩
  refine ⟨?_, ?_⟩
  · intro id reservation hstored
    rw [SkeletonRuntimeState.granted_reservations, getElem?_insert_eq] at hstored
    split at hstored
    · rename_i hid
      cases hstored
      have hpositive : 0 < request.requestedSlots.toNat := by
        rw [Nat.pos_iff_ne_zero]
        intro hzero
        exact hslots (BitVec.eq_of_toNat_eq hzero)
      exact
        { keyed := hid
          known := ⟨model, hmodel⟩
          positive := hpositive
          named := hconsumer }
    · exact h.storedWell id reservation hstored
  · rw [SkeletonRuntimeState.ledger_granted]
    apply h.withinCapacity.insert
    rw [← state.liveSlots_eq_usage]
    exact le_trans hfit (SkeletonRuntimeAdapter.capacity_of_models hmodel).ge

theorem released (h : Sound adapter state) (reservationId : String) :
    Sound adapter (state.released reservationId) := by
  refine ⟨?_, ?_⟩
  · intro id reservation hstored
    rw [SkeletonRuntimeState.released_reservations, getElem?_erase_eq] at hstored
    split at hstored
    · cases hstored
    · exact h.storedWell id reservation hstored
  · rw [SkeletonRuntimeState.ledger_released]
    exact h.withinCapacity.erase reservationId

end Sound

variable (adapter : SkeletonRuntimeAdapter)

/-- Every state that a reservation request writes is sound. -/
theorem createReservation_preserves (request : CreateReservationRequest) (now : U64) :
    Guarded.Preserves (Sound adapter) (adapter.createReservation request now) := by
  intro state h written hmem
  rw [Guarded.writes, adapter.createReservation_run] at hmem
  cases hrefusal : adapter.refusal state request with
  | some error => simp [hrefusal] at hmem
  | none =>
    simp only [hrefusal, List.mem_cons, List.not_mem_nil, or_false] at hmem
    rcases hmem with rfl | rfl
    · exact h.issued
    · exact h.granted hrefusal now

theorem releaseReservation_preserves (reservationId : String) :
    Guarded.Preserves (Sound adapter)
      (SkeletonRuntimeAdapter.releaseReservation reservationId) := by
  intro state h written hmem
  rw [Guarded.writes, SkeletonRuntimeAdapter.releaseReservation_run] at hmem
  cases hlive : state.reservations[reservationId]? with
  | none => simp [hlive] at hmem
  | some reservation =>
    simp only [hlive, List.mem_singleton] at hmem
    subst hmem
    exact h.released reservationId

theorem chatCompletion_preserves (request : OpenAiChatCompletionRequest) (now : U64) :
    Guarded.Preserves (Sound adapter) (adapter.chatCompletion request now) := by
  intro state h written hmem
  rw [Guarded.writes] at hmem
  cases hrefusal : adapter.chatRefusal request with
  | some error =>
    rw [adapter.chatCompletion_run_of_refusal hrefusal] at hmem
    cases hmem
  | none =>
    rw [adapter.chatCompletion_run_of_accepted hrefusal, List.mem_singleton] at hmem
    subst hmem
    exact h.chatted

/-- A completed call leaves a sound state. -/
theorem Sound.step {adapter : SkeletonRuntimeAdapter} {state : SkeletonRuntimeState}
    (h : Sound adapter state) (call : RuntimeCall) :
    Sound adapter ((runtimeMachine adapter).step state call).2 := by
  cases call with
  | createReservation request now =>
    simp only [runtimeMachine]
    exact (createReservation_preserves adapter request now).final h
  | releaseReservation reservationId =>
    simp only [runtimeMachine]
    exact (releaseReservation_preserves adapter reservationId).final h
  | chatCompletion request now =>
    simp only [runtimeMachine]
    exact (chatCompletion_preserves adapter request now).final h
  | localModels | reservations | openaiModels => exact h

/-- An attempt leaves a sound state, completed or abandoned. -/
theorem Sound.attempt {adapter : SkeletonRuntimeAdapter} {state : SkeletonRuntimeState}
    (h : Sound adapter state) (attempt : RuntimeAttempt) :
    Sound adapter (attempt.final adapter state) := by
  cases attempt with
  | completed call => exact h.step call
  | abandoned call writes =>
    cases call with
    | createReservation request now =>
      exact (createReservation_preserves adapter request now).abandoned writes h
    | releaseReservation reservationId =>
      exact (releaseReservation_preserves adapter reservationId).abandoned writes h
    | chatCompletion request now =>
      exact (chatCompletion_preserves adapter request now).abandoned writes h
    | localModels | reservations | openaiModels => exact h

/-- Every run of attempts from the initial state is sound throughout. -/
theorem sound_exec (attempts : List RuntimeAttempt) :
    Sound adapter ((attemptMachine adapter).exec .new attempts) :=
  Machine.exec_invariant _ (fun _ attempt h => h.attempt attempt) (Sound.new adapter) attempts

/-- No model is ever oversubscribed, and the saturating arithmetic never clamps. After any
sequence of calls, each completed or abandoned between two of its state writes: on every
configured model the exact sum of the reserved slots and the number of reservations are
within the model's slots, and the code's sum and difference are exact; every reservation is
stored under its own id, for a configured model, with a slot at least and a consumer that is
not blank; and every inventory entry splits its model's slots into reserved and available
ones. -/
theorem never_oversubscribed (config : ComputeConfig) (attempts : List RuntimeAttempt) :
    let adapter := SkeletonRuntimeAdapter.new config
    let state := (attemptMachine adapter).exec .new attempts
    (∀ id model, config.configuredModel id = some model →
      state.liveSlots id ≤ model.maxParallelReservations.toNat ∧
      (state.liveOn id).length ≤ model.maxParallelReservations.toNat ∧
      (state.reservedSlotsForModel id).toNat = state.liveSlots id ∧
      (state.reservedSlotsForModel id).toNat ≤ model.maxParallelReservations.toNat) ∧
    (∀ (id : String) (reservation : ModelReservation),
      state.reservations[id]? = some reservation →
      reservation.reservationId = id ∧
      (∃ model ∈ config.models, model.id = reservation.model) ∧
      1 ≤ reservation.requestedSlots.toNat ∧ trim reservation.consumer ≠ "") ∧
    ∀ entry ∈ adapter.localModels state, ∃ model,
      config.configuredModel entry.id = some model ∧
      entry.totalSlots = model.maxParallelReservations ∧
      entry.reservedSlots.toNat = state.liveSlots entry.id ∧
      entry.reservedSlots.toNat + entry.availableSlots.toNat = entry.totalSlots.toNat := by
  intro adapter state
  have hsound : Sound adapter state := sound_exec adapter attempts
  have hslots : ∀ id model, config.configuredModel id = some model →
      state.liveSlots id ≤ model.maxParallelReservations.toNat := by
    intro id model hmodel
    rw [← getElem?_models_new] at hmodel
    rw [← SkeletonRuntimeAdapter.capacity_of_models hmodel]
    exact hsound.liveSlots_le id
  refine ⟨?models, ?stored, ?inventory⟩
  case models =>
    intro id model hmodel
    have hle := hslots id model hmodel
    refine ⟨hle, le_trans (hsound.length_liveOn_le id) hle, hsound.toNat_reservedSlots id, ?_⟩
    rwa [hsound.toNat_reservedSlots]
  case stored =>
    intro id reservation hstored
    obtain ⟨hkeyed, ⟨model, hmodel⟩, hpositive, hnamed⟩ :=
      hsound.storedWell id reservation hstored
    rw [getElem?_models_new] at hmodel
    exact ⟨hkeyed, ⟨model, ComputeConfig.configuredModel_mem hmodel⟩, hpositive, hnamed⟩
  case inventory =>
    intro entry hentry
    rcases hsound.inventory hentry with ⟨model, hmodel, hsplit⟩
    rw [getElem?_models_new] at hmodel
    exact ⟨model, hmodel, hsplit⟩

end X0xCompute
