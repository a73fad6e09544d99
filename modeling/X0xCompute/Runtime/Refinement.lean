import X0xCompute.Runtime.Ids

/-!
# The reservation calls refine an abstract ledger

The specification is a finite map from granted ids to grants, with no counters, strings to
render or machine arithmetic: what a call may answer and how it may change the map. Every
run of the runtime with no more grants than the counter can number is a run of it.
-/

namespace X0xCompute

open Lib

/-- The slots of a model that a ledger leaves. -/
def freeSlots (ledger : Ledger String Grant) (model : ModelConfig) : ℕ :=
  model.maxParallelReservations.toNat - Ledger.usage Grant.model Grant.slots ledger model.id

/-- What a call may answer over a ledger, and the ledger it leaves. -/
def LedgerSpec (config : ComputeConfig) (ledger : Ledger String Grant) (call : RuntimeCall)
    (response : RuntimeResponse) (next : Ledger String Grant) : Prop :=
  match call with
  | .createReservation request now =>
    if Blank request.consumer ∨ request.requestedSlots = 0 then
      (∃ message, response = .created (.error (.invalidReservationRequest message))) ∧
        next = ledger
    else
      match config.configuredModel request.model with
      | none => response = .created (.error (.modelNotFound request.model)) ∧ next = ledger
      | some model =>
        if freeSlots ledger model < request.requestedSlots.toNat then
          (∃ available : U16, available.toNat = freeSlots ledger model ∧
            response = .created (.error (.modelCapacityExceeded request.model
              request.requestedSlots available))) ∧
          next = ledger
        else
          ∃ reservation, response = .created (.ok reservation) ∧
            reservation.grant =
              { model := request.model
                consumer := request.consumer
                requestedSlots := request.requestedSlots
                grantedAtUnixSecs := now } ∧
            reservation.reservationId ∉ ledger ∧
            next = ledger.insert reservation.reservationId reservation.grant
  | .releaseReservation reservationId =>
    if reservationId ∈ ledger then
      response = .released (.ok ()) ∧ next = ledger.erase reservationId
    else
      response = .released (.error (.reservationNotFound reservationId)) ∧ next = ledger
  | .reservations =>
    (∃ listed, response = .reservations listed ∧
      (∀ reservation, reservation ∈ listed ↔
        ledger.lookup reservation.reservationId = some reservation.grant) ∧
      (listed.map ModelReservation.reservationId).Pairwise (compare · · = .lt)) ∧
    next = ledger
  | .localModels | .openaiModels | .chatCompletion _ _ => next = ledger

/-- The call failed. -/
def RuntimeResponse.Failed : RuntimeResponse → Prop
  | .created (.error _) | .released (.error _) | .completed (.error _) => True
  | _ => False

variable {adapter : SkeletonRuntimeAdapter} {state : SkeletonRuntimeState}

/-- A call that fails leaves the whole state as it was. -/
theorem CallEffect.eq_of_failed {call : RuntimeCall} {response : RuntimeResponse}
    {next : SkeletonRuntimeState} (heffect : CallEffect adapter state call response next)
    (hfailed : response.Failed) : next = state := by
  cases heffect with
  | refused _ _ | missing _ | chatRefused _ _ => rfl
  | granted _ _ | released _ | chatted _ _ | localModels | reservations | openaiModels =>
    exact hfailed.elim

theorem mem_ledger_iff {id : String} :
    id ∈ state.ledger ↔ ∃ reservation, state.reservations[id]? = some reservation := by
  rw [← Finmap.lookup_isSome, SkeletonRuntimeState.lookup_ledger, Option.isSome_map,
    Option.isSome_iff_exists]

/-- The error of a refused request is the one the ledger gives. -/
theorem ledgerSpec_create_of_refusal {config : ComputeConfig}
    (hsound : Sound (SkeletonRuntimeAdapter.new config) state)
    {request : CreateReservationRequest} {error : ComputeError}
    (h : (SkeletonRuntimeAdapter.new config).refusal state request = some error) (now : U64) :
    LedgerSpec config state.ledger (.createReservation request now)
      (.created (.error error)) state.ledger := by
  unfold SkeletonRuntimeAdapter.refusal at h
  unfold LedgerSpec
  dsimp only
  by_cases hconsumer : trim request.consumer = ""
  · rw [if_pos hconsumer] at h
    cases h
    rw [if_pos (Or.inl (trim_eq_empty_iff.mp hconsumer))]
    exact ⟨⟨_, rfl⟩, rfl⟩
  rw [if_neg hconsumer] at h
  by_cases hslots : request.requestedSlots = 0
  · rw [if_pos hslots] at h
    cases h
    rw [if_pos (Or.inr hslots)]
    exact ⟨⟨_, rfl⟩, rfl⟩
  rw [if_neg hslots] at h
  rw [if_neg (not_or.mpr ⟨mt trim_eq_empty_iff.mpr hconsumer, hslots⟩)]
  have hlisted := getElem?_models_new config request.model
  cases hmodel : config.configuredModel request.model with
  | none =>
    rw [hmodel] at hlisted
    rw [hlisted] at h
    cases h
    exact ⟨rfl, rfl⟩
  | some model =>
    rw [hmodel] at hlisted
    rw [hlisted] at h
    have hid := (ComputeConfig.configuredModel_mem hmodel).2
    have havailable : (satSub model.maxParallelReservations
        (state.reservedSlotsForModel model.id)).toNat = freeSlots state.ledger model := by
      rw [hsound.toNat_available, state.liveSlots_eq_usage, freeSlots]
    dsimp only at h ⊢
    split at h
    · rename_i hexceeds
      cases h
      rw [gt_iff_lt, BitVec.lt_def, havailable] at hexceeds
      rw [if_pos hexceeds, ← hid]
      exact ⟨⟨_, havailable, rfl⟩, rfl⟩
    · cases h

/-- A granted request is one the ledger grants, under an id it does not hold. -/
theorem ledgerSpec_create_of_accepted {config : ComputeConfig}
    (hsound : Sound (SkeletonRuntimeAdapter.new config) state)
    {request : CreateReservationRequest}
    (h : (SkeletonRuntimeAdapter.new config).refusal state request = none) (now : U64)
    (hfresh : state.reservations[(state.grant request now).reservationId]? = none) :
    LedgerSpec config state.ledger (.createReservation request now)
      (.created (.ok (state.grant request now))) (state.granted request now).ledger := by
  rcases hsound.refusal_eq_none_iff.mp h with ⟨hconsumer, hslots, model, hlisted, hfit⟩
  have hid := (SkeletonRuntimeAdapter.new config).keyed _ _ hlisted
  rw [getElem?_models_new] at hlisted
  have hfree : ¬ freeSlots state.ledger model < request.requestedSlots.toNat := by
    rw [freeSlots, ← state.liveSlots_eq_usage, hid]
    omega
  unfold LedgerSpec
  dsimp only
  rw [if_neg (not_or.mpr ⟨mt trim_eq_empty_iff.mpr hconsumer, hslots⟩), hlisted]
  dsimp only
  rw [if_neg hfree]
  refine ⟨_, rfl, rfl, ?_, state.ledger_granted request now⟩
  rw [mem_ledger_iff, hfresh]
  simp

theorem ledgerSpec_release_of_missing (config : ComputeConfig) {reservationId : String}
    (h : state.reservations[reservationId]? = none) :
    LedgerSpec config state.ledger (.releaseReservation reservationId)
      (.released (.error (.reservationNotFound reservationId))) state.ledger := by
  have hmissing : reservationId ∉ state.ledger := by
    rw [mem_ledger_iff, h]
    simp
  unfold LedgerSpec
  dsimp only
  rw [if_neg hmissing]
  exact ⟨rfl, rfl⟩

theorem ledgerSpec_release_of_live (config : ComputeConfig) {reservationId : String}
    {reservation : ModelReservation}
    (h : state.reservations[reservationId]? = some reservation) :
    LedgerSpec config state.ledger (.releaseReservation reservationId) (.released (.ok ()))
      (state.released reservationId).ledger := by
  have hmem : reservationId ∈ state.ledger := mem_ledger_iff.mpr ⟨reservation, h⟩
  unfold LedgerSpec
  dsimp only
  rw [if_pos hmem]
  exact ⟨rfl, state.ledger_released reservationId⟩

/-- The listing is the ledger, in the order of the ids. -/
theorem ledgerSpec_reservations (config : ComputeConfig) (hsound : Sound adapter state) :
    LedgerSpec config state.ledger .reservations
      (.reservations (SkeletonRuntimeAdapter.reservations state)) state.ledger := by
  refine ⟨⟨_, rfl, ?mem, ?sorted⟩, rfl⟩
  case mem =>
    intro reservation
    rw [SkeletonRuntimeAdapter.reservations, mem_values_iff, state.lookup_ledger,
      Option.map_eq_some_iff]
    refine ⟨?_, ?_⟩
    · rintro ⟨id, hid⟩
      rw [(hsound.storedWell id reservation hid).keyed]
      exact ⟨reservation, hid, rfl⟩
    · rintro ⟨stored, hid, hgrant⟩
      have hkeyed := (hsound.storedWell _ stored hid).keyed
      obtain ⟨id, model, consumer, slots, grantedAt⟩ := stored
      obtain ⟨id', model', consumer', slots', grantedAt'⟩ := reservation
      cases hgrant
      cases hkeyed
      exact ⟨_, hid⟩
  case sorted =>
    rw [SkeletonRuntimeAdapter.reservations, List.pairwise_map]
    exact pairwise_values fun id reservation h => (hsound.storedWell id reservation h).keyed

/-- What a call does, the specification allows, while the counter can still count. -/
theorem ledgerSpec_effect {config : ComputeConfig}
    {events : List (RuntimeCall × RuntimeResponse)} (hnumbered : Numbered events state)
    (hsound : Sound (SkeletonRuntimeAdapter.new config) state) {call : RuntimeCall}
    {response : RuntimeResponse} {next : SkeletonRuntimeState}
    (heffect : CallEffect (SkeletonRuntimeAdapter.new config) state call response next)
    (hbound : (grants (events ++ [(call, response)])).length ≤ counterMax) :
    LedgerSpec config state.ledger call response next.ledger := by
  cases heffect with
  | refused hrefusal now => exact ledgerSpec_create_of_refusal hsound hrefusal now
  | granted haccepted now =>
    rw [grants_append, List.length_append] at hbound
    exact ledgerSpec_create_of_accepted hsound haccepted now
      (hnumbered.fresh_reservations _ now hbound)
  | missing hmissing => exact ledgerSpec_release_of_missing config hmissing
  | released hlive => exact ledgerSpec_release_of_live config hlive
  | reservations => exact ledgerSpec_reservations config hsound
  | localModels | openaiModels | chatRefused _ _ | chatted _ _ => rfl

/-- The reservation calls refine the ledger: every run from the initial state with at most
as many grants as the counter can number is a run of the specification from the empty
ledger to the ledger of the final state, and every call of it that fails leaves the whole
state as it was. -/
theorem runtime_refines_ledger (config : ComputeConfig) (calls : List RuntimeCall)
    (hgrants : (grants ((runtimeMachine (SkeletonRuntimeAdapter.new config)).events .new
      calls)).length ≤ counterMax) :
    Machine.SpecRun (LedgerSpec config) ∅
        ((runtimeMachine (SkeletonRuntimeAdapter.new config)).events .new calls)
        ((runtimeMachine (SkeletonRuntimeAdapter.new config)).exec .new calls).ledger ∧
      ∀ pre call post, calls = pre ++ call :: post →
        let before := (runtimeMachine (SkeletonRuntimeAdapter.new config)).exec .new pre
        ((runtimeMachine (SkeletonRuntimeAdapter.new config)).step before call).1.Failed →
          ((runtimeMachine (SkeletonRuntimeAdapter.new config)).step before call).2 =
            before := by
  refine ⟨?_, ?_⟩
  · have hrefines := Machine.exec_refines (runtimeMachine (SkeletonRuntimeAdapter.new config))
      (LedgerSpec config) SkeletonRuntimeState.ledger
      (fun events state =>
        Numbered events state ∧ Sound (SkeletonRuntimeAdapter.new config) state)
      (fun events => (grants events).length ≤ counterMax)
      (fun _ state call h => ⟨h.1.effect (step_effect _ state call), h.2.step call⟩) ?bound
      (fun _ state call h hbound =>
        ledgerSpec_effect h.1 h.2 (step_effect _ state call) hbound)
      ⟨Numbered.new, Sound.new _⟩ calls hgrants
    case bound =>
      intro events e hbound
      rw [grants_append, List.length_append] at hbound
      omega
    rwa [SkeletonRuntimeState.ledger_new] at hrefines
  · intro pre call post _ before hfailed
    exact (step_effect _ before call).eq_of_failed hfailed

/-- A model with two slots. -/
def twoSlotModel (id : String) : ModelConfig where
  id := id
  family := id
  contextWindowTokens := 65536
  maxOutputTokens := 4096
  maxParallelReservations := 2
  tags := []

/-- A configuration with two models of two slots each. -/
def twoModelConfig : ComputeConfig :=
  { ComputeConfig.default ⟨[]⟩ with models := [twoSlotModel "gemma", twoSlotModel "qwen"] }

/-- A request for one slot. -/
def slotRequest (model consumer : String) : CreateReservationRequest where
  model := model
  consumer := consumer
  requestedSlots := 1

/-- Two grants, a refusal and a release, as a run of the specification. -/
theorem runtime_refines_ledger_gemma :
    Machine.SpecRun (LedgerSpec twoModelConfig) ∅
      ((runtimeMachine (SkeletonRuntimeAdapter.new twoModelConfig)).events .new
        [.createReservation (slotRequest "gemma" "alice") 1,
          .createReservation (slotRequest "gemma" "bob") 2,
          .createReservation (slotRequest "gemma" "carol") 3, .releaseReservation (resvId 1)])
      ((runtimeMachine (SkeletonRuntimeAdapter.new twoModelConfig)).exec .new
        [.createReservation (slotRequest "gemma" "alice") 1,
          .createReservation (slotRequest "gemma" "bob") 2,
          .createReservation (slotRequest "gemma" "carol") 3,
          .releaseReservation (resvId 1)]).ledger := by
  have hcalls : (4 : ℕ) ≤ counterMax := by decide
  refine (runtime_refines_ledger twoModelConfig _ ?_).1
  exact le_trans (length_grants_le _ _ _) hcalls

end X0xCompute
