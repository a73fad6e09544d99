import X0xCompute.Lib.Numbering
import X0xCompute.Runtime.Capacity

/-!
# The ids a run gives out

The ids of reservations and of completions come from two saturating counters. After any run
the ids given out so far are those numbered from one, and every live reservation is one that
was granted in the run, under its own id.
-/

namespace X0xCompute

open Lib

/-- The largest number a counter reaches. -/
def counterMax : ℕ := 2 ^ 64 - 1

theorem counterMax_pos : 0 < counterMax := by decide

/-- Different numbers have different ids, of six digits or more. -/
theorem resvId_injective : Function.Injective resvId :=
  fun _ _ h => append_zeroPadded_inj.mp h

example : resvId 7 = "resv-000007" ∧ resvId 1234567 = "resv-1234567" := by decide

theorem chatcmplId_injective : Function.Injective chatcmplId :=
  fun _ _ h => append_zeroPadded_inj.mp h

/-- The record of a successful reservation call. -/
def RuntimeResponse.granted? : RuntimeResponse → Option ModelReservation
  | .created (.ok reservation) => some reservation
  | _ => none

/-- The answer of a successful chat call. -/
def RuntimeResponse.completed? : RuntimeResponse → Option OpenAiChatCompletionResponse
  | .completed (.ok response) => some response
  | _ => none

/-- The reservations granted in a run, in order. -/
def grants (events : List (RuntimeCall × RuntimeResponse)) : List ModelReservation :=
  events.filterMap fun e => e.2.granted?

/-- The completions of a run, in order. -/
def completions (events : List (RuntimeCall × RuntimeResponse)) :
    List OpenAiChatCompletionResponse :=
  events.filterMap fun e => e.2.completed?

theorem grants_append (events events' : List (RuntimeCall × RuntimeResponse)) :
    grants (events ++ events') = grants events ++ grants events' := List.filterMap_append

theorem completions_append (events events' : List (RuntimeCall × RuntimeResponse)) :
    completions (events ++ events') = completions events ++ completions events' :=
  List.filterMap_append

/-- A run grants no more than it is called. -/
theorem length_grants_le (adapter : SkeletonRuntimeAdapter) (state : SkeletonRuntimeState)
    (calls : List RuntimeCall) :
    (grants ((runtimeMachine adapter).events state calls)).length ≤ calls.length := by
  have hlength := congrArg List.length ((runtimeMachine adapter).map_fst_events state calls)
  rw [List.length_map] at hlength
  rw [← hlength]
  exact List.length_filterMap_le _ _

/-- The numbering of a run: the counters have counted the successful calls up to their
largest value, these have got the ids numbered from one, and what is live was granted. -/
structure Numbered (events : List (RuntimeCall × RuntimeResponse))
    (state : SkeletonRuntimeState) : Prop where
  reservationCounter :
    state.nextReservationId.toNat = min (grants events).length counterMax
  completionCounter :
    state.nextCompletionId.toNat = min (completions events).length counterMax
  reservationIds :
    (grants events).map ModelReservation.reservationId =
      numbered counterMax resvId (grants events).length
  completionIds :
    (completions events).map OpenAiChatCompletionResponse.id =
      numbered counterMax chatcmplId (completions events).length
  live : ∀ (id : String) (reservation : ModelReservation),
    state.reservations[id]? = some reservation →
      reservation.reservationId = id ∧ reservation ∈ grants events

namespace Numbered

variable {adapter : SkeletonRuntimeAdapter} {events : List (RuntimeCall × RuntimeResponse)}
  {state : SkeletonRuntimeState}

theorem new : Numbered [] .new where
  reservationCounter := rfl
  completionCounter := rfl
  reservationIds := rfl
  completionIds := rfl
  live := by
    intro id reservation h
    rw [SkeletonRuntimeState.new, Std.ExtTreeMap.getElem?_empty] at h
    cases h

/-- A counter at the count of its uses, advanced once more. -/
theorem toNat_satAdd_counter {counter : U64} {n : ℕ} (h : counter.toNat = min n counterMax) :
    (satAdd counter 1).toNat = min (n + 1) counterMax := by
  have hone : (1 : U64).toNat = 1 := rfl
  rw [toNat_satAdd, h, hone, counterMax]
  omega

/-- An event that gives out no id and leaves the counters keeps the numbering. -/
theorem quiet (h : Numbered events state) {e : RuntimeCall × RuntimeResponse}
    (hgranted : e.2.granted? = none) (hcompleted : e.2.completed? = none)
    {next : SkeletonRuntimeState}
    (hreservation : next.nextReservationId = state.nextReservationId)
    (hcompletion : next.nextCompletionId = state.nextCompletionId)
    (hlive : ∀ (id : String) (reservation : ModelReservation),
      next.reservations[id]? = some reservation → state.reservations[id]? = some reservation) :
    Numbered (events ++ [e]) next := by
  have hgrants : grants (events ++ [e]) = grants events := by
    rw [grants_append]
    simp [grants, hgranted]
  have hcompletions : completions (events ++ [e]) = completions events := by
    rw [completions_append]
    simp [completions, hcompleted]
  constructor
  · rw [hgrants, hreservation, h.reservationCounter]
  · rw [hcompletions, hcompletion, h.completionCounter]
  · rw [hgrants, h.reservationIds]
  · rw [hcompletions, h.completionIds]
  · intro id reservation hstored
    rw [hgrants]
    exact h.live id reservation (hlive id reservation hstored)

/-- A grant takes the next number. -/
theorem granted (h : Numbered events state) (call : RuntimeCall)
    (request : CreateReservationRequest) (now : U64) :
    Numbered (events ++ [(call, .created (.ok (state.grant request now)))])
      (state.granted request now) := by
  have hgrants : grants (events ++ [(call, .created (.ok (state.grant request now)))]) =
      grants events ++ [state.grant request now] := by
    rw [grants_append]
    rfl
  have hcompletions :
      completions (events ++ [(call, .created (.ok (state.grant request now)))]) =
        completions events := by
    rw [completions_append]
    exact List.append_nil _
  have hcounter := toNat_satAdd_counter h.reservationCounter
  constructor
  · rw [hgrants, SkeletonRuntimeState.granted_nextReservationId, hcounter, List.length_append]
    rfl
  · rw [hcompletions, SkeletonRuntimeState.granted_nextCompletionId, h.completionCounter]
  · rw [hgrants, List.map_append, h.reservationIds, List.length_append, List.length_singleton,
      numbered_succ, ← hcounter]
    rfl
  · rw [hcompletions, h.completionIds]
  · intro id reservation hstored
    rw [SkeletonRuntimeState.granted_reservations, getElem?_insert_eq] at hstored
    rw [hgrants]
    split at hstored
    · rename_i hid
      cases hstored
      exact ⟨hid, List.mem_append_right _ List.mem_cons_self⟩
    · obtain ⟨hid, hmem⟩ := h.live id reservation hstored
      exact ⟨hid, List.mem_append_left _ hmem⟩

/-- A completion takes the next number. -/
theorem chatted (h : Numbered events state) (call : RuntimeCall)
    {response : OpenAiChatCompletionResponse}
    (hid : response.id = chatcmplId (satAdd state.nextCompletionId 1).toNat) :
    Numbered (events ++ [(call, .completed (.ok response))]) state.chatted := by
  have hgrants : grants (events ++ [(call, .completed (.ok response))]) = grants events := by
    rw [grants_append]
    exact List.append_nil _
  have hcompletions : completions (events ++ [(call, .completed (.ok response))]) =
      completions events ++ [response] := by
    rw [completions_append]
    rfl
  have hcounter := toNat_satAdd_counter h.completionCounter
  constructor
  · rw [hgrants, SkeletonRuntimeState.chatted_nextReservationId, h.reservationCounter]
  · rw [hcompletions, SkeletonRuntimeState.chatted_nextCompletionId, hcounter,
      List.length_append]
    rfl
  · rw [hgrants, h.reservationIds]
  · rw [hcompletions, List.map_append, h.completionIds, List.length_append,
      List.length_singleton, numbered_succ, ← hcounter, ← hid]
    rfl
  · intro id reservation hstored
    rw [hgrants]
    exact h.live id reservation hstored

/-- Every call keeps the numbering. -/
theorem effect (h : Numbered events state) {call : RuntimeCall} {response : RuntimeResponse}
    {next : SkeletonRuntimeState} (heffect : CallEffect adapter state call response next) :
    Numbered (events ++ [(call, response)]) next := by
  cases heffect with
  | granted _ now => exact h.granted _ _ now
  | chatted hid _ => exact h.chatted _ hid
  | released _ =>
    refine h.quiet rfl rfl rfl rfl ?_
    intro id reservation hstored
    rw [SkeletonRuntimeState.released_reservations, getElem?_erase_eq] at hstored
    split at hstored
    · cases hstored
    · exact hstored
  | localModels | refused _ _ | reservations | missing _ | openaiModels | chatRefused _ _ =>
    exact h.quiet rfl rfl rfl rfl fun _ _ hstored => hstored

/-- The reservation ids given out are distinct iff the counter could number them all. -/
theorem nodup_reservationIds_iff (h : Numbered events state) :
    ((grants events).map ModelReservation.reservationId).Nodup ↔
      (grants events).length ≤ counterMax := by
  rw [h.reservationIds]
  exact nodup_numbered_iff counterMax_pos resvId_injective

/-- And so are the completion ids. -/
theorem nodup_completionIds_iff (h : Numbered events state) :
    ((completions events).map OpenAiChatCompletionResponse.id).Nodup ↔
      (completions events).length ≤ counterMax := by
  rw [h.completionIds]
  exact nodup_numbered_iff counterMax_pos chatcmplId_injective

/-- The next reservation number has not been given out while the counter can still count. -/
theorem fresh (h : Numbered events state) (request : CreateReservationRequest) (now : U64)
    (hbound : (grants events).length + 1 ≤ counterMax) :
    (state.grant request now).reservationId ∉
      (grants events).map ModelReservation.reservationId := by
  have hcounter := toNat_satAdd_counter h.reservationCounter
  rw [h.reservationIds]
  show resvId (satAdd state.nextReservationId 1).toNat ∉ _
  rw [hcounter]
  exact notMem_numbered resvId_injective hbound

/-- So no live reservation has it. -/
theorem fresh_reservations (h : Numbered events state) (request : CreateReservationRequest)
    (now : U64) (hbound : (grants events).length + 1 ≤ counterMax) :
    state.reservations[(state.grant request now).reservationId]? = none := by
  rw [Option.eq_none_iff_forall_ne_some]
  intro reservation hstored
  obtain ⟨hid, hmem⟩ := h.live _ _ hstored
  apply h.fresh request now hbound
  exact List.mem_map.mpr ⟨reservation, hmem, hid⟩

/-- Whatever call made it, a new grant has an id that was not live. -/
theorem fresh_of_created (h : Numbered events state) {call : RuntimeCall}
    {reservation : ModelReservation} {next : SkeletonRuntimeState}
    (heffect : CallEffect adapter state call (.created (.ok reservation)) next)
    (hbound : (grants events).length + 1 ≤ counterMax) :
    state.reservations[reservation.reservationId]? = none := by
  cases heffect with
  | granted _ now => exact h.fresh_reservations _ now hbound

/-- What is stored under the id of a grant is that grant's own record, while the counter can
number the grants. -/
theorem eq_of_stored (h : Numbered events state)
    (hbound : (grants events).length ≤ counterMax) {reservation stored : ModelReservation}
    (hgranted : reservation ∈ grants events)
    (hstored : state.reservations[reservation.reservationId]? = some stored) :
    stored = reservation := by
  obtain ⟨hid, hmem⟩ := h.live _ _ hstored
  exact List.inj_on_of_nodup_map (h.nodup_reservationIds_iff.mpr hbound) hmem hgranted hid

end Numbered

/-- Every run is numbered. -/
theorem numbered_exec (adapter : SkeletonRuntimeAdapter) (calls : List RuntimeCall) :
    Numbered ((runtimeMachine adapter).events .new calls)
      ((runtimeMachine adapter).exec .new calls) :=
  Machine.exec_history _ (fun _ state call h => h.effect (step_effect adapter state call))
    Numbered.new calls

end X0xCompute
