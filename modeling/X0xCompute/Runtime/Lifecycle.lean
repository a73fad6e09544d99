import X0xCompute.Runtime.Reuse

/-!
# Which reservations are live

A reservation is live from its grant until a release of its id succeeds, as long as the
counter can number the grants. So the store can be read off the answers of a run.
-/

namespace X0xCompute

open Lib

/-- A release that succeeded. -/
def releasedEvent (reservationId : String) : RuntimeCall × RuntimeResponse :=
  (.releaseReservation reservationId, .released (.ok ()))

/-- What the events of a run say is live. -/
structure Tracking (events : List (RuntimeCall × RuntimeResponse))
    (state : SkeletonRuntimeState) : Prop where
  released : ∀ id, releasedEvent id ∈ events →
    id ∈ (grants events).map ModelReservation.reservationId
  live : ∀ reservation ∈ grants events,
    (state.reservations[reservation.reservationId]? = some reservation ↔
      releasedEvent reservation.reservationId ∉ events)

namespace Tracking

variable {adapter : SkeletonRuntimeAdapter} {events : List (RuntimeCall × RuntimeResponse)}
  {state next : SkeletonRuntimeState} {e : RuntimeCall × RuntimeResponse}

theorem new : Tracking [] .new where
  released := nofun
  live := nofun

/-- An event that grants nothing, releases nothing and leaves the reservations. -/
theorem quiet (h : Tracking events state) (hgranted : e.2.granted? = none)
    (hreleased : ∀ id, e ≠ releasedEvent id) (hnext : next.reservations = state.reservations) :
    Tracking (events ++ [e]) next := by
  have hgrants : grants (events ++ [e]) = grants events := by
    rw [grants_append]
    simp [grants, hgranted]
  have hevents : ∀ id, releasedEvent id ∈ events ++ [e] ↔ releasedEvent id ∈ events := by
    intro id
    rw [List.mem_append, List.mem_singleton, or_iff_left (hreleased id).symm]
  constructor
  · intro id hmem
    rw [hgrants]
    exact h.released id ((hevents id).mp hmem)
  · intro reservation hmem
    rw [hgrants] at hmem
    rw [hnext, hevents]
    exact h.live reservation hmem

theorem granted (h : Tracking events state) (hnumbered : Numbered events state)
    (call : RuntimeCall) (request : CreateReservationRequest) (now : U64)
    (hcall : ∀ id, call ≠ .releaseReservation id)
    (hbound : (grants events).length + 1 ≤ counterMax) :
    Tracking (events ++ [(call, .created (.ok (state.grant request now)))])
      (state.granted request now) := by
  have hgrants : grants (events ++ [(call, .created (.ok (state.grant request now)))]) =
      grants events ++ [state.grant request now] := by
    rw [grants_append]
    rfl
  have hfresh := hnumbered.fresh request now hbound
  have hevents : ∀ id, releasedEvent id ∈
      events ++ [(call, .created (.ok (state.grant request now)))] ↔
        releasedEvent id ∈ events := by
    intro id
    rw [List.mem_append, List.mem_singleton]
    refine or_iff_left ?_
    intro heq
    exact hcall id (congrArg Prod.fst heq).symm
  constructor
  · intro id hmem
    rw [hgrants, List.map_append]
    exact List.mem_append_left _ (h.released id ((hevents id).mp hmem))
  · intro reservation hmem
    rw [hgrants] at hmem
    rw [hevents, SkeletonRuntimeState.granted_reservations, getElem?_insert_eq]
    rcases List.mem_append.mp hmem with hmem | hmem
    · have hne : (state.grant request now).reservationId ≠ reservation.reservationId := by
        intro heq
        rw [heq] at hfresh
        exact hfresh (List.mem_map_of_mem hmem)
      rw [if_neg hne]
      exact h.live reservation hmem
    · rw [List.mem_singleton] at hmem
      subst hmem
      rw [if_pos rfl]
      refine iff_of_true rfl ?_
      intro hreleased
      exact hfresh (h.released _ hreleased)

theorem withdrawn (h : Tracking events state) (hnumbered : Numbered events state)
    {reservationId : String} {stored : ModelReservation}
    (hlive : state.reservations[reservationId]? = some stored) :
    Tracking (events ++ [releasedEvent reservationId]) (state.released reservationId) := by
  have hgrants : grants (events ++ [releasedEvent reservationId]) = grants events := by
    rw [grants_append]
    exact List.append_nil _
  constructor
  · intro id hmem
    rw [hgrants]
    rcases List.mem_append.mp hmem with hmem | hmem
    · exact h.released id hmem
    · rw [List.mem_singleton, releasedEvent, releasedEvent, Prod.mk.injEq,
        RuntimeCall.releaseReservation.injEq] at hmem
      obtain ⟨hid, hgranted⟩ := hnumbered.live _ _ hlive
      rw [hmem.1, ← hid]
      exact List.mem_map_of_mem hgranted
  · intro reservation hmem
    rw [hgrants] at hmem
    rw [SkeletonRuntimeState.released_reservations, getElem?_erase_eq, List.mem_append,
      List.mem_singleton, not_or]
    by_cases hid : reservationId = reservation.reservationId
    · subst hid
      rw [if_pos rfl]
      refine iff_of_false nofun ?_
      rintro ⟨-, hne⟩
      exact hne rfl
    · rw [if_neg hid, h.live reservation hmem]
      refine (and_iff_left ?_).symm
      intro heq
      rw [releasedEvent, releasedEvent, Prod.mk.injEq,
        RuntimeCall.releaseReservation.injEq] at heq
      exact hid heq.1.symm

/-- Every call keeps the tracking, while the counter can number the grants. -/
theorem effect (h : Tracking events state) (hnumbered : Numbered events state)
    {call : RuntimeCall} {response : RuntimeResponse}
    (heffect : CallEffect adapter state call response next)
    (hbound : (grants (events ++ [(call, response)])).length ≤ counterMax) :
    Tracking (events ++ [(call, response)]) next := by
  cases heffect with
  | granted _ now =>
    rw [grants_append, List.length_append] at hbound
    exact h.granted hnumbered _ _ now nofun hbound
  | released hlive => exact h.withdrawn hnumbered hlive
  | localModels | refused _ _ | reservations | missing _ | openaiModels | chatRefused _ _
  | chatted _ _ => exact h.quiet rfl nofun rfl

end Tracking

/-- Every run that grants no more than the counter can number is tracked. -/
theorem tracking_exec (adapter : SkeletonRuntimeAdapter) (calls : List RuntimeCall)
    (hbound : (grants ((runtimeMachine adapter).events .new calls)).length ≤ counterMax) :
    Tracking ((runtimeMachine adapter).events .new calls)
      ((runtimeMachine adapter).exec .new calls) := by
  have hhistory := (runtimeMachine adapter).exec_history
    (P := fun events state => Numbered events state ∧
      ((grants events).length ≤ counterMax → Tracking events state)) ?_
    ⟨Numbered.new, fun _ => Tracking.new⟩ calls
  · exact hhistory.2 hbound
  · rintro events state call ⟨hnumbered, htracking⟩
    have heffect := step_effect adapter state call
    refine ⟨hnumbered.effect heffect, ?_⟩
    intro hle
    refine (htracking ?_).effect hnumbered heffect hle
    rw [grants_append, List.length_append] at hle
    omega

/-- In such a run the live reservations are those granted and not released since. -/
theorem live_iff_granted (adapter : SkeletonRuntimeAdapter) (calls : List RuntimeCall)
    (hbound : (grants ((runtimeMachine adapter).events .new calls)).length ≤ counterMax)
    (reservation : ModelReservation) :
    reservation ∈ SkeletonRuntimeAdapter.reservations
        ((runtimeMachine adapter).exec .new calls) ↔
      reservation ∈ grants ((runtimeMachine adapter).events .new calls) ∧
        releasedEvent reservation.reservationId ∉
          (runtimeMachine adapter).events .new calls := by
  have hnumbered := numbered_exec adapter calls
  have htracking := tracking_exec adapter calls hbound
  rw [SkeletonRuntimeAdapter.reservations, mem_values_iff]
  refine ⟨?_, ?_⟩
  · rintro ⟨id, hstored⟩
    obtain ⟨hid, hgranted⟩ := hnumbered.live id reservation hstored
    rw [← hid] at hstored
    exact ⟨hgranted, (htracking.live reservation hgranted).mp hstored⟩
  · rintro ⟨hgranted, hkept⟩
    exact ⟨_, (htracking.live reservation hgranted).mpr hkept⟩

end X0xCompute
