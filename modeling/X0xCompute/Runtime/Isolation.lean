import X0xCompute.Runtime.Reuse

/-!
# Models do not compete

The calls that concern one model are answered as if the calls for other models had never
been made, up to the numbers of the reservations: all models share one counter, so the ids
of a model's reservations are renamed to the numbers they get when the model has the counter
for itself.
-/

namespace X0xCompute

open Lib

/-! ## Renaming -/

/-- The ids granted in a run, in order. -/
def grantedIds (events : List (RuntimeCall × RuntimeResponse)) : List String :=
  (grants events).map ModelReservation.reservationId

/-- The ids granted in a run for a model, in order. -/
def ownIds (model : String) (events : List (RuntimeCall × RuntimeResponse)) : List String :=
  ((grants events).filter (·.model = model)).map ModelReservation.reservationId

/-- The id that the model's own count of grants gives; an id that is none of the model's
stays. -/
def renamed (own : List String) (id : String) : String :=
  if id ∈ own then resvId (own.idxOf id + 1) else id

def ModelReservation.renamed (own : List String) (reservation : ModelReservation) :
    ModelReservation :=
  { reservation with reservationId := X0xCompute.renamed own reservation.reservationId }

/-- A call as the run of one model keeps it: no reservation for another model, no release of
another model's reservation and no chat. -/
def keptCall (model : String) (ids own : List String) : RuntimeCall → Option RuntimeCall
  | .createReservation request now =>
    if request.model = model then some (.createReservation request now) else none
  | .releaseReservation id =>
    if id ∈ ids ∧ id ∉ own then none else some (.releaseReservation (renamed own id))
  | .chatCompletion _ _ => none
  | call => some call

/-- Two answers agree on the model, up to the renaming. A listing of all reservations is not
compared. -/
def Agrees (model : String) (own : List String) : RuntimeResponse → RuntimeResponse → Prop
  | .created (.ok reservation), .created (.ok reservation') =>
    reservation' = reservation.renamed own
  | .created (.error error), .created (.error error') => error' = error
  | .released (.ok ()), .released (.ok ()) => True
  | .released (.error (.reservationNotFound id)),
      .released (.error (.reservationNotFound id')) => id' = renamed own id
  | .localModels models, .localModels models' =>
    models'.find? (·.id = model) = models.find? (·.id = model)
  | .openaiModels response, .openaiModels response' => response' = response
  | .reservations _, .reservations _ => True
  | _, _ => False

theorem keptCall_own {model : String} {request : CreateReservationRequest}
    (h : request.model = model) (ids own : List String) (now : U64) :
    keptCall model ids own (.createReservation request now) =
      some (.createReservation request now) := by
  rw [keptCall, if_pos h]

theorem model_eq_of_keptCall {model : String} {ids own : List String}
    {request : CreateReservationRequest} {now : U64} {call' : RuntimeCall}
    (h : keptCall model ids own (.createReservation request now) = some call') :
    request.model = model := by
  by_contra hmodel
  rw [keptCall, if_neg hmodel] at h
  cases h

/-- A release that is kept is of the model's own reservation, or of none. -/
theorem eq_release_of_keptCall {model : String} {ids own : List String} {id : String}
    {call' : RuntimeCall} (h : keptCall model ids own (.releaseReservation id) = some call') :
    (id ∈ ids → id ∈ own) ∧ call' = .releaseReservation (renamed own id) := by
  rw [keptCall] at h
  split at h
  · cases h
  · rename_i hnot
    cases h
    refine ⟨?_, rfl⟩
    intro hgranted
    by_contra hforeign
    exact hnot ⟨hgranted, hforeign⟩

theorem ownIds_append (model : String) (events events' : List (RuntimeCall × RuntimeResponse)) :
    ownIds model (events ++ events') = ownIds model events ++ ownIds model events' := by
  simp [ownIds, grants_append]

theorem ownIds_sublist (model : String) (events : List (RuntimeCall × RuntimeResponse)) :
    (ownIds model events).Sublist (grantedIds events) :=
  List.filter_sublist.map _

theorem renamed_of_notMem {own : List String} {id : String} (h : id ∉ own) :
    renamed own id = id := if_neg h

/-- The id granted after `own₁` gets the next number. -/
theorem renamed_of_split {own₁ own₂ : List String} {id : String}
    (h : (own₁ ++ id :: own₂).Nodup) :
    renamed (own₁ ++ id :: own₂) id = resvId (own₁.length + 1) := by
  have hnotMem : id ∉ own₁ := by
    intro hmem
    exact (List.nodup_append.mp h).2.2 id hmem id List.mem_cons_self rfl
  rw [renamed, if_pos (List.mem_append_right _ List.mem_cons_self),
    List.idxOf_append_of_notMem hnotMem, List.idxOf_cons_self, Nat.add_zero]

/-- Distinct ids of the model are renamed apart. -/
theorem renamed_inj {own : List String} {id id' : String} (h : id ∈ own) (h' : id' ∈ own) :
    renamed own id = renamed own id' ↔ id = id' := by
  refine ⟨?_, ?_⟩
  · intro heq
    rw [renamed, renamed, if_pos h, if_pos h'] at heq
    have hindex := resvId_injective heq
    exact (List.idxOf_inj h).mp (Nat.succ_inj.mp hindex)
  · rintro rfl
    rfl

/-! ## The relation between the two runs -/

/-- Two states have the same share of the model: `count` grants so far in the second, the
same slots, and the same reservations under the renaming; nothing is stored in the second
under an id the first run never grants. -/
structure SameShare (model : String) (ids own : List String) (count : ℕ)
    (state state' : SkeletonRuntimeState) : Prop where
  counter : state'.nextReservationId.toNat = count
  slots : state'.liveSlots model = state.liveSlots model
  stored : ∀ id ∈ own, state'.reservations[renamed own id]? =
    state.reservations[id]?.map (ModelReservation.renamed own)
  nothingElse : ∀ id, id ∉ ids → state'.reservations[id]? = none

namespace SameShare

variable {model : String} {ids own : List String} {count : ℕ}
  {state state' : SkeletonRuntimeState} {adapter : SkeletonRuntimeAdapter}

theorem new : SameShare model ids own 0 .new .new where
  counter := rfl
  slots := rfl
  stored := by
    intro id _
    rw [SkeletonRuntimeState.new, Std.ExtTreeMap.getElem?_empty, Std.ExtTreeMap.getElem?_empty]
    rfl
  nothingElse := by
    intro id _
    rw [SkeletonRuntimeState.new, Std.ExtTreeMap.getElem?_empty]

theorem reservedSlots_eq (h : SameShare model ids own count state state') :
    state'.reservedSlotsForModel model = state.reservedSlotsForModel model := by
  apply BitVec.eq_of_toNat_eq
  rw [state'.toNat_reservedSlotsForModel, state.toNat_reservedSlotsForModel, h.slots]

/-- A request for the model is refused alike. -/
theorem refusal_eq (h : SameShare model ids own count state state')
    {request : CreateReservationRequest} (hmodel : request.model = model) :
    adapter.refusal state' request = adapter.refusal state request := by
  unfold SkeletonRuntimeAdapter.refusal
  cases hlisted : adapter.models[request.model]? with
  | none => rfl
  | some config =>
    have hid := adapter.keyed _ _ hlisted
    simp only [hid, hmodel, h.reservedSlots_eq]

/-- The inventory has the same entry for the model. -/
theorem inventory_eq (h : SameShare model ids own count state state') :
    (adapter.localModels state').find? (·.id = model) =
      (adapter.localModels state).find? (·.id = model) := by
  have hfind : ∀ s : SkeletonRuntimeState, (adapter.localModels s).find? (·.id = model) =
      ((values adapter.models).find? (·.id = model)).map fun config =>
        adapter.inventoryForModel config (s.reservedSlotsForModel config.id) := by
    intro s
    rw [SkeletonRuntimeAdapter.localModels, List.find?_map]
    rfl
  rw [hfind, hfind]
  cases hconfig : (values adapter.models).find? (·.id = model) with
  | none => rfl
  | some config =>
    have hfound := List.find?_some hconfig
    have hid : config.id = model := of_decide_eq_true hfound
    rw [Option.map_some, Option.map_some, hid, h.reservedSlots_eq]

/-- A grant for the model gets the next number of the model, and the share stays the same. -/
theorem granted (h : SameShare model ids own count state state')
    {request : CreateReservationRequest} {now : U64}
    (hfresh : state.reservations[(state.grant request now).reservationId]? = none)
    (hown : (state.grant request now).reservationId ∈ own)
    (hrenamed : renamed own (state.grant request now).reservationId = resvId (count + 1))
    (hgranted : resvId (count + 1) ∈ ids) (hcount : count + 1 ≤ counterMax) :
    state'.grant request now = (state.grant request now).renamed own ∧
      SameShare model ids own (count + 1) (state.granted request now)
        (state'.granted request now) := by
  have hcounter : (satAdd state'.nextReservationId 1).toNat = count + 1 := by
    rw [Numbered.toNat_satAdd_counter (n := count) (by rw [h.counter]; omega)]
    omega
  have hid : (state'.grant request now).reservationId =
      renamed own (state.grant request now).reservationId := by
    rw [hrenamed, SkeletonRuntimeState.grant, hcounter]
  have hgrant : state'.grant request now = (state.grant request now).renamed own := by
    rw [ModelReservation.renamed, ← hid]
    rfl
  have hfresh' : state'.reservations[(state'.grant request now).reservationId]? = none := by
    rw [hid, h.stored _ hown, hfresh]
    rfl
  refine ⟨hgrant, ?_⟩
  constructor
  · rw [SkeletonRuntimeState.granted_nextReservationId, hcounter]
  · rw [state.liveSlots_granted hfresh, state'.liveSlots_granted hfresh', h.slots]
  · intro id hmem
    rw [SkeletonRuntimeState.granted_reservations, SkeletonRuntimeState.granted_reservations,
      getElem?_insert_eq, getElem?_insert_eq, hid, h.stored id hmem]
    by_cases hsame : (state.grant request now).reservationId = id
    · rw [if_pos ((renamed_inj hown hmem).mpr hsame), if_pos hsame, hgrant]
      rfl
    · rw [if_neg (mt (renamed_inj hown hmem).mp hsame), if_neg hsame]
  · intro id hnever
    rw [SkeletonRuntimeState.granted_reservations, getElem?_insert_eq, hid, hrenamed,
      if_neg, h.nothingElse id hnever]
    rintro rfl
    exact hnever hgranted

/-- A grant for another model changes nothing of the share. -/
theorem foreign_granted (h : SameShare model ids own count state state')
    {request : CreateReservationRequest} {now : U64} (hmodel : request.model ≠ model)
    (hfresh : state.reservations[(state.grant request now).reservationId]? = none)
    (hown : (state.grant request now).reservationId ∉ own) :
    SameShare model ids own count (state.granted request now) state' := by
  refine { h with slots := ?_, stored := ?_ }
  · rw [state.liveSlots_granted hfresh, if_neg hmodel, Nat.zero_add, h.slots]
  · intro id hmem
    rw [SkeletonRuntimeState.granted_reservations, getElem?_insert_eq, if_neg, h.stored id hmem]
    rintro rfl
    exact hown hmem

/-- A release of a reservation of the model is the release of the renamed one. -/
theorem released (h : SameShare model ids own count state state') {id : String}
    {reservation : ModelReservation} (hown : id ∈ own)
    (hlive : state.reservations[id]? = some reservation) :
    SameShare model ids own count (state.released id)
      (state'.released (renamed own id)) := by
  have hlive' : state'.reservations[renamed own id]? = some (reservation.renamed own) := by
    rw [h.stored id hown, hlive]
    rfl
  constructor
  · exact h.counter
  · have hslots := state.liveSlots_released hlive model
    have hslots' := state'.liveSlots_released hlive' model
    rw [h.slots, ← hslots] at hslots'
    exact Nat.add_left_cancel hslots'
  · intro id' hmem
    rw [SkeletonRuntimeState.released_reservations, SkeletonRuntimeState.released_reservations,
      getElem?_erase_eq, getElem?_erase_eq, h.stored id' hmem]
    by_cases hsame : id = id'
    · rw [if_pos ((renamed_inj hown hmem).mpr hsame), if_pos hsame]
      rfl
    · rw [if_neg (mt (renamed_inj hown hmem).mp hsame), if_neg hsame]
  · intro id' hnever
    rw [SkeletonRuntimeState.released_reservations, getElem?_erase_eq, h.nothingElse id' hnever,
      ite_self]

/-- A release of a reservation of another model changes nothing of the share. -/
theorem foreign_released (h : SameShare model ids own count state state') {id : String}
    {reservation : ModelReservation} (hown : id ∉ own)
    (hlive : state.reservations[id]? = some reservation) (hmodel : reservation.model ≠ model) :
    SameShare model ids own count (state.released id) state' := by
  refine { h with slots := ?_, stored := ?_ }
  · have hslots := state.liveSlots_released hlive model
    rw [if_neg hmodel, Nat.zero_add] at hslots
    rw [h.slots, hslots]
  · intro id' hmem
    rw [SkeletonRuntimeState.released_reservations, getElem?_erase_eq, if_neg, h.stored id' hmem]
    rintro rfl
    exact hown hmem

theorem chatted (h : SameShare model ids own count state state') :
    SameShare model ids own count state.chatted state' :=
  { h with slots := h.slots, stored := h.stored }

end SameShare

/-! ## Steps of the two runs -/

section Steps

variable {adapter : SkeletonRuntimeAdapter} {model : String}
  {events pre post : List (RuntimeCall × RuntimeResponse)}
  {state state' next last : SkeletonRuntimeState} {call : RuntimeCall}
  {response : RuntimeResponse}

theorem ownIds_of_granted?_eq_none {e : RuntimeCall × RuntimeResponse}
    (h : e.2.granted? = none) : ownIds model [e] = [] := by
  simp [ownIds, grants, h]

theorem ownIds_grant_own {request : CreateReservationRequest} (h : request.model = model)
    (call : RuntimeCall) (now : U64) :
    ownIds model [(call, .created (.ok (state.grant request now)))] =
      [(state.grant request now).reservationId] := by
  have hmodel : (state.grant request now).model = model := h
  simp [ownIds, grants, RuntimeResponse.granted?, hmodel]

theorem ownIds_grant_foreign {request : CreateReservationRequest} (h : request.model ≠ model)
    (call : RuntimeCall) (now : U64) :
    ownIds model [(call, .created (.ok (state.grant request now)))] = [] := by
  have hmodel : (state.grant request now).model ≠ model := h
  simp [ownIds, grants, RuntimeResponse.granted?, hmodel]

theorem mem_ownIds {reservation : ModelReservation} (hgranted : reservation ∈ grants events)
    (hmodel : reservation.model = model) : reservation.reservationId ∈ ownIds model events := by
  refine List.mem_map.mpr ⟨reservation, List.mem_filter.mpr ⟨hgranted, ?_⟩, rfl⟩
  exact decide_eq_true hmodel

/-- While ids are distinct, the id of another model's reservation is none of the model's. -/
theorem notMem_ownIds (hnodup : (grantedIds events).Nodup) {reservation : ModelReservation}
    (hgranted : reservation ∈ grants events) (hmodel : reservation.model ≠ model) :
    reservation.reservationId ∉ ownIds model events := by
  intro hmem
  rcases List.mem_map.mp hmem with ⟨other, hother, hid⟩
  rcases List.mem_filter.mp hother with ⟨hgranted', hmodel'⟩
  have hsame := List.inj_on_of_nodup_map hnodup hgranted' hgranted hid
  rw [hsame] at hmodel'
  exact hmodel (of_decide_eq_true hmodel')

/-- What is stored was granted by the whole run. -/
theorem stored_mem_grants (hpre : Numbered pre state) (hsplit : events = pre ++ post)
    {id : String} {reservation : ModelReservation}
    (hstored : state.reservations[id]? = some reservation) :
    reservation.reservationId = id ∧ reservation ∈ grants events := by
  obtain ⟨hid, hmem⟩ := hpre.live id reservation hstored
  rw [hsplit, grants_append]
  exact ⟨hid, List.mem_append_left _ hmem⟩

/-- The new grant of a run is fresh, as the whole run grants no more than the counter can
number. -/
theorem fresh_of_split (hpre : Numbered pre state)
    (hbound : (grants events).length ≤ counterMax) {request : CreateReservationRequest}
    {now : U64} (hsplit : events =
      pre ++ (call, .created (.ok (state.grant request now))) :: post) :
    state.reservations[(state.grant request now).reservationId]? = none := by
  apply hpre.fresh_reservations
  rw [hsplit, grants_append, List.length_append] at hbound
  have hone : 1 ≤ (grants ((call, .created (.ok (state.grant request now))) :: post)).length :=
    Nat.succ_le_succ (Nat.zero_le _)
  omega

/-- The model cards do not depend on the reservations. -/
theorem openaiModels_eq (adapter : SkeletonRuntimeAdapter)
    (state state' : SkeletonRuntimeState) :
    adapter.openaiModels state = adapter.openaiModels state' := by
  simp only [SkeletonRuntimeAdapter.openaiModels, SkeletonRuntimeAdapter.localModels,
    List.map_map]
  rfl

/-- A call that is dropped changes nothing of the model's share. -/
theorem SameShare.dropped (hrun : Numbered events last)
    (hbound : (grants events).length ≤ counterMax) (hpre : Numbered pre state)
    (hsplit : events = pre ++ (call, response) :: post)
    (heffect : CallEffect adapter state call response next)
    (h : SameShare model (grantedIds events) (ownIds model events) (ownIds model pre).length
      state state')
    (hdrop : keptCall model (grantedIds events) (ownIds model events) call = none) :
    SameShare model (grantedIds events) (ownIds model events)
      (ownIds model (pre ++ [(call, response)])).length next state' := by
  rw [ownIds_append, List.length_append]
  cases heffect with
  | @granted request _ now =>
    have hmodel : request.model ≠ model := by
      intro heq
      simp [keptCall, heq] at hdrop
    have hmem : state.grant request now ∈ grants events := by
      rw [hsplit, grants_append]
      exact List.mem_append_right _ List.mem_cons_self
    rw [ownIds_grant_foreign hmodel]
    exact h.foreign_granted hmodel (fresh_of_split hpre hbound hsplit)
      (notMem_ownIds (hrun.nodup_reservationIds_iff.mpr hbound) hmem hmodel)
  | @released id reservation hlive =>
    have hforeign : id ∈ grantedIds events ∧ id ∉ ownIds model events := by
      by_contra hnot
      rw [keptCall, if_neg hnot] at hdrop
      cases hdrop
    obtain ⟨hid, hmem⟩ := stored_mem_grants hpre hsplit hlive
    have hmodel : reservation.model ≠ model := by
      intro heq
      apply hforeign.2
      rw [← hid]
      exact mem_ownIds hmem heq
    rw [ownIds_of_granted?_eq_none rfl]
    exact h.foreign_released hforeign.2 hlive hmodel
  | chatted _ _ =>
    rw [ownIds_of_granted?_eq_none rfl]
    exact h.chatted
  | refused _ _ | missing _ | chatRefused _ _ =>
    rw [ownIds_of_granted?_eq_none rfl]
    exact h
  | localModels | reservations | openaiModels => cases hdrop

/-- The grant of a request for the model is made in both runs. -/
theorem SameShare.kept_grant (hrun : Numbered events last)
    (hbound : (grants events).length ≤ counterMax) (hpre : Numbered pre state)
    {request : CreateReservationRequest} {now : U64}
    (hsplit : events = pre ++ (call, .created (.ok (state.grant request now))) :: post)
    (h : SameShare model (grantedIds events) (ownIds model events) (ownIds model pre).length
      state state') (hmodel : request.model = model) :
    state'.grant request now = (state.grant request now).renamed (ownIds model events) ∧
      SameShare model (grantedIds events) (ownIds model events) ((ownIds model pre).length + 1)
        (state.granted request now) (state'.granted request now) := by
  have hown : ownIds model events = ownIds model pre ++
      (state.grant request now).reservationId :: ownIds model post := by
    rw [hsplit, ← List.singleton_append, ownIds_append, ownIds_append,
      ownIds_grant_own hmodel, List.singleton_append]
  have hmem : (state.grant request now).reservationId ∈ ownIds model events := by
    rw [hown]
    exact List.mem_append_right _ List.mem_cons_self
  have hsublist := ownIds_sublist model events
  have hlength : (ownIds model pre).length + 1 ≤ (grants events).length := by
    have hle := hsublist.length_le
    rw [hown, List.length_append, List.length_cons, grantedIds, List.length_map] at hle
    omega
  have hnodup : (grantedIds events).Nodup := hrun.nodup_reservationIds_iff.mpr hbound
  have hrenamed := renamed_of_split (hown ▸ hnodup.sublist hsublist)
  rw [← hown] at hrenamed
  have hgranted : resvId ((ownIds model pre).length + 1) ∈ grantedIds events := by
    rw [grantedIds, hrun.reservationIds]
    exact mem_numbered resvId hlength hbound
  exact h.granted (fresh_of_split hpre hbound hsplit) hmem hrenamed hgranted
    (le_trans hlength hbound)

/-- A call that is kept is answered alike in both runs and keeps the share the same. -/
theorem SameShare.kept (hrun : Numbered events last)
    (hbound : (grants events).length ≤ counterMax) (hpre : Numbered pre state)
    (hsplit : events = pre ++ (call, response) :: post)
    (heffect : CallEffect adapter state call response next)
    (h : SameShare model (grantedIds events) (ownIds model events) (ownIds model pre).length
      state state') {call' : RuntimeCall}
    (hkeep : keptCall model (grantedIds events) (ownIds model events) call = some call') :
    Agrees model (ownIds model events) response ((runtimeMachine adapter).step state' call').1 ∧
      SameShare model (grantedIds events) (ownIds model events)
        (ownIds model (pre ++ [(call, response)])).length next
        ((runtimeMachine adapter).step state' call').2 := by
  rw [ownIds_append, List.length_append]
  cases heffect with
  | refused hrefusal _ =>
    have hmodel := model_eq_of_keptCall hkeep
    rw [keptCall_own hmodel] at hkeep
    cases hkeep
    rw [← h.refusal_eq hmodel] at hrefusal
    rw [step_create_of_refusal hrefusal, ownIds_of_granted?_eq_none rfl]
    exact ⟨rfl, h⟩
  | granted haccepted _ =>
    have hmodel := model_eq_of_keptCall hkeep
    rw [keptCall_own hmodel] at hkeep
    cases hkeep
    rw [← h.refusal_eq hmodel] at haccepted
    rw [step_create_of_accepted haccepted, ownIds_grant_own hmodel]
    exact h.kept_grant hrun hbound hpre hsplit hmodel
  | @missing id hmissing =>
    obtain ⟨hkept, rfl⟩ := eq_release_of_keptCall hkeep
    have hmissing' : state'.reservations[renamed (ownIds model events) id]? = none := by
      by_cases hown : id ∈ ownIds model events
      · rw [h.stored id hown, hmissing]
        rfl
      · -- An id that is never granted stays as it is and names nothing in the second run.
        rw [renamed_of_notMem hown]
        exact h.nothingElse id (mt hkept hown)
    rw [step_release_of_missing hmissing', ownIds_of_granted?_eq_none rfl]
    exact ⟨rfl, h⟩
  | @released id reservation hlive =>
    obtain ⟨hkept, rfl⟩ := eq_release_of_keptCall hkeep
    obtain ⟨hid, hmem⟩ := stored_mem_grants hpre hsplit hlive
    have hown : id ∈ ownIds model events := hkept (List.mem_map.mpr ⟨reservation, hmem, hid⟩)
    have hlive' : state'.reservations[renamed (ownIds model events) id]? =
        some (reservation.renamed (ownIds model events)) := by
      rw [h.stored id hown, hlive]
      rfl
    rw [step_release_of_live hlive', ownIds_of_granted?_eq_none rfl]
    exact ⟨trivial, h.released hown hlive⟩
  | chatRefused _ _ | chatted _ _ => cases hkeep
  | localModels =>
    cases hkeep
    rw [ownIds_of_granted?_eq_none rfl]
    exact ⟨h.inventory_eq, h⟩
  | reservations =>
    cases hkeep
    rw [ownIds_of_granted?_eq_none rfl]
    exact ⟨trivial, h⟩
  | openaiModels =>
    cases hkeep
    rw [ownIds_of_granted?_eq_none rfl]
    exact ⟨openaiModels_eq adapter state' state, h⟩

end Steps

/-- Models do not compete with each other for slots. In a run with no more grants than the
counter can number, delete every reservation request for another model, every release of a
reservation those got, and every chat, and rename the ids of the model's reservations to
their numbers among themselves. Then every remaining call is answered as in the original
run, and leaves the same inventory entry for the model. -/
theorem models_do_not_compete (config : ComputeConfig) (calls : List RuntimeCall)
    (model : String)
    (hgrants : (grants ((runtimeMachine (SkeletonRuntimeAdapter.new config)).events .new
      calls)).length ≤ counterMax) :
    let adapter := SkeletonRuntimeAdapter.new config
    let machine := runtimeMachine adapter
    let events := machine.events .new calls
    let kept := keptCall model (grantedIds events) (ownIds model events)
    ∀ pre call post call', calls = pre ++ call :: post → kept call = some call' →
      let before := machine.exec .new pre
      let before' := machine.exec .new (pre.filterMap kept)
      Agrees model (ownIds model events) (machine.step before call).1
          (machine.step before' call').1 ∧
        (adapter.localModels (machine.step before' call').2).find? (·.id = model) =
          (adapter.localModels (machine.step before call).2).find? (·.id = model) := by
  intro adapter machine events kept pre call post call' hcalls hkeep before before'
  have hrun := numbered_exec adapter calls
  have hevents : ∀ pre call post, calls = pre ++ call :: post →
      events = machine.events .new pre ++
        (call, (machine.step (machine.exec .new pre) call).1) ::
          machine.events (machine.step (machine.exec .new pre) call).2 post := by
    rintro pre call post rfl
    exact machine.events_append .new pre (call :: post)
  have hshare := machine.exec_filterMap kept calls
    (R := fun pre state state' => SameShare model (grantedIds events) (ownIds model events)
      (ownIds model (machine.events .new pre)).length state state')
    SameShare.new ?drop ?keep pre (call :: post) hcalls
  case drop =>
    intro pre call post hsplit hdrop h
    rw [machine.events_snoc]
    exact h.dropped hrun hgrants (numbered_exec adapter pre) (hevents pre call post hsplit)
      (step_effect adapter _ call) hdrop
  case keep =>
    intro pre call post call' hsplit hkeep h
    rw [machine.events_snoc]
    exact (h.kept hrun hgrants (numbered_exec adapter pre) (hevents pre call post hsplit)
      (step_effect adapter _ call) hkeep).2
  obtain ⟨hagrees, hafter⟩ := hshare.kept hrun hgrants (numbered_exec adapter pre)
    (hevents pre call post hcalls) (step_effect adapter _ call) hkeep
  exact ⟨hagrees, hafter.inventory_eq⟩

/-- A grant after one for another model, as in the run without that one. -/
theorem models_do_not_compete_gemma :
    let adapter := SkeletonRuntimeAdapter.new twoModelConfig
    let machine := runtimeMachine adapter
    let calls : List RuntimeCall :=
      [.createReservation (slotRequest "qwen" "bob") 1,
        .createReservation (slotRequest "gemma" "alice") 2]
    let events := machine.events .new calls
    let kept := keptCall "gemma" (grantedIds events) (ownIds "gemma" events)
    let before := machine.exec .new [.createReservation (slotRequest "qwen" "bob") 1]
    let before' := machine.exec .new
      ([RuntimeCall.createReservation (slotRequest "qwen" "bob") 1].filterMap kept)
    Agrees "gemma" (ownIds "gemma" events)
      (machine.step before (.createReservation (slotRequest "gemma" "alice") 2)).1
      (machine.step before' (.createReservation (slotRequest "gemma" "alice") 2)).1 := by
  intro adapter machine calls events kept before before'
  have hcalls : calls.length ≤ counterMax := by decide
  have hgrants := le_trans (length_grants_le adapter .new calls) hcalls
  have hkept : kept (.createReservation (slotRequest "gemma" "alice") 2) =
      some (.createReservation (slotRequest "gemma" "alice") 2) :=
    keptCall_own rfl _ _ 2
  exact (models_do_not_compete twoModelConfig calls "gemma" hgrants _ _ [] _ rfl hkept).1

end X0xCompute
