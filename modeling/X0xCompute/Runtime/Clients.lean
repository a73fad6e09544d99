import X0xCompute.Runtime.Threads

/-!
# What the clients of the adapter hold

A client knows of the runtime what its calls returned. Over any schedule of the threads,
the reservations that were handed out and not yet asked to be released are among the live
ones, under distinct ids, so that they fit in the slots of their models together.
-/

namespace X0xCompute

open Lib

variable {adapter : SkeletonRuntimeAdapter} {state : SkeletonRuntimeState}

/-! ## What the clients were granted -/

/-- What an attempt can do to the reservations, and the grant it reports, if any. -/
inductive AttemptEffect (adapter : SkeletonRuntimeAdapter) (state : SkeletonRuntimeState) :
    Attempt RuntimeCall → Option RuntimeResponse → SkeletonRuntimeState → Prop where
  | quiet {attempt : Attempt RuntimeCall} {answer : Option RuntimeResponse}
      (h : answer.bind RuntimeResponse.granted? = none) :
      AttemptEffect adapter state attempt answer state
  | issued {request : CreateReservationRequest} {now : U64} {writes : ℕ} :
      AttemptEffect adapter state (.abandoned (.createReservation request now) writes) none
        state.issued
  | granted {request : CreateReservationRequest} {now : U64}
      (h : adapter.refusal state request = none) :
      AttemptEffect adapter state (.completed (.createReservation request now))
        (some (.created (.ok (state.grant request now)))) (state.granted request now)
  | unreported {request : CreateReservationRequest} {now : U64} {writes : ℕ}
      (h : adapter.refusal state request = none) :
      AttemptEffect adapter state (.abandoned (.createReservation request now) writes) none
        (state.granted request now)
  | released {attempt : Attempt RuntimeCall} {answer : Option RuntimeResponse}
      {reservationId : String} (hcall : attempt.call = .releaseReservation reservationId)
      (h : answer.bind RuntimeResponse.granted? = none) :
      AttemptEffect adapter state attempt answer (state.released reservationId)
  | chatted {attempt : Attempt RuntimeCall} {answer : Option RuntimeResponse}
      (h : answer.bind RuntimeResponse.granted? = none) :
      AttemptEffect adapter state attempt answer state.chatted

theorem abandoned_effect (call : RuntimeCall) (writes : ℕ) :
    AttemptEffect adapter state (.abandoned call writes) none
      ((RuntimeAttempt.abandoned call writes).final adapter state) := by
  cases call with
  | createReservation request now =>
    simp only [RuntimeAttempt.final, Guarded.abandoned, Guarded.writes,
      adapter.createReservation_run]
    cases hrefusal : adapter.refusal state request with
    | some error =>
      rw [List.take_nil]
      exact .quiet rfl
    | none =>
      cases writes with
      | zero => exact .quiet rfl
      | succ n =>
        cases n with
        | zero => exact .issued
        | succ n =>
          rw [List.take_succ_cons, List.take_succ_cons, List.take_nil]
          exact .unreported hrefusal
  | releaseReservation reservationId =>
    simp only [RuntimeAttempt.final, Guarded.abandoned, Guarded.writes,
      SkeletonRuntimeAdapter.releaseReservation_run]
    cases state.reservations[reservationId]? with
    | none =>
      rw [List.take_nil]
      exact .quiet rfl
    | some reservation =>
      cases writes with
      | zero => exact .quiet rfl
      | succ n =>
        rw [List.take_succ_cons, List.take_nil]
        exact .released rfl rfl
  | chatCompletion request now =>
    simp only [RuntimeAttempt.final, Guarded.abandoned, Guarded.writes]
    cases hrefusal : adapter.chatRefusal request with
    | some error =>
      rw [adapter.chatCompletion_run_of_refusal hrefusal, List.take_nil]
      exact .quiet rfl
    | none =>
      rw [adapter.chatCompletion_run_of_accepted hrefusal]
      cases writes with
      | zero => exact .quiet rfl
      | succ n =>
        rw [List.take_succ_cons, List.take_nil]
        exact .chatted rfl
  | localModels | reservations | openaiModels => exact .quiet rfl

theorem attempt_effect (attempt : Attempt RuntimeCall) :
    AttemptEffect adapter state attempt (adapter.locked.machine.step state attempt).1
      (adapter.locked.machine.step state attempt).2 := by
  cases attempt with
  | abandoned call writes =>
    rw [locked_step_snd]
    exact abandoned_effect call writes
  | completed call =>
    rw [locked_step_completed]
    have heffect := step_effect adapter state call
    generalize ((runtimeMachine adapter).step state call).1 = response at heffect ⊢
    generalize ((runtimeMachine adapter).step state call).2 = next at heffect ⊢
    cases heffect with
    | granted h now => exact .granted h
    | released h => exact .released rfl rfl
    | chatted hid now => exact .chatted rfl
    | localModels | refused | reservations | missing | openaiModels | chatRefused =>
      exact .quiet rfl

/-- A reservation request. -/
def RuntimeCall.creates : RuntimeCall → Bool
  | .createReservation _ _ => true
  | _ => false

/-- The reservations that were granted and reported to a caller, in order. -/
def reported (events : List (Attempt RuntimeCall × Option RuntimeResponse)) :
    List ModelReservation :=
  events.filterMap fun e => e.2.bind RuntimeResponse.granted?

theorem reported_concat (events : List (Attempt RuntimeCall × Option RuntimeResponse))
    (e : Attempt RuntimeCall × Option RuntimeResponse) :
    reported (events ++ [e]) =
      reported events ++ (e.2.bind RuntimeResponse.granted?).toList := by
  rw [reported, List.filterMap_append]
  cases h : e.2.bind RuntimeResponse.granted? <;> simp [h, reported]

/-- The reservation requests that took effect. -/
def creations (events : List (Attempt RuntimeCall × Option RuntimeResponse)) : ℕ :=
  events.countP fun e => e.1.call.creates

theorem creations_concat (events : List (Attempt RuntimeCall × Option RuntimeResponse))
    (e : Attempt RuntimeCall × Option RuntimeResponse) :
    creations (events ++ [e]) = creations events + if e.1.call.creates then 1 else 0 := by
  rw [creations, List.countP_append, List.countP_singleton]
  rfl

/-- What was reported has distinct ids, no larger than the counter, and is live unless a
release named it. -/
structure Traced (events : List (Attempt RuntimeCall × Option RuntimeResponse))
    (state : SkeletonRuntimeState) : Prop where
  counter : state.nextReservationId.toNat ≤ creations events
  named : ∀ reservation ∈ reported events, ∃ k ≤ state.nextReservationId.toNat,
    reservation.reservationId = resvId k
  distinct : ((reported events).map ModelReservation.reservationId).Nodup
  kept : ∀ reservation ∈ reported events,
    (∀ e ∈ events, e.1.call ≠ .releaseReservation reservation.reservationId) →
      state.reservations[reservation.reservationId]? = some reservation

namespace Traced

variable {events : List (Attempt RuntimeCall × Option RuntimeResponse)}
  {next : SkeletonRuntimeState} {attempt : Attempt RuntimeCall}
  {answer : Option RuntimeResponse}

theorem new : Traced [] .new where
  counter := Nat.zero_le _
  named := nofun
  distinct := List.nodup_nil
  kept := nofun

/-- An attempt that reports no grant and withdraws nothing but what it names. -/
theorem unreported (h : Traced events state)
    (hanswer : answer.bind RuntimeResponse.granted? = none)
    (hle : state.nextReservationId.toNat ≤ next.nextReservationId.toNat)
    (hcounter : next.nextReservationId.toNat ≤ creations (events ++ [(attempt, answer)]))
    (hkept : ∀ reservation ∈ reported events,
      attempt.call ≠ .releaseReservation reservation.reservationId →
        state.reservations[reservation.reservationId]? = some reservation →
          next.reservations[reservation.reservationId]? = some reservation) :
    Traced (events ++ [(attempt, answer)]) next := by
  have hreported : reported (events ++ [(attempt, answer)]) = reported events := by
    rw [reported_concat, hanswer, Option.toList_none, List.append_nil]
  constructor
  case counter => exact hcounter
  case named =>
    rw [hreported]
    intro reservation hmem
    rcases h.named reservation hmem with ⟨k, hk, hid⟩
    exact ⟨k, le_trans hk hle, hid⟩
  case distinct =>
    rw [hreported]
    exact h.distinct
  case kept =>
    rw [hreported]
    intro reservation hmem hlive
    have hlast := hlive (attempt, answer) (List.mem_append_right _ List.mem_cons_self)
    refine hkept reservation hmem hlast (h.kept reservation hmem ?_)
    intro e he
    exact hlive e (List.mem_append_left _ he)

/-- A counter that can still count. -/
theorem toNat_satAdd_of_lt (counter : U64) (h : counter.toNat < counterMax) :
    (satAdd counter 1).toNat = counter.toNat + 1 := by
  have hcounter : counter.toNat = min counter.toNat counterMax := by omega
  rw [Numbered.toNat_satAdd_counter hcounter]
  omega

/-- The id of the next grant was not reported before. -/
theorem fresh (h : Traced events state) (hbound : creations events < counterMax)
    (request : CreateReservationRequest) (now : U64) {reservation : ModelReservation}
    (hmem : reservation ∈ reported events) :
    (state.grant request now).reservationId ≠ reservation.reservationId := by
  rcases h.named reservation hmem with ⟨k, hk, hid⟩
  have hlt := lt_of_le_of_lt h.counter hbound
  rw [hid]
  intro heq
  have hnumber := resvId_injective heq
  rw [toNat_satAdd_of_lt _ hlt] at hnumber
  omega

/-- A grant that is reported. -/
theorem granted (h : Traced events state) (request : CreateReservationRequest) (now : U64)
    (hbound : creations (events ++ [(.completed (.createReservation request now),
      some (.created (.ok (state.grant request now))))]) ≤ counterMax) :
    Traced (events ++ [(.completed (.createReservation request now),
      some (.created (.ok (state.grant request now))))]) (state.granted request now) := by
  have hcreations := creations_concat events (.completed (.createReservation request now),
    some (.created (.ok (state.grant request now))))
  simp only [Attempt.call, RuntimeCall.creates, if_true] at hcreations
  have hcounter := h.counter
  have hadvanced := toNat_satAdd_of_lt state.nextReservationId (by omega)
  have hreported : reported (events ++ [(.completed (.createReservation request now),
      some (.created (.ok (state.grant request now))))]) =
        reported events ++ [state.grant request now] := by
    rw [reported_concat]
    rfl
  have hfresh : ∀ reservation ∈ reported events,
      (state.grant request now).reservationId ≠ reservation.reservationId :=
    fun reservation hmem => h.fresh (by omega) request now hmem
  constructor
  case counter =>
    rw [SkeletonRuntimeState.granted_nextReservationId]
    omega
  case named =>
    rw [hreported, SkeletonRuntimeState.granted_nextReservationId]
    intro reservation hmem
    rcases List.mem_append.mp hmem with hmem | hmem
    · rcases h.named reservation hmem with ⟨k, hk, hid⟩
      exact ⟨k, by omega, hid⟩
    · rw [List.mem_singleton] at hmem
      subst hmem
      exact ⟨_, le_rfl, rfl⟩
  case distinct =>
    rw [hreported, List.map_append, List.map_singleton, List.nodup_append]
    refine ⟨h.distinct, List.nodup_singleton _, ?_⟩
    intro id hid id' hid' heq
    rcases List.mem_map.mp hid with ⟨reservation, hmem, rfl⟩
    rw [List.mem_singleton] at hid'
    exact hfresh reservation hmem (heq.trans hid').symm
  case kept =>
    rw [hreported, SkeletonRuntimeState.granted_reservations]
    intro reservation hmem hlive
    rw [getElem?_insert_eq]
    rcases List.mem_append.mp hmem with hmem | hmem
    · rw [if_neg (hfresh reservation hmem)]
      apply h.kept reservation hmem
      intro e he
      exact hlive e (List.mem_append_left _ he)
    · rw [List.mem_singleton] at hmem
      subst hmem
      rw [if_pos rfl]

/-- Every attempt keeps the trace, while the counter can number the requests. -/
theorem effect (h : Traced events state)
    (heffect : AttemptEffect adapter state attempt answer next)
    (hbound : creations (events ++ [(attempt, answer)]) ≤ counterMax) :
    Traced (events ++ [(attempt, answer)]) next := by
  have hcreations := creations_concat events (attempt, answer)
  have hcounter := h.counter
  cases heffect with
  | quiet hanswer =>
    exact h.unreported hanswer le_rfl (by omega) fun _ _ _ hstored => hstored
  | chatted hanswer =>
    exact h.unreported hanswer le_rfl (by show state.nextReservationId.toNat ≤ _; omega)
      fun _ _ _ hstored => hstored
  | released hcall hanswer =>
    refine h.unreported hanswer le_rfl (by show state.nextReservationId.toNat ≤ _; omega) ?_
    intro reservation hmem hne hstored
    rw [SkeletonRuntimeState.released_reservations, getElem?_erase_eq, if_neg, hstored]
    rintro rfl
    exact hne hcall
  | @issued request now writes =>
    have hnext : creations (events ++ [(.abandoned (.createReservation request now) writes,
        none)]) = creations events + 1 := hcreations
    have hadvanced := toNat_satAdd_of_lt state.nextReservationId (by omega)
    refine h.unreported rfl ?_ ?_ fun _ _ _ hstored => hstored
    · show _ ≤ (satAdd state.nextReservationId 1).toNat
      omega
    · show (satAdd state.nextReservationId 1).toNat ≤ _
      omega
  | @unreported request now writes haccepted =>
    have hnext : creations (events ++ [(.abandoned (.createReservation request now) writes,
        none)]) = creations events + 1 := hcreations
    have hadvanced := toNat_satAdd_of_lt state.nextReservationId (by omega)
    refine h.unreported rfl ?_ ?_ ?_
    · rw [SkeletonRuntimeState.granted_nextReservationId]
      omega
    · rw [SkeletonRuntimeState.granted_nextReservationId]
      omega
    · intro reservation hmem _ hstored
      rw [SkeletonRuntimeState.granted_reservations, getElem?_insert_eq,
        if_neg (h.fresh (by omega) request now hmem), hstored]
  | @granted request now haccepted => exact h.granted request now hbound

end Traced

/-- Every run of attempts with no more reservation requests than the counter can number is
traced. -/
theorem traced_exec (attempts : List (Attempt RuntimeCall))
    (hbound : creations (adapter.locked.machine.events .new attempts) ≤ counterMax) :
    Traced (adapter.locked.machine.events .new attempts)
      (adapter.locked.machine.exec .new attempts) := by
  have hhistory := adapter.locked.machine.exec_history
    (P := fun events state => creations events ≤ counterMax → Traced events state) ?_
    (fun _ => Traced.new) attempts
  · exact hhistory hbound
  · intro events state attempt h hle
    have hcreations := creations_concat events
      (attempt, (adapter.locked.machine.step state attempt).1)
    exact (h (by omega)).effect (attempt_effect attempt) hle

/-- Clients that hold different reservations hold no more than the slots together. -/
theorem sum_slots_le_liveSlots {model : String} {held : List ModelReservation}
    (hdistinct : (held.map ModelReservation.reservationId).Nodup)
    (hheld : ∀ reservation ∈ held, reservation.model = model ∧
      state.reservations[reservation.reservationId]? = some reservation) :
    (held.map fun reservation => reservation.requestedSlots.toNat).sum ≤
      state.liveSlots model := by
  have hsubset : held ⊆ state.liveOn model := by
    intro reservation hmem
    obtain ⟨hmodel, hstored⟩ := hheld reservation hmem
    rw [SkeletonRuntimeState.liveOn, List.mem_filter]
    exact ⟨mem_values_iff.mpr ⟨_, hstored⟩, decide_eq_true hmodel⟩
  rcases List.subperm_of_subset hdistinct.of_map hsubset with ⟨part, hperm, hsub⟩
  rw [← (hperm.map _).sum_eq]
  exact (hsub.map _).sum_le_sum fun _ _ => Nat.zero_le _

/-! ## Every schedule -/

variable {τ : Type} [DecidableEq τ]
  {sys : Threads τ SkeletonRuntimeState RuntimeCall RuntimeResponse}

/-- At every moment the state is sound, also while a thread is making its writes. -/
theorem sound_of_reaches (h : adapter.locked.Reaches .new sys) : Sound adapter sys.value := by
  rcases h.exists_attempts with ⟨attempts, hvalue⟩
  rw [hvalue, locked_exec]
  exact sound_exec adapter _

/-- What the effects so far reported, and what it says of the state they leave. -/
theorem traced_of_reaches (h : adapter.locked.Reaches .new sys)
    (hbound : (sys.effects.countP fun effect => effect.attempt.call.creates) ≤ counterMax) :
    Traced (sys.effects.map fun effect => (effect.attempt, effect.answer))
      (adapter.locked.settled .new sys.effects) := by
  rw [← h.linearized.legal]
  apply traced_exec
  rw [h.linearized.legal, creations, List.countP_map]
  exact hbound

theorem mem_reported_of_effect {effects : List (Effect RuntimeCall RuntimeResponse)}
    {number : ℕ} {call : RuntimeCall} {reservation : ModelReservation}
    (h : ⟨number, .completed call, some (.created (.ok reservation))⟩ ∈ effects) :
    reservation ∈ reported (effects.map fun effect => (effect.attempt, effect.answer)) := by
  rw [reported, List.filterMap_map, List.mem_filterMap]
  exact ⟨_, h, rfl⟩

/-- Elements that give rise to the same name are the same, where names are distinct. -/
theorem eq_of_nodup_filterMap {α β γ : Type} {f : α → Option β} {g : β → γ} {l : List α}
    (h : ((l.filterMap f).map g).Nodup) {x y : α} {b c : β} (hx : x ∈ l) (hy : y ∈ l)
    (hb : f x = some b) (hc : f y = some c) (heq : g b = g c) : x = y := by
  induction l with
  | nil => cases hx
  | cons a l ih =>
    rcases List.mem_cons.mp hx with rfl | hxl <;> rcases List.mem_cons.mp hy with rfl | hyl
    · rfl
    · rw [List.filterMap_cons_some hb, List.map_cons, List.nodup_cons] at h
      exact absurd (List.mem_map.mpr ⟨c, List.mem_filterMap.mpr ⟨y, hyl, hc⟩, heq.symm⟩) h.1
    · rw [List.filterMap_cons_some hc, List.map_cons, List.nodup_cons] at h
      exact absurd (List.mem_map.mpr ⟨b, List.mem_filterMap.mpr ⟨x, hxl, hb⟩, heq⟩) h.1
    · exact ih (h.sublist (((List.sublist_cons_self a l).filterMap f).map g)) hxl hyl

/-- Calls that were granted reservations of one id are one call. -/
theorem number_eq_of_reservationId_eq {effects : List (Effect RuntimeCall RuntimeResponse)}
    (hdistinct : ((reported (effects.map fun effect => (effect.attempt, effect.answer))).map
      ModelReservation.reservationId).Nodup) {n m : ℕ} {call call' : RuntimeCall}
    {reservation reservation' : ModelReservation}
    (h : ⟨n, .completed call, some (.created (.ok reservation))⟩ ∈ effects)
    (h' : ⟨m, .completed call', some (.created (.ok reservation'))⟩ ∈ effects)
    (hid : reservation.reservationId = reservation'.reservationId) : n = m := by
  rw [reported, List.filterMap_map] at hdistinct
  exact congrArg Effect.number (eq_of_nodup_filterMap hdistinct h h' rfl rfl hid)

/-- What clients hold fits. However the threads interleave, and wherever one panics while it
holds the lock, as long as no more reservation requests took effect than the counter can
number: no two requests got reservations of one id; the reservations of a model that were
handed out, and whose release nobody has asked for, take no more slots together than the
model has; and at no moment, also between two writes, does the state reserve more. -/
theorem clients_within_capacity (config : ComputeConfig)
    (h : (SkeletonRuntimeAdapter.new config).locked.Reaches .new sys)
    (hbound : (sys.effects.countP fun effect => effect.attempt.call.creates) ≤ counterMax) :
    (∀ n m reservation reservation',
      .returned n (.created (.ok reservation)) ∈ sys.history →
      .returned m (.created (.ok reservation')) ∈ sys.history →
      reservation.reservationId = reservation'.reservationId → n = m) ∧
    ∀ id model, config.configuredModel id = some model →
      (∀ held : List ModelReservation,
        (held.map ModelReservation.reservationId).Nodup →
        (∀ reservation ∈ held, reservation.model = id ∧
          (∃ n, .returned n (.created (.ok reservation)) ∈ sys.history) ∧
          ∀ n, .invoked n (.releaseReservation reservation.reservationId) ∉ sys.history) →
        (held.map fun reservation => reservation.requestedSlots.toNat).sum ≤
          model.maxParallelReservations.toNat) ∧
      sys.value.liveSlots id ≤ model.maxParallelReservations.toNat := by
  have hlinearized := h.linearized
  have htraced := traced_of_reaches h hbound
  refine ⟨?ids, ?slots⟩
  case ids =>
    intro n m reservation reservation' hn hm hid
    rcases hlinearized.returned _ _ hn with ⟨call, hcall⟩
    rcases hlinearized.returned _ _ hm with ⟨call', hcall'⟩
    exact number_eq_of_reservationId_eq htraced.distinct hcall hcall' hid
  case slots =>
    intro id model hmodel
    have hcapacity : (SkeletonRuntimeAdapter.new config).capacity id =
        model.maxParallelReservations.toNat := by
      apply SkeletonRuntimeAdapter.capacity_of_models
      rw [getElem?_models_new, hmodel]
    rw [← hcapacity]
    refine ⟨?_, (sound_of_reaches h).liveSlots_le id⟩
    intro held hdistinct hheld
    have hsound : Sound (SkeletonRuntimeAdapter.new config)
        ((SkeletonRuntimeAdapter.new config).locked.settled .new sys.effects) := by
      rw [Locked.settled, locked_exec]
      exact sound_exec _ _
    refine le_trans (sum_slots_le_liveSlots hdistinct ?_) (hsound.liveSlots_le id)
    intro reservation hmem
    obtain ⟨hon, ⟨n, hreturned⟩, hkept⟩ := hheld reservation hmem
    rcases hlinearized.returned _ _ hreturned with ⟨call, hcall⟩
    refine ⟨hon, htraced.kept reservation (mem_reported_of_effect hcall) ?_⟩
    intro e he hrelease
    rcases List.mem_map.mp he with ⟨effect, heffect, rfl⟩
    have hinvoked := hlinearized.invoked effect heffect
    rw [show effect.attempt.call = _ from hrelease] at hinvoked
    exact hkept _ hinvoked

/-- In the race the one reservation handed out fits. -/
theorem clients_within_capacity_raced :
    ∃ sys : Threads Bool SkeletonRuntimeState RuntimeCall RuntimeResponse,
      (SkeletonRuntimeAdapter.new twoModelConfig).locked.Reaches .new sys ∧
        .returned 1 (.created (.ok racedReservation)) ∈ sys.history ∧
        racedReservation.requestedSlots.toNat ≤ 2 ∧ sys.value.liveSlots "gemma" ≤ 2 := by
  rcases exists_raced with ⟨sys, hreaches, hhistory, heffects⟩
  have hcalls : (2 : ℕ) ≤ counterMax := by decide
  have hmodel : twoModelConfig.configuredModel "gemma" = some (twoSlotModel "gemma") := rfl
  have hreturned : .returned 1 (.created (.ok racedReservation)) ∈ sys.history := by
    rw [hhistory]
    exact List.mem_cons_of_mem _ (List.mem_cons_of_mem _ List.mem_cons_self)
  have hfits := (clients_within_capacity twoModelConfig hreaches (by
    rw [heffects]
    exact hcalls)).2 "gemma" _ hmodel
  refine ⟨sys, hreaches, hreturned, ?_, hfits.2⟩
  refine hfits.1 [racedReservation] (List.nodup_singleton _) ?_
  intro reservation hmem
  rw [List.mem_singleton] at hmem
  subst hmem
  refine ⟨rfl, ⟨1, hreturned⟩, ?_⟩
  intro n hrelease
  rw [hhistory] at hrelease
  rcases List.mem_cons.mp hrelease with heq | hrelease
  · cases heq
  · rcases List.mem_cons.mp hrelease with heq | hrelease
    · cases heq
    · rw [List.mem_singleton] at hrelease
      cases hrelease

end X0xCompute
