import X0xCompute.Runtime.Refinement

/-!
# When an id is given out twice

The counters saturate, so ids are distinct in the runs that do not exhaust them and in no
others. While they are distinct, a grant never replaces a live reservation and a release
removes at most the reservation its id was granted for.
-/

namespace X0xCompute

open Lib

/-- A release changes nothing at other ids. -/
theorem getElem?_step_release_of_ne {adapter : SkeletonRuntimeAdapter}
    (state : SkeletonRuntimeState) {reservationId id : String} (hne : id ≠ reservationId) :
    ((runtimeMachine adapter).step state
        (.releaseReservation reservationId)).2.reservations[id]? = state.reservations[id]? := by
  cases hlive : state.reservations[reservationId]? with
  | none => rw [step_release_of_missing hlive]
  | some stored =>
    rw [step_release_of_live hlive, SkeletonRuntimeState.released_reservations,
      getElem?_erase_eq, if_neg (Ne.symm hne)]

/-- The grants of a run include those of a shorter one. -/
theorem length_grants_prefix_le (adapter : SkeletonRuntimeAdapter) (state : SkeletonRuntimeState)
    (pre post : List RuntimeCall) :
    (grants ((runtimeMachine adapter).events state pre)).length ≤
      (grants ((runtimeMachine adapter).events state (pre ++ post))).length := by
  rw [Machine.events_append, grants_append, List.length_append]
  exact Nat.le_add_right _ _

/-- The ids of the reservations of a run are distinct iff no more of them were granted than
the counter can number, and so are the ids of its completions. In a run with no more grants
than that, the id of a new grant is not live, what is stored under the id of a grant is that
grant's own record, and releasing it changes no other entry. -/
theorem ids_distinct_iff (config : ComputeConfig) (calls : List RuntimeCall) :
    let machine := runtimeMachine (SkeletonRuntimeAdapter.new config)
    let events := machine.events .new calls
    (((grants events).map ModelReservation.reservationId).Nodup ↔
      (grants events).length ≤ counterMax) ∧
    (((completions events).map OpenAiChatCompletionResponse.id).Nodup ↔
      (completions events).length ≤ counterMax) ∧
    ((grants events).length ≤ counterMax →
      (∀ pre call post reservation, calls = pre ++ call :: post →
        (machine.step (machine.exec .new pre) call).1 = .created (.ok reservation) →
        (machine.exec .new pre).reservations[reservation.reservationId]? = none) ∧
      ∀ pre post reservation, calls = pre ++ post →
        reservation ∈ grants (machine.events .new pre) →
        (∀ stored, (machine.exec .new pre).reservations[reservation.reservationId]? =
          some stored → stored = reservation) ∧
        ∀ id, id ≠ reservation.reservationId →
          (machine.step (machine.exec .new pre)
              (.releaseReservation reservation.reservationId)).2.reservations[id]? =
            (machine.exec .new pre).reservations[id]?) := by
  intro machine events
  have hnumbered := numbered_exec (SkeletonRuntimeAdapter.new config) calls
  refine ⟨?reservations, ?completions, ?apart⟩
  case reservations => exact hnumbered.nodup_reservationIds_iff
  case completions => exact hnumbered.nodup_completionIds_iff
  case apart =>
    intro hbound
    refine ⟨?_, ?_⟩
    · rintro pre call post reservation rfl hcreated
      have hpre := numbered_exec (SkeletonRuntimeAdapter.new config) pre
      have hlength := length_grants_prefix_le (SkeletonRuntimeAdapter.new config) .new
        (pre ++ [call]) post
      rw [List.append_assoc, List.singleton_append, Machine.events_snoc, grants_append,
        hcreated, List.length_append] at hlength
      have hnext : (grants (machine.events .new pre)).length + 1 ≤ counterMax :=
        le_trans hlength hbound
      have heffect := step_effect (SkeletonRuntimeAdapter.new config) (machine.exec .new pre) call
      rw [hcreated] at heffect
      exact hpre.fresh_of_created heffect hnext
    · rintro pre post reservation rfl hgranted
      have hpre := numbered_exec (SkeletonRuntimeAdapter.new config) pre
      have hlength := length_grants_prefix_le (SkeletonRuntimeAdapter.new config) .new pre post
      refine ⟨?_, fun id hne => getElem?_step_release_of_ne _ hne⟩
      intro stored hstored
      exact hpre.eq_of_stored (le_trans hlength hbound) hgranted hstored

/-! ## A run that exhausts the counter -/

/-- The state after `n` reservations that were granted and released. -/
def idle (n : ℕ) : SkeletonRuntimeState where
  nextReservationId := BitVec.ofNat 64 n
  nextCompletionId := 0
  reservations := ∅

/-- `n` reservations, each released before the next. -/
def rounds : ℕ → List RuntimeCall
  | 0 => []
  | n + 1 =>
    rounds n ++
      [.createReservation (slotRequest "gemma" "alice") 0, .releaseReservation (resvId (n + 1))]

theorem sound_idle (adapter : SkeletonRuntimeAdapter) (n : ℕ) : Sound adapter (idle n) where
  storedWell := (Sound.new adapter).storedWell
  withinCapacity := (Sound.new adapter).withinCapacity

/-- A consumer with a name gets a slot of the model while one is free. -/
theorem gemma_refusal_eq_none {state : SkeletonRuntimeState}
    (h : Sound (SkeletonRuntimeAdapter.new twoModelConfig) state) (consumer : String)
    (hconsumer : trim consumer ≠ "") (hfree : state.liveSlots "gemma" ≤ 1) :
    (SkeletonRuntimeAdapter.new twoModelConfig).refusal state (slotRequest "gemma" consumer) =
      none := by
  rw [h.refusal_eq_none_iff]
  have hslots : (1 : U16) ≠ 0 := by decide
  refine ⟨hconsumer, hslots, _, (getElem?_models_new twoModelConfig "gemma").trans rfl, ?_⟩
  exact Nat.add_le_add_left hfree 1

theorem satAdd_ofNat {n : ℕ} (h : n + 1 ≤ counterMax) :
    satAdd (BitVec.ofNat 64 n) 1 = BitVec.ofNat 64 (n + 1) := by
  have hone : (1 : U64).toNat = 1 := rfl
  apply BitVec.eq_of_toNat_eq
  rw [toNat_satAdd, BitVec.toNat_ofNat, BitVec.toNat_ofNat, hone]
  unfold counterMax at h
  omega

theorem liveSlots_idle (n : ℕ) (model : String) : (idle n).liveSlots model = 0 := by
  rw [(idle n).liveSlots_eq_usage]
  have hledger : (idle n).ledger = ∅ := SkeletonRuntimeState.ledger_new
  rw [hledger, Ledger.usage_empty]

/-- What an idle runtime grants next has the next number. -/
theorem reservationId_grant_idle {n : ℕ} (h : n + 1 ≤ counterMax)
    (request : CreateReservationRequest) (now : U64) :
    ((idle n).grant request now).reservationId = resvId (n + 1) := by
  have hlt : n + 1 < 2 ^ 64 := by
    unfold counterMax at h
    omega
  show resvId (satAdd (BitVec.ofNat 64 n) 1).toNat = resvId (n + 1)
  rw [satAdd_ofNat h, BitVec.toNat_ofNat, Nat.mod_eq_of_lt hlt]

/-- One round takes the next number and leaves nothing stored. -/
theorem exec_round {n : ℕ} (h : n + 1 ≤ counterMax) :
    (runtimeMachine (SkeletonRuntimeAdapter.new twoModelConfig)).exec (idle n)
      [.createReservation (slotRequest "gemma" "alice") 0, .releaseReservation (resvId (n + 1))] =
        idle (n + 1) := by
  have haccepted := gemma_refusal_eq_none (sound_idle _ n) "alice" (by decide)
    (by rw [liveSlots_idle]; exact Nat.zero_le 1)
  have hid := reservationId_grant_idle h (slotRequest "gemma" "alice") 0
  have hlive : ((idle n).granted (slotRequest "gemma" "alice") 0).reservations[resvId (n + 1)]? =
      some ((idle n).grant (slotRequest "gemma" "alice") 0) := by
    rw [SkeletonRuntimeState.granted_reservations, getElem?_insert_eq, if_pos hid]
  rw [Machine.exec_cons, step_create_of_accepted haccepted, Machine.exec_cons,
    step_release_of_live hlive, Machine.exec_nil]
  have hempty : ((idle n).granted (slotRequest "gemma" "alice") 0).reservations.erase
      (resvId (n + 1)) = ∅ := by
    apply Std.ExtTreeMap.ext_getElem?
    intro k
    rw [getElem?_erase_eq, SkeletonRuntimeState.granted_reservations, getElem?_insert_eq, hid]
    split
    · rw [Std.ExtTreeMap.getElem?_empty]
    · rfl
  rw [SkeletonRuntimeState.released, hempty, SkeletonRuntimeState.granted_nextReservationId,
    SkeletonRuntimeState.granted_nextCompletionId]
  simp only [idle, satAdd_ofNat h]

/-- `n` rounds leave the counter at `n`. -/
theorem exec_rounds {n : ℕ} (h : n ≤ counterMax) :
    (runtimeMachine (SkeletonRuntimeAdapter.new twoModelConfig)).exec .new (rounds n) = idle n := by
  induction n with
  | zero => rfl
  | succ n ih =>
    rw [rounds, Machine.exec_append, ih (by omega), exec_round h]

theorem satAdd_idle_counterMax {n : ℕ} (h : n = counterMax) :
    satAdd (idle n).nextReservationId 1 = (idle n).nextReservationId := by
  have hone : (1 : U64).toNat = 1 := rfl
  apply BitVec.eq_of_toNat_eq
  rw [toNat_satAdd, hone, idle, BitVec.toNat_ofNat, h, counterMax]
  omega

/-- Two consumers ask for a slot each. -/
def aliceAndBob : List RuntimeCall :=
  [.createReservation (slotRequest "gemma" "alice") 1,
    .createReservation (slotRequest "gemma" "bob") 2]

/-- What the first of them gets from an idle runtime. -/
def aliceGrant (n : ℕ) : ModelReservation := (idle n).grant (slotRequest "gemma" "alice") 1

/-- And what the second gets then. -/
def bobGrant (n : ℕ) : ModelReservation :=
  ((idle n).granted (slotRequest "gemma" "alice") 1).grant (slotRequest "gemma" "bob") 2

/-- From an idle runtime both get a slot, and their records are entered one after the other. -/
theorem run_aliceAndBob (n : ℕ) :
    grants ((runtimeMachine (SkeletonRuntimeAdapter.new twoModelConfig)).events (idle n)
        aliceAndBob) = [aliceGrant n, bobGrant n] ∧
      ((runtimeMachine (SkeletonRuntimeAdapter.new twoModelConfig)).exec (idle n)
        aliceAndBob).reservations =
          ((∅ : Std.ExtTreeMap String ModelReservation).insert (aliceGrant n).reservationId
            (aliceGrant n)).insert (bobGrant n).reservationId (bobGrant n) := by
  have hsound := sound_idle (SkeletonRuntimeAdapter.new twoModelConfig) n
  have halice := gemma_refusal_eq_none hsound "alice" (by decide)
    (by rw [liveSlots_idle]; exact Nat.zero_le 1)
  have hshare : Ledger.share Grant.model Grant.slots (aliceGrant n).grant "gemma" = 1 :=
    if_pos rfl
  have hlive : ((idle n).granted (slotRequest "gemma" "alice") 1).liveSlots "gemma" ≤ 1 := by
    have hinsert := Ledger.usage_insert_le Grant.model Grant.slots (idle n).ledger
      (aliceGrant n).reservationId (aliceGrant n).grant "gemma"
    rwa [hshare, aliceGrant, ← SkeletonRuntimeState.ledger_granted,
      ← SkeletonRuntimeState.liveSlots_eq_usage, ← SkeletonRuntimeState.liveSlots_eq_usage,
      liveSlots_idle] at hinsert
  have hbob := gemma_refusal_eq_none (hsound.granted halice 1) "bob" (by decide) hlive
  refine ⟨?_, ?_⟩
  · simp only [aliceAndBob, Machine.events_cons, step_create_of_accepted halice,
      step_create_of_accepted hbob, Machine.events_nil]
    rfl
  · simp only [aliceAndBob, Machine.exec_cons, step_create_of_accepted halice,
      step_create_of_accepted hbob, Machine.exec_nil]
    rfl

/-- From an exhausted counter two grants get the same id, and the second replaces the
first. -/
theorem exhausted_grants {n : ℕ} (h : n = counterMax) :
    ∃ alice bob : ModelReservation,
      grants ((runtimeMachine (SkeletonRuntimeAdapter.new twoModelConfig)).events (idle n)
          aliceAndBob) = [alice, bob] ∧
      alice.reservationId = bob.reservationId ∧ alice.consumer = "alice" ∧
      bob.consumer = "bob" ∧
      ((runtimeMachine (SkeletonRuntimeAdapter.new twoModelConfig)).exec (idle n)
          aliceAndBob).reservations[alice.reservationId]? = some bob := by
  obtain ⟨hgrants, hstored⟩ := run_aliceAndBob n
  have hsame : (aliceGrant n).reservationId = (bobGrant n).reservationId := by
    simp only [aliceGrant, bobGrant, SkeletonRuntimeState.grant,
      SkeletonRuntimeState.granted_nextReservationId, satAdd_idle_counterMax h]
  refine ⟨aliceGrant n, bobGrant n, hgrants, hsame, rfl, rfl, ?_⟩
  rw [hstored, getElem?_insert_eq, if_pos hsame.symm]

/-- After as many reservations as the counter can number, each released before the next, two
more are granted under one id: the second replaces the first, which is still live, and its
consumer's release would take away the other's. -/
theorem id_granted_twice :
    ∃ alice bob : ModelReservation,
      grants ((runtimeMachine (SkeletonRuntimeAdapter.new twoModelConfig)).events
          ((runtimeMachine (SkeletonRuntimeAdapter.new twoModelConfig)).exec .new
            (rounds counterMax))
          [.createReservation (slotRequest "gemma" "alice") 1,
            .createReservation (slotRequest "gemma" "bob") 2]) = [alice, bob] ∧
      alice.reservationId = bob.reservationId ∧ alice.consumer = "alice" ∧
      bob.consumer = "bob" ∧
      ((runtimeMachine (SkeletonRuntimeAdapter.new twoModelConfig)).exec .new
          (rounds counterMax ++
            [.createReservation (slotRequest "gemma" "alice") 1,
              .createReservation (slotRequest "gemma" "bob") 2])).reservations[
        alice.reservationId]? = some bob := by
  rw [Machine.exec_append, exec_rounds (le_refl counterMax)]
  exact exhausted_grants rfl

end X0xCompute
