import X0xCompute.Lib.Sorted
import X0xCompute.Runtime.Reuse

/-!
# The order in which reservations are listed

Reservations are listed in the order of their ids, compared as texts. The ids are numbers
padded to six digits, so this is the order of granting among numbers printed with as many
digits, and in particular in runs with fewer than a million grants.
-/

namespace X0xCompute

open Lib
open scoped List

/-- The number printed in the id of the grant that comes after `i` others. -/
def grantNumber (i : ℕ) : ℕ := min (i + 1) counterMax

theorem numbered_getElem? {n i : ℕ} (h : i < n) (limit : ℕ) (name : ℕ → String) :
    (numbered limit name n)[i]? = some (name (min (i + 1) limit)) := by
  simp [numbered, h]

theorem Numbered.reservationId_of_getElem? {events : List (RuntimeCall × RuntimeResponse)}
    {state : SkeletonRuntimeState} (h : Numbered events state) {i : ℕ}
    {reservation : ModelReservation} (hget : (grants events)[i]? = some reservation) :
    reservation.reservationId = resvId (grantNumber i) := by
  have hi := (List.getElem?_eq_some_iff.mp hget).1
  have hids := congrArg (·[i]?) h.reservationIds
  simp only [List.getElem?_map, hget, Option.map_some, numbered_getElem? hi] at hids
  exact Option.some.inj hids

/-- The ids of two grants compare as their numbers do when carried to one width. -/
theorem resvId_lt_iff {m n : ℕ} (h : m < n) :
    resvId m < resvId n ↔ m * 10 ^ (paddedLength 6 n - paddedLength 6 m) ≤ n := by
  rw [resvId, resvId, append_lt_append_iff, zeroPadded_lt_iff h]

section

variable {adapter : SkeletonRuntimeAdapter} {events : List (RuntimeCall × RuntimeResponse)}
  {state : SkeletonRuntimeState}

theorem mem_reservations_iff (h : Numbered events state) {reservation : ModelReservation} :
    reservation ∈ SkeletonRuntimeAdapter.reservations state ↔
      state.reservations[reservation.reservationId]? = some reservation := by
  rw [SkeletonRuntimeAdapter.reservations, mem_values_iff]
  refine ⟨?_, ?_⟩
  · intro hmem
    obtain ⟨id, hstored⟩ := hmem
    rwa [(h.live id reservation hstored).1]
  · intro hstored
    exact ⟨_, hstored⟩

/-- One reservation is listed before another exactly when its id comes first. -/
theorem pair_sublist_reservations_iff (h : Numbered events state) {a b : ModelReservation} :
    [a, b] <+ SkeletonRuntimeAdapter.reservations state ↔
      a ∈ SkeletonRuntimeAdapter.reservations state ∧
        b ∈ SkeletonRuntimeAdapter.reservations state ∧ a.reservationId < b.reservationId := by
  have hpairwise : (SkeletonRuntimeAdapter.reservations state).Pairwise
      fun v w => v.reservationId < w.reservationId := by
    apply (pairwise_values fun id stored hstored => (h.live id stored hstored).1).imp
    intro v w hlt
    exact compareOfLessAndEq_eq_lt.mp hlt
  exact pair_sublist_iff (fun v w hvw hwv => String.lt_asymm hvw hwv) hpairwise

/-- Two live reservations are listed in the order of their grants exactly when the smaller
number, carried to the width of the larger, is no larger. -/
theorem Numbered.pair_sublist_iff (h : Numbered events state) {i j : ℕ}
    {a b : ModelReservation} (hij : i < j) (ha : (grants events)[i]? = some a)
    (hb : (grants events)[j]? = some b) (hlistedA : a ∈ SkeletonRuntimeAdapter.reservations state)
    (hlistedB : b ∈ SkeletonRuntimeAdapter.reservations state) (hne : a ≠ b) :
    [a, b] <+ SkeletonRuntimeAdapter.reservations state ↔
      grantNumber i * 10 ^ (paddedLength 6 (grantNumber j) - paddedLength 6 (grantNumber i)) ≤
        grantNumber j := by
  have hidA := h.reservationId_of_getElem? ha
  have hidB := h.reservationId_of_getElem? hb
  have hids : grantNumber i ≠ grantNumber j := by
    intro heq
    rw [mem_reservations_iff h, hidA, heq, ← hidB] at hlistedA
    rw [mem_reservations_iff h, hlistedA, Option.some.injEq] at hlistedB
    exact hne hlistedB
  have hlt : grantNumber i < grantNumber j := by
    unfold grantNumber at hids ⊢
    omega
  rw [pair_sublist_reservations_iff h, hidA, hidB, resvId_lt_iff hlt]
  simp [hlistedA, hlistedB]

end

/-- Of two live reservations the one granted first is listed first exactly when its number,
carried to the printed width of the other's, is no larger than that. So in a run of fewer
than a million grants the reservations are listed in the order of their grants. -/
theorem reservations_listed_iff (config : ComputeConfig) (calls : List RuntimeCall) :
    let machine := runtimeMachine (SkeletonRuntimeAdapter.new config)
    let granted := grants (machine.events .new calls)
    let listed := SkeletonRuntimeAdapter.reservations (machine.exec .new calls)
    (∀ (i j : ℕ) (a b : ModelReservation), i < j → granted[i]? = some a →
      granted[j]? = some b → a ∈ listed → b ∈ listed → a ≠ b →
      ([a, b] <+ listed ↔
        grantNumber i * 10 ^ (paddedLength 6 (grantNumber j) - paddedLength 6 (grantNumber i)) ≤
          grantNumber j)) ∧
    (granted.length ≤ 999999 → ∀ a b : ModelReservation, [a, b] <+ granted → a ∈ listed →
      b ∈ listed → [a, b] <+ listed) := by
  intro machine granted listed
  have hnumbered := numbered_exec (SkeletonRuntimeAdapter.new config) calls
  refine ⟨?iff, ?few⟩
  case iff =>
    intro i j a b hij ha hb hlistedA hlistedB hne
    exact hnumbered.pair_sublist_iff hij ha hb hlistedA hlistedB hne
  case few =>
    intro hfew a b hsub hlistedA hlistedB
    obtain ⟨i, j, hij, ha, hb⟩ := exists_getElem?_of_pair_sublist hsub
    have hj : j < granted.length := (List.getElem?_eq_some_iff.mp hb).1
    have hI : grantNumber i < grantNumber j := by
      unfold grantNumber counterMax
      omega
    have hJ : grantNumber j < 10 ^ 6 := by
      unfold grantNumber
      omega
    have hne : a ≠ b := by
      rintro rfl
      have hid := (hnumbered.reservationId_of_getElem? ha).symm.trans
        (hnumbered.reservationId_of_getElem? hb)
      exact hI.ne (resvId_injective hid)
    rw [hnumbered.pair_sublist_iff hij ha hb hlistedA hlistedB hne,
      paddedLength_eq_width (by decide) hJ,
      paddedLength_eq_width (by decide) (hI.trans hJ)]
    simpa using hI.le

/-! ## The millionth grant -/

theorem reservationId_bobGrant {n : ℕ} (h : n + 2 ≤ counterMax) :
    (bobGrant n).reservationId = resvId (n + 2) := by
  have hnext := reservationId_grant_idle h (slotRequest "gemma" "bob") 2
  rw [← hnext, bobGrant]
  simp only [SkeletonRuntimeState.grant, SkeletonRuntimeState.granted_nextReservationId, idle,
    satAdd_ofNat (show n + 1 ≤ counterMax by omega)]

theorem resvId_million_not_lt : ¬ resvId 999999 < resvId 1000000 := by
  rw [resvId_lt_iff (by decide)]
  decide

/-- Alice is granted a slot before Bob, and both are listed, Bob first. -/
theorem aliceAndBob_out_of_order {n : ℕ} (h : n = 999998) :
    [aliceGrant n, bobGrant n] <+
        grants ((runtimeMachine (SkeletonRuntimeAdapter.new twoModelConfig)).events .new
          (rounds n ++ aliceAndBob)) ∧
      aliceGrant n ∈ SkeletonRuntimeAdapter.reservations
        ((runtimeMachine (SkeletonRuntimeAdapter.new twoModelConfig)).exec .new
          (rounds n ++ aliceAndBob)) ∧
      bobGrant n ∈ SkeletonRuntimeAdapter.reservations
        ((runtimeMachine (SkeletonRuntimeAdapter.new twoModelConfig)).exec .new
          (rounds n ++ aliceAndBob)) ∧
      ¬ [aliceGrant n, bobGrant n] <+ SkeletonRuntimeAdapter.reservations
        ((runtimeMachine (SkeletonRuntimeAdapter.new twoModelConfig)).exec .new
          (rounds n ++ aliceAndBob)) := by
  have hbound : n + 2 ≤ counterMax := by
    rw [h]
    decide
  have halice : (aliceGrant n).reservationId = resvId (n + 1) :=
    reservationId_grant_idle (by omega) _ _
  have hbob := reservationId_bobGrant hbound
  obtain ⟨hgrants, hstored⟩ := run_aliceAndBob n
  have hnumbered := numbered_exec (SkeletonRuntimeAdapter.new twoModelConfig)
    (rounds n ++ aliceAndBob)
  rw [Machine.events_append, Machine.exec_append, exec_rounds (by omega)] at hnumbered ⊢
  refine ⟨?_, ?_, ?_, ?_⟩
  · rw [grants_append, hgrants]
    exact List.sublist_append_right _ _
  · have hne : resvId (n + 2) ≠ resvId (n + 1) := fun heq => by
      have := resvId_injective heq
      omega
    rw [mem_reservations_iff hnumbered, hstored, getElem?_insert_eq, getElem?_insert_eq,
      halice, hbob, if_neg hne, if_pos rfl]
  · rw [mem_reservations_iff hnumbered, hstored, getElem?_insert_eq, if_pos rfl]
  · rw [pair_sublist_reservations_iff hnumbered, halice, hbob, h]
    exact fun hlisted => resvId_million_not_lt hlisted.2.2

/-- With 999,998 reservations granted and released, the next two are granted as 999,999 and
1,000,000 and listed the other way round. -/
theorem million_grants_out_of_order :
    ∃ alice bob : ModelReservation,
      alice.reservationId = "resv-999999" ∧ bob.reservationId = "resv-1000000" ∧
      [alice, bob] <+
        grants ((runtimeMachine (SkeletonRuntimeAdapter.new twoModelConfig)).events .new
          (rounds 999998 ++ aliceAndBob)) ∧
      alice ∈ SkeletonRuntimeAdapter.reservations
        ((runtimeMachine (SkeletonRuntimeAdapter.new twoModelConfig)).exec .new
          (rounds 999998 ++ aliceAndBob)) ∧
      bob ∈ SkeletonRuntimeAdapter.reservations
        ((runtimeMachine (SkeletonRuntimeAdapter.new twoModelConfig)).exec .new
          (rounds 999998 ++ aliceAndBob)) ∧
      ¬ [alice, bob] <+ SkeletonRuntimeAdapter.reservations
        ((runtimeMachine (SkeletonRuntimeAdapter.new twoModelConfig)).exec .new
          (rounds 999998 ++ aliceAndBob)) := by
  have halice : (aliceGrant 999998).reservationId = "resv-999999" :=
    (reservationId_grant_idle (by decide) _ _).trans (by decide)
  have hbob : (bobGrant 999998).reservationId = "resv-1000000" :=
    (reservationId_bobGrant (by decide)).trans (by decide)
  exact ⟨_, _, halice, hbob, aliceAndBob_out_of_order rfl⟩

end X0xCompute
