import X0xCompute.Lib.Sorted
import X0xCompute.Mesh.Exactness

/-!
# Loosening the mesh policy

Two runs over the same messages, contact stores and clock readings, under configurations that
differ in the two policy flags only. The looser registry admits whatever the stricter one
admits, so at each key the history of the one is a part of the history of the other.
-/

namespace X0xCompute

open Lib
open scoped List

variable {ContactStore : Type} {crates : MeshCrates ContactStore}
  {strict loose config : ComputeConfig} {localAgentId : String}

/-- The configurations agree on everything but the two policy flags, and each flag of the
second is set only if it is set in the first. -/
structure Loosens (strict loose : ComputeConfig) : Prop where
  same :
    { loose with
      mesh :=
        { loose.mesh with
          trustedFriendsOnly := strict.mesh.trustedFriendsOnly
          requireTrustedContacts := strict.mesh.requireTrustedContacts } } = strict
  trustedFriendsOnly :
    loose.mesh.trustedFriendsOnly = true → strict.mesh.trustedFriendsOnly = true
  requireTrustedContacts :
    loose.mesh.requireTrustedContacts = true → strict.mesh.requireTrustedContacts = true

theorem Loosens.meshName (h : Loosens strict loose) : loose.mesh.name = strict.mesh.name := by
  rw [← h.same]

/-- What the stricter policy admits, the looser one admits. -/
theorem Loosens.allowsPeer (h : Loosens strict loose) {decision : TrustDecision}
    (hallow : allowsPeer strict decision = true) : allowsPeer loose decision = true := by
  rw [allowsPeer_iff] at hallow ⊢
  rcases hallow with haccept | ⟨hflag, hfriends, hcontacts⟩
  · exact Or.inl haccept
  · refine Or.inr ⟨hflag, ?_, ?_⟩
    · rw [← Bool.not_eq_true] at hfriends ⊢
      exact mt h.trustedFriendsOnly hfriends
    · rw [← Bool.not_eq_true] at hcontacts ⊢
      exact mt h.requireTrustedContacts hcontacts

theorem Loosens.vetted (h : Loosens strict loose) {s : MeshStep ContactStore} {v : Vetting}
    (hvetted : Vetted crates strict localAgentId s v) : Vetted crates loose localAgentId s v :=
  { hvetted with meshName := hvetted.meshName.trans h.meshName.symm }

theorem Loosens.admissible (h : Loosens strict loose) {s : MeshStep ContactStore} {v : Vetting}
    (hadm : Admissible crates strict localAgentId s v) :
    Admissible crates loose localAgentId s v where
  toVetted := h.vetted hadm.toVetted
  allowed := h.allowsPeer hadm.allowed

/-- The looser history at a key has the stricter one as a part. -/
theorem Loosens.admittedAt_sublist (h : Loosens strict loose) (key : String)
    (steps : List (MeshStep ContactStore)) :
    admittedAt crates strict localAgentId key steps <+
      admittedAt crates loose localAgentId key steps := by
  apply filterMap_sublist_filterMap
  rintro s ⟨s', v⟩ hadmit
  obtain ⟨rfl, hadm, hkey⟩ := admitAt_eq_some_iff.mp hadmit
  exact admitAt_eq_some_iff.mpr ⟨rfl, h.admissible hadm, hkey⟩

/-- Under a clock that never goes back, the history at a key is in the order of its clock
readings. -/
theorem pairwise_now_admittedAt {key : String} {steps : List (MeshStep ContactStore)}
    (hclock : steps.Pairwise fun s t => s.now ≤ t.now) :
    (admittedAt crates config localAgentId key steps).Pairwise
      fun p q => p.1.now ≤ q.1.now := by
  refine List.Pairwise.filterMap _ ?_ hclock
  rintro s t hle ⟨s', v⟩ hs ⟨t', w⟩ ht
  obtain ⟨rfl, -⟩ := admitAt_eq_some_iff.mp hs
  obtain ⟨rfl, -⟩ := admitAt_eq_some_iff.mp ht
  exact hle

/-- A longer ordered history gives a record that was first seen no later and last seen no
earlier. -/
theorem recordOf_of_sublist {l l' : List (MeshStep ContactStore × Vetting)} (hsub : l <+ l')
    (hordered : l'.Pairwise fun p q => p.1.now ≤ q.1.now) {record : PeerCapabilityRecord}
    (hrecord : recordOf crates l = some record) :
    ∃ record', recordOf crates l' = some record' ∧
      record'.firstSeenUnixSecs ≤ record.firstSeenUnixSecs ∧
      record.lastSeenUnixSecs ≤ record'.lastSeenUnixSecs := by
  unfold recordOf at hrecord
  split at hrecord
  · rename_i first last hfirst hlast
    cases hrecord
    have hmem := hsub.mem (List.mem_of_mem_head? hfirst)
    have hmem' := hsub.mem (List.mem_of_getLast? hlast)
    have hfirst' := List.head?_eq_some_head (List.ne_nil_of_mem hmem)
    have hlast' := List.getLast?_eq_some_getLast (List.ne_nil_of_mem hmem)
    unfold recordOf
    rw [hfirst', hlast']
    refine ⟨_, rfl, ?_, ?_⟩
    · exact rel_of_head? (fun p => BitVec.le_refl p.1.now) hordered hfirst' hmem
    · exact rel_of_getLast? (fun p => BitVec.le_refl p.1.now) hordered hlast' hmem'
  · cases hrecord

/-- A peer of the stricter registry is a peer of the looser one, seen at least as long. -/
theorem Loosens.getElem?_peers (h : Loosens strict loose)
    {steps : List (MeshStep ContactStore)}
    (hclock : steps.Pairwise fun s t => s.now ≤ t.now) {key : String}
    {record : PeerCapabilityRecord}
    (hrecord : ((registryMachine crates strict localAgentId).exec .new steps).peers[key]? =
      some record) :
    ∃ record',
      ((registryMachine crates loose localAgentId).exec .new steps).peers[key]? =
        some record' ∧
      record'.firstSeenUnixSecs ≤ record.firstSeenUnixSecs ∧
      record.lastSeenUnixSecs ≤ record'.lastSeenUnixSecs := by
  rw [getElem?_peers_exec_new] at hrecord ⊢
  exact recordOf_of_sublist (h.admittedAt_sublist key steps) (pairwise_now_admittedAt hclock)
    hrecord

/-- With a policy flag set, every record is about an accepted peer. -/
theorem trustDecision_eq_accept_of_flag
    (hflag : config.mesh.trustedFriendsOnly = true ∨ config.mesh.requireTrustedContacts = true)
    {steps : List (MeshStep ContactStore)} {key : String} {record : PeerCapabilityRecord}
    (hrecord : ((registryMachine crates config localAgentId).exec .new steps).peers[key]? =
      some record) : record.trustDecision = .accept := by
  obtain ⟨s, -, v, hadm, -, -, hdecision⟩ := exists_admitted_of_record hrecord
  rw [hdecision]
  rcases allowsPeer_iff.mp hadm.allowed with haccept | ⟨-, hfriends, hcontacts⟩
  · exact haccept
  · simp [hfriends, hcontacts] at hflag

/-- Loosening the policy never loses a peer: over a run under a clock that never goes back,
every message accepted under the stricter configuration is accepted under the looser one,
and every agent in the stricter registry is in the looser one, first seen no later and last
seen no earlier. Under a configuration with a flag set no record ever has a decision other
than `Accept`. -/
theorem loosening_loses_no_peer (h : Loosens strict loose)
    {steps : List (MeshStep ContactStore)}
    (hclock : steps.Pairwise fun s t => s.now ≤ t.now) :
    (∀ pre s post, steps = pre ++ s :: post →
      ((registryMachine crates strict localAgentId).step
        ((registryMachine crates strict localAgentId).exec .new pre) s).1.accepted →
      ((registryMachine crates loose localAgentId).step
        ((registryMachine crates loose localAgentId).exec .new pre) s).1.accepted) ∧
    (∀ (key : String) (record : PeerCapabilityRecord),
      ((registryMachine crates strict localAgentId).exec .new steps).peers[key]? =
        some record →
      ∃ record' : PeerCapabilityRecord,
        ((registryMachine crates loose localAgentId).exec .new steps).peers[key]? =
          some record' ∧
        record'.firstSeenUnixSecs ≤ record.firstSeenUnixSecs ∧
        record.lastSeenUnixSecs ≤ record'.lastSeenUnixSecs) ∧
    ∀ (config : ComputeConfig) (run : List (MeshStep ContactStore)),
      config.mesh.trustedFriendsOnly = true ∨ config.mesh.requireTrustedContacts = true →
      ∀ (key : String) (record : PeerCapabilityRecord),
        ((registryMachine crates config localAgentId).exec .new run).peers[key]? =
          some record → record.trustDecision = .accept := by
  refine ⟨?accepted, ?peers, ?decision⟩
  case accepted =>
    intro pre s post _ haccepted
    obtain ⟨v, hadm⟩ := (accepted_step_iff _ s).mp haccepted
    exact (accepted_step_iff _ s).mpr ⟨v, h.admissible hadm⟩
  case peers =>
    intro key record hrecord
    exact h.getElem?_peers hclock hrecord
  case decision =>
    intro config run hflag key record hrecord
    exact trustDecision_eq_accept_of_flag hflag hrecord

/-- The default configuration with both policy flags off. -/
def openConfig : ComputeConfig :=
  { friendsConfig with
    mesh :=
      { friendsConfig.mesh with
        trustedFriendsOnly := false
        requireTrustedContacts := false } }

theorem friendsConfig_loosens_openConfig : Loosens friendsConfig openConfig where
  same := rfl
  trustedFriendsOnly := nofun
  requireTrustedContacts := nofun

/-- A friend announces twice, first while the contact list has it flagged. -/
def flaggedThenAccepted : List (MeshStep (List (AgentId × TrustDecision))) :=
  [friendStep (friendCapability 0xaa 1).jsonBytes 0xaa 10 .acceptWithFlag,
    friendStep (friendCapability 0xaa 2).jsonBytes 0xaa 20 .accept]

theorem admittedAt_flaggedThenAccepted :
    admittedAt friendsCrates friendsConfig friendsLocalId (friendId 0xaa) flaggedThenAccepted =
      [(friendStep (friendCapability 0xaa 2).jsonBytes 0xaa 20 .accept,
        friendVetting 0xaa 2)] := by
  have hflagged : NoneAdmitted friendsCrates friendsConfig friendsLocalId (friendId 0xaa)
      [friendStep (friendCapability 0xaa 1).jsonBytes 0xaa 10 .acceptWithFlag] := by
    intro s hs v hv
    rw [List.mem_singleton] at hs
    subst hs
    have hvetted := friendStep_vetted (friendsCrates_fromSlice 0xaa 1 (by decide))
      (by decide) 10 .acceptWithFlag
    have hallowed := hv.allowed
    rw [hv.toVetted.unique hvetted, friendVetting_decision] at hallowed
    cases hallowed
  have haccepted : Admissible friendsCrates friendsConfig friendsLocalId
      (friendStep (friendCapability 0xaa 2).jsonBytes 0xaa 20 .accept)
      (friendVetting 0xaa 2) := friendStep_admissible (by decide) (by decide) 20
  show admittedAt _ _ _ _ ([friendStep (friendCapability 0xaa 1).jsonBytes 0xaa 10
    .acceptWithFlag] ++ [_]) = _
  rw [admittedAt_append, admittedAt_eq_nil_iff.mpr hflagged, List.nil_append]
  exact admittedAt_cons_of_admissible haccepted []

/-- The friend that the default policy first sees at its second announcement is in the looser
registry, seen at least as long. -/
theorem loosening_loses_no_peer_friend :
    ∃ record record' : PeerCapabilityRecord,
      ((registryMachine friendsCrates friendsConfig friendsLocalId).exec .new
        flaggedThenAccepted).peers[friendId 0xaa]? = some record ∧
      record.firstSeenUnixSecs = 20 ∧
      ((registryMachine friendsCrates openConfig friendsLocalId).exec .new
        flaggedThenAccepted).peers[friendId 0xaa]? = some record' ∧
      record'.firstSeenUnixSecs ≤ 20 ∧ 20 ≤ record'.lastSeenUnixSecs := by
  have hclock : flaggedThenAccepted.Pairwise fun s t => s.now ≤ t.now := by
    simp [flaggedThenAccepted, friendStep]
  have hrecord : ((registryMachine friendsCrates friendsConfig friendsLocalId).exec .new
      flaggedThenAccepted).peers[friendId 0xaa]? =
        some ((friendVetting 0xaa 2).record friendsCrates
          (friendStep (friendCapability 0xaa 2).jsonBytes 0xaa 20 .accept) none) := by
    rw [getElem?_peers_exec_new, admittedAt_flaggedThenAccepted]
    rfl
  obtain ⟨record', hrecord', hfirst, hlast⟩ :=
    (loosening_loses_no_peer friendsConfig_loosens_openConfig hclock).2.1 _ _ hrecord
  exact ⟨_, record', hrecord, rfl, hrecord', hfirst, hlast⟩

end X0xCompute
