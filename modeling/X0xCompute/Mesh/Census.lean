import X0xCompute.Mesh.Exactness

/-!
# The census of a run

The outcomes of a run, of which the loop only logs each, say together what the registry holds
that the run leaves: who is listed, in which order, and how many.
-/

namespace X0xCompute

open Lib

variable {ContactStore : Type} {crates : MeshCrates ContactStore} {config : ComputeConfig}
  {localAgentId : String}

/-- The agent ids in a snapshot. -/
def TrustedPeerRegistry.peerIds (self : TrustedPeerRegistry) : List String :=
  self.snapshot.map fun record => record.capability.identity.agentId

/-- The agent that an outcome reports as a new peer. -/
def newcomer? (hex : HexCrate) (e : MeshStep ContactStore × CapabilityDisposition) :
    Option String :=
  if e.2 = .acceptedNewPeer then e.1.message.sender.map (encodeAgentId hex) else none

/-- The agents that a run reported as new peers, in the order of the reports. -/
def newcomers (hex : HexCrate) (events : List (MeshStep ContactStore × CapabilityDisposition)) :
    List String :=
  events.filterMap (newcomer? hex)

/-- A registry whose records know their keys and whose keys are those reported as new. -/
structure Reported (hex : HexCrate) (events : List (MeshStep ContactStore × CapabilityDisposition))
    (registry : TrustedPeerRegistry) : Prop where
  keyed : ∀ (key : String) (record : PeerCapabilityRecord), registry.peers[key]? = some record →
    record.capability.identity.agentId = key
  nodup : (newcomers hex events).Nodup
  held : ∀ key : String, key ∈ newcomers hex events ↔ (registry.peers[key]?).isSome
  counted : (newcomers hex events).length = events.countP fun e => e.2 = .acceptedNewPeer

theorem newcomer?_of_admissible (self : TrustedPeerRegistry) {s : MeshStep ContactStore}
    {v : Vetting} (h : Admissible crates config localAgentId s v) :
    newcomer? crates.hex (s, ((registryMachine crates config localAgentId).step self s).1) =
      if (self.peers[encodeAgentId crates.hex v.sender]?).isSome then none
      else some (encodeAgentId crates.hex v.sender) := by
  rw [newcomer?, step_fst, stepDisposition_of_admissible h, h.sender]
  cases self.peers[encodeAgentId crates.hex v.sender]? <;> simp

theorem newcomer?_of_not_admissible (self : TrustedPeerRegistry) {s : MeshStep ContactStore}
    (h : ∀ v, ¬ Admissible crates config localAgentId s v) :
    newcomer? crates.hex (s, ((registryMachine crates config localAgentId).step self s).1) =
      none := by
  rw [newcomer?, step_fst, if_neg (stepDisposition_of_not_admissible h _).1]

theorem newcomers_concat (hex : HexCrate)
    (events : List (MeshStep ContactStore × CapabilityDisposition))
    (e : MeshStep ContactStore × CapabilityDisposition) :
    newcomers hex (events ++ [e]) = newcomers hex events ++ (newcomer? hex e).toList := by
  rw [newcomers, List.filterMap_append]
  cases h : newcomer? hex e <;> simp [newcomers, h]

theorem Reported.new (hex : HexCrate) :
    @Reported ContactStore hex [] .new where
  keyed key record h := by simp [TrustedPeerRegistry.new] at h
  nodup := List.nodup_nil
  held key := by simp [newcomers, TrustedPeerRegistry.new]
  counted := rfl

theorem Reported.step {events : List (MeshStep ContactStore × CapabilityDisposition)}
    {self : TrustedPeerRegistry} (h : Reported crates.hex events self)
    (s : MeshStep ContactStore) :
    Reported crates.hex
      (events ++ [(s, ((registryMachine crates config localAgentId).step self s).1)])
      ((registryMachine crates config localAgentId).step self s).2 := by
  by_cases hadmissible : ∃ v, Admissible crates config localAgentId s v
  · obtain ⟨v, hadm⟩ := hadmissible
    have hpeers := getElem?_step_of_admissible self hadm
    refine ⟨?_, ?_, ?_, ?_⟩
    · intro key record hrecord
      rw [hpeers] at hrecord
      split at hrecord
      · rename_i hkey
        rw [← hkey, ← hadm.agentId]
        cases hrecord
        cases self.peers[encodeAgentId crates.hex v.sender]? <;> rfl
      · exact h.keyed key record hrecord
    · rw [newcomers_concat, newcomer?_of_admissible self hadm]
      split
      · simpa using h.nodup
      · rename_i hnew
        have hfresh := mt (h.held (encodeAgentId crates.hex v.sender)).mp hnew
        simpa [List.nodup_append] using ⟨h.nodup, fun key hkey heq => hfresh (heq ▸ hkey)⟩
    · intro key
      rw [newcomers_concat, newcomer?_of_admissible self hadm, hpeers, List.mem_append, h.held]
      by_cases hkey : encodeAgentId crates.hex v.sender = key
      · subst hkey
        cases self.peers[encodeAgentId crates.hex v.sender]? <;> simp
      · cases self.peers[encodeAgentId crates.hex v.sender]? <;> simp [hkey, Ne.symm hkey]
    · rw [newcomers_concat, newcomer?_of_admissible self hadm, List.length_append, h.counted,
        List.countP_append, step_fst, stepDisposition_of_admissible hadm]
      cases self.peers[encodeAgentId crates.hex v.sender]? <;> simp
  · have hnone := not_exists.mp hadmissible
    rw [step_snd_of_not_admissible self hnone]
    have hsame := newcomers_concat crates.hex events
      (s, ((registryMachine crates config localAgentId).step self s).1)
    rw [newcomer?_of_not_admissible self hnone, Option.toList_none, List.append_nil] at hsame
    have hcount := (stepDisposition_of_not_admissible hnone fun key => self.peers[key]?).1
    refine ⟨h.keyed, by rw [hsame]; exact h.nodup, by rw [hsame]; exact h.held, ?_⟩
    rw [hsame, h.counted, List.countP_append, step_fst]
    simp [hcount]

theorem reported_exec (crates : MeshCrates ContactStore) (config : ComputeConfig)
    (localAgentId : String) (steps : List (MeshStep ContactStore)) :
    Reported crates.hex ((registryMachine crates config localAgentId).events .new steps)
      ((registryMachine crates config localAgentId).exec .new steps) :=
  Machine.exec_history _ (fun _ _ s h => h.step s) (.new crates.hex) steps

/-- The ids of a registry whose records know their keys increase from record to record. -/
theorem Reported.sorted {events : List (MeshStep ContactStore × CapabilityDisposition)}
    {registry : TrustedPeerRegistry} {hex : HexCrate} (h : Reported hex events registry) :
    registry.peerIds.Pairwise (· < ·) := by
  rw [TrustedPeerRegistry.peerIds, List.pairwise_map]
  apply (pairwise_values h.keyed).imp
  intro v w hlt
  exact compareOfLessAndEq_eq_lt.mp hlt

theorem Reported.mem_peerIds_iff
    {events : List (MeshStep ContactStore × CapabilityDisposition)}
    {registry : TrustedPeerRegistry} {hex : HexCrate} (h : Reported hex events registry)
    {key : String} : key ∈ registry.peerIds ↔ key ∈ newcomers hex events := by
  rw [h.held, Option.isSome_iff_exists, TrustedPeerRegistry.peerIds, List.mem_map]
  refine ⟨?_, ?_⟩
  · intro hrecord
    rcases hrecord with ⟨record, hmem, rfl⟩
    obtain ⟨key, hkey⟩ := mem_values_iff.mp hmem
    exact ⟨record, by rwa [h.keyed key record hkey]⟩
  · intro hrecord
    rcases hrecord with ⟨record, hkey⟩
    exact ⟨record, mem_values_iff.mpr ⟨key, hkey⟩, h.keyed key record hkey⟩

/-- The registry of a run is what its outcomes reported. The snapshot lists each agent once, in
the order of the ids; the ids are those that were reported as new peers, each of them reported
once; the length is the number of these reports, and the registry is empty iff there was
none; and what comes later only inserts further agents between those listed. -/
theorem registry_census (crates : MeshCrates ContactStore) (config : ComputeConfig)
    (localAgentId : String) (steps more : List (MeshStep ContactStore)) :
    let machine := registryMachine crates config localAgentId
    let registry := machine.exec .new steps
    let events := machine.events .new steps
    registry.peerIds.Pairwise (· < ·) ∧
    (newcomers crates.hex events).Perm registry.peerIds ∧
    registry.len = registry.snapshot.length ∧
    registry.len = events.countP (fun e => e.2 = .acceptedNewPeer) ∧
    (registry.isEmpty = true ↔ ∀ e ∈ events, e.2 ≠ .acceptedNewPeer) ∧
    registry.peerIds.Sublist (machine.exec registry more).peerIds := by
  intro machine registry events
  have hreported : Reported crates.hex events registry :=
    reported_exec crates config localAgentId steps
  have hnodup : registry.peerIds.Nodup := hreported.sorted.imp (fun h => String.ne_of_lt h)
  have hperm : (newcomers crates.hex events).Perm registry.peerIds :=
    (List.perm_ext_iff_of_nodup hreported.nodup hnodup).mpr
      fun key => hreported.mem_peerIds_iff.symm
  have hlen : registry.len = registry.snapshot.length := by
    rw [TrustedPeerRegistry.len, TrustedPeerRegistry.snapshot, values, List.length_map,
      Std.ExtTreeMap.length_toList]
  have hcount : registry.len = events.countP (fun e => e.2 = .acceptedNewPeer) := by
    rw [hlen, ← hreported.counted, hperm.length_eq, TrustedPeerRegistry.peerIds,
      List.length_map]
  refine ⟨hreported.sorted, hperm, hlen, hcount, ?_, ?_⟩
  · have hempty : registry.isEmpty = true ↔ registry.len = 0 := by
      rw [TrustedPeerRegistry.isEmpty, TrustedPeerRegistry.len,
        Std.ExtTreeMap.isEmpty_eq_size_beq_zero, beq_iff_eq]
    rw [hempty, hcount, List.countP_eq_zero]
    simp
  · have hlater : Reported crates.hex (machine.events .new (steps ++ more))
        (machine.exec .new (steps ++ more)) := reported_exec crates config localAgentId _
    rw [Machine.exec_append, Machine.events_append] at hlater
    apply List.sublist_of_subperm_of_pairwise _ hreported.sorted hlater.sorted
    apply List.subperm_of_subset hnodup
    intro key hkey
    rw [hlater.mem_peerIds_iff, newcomers, List.filterMap_append, List.mem_append]
    exact Or.inl (hreported.mem_peerIds_iff.mp hkey)

end X0xCompute
