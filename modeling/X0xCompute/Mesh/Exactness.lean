import X0xCompute.Mesh.Provenance

/-!
# The registry is exactly its admissible announcements

Which messages are accepted, what an accepted one changes, and what a record holds, each as
an equivalence over the whole run that came before.
-/

namespace X0xCompute

open Lib

variable {ContactStore : Type} {crates : MeshCrates ContactStore} {config : ComputeConfig}
  {localAgentId : String}

/-- The disposition counts as an acceptance. -/
def CapabilityDisposition.accepted (d : CapabilityDisposition) : Prop :=
  d = .acceptedNewPeer ∨ d = .updatedPeer

theorem step_fst (self : TrustedPeerRegistry) (s : MeshStep ContactStore) :
    ((registryMachine crates config localAgentId).step self s).1 =
      stepDisposition crates config localAgentId s (fun k => self.peers[k]?) := by
  rw [applyMessage_eq]

/-- A message that is not admissible leaves the registry as it was. -/
theorem step_snd_of_not_admissible (self : TrustedPeerRegistry) {s : MeshStep ContactStore}
    (h : ∀ v, ¬ Admissible crates config localAgentId s v) :
    ((registryMachine crates config localAgentId).step self s).2 = self := by
  rw [applyMessage_eq, stepWrite, admission_eq_none_iff.mpr h]
  rfl

/-- An admissible message writes its record at its sender's key and nothing elsewhere. -/
theorem getElem?_step_of_admissible (self : TrustedPeerRegistry) {s : MeshStep ContactStore}
    {v : Vetting} (h : Admissible crates config localAgentId s v) (key : String) :
    ((registryMachine crates config localAgentId).step self s).2.peers[key]? =
      if encodeAgentId crates.hex v.sender = key then
        some (v.record crates s self.peers[encodeAgentId crates.hex v.sender]?)
      else self.peers[key]? := by
  rw [applyMessage_eq, stepWrite, admission_eq_some_iff.mpr h]
  exact getElem?_insert_eq _ _ _ _

/-- A message is accepted exactly when it is admissible. -/
theorem accepted_step_iff (self : TrustedPeerRegistry) (s : MeshStep ContactStore) :
    ((registryMachine crates config localAgentId).step self s).1.accepted ↔
      ∃ v, Admissible crates config localAgentId s v := by
  rw [step_fst]
  by_cases h : ∃ v, Admissible crates config localAgentId s v
  · obtain ⟨v, hadm⟩ := h
    rw [stepDisposition_of_admissible hadm]
    refine iff_of_true ?_ ⟨v, hadm⟩
    split
    · exact Or.inr rfl
    · exact Or.inl rfl
  · obtain ⟨hnew, hupd⟩ := stepDisposition_of_not_admissible (not_exists.mp h)
      (fun k => self.peers[k]?)
    exact iff_of_false (fun hacc => hacc.elim hnew hupd) h

/-- A message is accepted as a new peer exactly when it is admissible and its sender has no
record. -/
theorem step_eq_acceptedNewPeer_iff (self : TrustedPeerRegistry) (s : MeshStep ContactStore) :
    ((registryMachine crates config localAgentId).step self s).1 = .acceptedNewPeer ↔
      ∃ v, Admissible crates config localAgentId s v ∧
        self.peers[encodeAgentId crates.hex v.sender]? = none := by
  rw [step_fst]
  refine ⟨?_, ?_⟩
  · intro h
    by_cases hex : ∃ v, Admissible crates config localAgentId s v
    · obtain ⟨v, hadm⟩ := hex
      rw [stepDisposition_of_admissible hadm] at h
      split at h
      · cases h
      · rename_i hnone
        exact ⟨v, hadm, Option.not_isSome_iff_eq_none.mp hnone⟩
    · exact absurd h (stepDisposition_of_not_admissible (not_exists.mp hex) _).1
  · rintro ⟨v, hadm, hnone⟩
    rw [stepDisposition_of_admissible hadm, hnone]
    rfl

/-- A message is rejected for want of trust exactly when it is vetted and the policy does not
admit the decision. -/
theorem step_eq_rejectedTrust_iff (self : TrustedPeerRegistry) (s : MeshStep ContactStore)
    (decision : TrustDecision) :
    ((registryMachine crates config localAgentId).step self s).1 = .rejectedTrust decision ↔
      ∃ v, Vetted crates config localAgentId s v ∧ v.decision crates s = decision ∧
        allowsPeer config decision = false := by
  rw [step_fst]
  refine ⟨?_, ?_⟩
  · intro h
    unfold stepDisposition at h
    cases hvet : vet crates config localAgentId s with
    | error d =>
      rw [hvet] at h
      exact absurd h ((vet_error_ne hvet).2.2 decision)
    | ok v =>
      simp only [hvet] at h
      split at h
      · split at h <;> cases h
      · rename_i hdeny
        cases h
        exact ⟨v, vet_eq_ok_iff.mp hvet, rfl, by simpa using hdeny⟩
  · rintro ⟨v, hvetted, rfl, hdeny⟩
    exact stepDisposition_of_vetted hvetted hdeny _

/-- The registry is exactly the history of the admissible messages. After any run from the
empty registry: the next message is accepted iff it is admissible, and as a new peer iff
moreover its sender has no record; if accepted, it changes its sender's entry only, to the
decoded capability with this decision; if not, it changes nothing. A record is held for an
agent iff an admissible message with its id came, and it carries the capability, decision and
clock reading of the last and the clock reading of the first. -/
theorem registry_exact (steps : List (MeshStep ContactStore)) (s : MeshStep ContactStore) :
    let before := (registryMachine crates config localAgentId).exec .new steps
    let disposition := ((registryMachine crates config localAgentId).step before s).1
    let after := ((registryMachine crates config localAgentId).step before s).2
    (disposition.accepted ↔ ∃ v, Admissible crates config localAgentId s v) ∧
    (disposition = .acceptedNewPeer ↔
      ∃ v, Admissible crates config localAgentId s v ∧
        before.peers[encodeAgentId crates.hex v.sender]? = none) ∧
    (∀ v, Admissible crates config localAgentId s v →
      (∀ key, key ≠ encodeAgentId crates.hex v.sender →
        after.peers[key]? = before.peers[key]?) ∧
      ∃ record, after.peers[encodeAgentId crates.hex v.sender]? = some record ∧
        record.capability = v.capability ∧ record.trustDecision = v.decision crates s) ∧
    (¬ disposition.accepted → after = before) ∧
    (∀ agent : AgentId, (∃ record, before.peers[encodeAgentId crates.hex agent]? = some record) ↔
      ∃ s' ∈ steps, ∃ v, Admissible crates config localAgentId s' v ∧
        encodeAgentId crates.hex v.sender = encodeAgentId crates.hex agent) ∧
    ∀ (agent : AgentId) (record : PeerCapabilityRecord),
      before.peers[encodeAgentId crates.hex agent]? = some record →
      ∃ s₁ v₁ s₂ v₂,
        FirstAdmitted crates config localAgentId (encodeAgentId crates.hex agent) steps s₁ v₁ ∧
        LastAdmitted crates config localAgentId (encodeAgentId crates.hex agent) steps s₂ v₂ ∧
        record.capability = v₂.capability ∧ record.trustDecision = v₂.decision crates s₂ ∧
        record.firstSeenUnixSecs = s₁.now ∧ record.lastSeenUnixSecs = s₂.now ∧
        (Function.Injective crates.hex.encode → v₁.sender = agent ∧ v₂.sender = agent) := by
  intro before disposition after
  refine ⟨accepted_step_iff before s, step_eq_acceptedNewPeer_iff before s, ?changed, ?same,
    ?held, ?history⟩
  case changed =>
    intro v hadm
    refine ⟨?_, ?_⟩
    · intro key hne
      rw [getElem?_step_of_admissible before hadm, if_neg (Ne.symm hne)]
    · exact ⟨_, by rw [getElem?_step_of_admissible before hadm, if_pos rfl], rfl, rfl⟩
  case same =>
    intro hrejected
    have hnone := mt (accepted_step_iff before s).mpr hrejected
    exact step_snd_of_not_admissible before (not_exists.mp hnone)
  case held =>
    intro agent
    refine ⟨?_, ?_⟩
    · rintro ⟨record, hrecord⟩
      obtain ⟨s', hs', v, hadm, hkey, -⟩ := exists_admitted_of_record hrecord
      exact ⟨s', hs', v, hadm, hkey⟩
    · rintro ⟨s', hs', v, hadm, hkey⟩
      rw [← Option.isSome_iff_exists, Option.isSome_iff_ne_none, getElem?_peers_exec_new, ne_eq,
        recordOf_eq_none_iff]
      exact List.ne_nil_of_mem (mem_admittedAt_iff.mpr ⟨hs', hadm, hkey⟩)
  case history =>
    intro agent record hrecord
    obtain ⟨s₁, v₁, s₂, v₂, hfirst, hlast, hcap, hdec, hseen₁, hseen₂⟩ :=
      getElem?_peers_eq_some_iff.mp hrecord
    refine ⟨s₁, v₁, s₂, v₂, hfirst, hlast, hcap, hdec, hseen₁, hseen₂, ?_⟩
    intro hinj
    obtain ⟨-, -, -, -, -, hkey₁⟩ := hfirst
    obtain ⟨-, -, -, -, -, hkey₂⟩ := hlast
    exact ⟨encodeAgentId_injective hinj hkey₁, encodeAgentId_injective hinj hkey₂⟩

end X0xCompute
