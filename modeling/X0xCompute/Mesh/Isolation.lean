import X0xCompute.Mesh.Exactness

/-!
# Peers do not influence one another

With an injective encoding of agent ids a sender writes at its own key only, and what it is
answered depends on its own record only. So an agent's record and answers are those of the
run of its own verified messages, and the order of messages from different senders leaves no
trace.
-/

namespace X0xCompute

open Lib

variable {ContactStore : Type} {crates : MeshCrates ContactStore} {config : ComputeConfig}
  {localAgentId : String}

/-- The message is verified and comes from the agent. -/
def MeshStep.isFrom (agent : AgentId) (s : MeshStep ContactStore) : Bool :=
  s.message.sender = some agent && s.message.verified

theorem Vetted.isFrom_iff {s : MeshStep ContactStore} {v : Vetting}
    (h : Vetted crates config localAgentId s v) {agent : AgentId} :
    s.isFrom agent = true ↔ v.sender = agent := by
  simp [MeshStep.isFrom, h.sender, h.verified]

/-- The disposition depends on the registry through the record of the message's sender. -/
theorem stepDisposition_congr {s : MeshStep ContactStore} {agent : AgentId}
    (hfrom : s.isFrom agent = true) {heldAt heldAt' : String → Option PeerCapabilityRecord}
    (h : heldAt (encodeAgentId crates.hex agent) = heldAt' (encodeAgentId crates.hex agent)) :
    stepDisposition crates config localAgentId s heldAt =
      stepDisposition crates config localAgentId s heldAt' := by
  unfold stepDisposition
  cases hvet : vet crates config localAgentId s with
  | error d => rfl
  | ok v =>
    have hsender := (vet_eq_ok_iff.mp hvet).isFrom_iff.mp hfrom
    simp only [hsender, h]

/-- Messages of other senders write elsewhere. -/
theorem getElem?_step_of_not_isFrom (hinj : Function.Injective crates.hex.encode)
    {agent : AgentId} {s : MeshStep ContactStore} (hother : s.isFrom agent = false)
    (self : TrustedPeerRegistry) :
    ((registryMachine crates config localAgentId).step self s).2.peers[
      encodeAgentId crates.hex agent]? = self.peers[encodeAgentId crates.hex agent]? := by
  by_cases h : ∃ v, Admissible crates config localAgentId s v
  · obtain ⟨v, hadm⟩ := h
    rw [getElem?_step_of_admissible self hadm, if_neg]
    intro hkey
    have hsender := encodeAgentId_injective hinj hkey
    rw [hadm.isFrom_iff.mpr hsender] at hother
    cases hother
  · rw [step_snd_of_not_admissible self (not_exists.mp h)]

/-- A message of the agent is answered alike, and leaves the same record, wherever the
agent's record is the same. -/
theorem step_isFrom_congr {agent : AgentId} {s : MeshStep ContactStore}
    (hfrom : s.isFrom agent = true) {self self' : TrustedPeerRegistry}
    (h : self.peers[encodeAgentId crates.hex agent]? =
      self'.peers[encodeAgentId crates.hex agent]?) :
    ((registryMachine crates config localAgentId).step self s).1 =
        ((registryMachine crates config localAgentId).step self' s).1 ∧
      ((registryMachine crates config localAgentId).step self s).2.peers[
          encodeAgentId crates.hex agent]? =
        ((registryMachine crates config localAgentId).step self' s).2.peers[
          encodeAgentId crates.hex agent]? := by
  refine ⟨?_, ?_⟩
  · rw [step_fst, step_fst]
    exact stepDisposition_congr hfrom h
  · by_cases hex : ∃ v, Admissible crates config localAgentId s v
    · obtain ⟨v, hadm⟩ := hex
      have hsender := hadm.isFrom_iff.mp hfrom
      subst hsender
      rw [getElem?_step_of_admissible self hadm, getElem?_step_of_admissible self' hadm, h]
    · rw [step_snd_of_not_admissible self (not_exists.mp hex),
        step_snd_of_not_admissible self' (not_exists.mp hex), h]

/-- Dropping messages that are not admissible at the key leaves what is admitted there. -/
theorem admittedAt_filter {key : String} {p : MeshStep ContactStore → Bool}
    (h : ∀ s v, Admissible crates config localAgentId s v →
      encodeAgentId crates.hex v.sender = key → p s = true)
    (steps : List (MeshStep ContactStore)) :
    admittedAt crates config localAgentId key (steps.filter p) =
      admittedAt crates config localAgentId key steps := by
  rw [admittedAt, admittedAt, List.filterMap_filter]
  apply List.filterMap_congr
  intro s _
  split
  · rfl
  · rename_i hp
    symm
    rw [Option.eq_none_iff_forall_ne_some]
    rintro ⟨s', v⟩ hadmission
    rcases admitAt_eq_some_iff.mp hadmission with ⟨rfl, hadm, hkey⟩
    exact hp (h _ v hadm hkey)

/-- Two runs with the same verified messages of every sender leave the same registry. -/
theorem exec_eq_of_isFrom_eq (hinj : Function.Injective crates.hex.encode)
    (self : TrustedPeerRegistry) {steps steps' : List (MeshStep ContactStore)}
    (h : ∀ agent, steps.filter (·.isFrom agent) = steps'.filter (·.isFrom agent)) :
    (registryMachine crates config localAgentId).exec self steps =
      (registryMachine crates config localAgentId).exec self steps' := by
  rw [TrustedPeerRegistry.mk.injEq, peers_exec, peers_exec]
  apply KeyedWrite.foldl_apply_congr
  intro key
  rw [updatesAt_stepWrite, updatesAt_stepWrite]
  congr 1
  by_cases hkey : ∃ agent, encodeAgentId crates.hex agent = key
  · obtain ⟨agent, rfl⟩ := hkey
    have hown : ∀ s v, Admissible crates config localAgentId s v →
        encodeAgentId crates.hex v.sender = encodeAgentId crates.hex agent →
          s.isFrom agent = true := by
      intro s v hadm heq
      exact hadm.isFrom_iff.mpr (encodeAgentId_injective hinj heq)
    rw [← admittedAt_filter hown steps, h agent, admittedAt_filter hown steps']
  · have hnone : ∀ l : List (MeshStep ContactStore),
        admittedAt crates config localAgentId key l = [] := by
      intro l
      rw [admittedAt_eq_nil_iff]
      intro s _ v _ heq
      exact hkey ⟨v.sender, heq⟩
    rw [hnone, hnone]

/-- Peers cannot influence one another's records, and the order of messages from different
senders does not matter. From any registry: the record of an agent and the answers to its
verified messages are those of the run in which every other message is deleted; and two runs
that interleave the same messages of each sender end in the same registry, with the same
snapshot. -/
theorem peers_isolated (hhex : crates.hex.EncodesLower) (self : TrustedPeerRegistry) :
    (∀ (agent : AgentId) (steps : List (MeshStep ContactStore)),
      ((registryMachine crates config localAgentId).exec self steps).peers[
          encodeAgentId crates.hex agent]? =
        ((registryMachine crates config localAgentId).exec self
          (steps.filter (·.isFrom agent))).peers[encodeAgentId crates.hex agent]? ∧
      ((registryMachine crates config localAgentId).events self steps).filter
          (fun e => e.1.isFrom agent) =
        (registryMachine crates config localAgentId).events self
          (steps.filter (·.isFrom agent))) ∧
    ∀ steps steps' : List (MeshStep ContactStore),
      (∀ sender : AgentId, steps.filter (·.message.sender = some sender) =
        steps'.filter (·.message.sender = some sender)) →
      (registryMachine crates config localAgentId).exec self steps =
          (registryMachine crates config localAgentId).exec self steps' ∧
        ((registryMachine crates config localAgentId).exec self steps).snapshot =
          ((registryMachine crates config localAgentId).exec self steps').snapshot := by
  have hinj := hhex.encode_injective
  refine ⟨?_, ?_⟩
  · intro agent steps
    refine Machine.exec_visible (registryMachine crates config localAgentId)
      (R := fun a b => a.peers[encodeAgentId crates.hex agent]? =
        b.peers[encodeAgentId crates.hex agent]?) ?hidden ?seen rfl steps
    case hidden =>
      intro a b s hab hs
      rw [getElem?_step_of_not_isFrom hinj hs, hab]
    case seen =>
      intro a b s hab hs
      exact step_isFrom_congr hs hab
  · intro steps steps' h
    have hfrom : ∀ agent, steps.filter (·.isFrom agent) = steps'.filter (·.isFrom agent) := by
      intro agent
      have hverified := congrArg (List.filter fun s => s.message.verified) (h agent)
      rw [List.filter_filter, List.filter_filter] at hverified
      simpa [MeshStep.isFrom, Bool.and_comm] using hverified
    refine ⟨exec_eq_of_isFrom_eq hinj self hfrom, ?_⟩
    rw [exec_eq_of_isFrom_eq hinj self hfrom]

/-- Messages of different senders can change places without changing what each sends. -/
theorem filter_sender_swap {s t : MeshStep ContactStore}
    (h : s.message.sender ≠ t.message.sender) (sender : AgentId) :
    [s, t].filter (·.message.sender = some sender) =
      [t, s].filter (·.message.sender = some sender) := by
  by_cases hs : s.message.sender = some sender
  · have ht : t.message.sender ≠ some sender := fun ht => h (hs.trans ht.symm)
    simp [hs, ht]
  · simp [List.filter_cons, hs]

/-- Two friends' announcements, in either order. -/
theorem peers_isolated_friends :
    (registryMachine friendsCrates friendsConfig friendsLocalId).exec .new
        [friendStep (friendCapability 0xaa 1).jsonBytes 0xaa 10 .accept,
          friendStep (friendCapability 0xbb 3).jsonBytes 0xbb 11 .accept] =
      (registryMachine friendsCrates friendsConfig friendsLocalId).exec .new
        [friendStep (friendCapability 0xbb 3).jsonBytes 0xbb 11 .accept,
          friendStep (friendCapability 0xaa 1).jsonBytes 0xaa 10 .accept] := by
  refine ((peers_isolated HexCrate.usual_encodesLower .new).2 _ _ ?_).1
  intro sender
  apply filter_sender_swap
  rw [friendStep_sender, friendStep_sender, ne_eq, Option.some.injEq]
  decide

end X0xCompute
