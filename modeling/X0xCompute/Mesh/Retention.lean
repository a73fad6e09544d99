import X0xCompute.Mesh.Isolation

/-!
# What the registry retains

The registry never drops a record and never compares observation times: a later rejection
leaves an earlier record in place, and the last admissible announcement delivered replaces
an earlier one whatever their times. This file says for which runs that makes a difference.
-/

namespace X0xCompute

open Lib

variable {ContactStore : Type} (crates : MeshCrates ContactStore) (config : ComputeConfig)
  (localAgentId : String)

/-! ## Revoked trust -/

/-- The last message of the agent that passed every check before the trust evaluation was
rejected because the agent is blocked or unknown. -/
def RevokedLast (steps : List (MeshStep ContactStore)) (agent : AgentId) : Prop :=
  ∃ pre s post v, steps = pre ++ s :: post ∧
    Vetted crates config localAgentId s v ∧ v.sender = agent ∧
    (((registryMachine crates config localAgentId).step
        ((registryMachine crates config localAgentId).exec .new pre) s).1 =
          .rejectedTrust .rejectBlocked ∨
      ((registryMachine crates config localAgentId).step
        ((registryMachine crates config localAgentId).exec .new pre) s).1 =
          .rejectedTrust .unknown) ∧
    ∀ t ∈ post, ∀ w, Vetted crates config localAgentId t w → w.sender ≠ agent

/-- On the last message of the agent that passes every check before the trust evaluation, the
evaluator finds the agent blocked or unknown. -/
def DecidedAgainstLast (steps : List (MeshStep ContactStore)) (agent : AgentId) : Prop :=
  ∃ pre s post v, steps = pre ++ s :: post ∧
    Vetted crates config localAgentId s v ∧ v.sender = agent ∧
    (v.decision crates s = .rejectBlocked ∨ v.decision crates s = .unknown) ∧
    ∀ t ∈ post, ∀ w, Vetted crates config localAgentId t w → w.sender ≠ agent

/-- No record of the snapshot is about the agent. -/
def AbsentFromSnapshot (steps : List (MeshStep ContactStore)) (agent : AgentId) : Prop :=
  ∀ record ∈ ((registryMachine crates config localAgentId).exec .new steps).snapshot,
    record.capability.identity.agentId ≠ encodeAgentId crates.hex agent

variable {crates config localAgentId}

/-- The snapshot has a record about an agent exactly when the agent's key has one. -/
theorem absentFromSnapshot_iff_getElem? {steps : List (MeshStep ContactStore)}
    {agent : AgentId} :
    AbsentFromSnapshot crates config localAgentId steps agent ↔
      ((registryMachine crates config localAgentId).exec .new steps).peers[
        encodeAgentId crates.hex agent]? = none := by
  rw [Option.eq_none_iff_forall_ne_some]
  refine ⟨?_, ?_⟩
  · intro habsent record hrecord
    have hkey := (registry_record_key hrecord).symm
    exact habsent record (mem_values_iff.mpr ⟨_, hrecord⟩) hkey
  · intro hnone record hmem hagent
    rcases mem_values_iff.mp hmem with ⟨key, hrecord⟩
    have hkey := registry_record_key hrecord
    rw [hkey, hagent] at hrecord
    exact hnone record hrecord

/-- An agent is absent from the snapshot exactly when no message of it was ever admissible:
no later message takes a record away. -/
theorem absentFromSnapshot_iff {steps : List (MeshStep ContactStore)} {agent : AgentId} :
    AbsentFromSnapshot crates config localAgentId steps agent ↔
      NoneAdmitted crates config localAgentId (encodeAgentId crates.hex agent) steps := by
  rw [absentFromSnapshot_iff_getElem?, getElem?_peers_exec_new, recordOf_eq_none_iff,
    admittedAt_eq_nil_iff]

/-- No policy admits a blocked or an unknown agent, so the disposition of the last vetted
message is a matter of the evaluator's decision on it. -/
theorem revokedLast_iff {steps : List (MeshStep ContactStore)} {agent : AgentId} :
    RevokedLast crates config localAgentId steps agent ↔
      DecidedAgainstLast crates config localAgentId steps agent := by
  have hdecided : ∀ (pre : List (MeshStep ContactStore)) (s : MeshStep ContactStore) (v : Vetting)
      (decision : TrustDecision), Vetted crates config localAgentId s v →
      allowsPeer config decision = false →
      (((registryMachine crates config localAgentId).step
          ((registryMachine crates config localAgentId).exec .new pre) s).1 =
            .rejectedTrust decision ↔ v.decision crates s = decision) := by
    intro pre s v decision hvetted hdeny
    rw [step_eq_rejectedTrust_iff]
    refine ⟨?_, fun hdecision => ⟨v, hvetted, hdecision, hdeny⟩⟩
    rintro ⟨v', hvetted', hdecision, -⟩
    rwa [hvetted.unique hvetted']
  refine ⟨?_, ?_⟩
  · rintro ⟨pre, s, post, v, hsteps, hvetted, hsender, hrejected, hlast⟩
    rw [hdecided pre s v _ hvetted rfl, hdecided pre s v _ hvetted rfl] at hrejected
    exact ⟨pre, s, post, v, hsteps, hvetted, hsender, hrejected, hlast⟩
  · rintro ⟨pre, s, post, v, hsteps, hvetted, hsender, hdecision, hlast⟩
    rw [← hdecided pre s v _ hvetted rfl, ← hdecided pre s v _ hvetted rfl] at hdecision
    exact ⟨pre, s, post, v, hsteps, hvetted, hsender, hdecision, hlast⟩

/-- Revoked trust removes a peer from the trusted view exactly in the runs in which it never
was in it: that a rejection as blocked or unknown, the last of the agent's vetted messages,
leaves no record of the agent holds iff, where the evaluator so decides on that message, no
message of the run was admissible with the agent's id. -/
theorem revoked_absent_iff (steps : List (MeshStep ContactStore)) (agent : AgentId) :
    (RevokedLast crates config localAgentId steps agent →
        AbsentFromSnapshot crates config localAgentId steps agent) ↔
      (DecidedAgainstLast crates config localAgentId steps agent →
        NoneAdmitted crates config localAgentId (encodeAgentId crates.hex agent) steps) := by
  rw [revokedLast_iff, absentFromSnapshot_iff]

/-- A friend that is accepted, then blocked, and announces again: the announcement is
rejected and the friend stays among the trusted peers. -/
theorem revoked_friend_stays :
    RevokedLast friendsCrates friendsConfig friendsLocalId
        [friendStep (friendCapability 0xaa 1).jsonBytes 0xaa 10 .accept,
          friendStep (friendCapability 0xaa 1).jsonBytes 0xaa 11 .rejectBlocked]
        (uniformAgent 0xaa).agentId ∧
      ¬ AbsentFromSnapshot friendsCrates friendsConfig friendsLocalId
        [friendStep (friendCapability 0xaa 1).jsonBytes 0xaa 10 .accept,
          friendStep (friendCapability 0xaa 1).jsonBytes 0xaa 11 .rejectBlocked]
        (uniformAgent 0xaa).agentId := by
  have hdecoded := friendsCrates_fromSlice 0xaa 1 (by decide)
  have hvetted : Vetted friendsCrates friendsConfig friendsLocalId
      (friendStep (friendCapability 0xaa 1).jsonBytes 0xaa 11 .rejectBlocked)
      (friendVetting 0xaa 1) := friendStep_vetted hdecoded (by decide) 11 .rejectBlocked
  have hadm : Admissible friendsCrates friendsConfig friendsLocalId
      (friendStep (friendCapability 0xaa 1).jsonBytes 0xaa 10 .accept)
      (friendVetting 0xaa 1) := friendStep_admissible (by decide) (by decide) 10
  refine ⟨?_, ?_⟩
  · refine ⟨[_], _, [], _, rfl, hvetted, rfl, Or.inl ?_, by simp⟩
    rw [step_fst, stepDisposition_of_vetted hvetted, friendVetting_decision]
    rw [friendVetting_decision]
    rfl
  · rw [absentFromSnapshot_iff]
    intro hnone
    exact hnone _ List.mem_cons_self _ hadm rfl

/-! ## Replayed announcements -/

/-- The capability stored for the agent after the run. -/
def storedCapability (crates : MeshCrates ContactStore) (config : ComputeConfig)
    (localAgentId : String) (steps : List (MeshStep ContactStore)) (agent : AgentId) :
    Option CapabilityAnnouncement :=
  ((registryMachine crates config localAgentId).exec .new steps).peers[
    encodeAgentId crates.hex agent]?.map PeerCapabilityRecord.capability

/-- The agent's admissible announcements, in the order delivered. -/
def delivered (crates : MeshCrates ContactStore) (config : ComputeConfig)
    (localAgentId : String) (steps : List (MeshStep ContactStore)) (agent : AgentId) :
    List CapabilityAnnouncement :=
  (admittedAt crates config localAgentId (encodeAgentId crates.hex agent) steps).map
    fun p => p.2.capability

/-- `c'` was not observed before `c`. -/
def CapabilityAnnouncement.NoOlder (c c' : CapabilityAnnouncement) : Prop :=
  c.observedAtUnixSecs ≤ c'.observedAtUnixSecs

/-- Along the run the observation time stored for the agent never decreases. -/
def NeverOlder (crates : MeshCrates ContactStore) (config : ComputeConfig)
    (localAgentId : String) (steps : List (MeshStep ContactStore)) (agent : AgentId) : Prop :=
  ∀ pre mid post, steps = pre ++ mid ++ post → ∀ c c',
    storedCapability crates config localAgentId pre agent = some c →
    storedCapability crates config localAgentId (pre ++ mid) agent = some c' → c.NoOlder c'

/-- The last of the announcements has the greatest observation time. -/
def NewestLast (l : List CapabilityAnnouncement) : Prop :=
  ∀ c, l.getLast? = some c → ∀ c' ∈ l, c'.NoOlder c

/-- What is stored is the last announcement delivered. -/
theorem storedCapability_eq (steps : List (MeshStep ContactStore)) (agent : AgentId) :
    storedCapability crates config localAgentId steps agent =
      (delivered crates config localAgentId steps agent).getLast? := by
  rw [storedCapability, getElem?_peers_exec_new, delivered, List.getLast?_map]
  induction admittedAt crates config localAgentId (encodeAgentId crates.hex agent) steps
    using List.reverseRecOn with
  | nil => rfl
  | append_singleton l p _ => simp [recordOf_concat, Vetting.record]

theorem delivered_append (steps steps' : List (MeshStep ContactStore)) (agent : AgentId) :
    delivered crates config localAgentId (steps ++ steps') agent =
      delivered crates config localAgentId steps agent ++
        delivered crates config localAgentId steps' agent := by
  rw [delivered, admittedAt_append, List.map_append]
  rfl

/-- One message delivers one announcement at most. -/
theorem delivered_singleton (s : MeshStep ContactStore) (agent : AgentId) :
    delivered crates config localAgentId [s] agent = [] ∨
      ∃ c, delivered crates config localAgentId [s] agent = [c] := by
  unfold delivered admittedAt
  cases hadmission : admitAt crates config localAgentId (encodeAgentId crates.hex agent) s with
  | none => exact Or.inl (by simp [hadmission])
  | some p => exact Or.inr ⟨p.2.capability, by simp [hadmission]⟩

/-- A delivered announcement is stored right after its delivery. -/
theorem exists_stored_of_mem_delivered {steps : List (MeshStep ContactStore)}
    {agent : AgentId} {c : CapabilityAnnouncement}
    (h : c ∈ delivered crates config localAgentId steps agent) :
    ∃ pre post, steps = pre ++ post ∧
      storedCapability crates config localAgentId pre agent = some c := by
  rcases List.mem_map.mp h with ⟨⟨s, v⟩, hmem, rfl⟩
  rcases mem_admittedAt_iff.mp hmem with ⟨hs, hadm, hkey⟩
  obtain ⟨pre, post, rfl⟩ := List.append_of_mem hs
  have hone : delivered crates config localAgentId [s] agent = [v.capability] := by
    rw [delivered, ← hkey, admittedAt_cons_of_admissible hadm]
    rfl
  refine ⟨pre ++ [s], post, by simp, ?_⟩
  rw [storedCapability_eq, delivered_append, hone, List.getLast?_concat]

/-- If the stored observation time never decreases, each announcement delivered is no older
than those before it: each of those was stored, and so is the last. -/
theorem pairwise_of_neverOlder {steps : List (MeshStep ContactStore)} {agent : AgentId}
    (h : NeverOlder crates config localAgentId steps agent) :
    (delivered crates config localAgentId steps agent).Pairwise
      CapabilityAnnouncement.NoOlder := by
  induction steps using List.reverseRecOn with
  | nil => exact List.Pairwise.nil
  | append_singleton steps s ih =>
    have hbefore : NeverOlder crates config localAgentId steps agent := by
      intro pre mid post heq
      exact h pre mid (post ++ [s]) (by rw [heq, List.append_assoc])
    rcases delivered_singleton s agent with hnone | ⟨last, hone⟩
    · rw [delivered_append, hnone, List.append_nil]
      exact ih hbefore
    · rw [delivered_append, hone, List.pairwise_append]
      refine ⟨ih hbefore, List.pairwise_singleton _ _, ?_⟩
      intro c hc c' hc'
      rw [List.mem_singleton] at hc'
      subst hc'
      rcases exists_stored_of_mem_delivered hc with ⟨pre, post, rfl, hstored⟩
      refine h pre (post ++ [s]) [] (by simp) c c' hstored ?_
      rw [← List.append_assoc, storedCapability_eq, delivered_append, hone,
        List.getLast?_concat]

/-- If the announcements come in the order of their observation times, what is stored later
was delivered later, or is what was stored before. -/
theorem neverOlder_of_pairwise {steps : List (MeshStep ContactStore)} {agent : AgentId}
    (h : (delivered crates config localAgentId steps agent).Pairwise
      CapabilityAnnouncement.NoOlder) :
    NeverOlder crates config localAgentId steps agent := by
  rintro pre mid post rfl c c' hc hc'
  rw [delivered_append, List.pairwise_append, delivered_append, List.pairwise_append] at h
  obtain ⟨⟨-, -, hcross⟩, -, -⟩ := h
  rw [storedCapability_eq] at hc hc'
  rw [delivered_append] at hc'
  cases hlast : (delivered crates config localAgentId mid agent).getLast? with
  | none =>
    rw [List.getLast?_eq_none_iff.mp hlast, List.append_nil, hc] at hc'
    cases hc'
    exact BitVec.le_refl _
  | some last =>
    rw [List.getLast?_append, hlast, Option.some_or] at hc'
    cases hc'
    exact hcross c (List.mem_of_getLast? hc) c' (List.mem_of_getLast? hlast)

/-- The stored observation time never decreases exactly in the runs that deliver the
agent's admissible announcements in the order of their observation times. -/
theorem neverOlder_iff {steps : List (MeshStep ContactStore)} {agent : AgentId} :
    NeverOlder crates config localAgentId steps agent ↔
      (delivered crates config localAgentId steps agent).Pairwise
        CapabilityAnnouncement.NoOlder :=
  ⟨pairwise_of_neverOlder, neverOlder_of_pairwise⟩

/-- The last delivery wins, whatever the observation times: the capability stored for an
agent is that of its last admissible announcement. So its observation time never decreases
iff the announcements come in the order of their times, and it is the greatest of those
delivered iff the last one is the newest. Two nodes that receive the same announcements of
the agent, with distinct times and the newest last, store the same capability. -/
theorem stored_last_delivered (agent : AgentId) (steps : List (MeshStep ContactStore)) :
    storedCapability crates config localAgentId steps agent =
        (delivered crates config localAgentId steps agent).getLast? ∧
      (NeverOlder crates config localAgentId steps agent ↔
        (delivered crates config localAgentId steps agent).Pairwise
          CapabilityAnnouncement.NoOlder) ∧
      ((∀ c, storedCapability crates config localAgentId steps agent = some c →
          ∀ c' ∈ delivered crates config localAgentId steps agent, c'.NoOlder c) ↔
        NewestLast (delivered crates config localAgentId steps agent)) ∧
      ∀ (ContactStore' : Type) (crates' : MeshCrates ContactStore') (config' : ComputeConfig)
        (localAgentId' : String) (steps' : List (MeshStep ContactStore')),
        (∀ c, c ∈ delivered crates config localAgentId steps agent ↔
          c ∈ delivered crates' config' localAgentId' steps' agent) →
        (∀ c ∈ delivered crates config localAgentId steps agent,
          ∀ c' ∈ delivered crates config localAgentId steps agent,
            c.observedAtUnixSecs = c'.observedAtUnixSecs → c = c') →
        NewestLast (delivered crates config localAgentId steps agent) →
        NewestLast (delivered crates' config' localAgentId' steps' agent) →
        storedCapability crates config localAgentId steps agent =
          storedCapability crates' config' localAgentId' steps' agent := by
  refine ⟨storedCapability_eq steps agent, neverOlder_iff, ?greatest, ?converge⟩
  case greatest => rw [storedCapability_eq, NewestLast]
  case converge =>
    intro ContactStore' crates' config' localAgentId' steps' hsame hdistinct hnewest hnewest'
    rw [storedCapability_eq, storedCapability_eq]
    cases hlast : (delivered crates config localAgentId steps agent).getLast? with
    | none =>
      rw [List.getLast?_eq_none_iff] at hlast
      symm
      rw [List.getLast?_eq_none_iff, List.eq_nil_iff_forall_not_mem]
      intro c hc
      rw [← hsame, hlast] at hc
      cases hc
    | some c =>
      have hmem := List.mem_of_getLast? hlast
      obtain ⟨c', hlast'⟩ := List.getLast?_isSome.mpr
        (List.ne_nil_of_mem ((hsame c).mp hmem)) |> Option.isSome_iff_exists.mp
      have hmem' := (hsame c').mpr (List.mem_of_getLast? hlast')
      have hle : c'.NoOlder c := hnewest c hlast c' hmem'
      have hge : c.NoOlder c' := hnewest' c' hlast' c ((hsame c).mp hmem)
      rw [hlast', hdistinct c hmem c' hmem' (BitVec.le_antisymm hge hle)]

theorem delivered_friendStep {b : U8} {observed : U64} (h : (b, observed) ∈ friendTimes)
    (hb : b ≠ 0xff) (now : U64) (steps : List (MeshStep (List (AgentId × TrustDecision)))) :
    delivered friendsCrates friendsConfig friendsLocalId
        (friendStep (friendCapability b observed).jsonBytes b now .accept :: steps)
        (uniformAgent b).agentId =
      friendCapability b observed ::
        delivered friendsCrates friendsConfig friendsLocalId steps (uniformAgent b).agentId := by
  have hadmitted := admittedAt_cons_of_admissible (friendStep_admissible h hb now) steps
  exact congrArg (List.map fun p : MeshStep _ × Vetting => p.2.capability) hadmitted

/-- A friend announces at the time 1 and at the time 2. Delivered in this order they leave
the announcement of the time 2; delivered in the other order they leave that of the time 1,
which replaces the newer one. -/
theorem stored_older_announcement :
    (storedCapability friendsCrates friendsConfig friendsLocalId
        [friendStep (friendCapability 0xaa 2).jsonBytes 0xaa 10 .accept,
          friendStep (friendCapability 0xaa 1).jsonBytes 0xaa 11 .accept]
        (uniformAgent 0xaa).agentId).map CapabilityAnnouncement.observedAtUnixSecs = some 1 ∧
      (storedCapability friendsCrates friendsConfig friendsLocalId
        [friendStep (friendCapability 0xaa 1).jsonBytes 0xaa 10 .accept,
          friendStep (friendCapability 0xaa 2).jsonBytes 0xaa 11 .accept]
        (uniformAgent 0xaa).agentId).map CapabilityAnnouncement.observedAtUnixSecs = some 2 ∧
      ¬ NeverOlder friendsCrates friendsConfig friendsLocalId
        [friendStep (friendCapability 0xaa 2).jsonBytes 0xaa 10 .accept,
          friendStep (friendCapability 0xaa 1).jsonBytes 0xaa 11 .accept]
        (uniformAgent 0xaa).agentId := by
  have h₁ : ((0xaa : U8), (1 : U64)) ∈ friendTimes := by decide
  have h₂ : ((0xaa : U8), (2 : U64)) ∈ friendTimes := by decide
  refine ⟨?_, ?_, ?_⟩
  · rw [storedCapability_eq, delivered_friendStep h₂ (by decide),
      delivered_friendStep h₁ (by decide)]
    rfl
  · rw [storedCapability_eq, delivered_friendStep h₁ (by decide),
      delivered_friendStep h₂ (by decide)]
    rfl
  · rw [neverOlder_iff, delivered_friendStep h₂ (by decide),
      delivered_friendStep h₁ (by decide), List.pairwise_cons]
    rintro ⟨hle, -⟩
    have hbad := hle _ List.mem_cons_self
    exact absurd hbad (by decide : ¬ (2 : U64) ≤ 1)

end X0xCompute
