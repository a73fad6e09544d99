import X0xCompute.Mesh.Retention

/-!
# From one node's announcement to another's registry

The announcement is built on one node and vetted on another, by code written twice. This
file joins the two sides: what the builder writes passes every check of the handler.
-/

namespace X0xCompute

open Lib

variable {ContactStore : Type} {crates : MeshCrates ContactStore}

/-- A successful announcement published the encoding of the capability it returns, which is
the local one. -/
theorem announceLocalCapability_ok {json : SerdeJson CapabilityAnnouncement}
    {publish : Publication → Except String Unit} {config : ComputeConfig}
    {identity : AgentIdentitySnapshot} {system : SystemReport} {now : U64}
    {publication : Publication} {published : CapabilityAnnouncement}
    (h : announceLocalCapability json publish config identity system now =
      (some publication, .ok published)) :
    published = .local config identity system now ∧
      json.toVec published = .ok publication.payload ∧
      publication.topic = config.capabilityTopic := by
  simp only [announceLocalCapability] at h
  split at h
  · cases h
  · rename_i payload hencode
    split at h
    · cases h
    · cases h
      exact ⟨rfl, hencode, rfl⟩

/-- What an announcement can come to: it is not encoded, or its encoding is handed to the
agent, which refuses it or takes it. -/
theorem announceLocalCapability_cases {json : SerdeJson CapabilityAnnouncement}
    {publish : Publication → Except String Unit} {config : ComputeConfig}
    {identity : AgentIdentitySnapshot} {system : SystemReport} {now : U64}
    {published : Option Publication}
    {result : Except ComputeError CapabilityAnnouncement}
    (h : announceLocalCapability json publish config identity system now =
      (published, result)) :
    (∃ text, published = none ∧ result = .error (.json text)) ∨
      ∃ payload, json.toVec (.local config identity system now) = .ok payload ∧
        published = some ⟨config.capabilityTopic, payload⟩ ∧
        ((∃ text, publish ⟨config.capabilityTopic, payload⟩ = .error text ∧
            result = .error (.x0xIdentity text)) ∨
          publish ⟨config.capabilityTopic, payload⟩ = .ok () ∧
            result = .ok (.local config identity system now)) := by
  simp only [announceLocalCapability] at h
  cases hencode : json.toVec (.local config identity system now) with
  | error text =>
    rw [hencode] at h
    cases h
    exact Or.inl ⟨text, rfl, rfl⟩
  | ok payload =>
    rw [hencode] at h
    refine Or.inr ⟨payload, rfl, ?_⟩
    cases hpublish : publish ⟨config.capabilityTopic, payload⟩ with
    | error text =>
      simp only [hpublish] at h
      cases h
      exact ⟨rfl, Or.inl ⟨text, rfl, rfl⟩⟩
    | ok u =>
      simp only [hpublish] at h
      cases h
      exact ⟨rfl, Or.inr ⟨rfl, rfl⟩⟩

/-- The announcement of an agent's own snapshot is vetted on every other node of the mesh. -/
theorem vetted_of_local (hhex : crates.hex.DecodesEncoded) {senderConfig config : ComputeConfig}
    (hmesh : senderConfig.mesh.name = config.mesh.name) {agent : Agent} {other : AgentId}
    (hother : other ≠ agent.agentId) {system : SystemReport} {announcedAt : U64}
    {s : MeshStep ContactStore} (hsender : s.message.sender = some agent.agentId)
    (hverified : s.message.verified = true)
    (hdecoded : crates.json.fromSlice s.message.payload =
      .ok (.local senderConfig (.fromAgent crates.hex agent) system announcedAt)) :
    Vetted crates config (encodeAgentId crates.hex other) s
      { sender := agent.agentId
        capability := .local senderConfig (.fromAgent crates.hex agent) system announcedAt
        machineId := agent.machineId } where
  sender := hsender
  verified := hverified
  notSelf := fun heq => hother (encodeAgentId_injective hhex.encode_injective heq).symm
  decoded := hdecoded
  protocol := rfl
  meshName := hmesh
  agentId := rfl
  machineId := parseMachineIdHex_encodeMachineId hhex agent.machineId

/-- What one node announces, every other node of the same mesh that trusts it accepts
unchanged: delivered as a verified message of the announcing agent, it is accepted from
every registry, and the record stored for the agent carries the published capability. -/
theorem announced_is_stored (hhex : crates.hex.DecodesEncoded)
    (hjson : crates.json.RoundTrips) {senderConfig config : ComputeConfig}
    (hmesh : senderConfig.mesh.name = config.mesh.name) {agent : Agent} {other : AgentId}
    (hother : other ≠ agent.agentId) {publish : Publication → Except String Unit}
    {system : SystemReport} {announcedAt : U64} {publication : Publication}
    {published : CapabilityAnnouncement}
    (hannounce : announceLocalCapability crates.json publish senderConfig
      (.fromAgent crates.hex agent) system announcedAt = (some publication, .ok published))
    {s : MeshStep ContactStore} (hpayload : s.message.payload = publication.payload)
    (hsender : s.message.sender = some agent.agentId) (hverified : s.message.verified = true)
    (hallowed : allowsPeer config (crates.trust.evaluate s.contacts
      { agentId := agent.agentId, machineId := agent.machineId }) = true)
    (self : TrustedPeerRegistry) :
    ((registryMachine crates config (encodeAgentId crates.hex other)).step self s).1.accepted ∧
      ∃ record,
        ((registryMachine crates config (encodeAgentId crates.hex other)).step self s).2.peers[
          encodeAgentId crates.hex agent.agentId]? = some record ∧
        record.capability = published := by
  obtain ⟨rfl, hencode, -⟩ := announceLocalCapability_ok hannounce
  have hdecoded := hjson _ _ hencode
  rw [← hpayload] at hdecoded
  have hadm : Admissible crates config (encodeAgentId crates.hex other) s _ :=
    { toVetted := vetted_of_local hhex hmesh hother hsender hverified hdecoded
      allowed := hallowed }
  have hstored := getElem?_step_of_admissible self hadm (encodeAgentId crates.hex agent.agentId)
  rw [if_pos rfl] at hstored
  exact ⟨(accepted_step_iff self s).mpr ⟨_, hadm⟩, _, hstored, rfl⟩

/-- A friend's announcement, accepted by a node that holds nothing yet. -/
theorem announced_is_stored_friend :
    ((registryMachine friendsCrates friendsConfig friendsLocalId).step .new
      (friendStep (friendCapability 0xaa 1).jsonBytes 0xaa 10 .accept)).1.accepted := by
  have hencode : friendsCrates.json.toVec (friendCapability 0xaa 1) =
      .ok (friendCapability 0xaa 1).jsonBytes := by
    rw [friendsCrates_toVec_eq_ok_iff]
    exact ⟨List.mem_map.mpr ⟨(0xaa, 1), by decide, rfl⟩, rfl⟩
  have hannounce : announceLocalCapability friendsCrates.json (fun _ => .ok ()) friendsConfig
      (.fromAgent .usual (uniformAgent 0xaa)) friendsSystem 1 =
        (some ⟨friendsConfig.capabilityTopic, (friendCapability 0xaa 1).jsonBytes⟩,
          .ok (friendCapability 0xaa 1)) := by
    have hlocal : CapabilityAnnouncement.local friendsConfig
        (.fromAgent .usual (uniformAgent 0xaa)) friendsSystem 1 = friendCapability 0xaa 1 := rfl
    simp only [announceLocalCapability, hlocal, hencode]
  have hadm : Admissible friendsCrates friendsConfig friendsLocalId
      (friendStep (friendCapability 0xaa 1).jsonBytes 0xaa 10 .accept)
      (friendVetting 0xaa 1) := friendStep_admissible (by decide) (by decide) 10
  exact (announced_is_stored HexCrate.usual_decodesEncoded friendsCrates_roundTrips rfl
    (by decide) hannounce rfl rfl rfl hadm.allowed .new).1

end X0xCompute
