import X0xCompute.Mesh.History

/-!
# Where the records of the registry come from

Every record of a registry that started empty was written for a vetted, admissible message
of the run, and still says exactly what that message said.
-/

namespace X0xCompute

open Lib

variable {ContactStore : Type} {crates : MeshCrates ContactStore} {config : ComputeConfig}
  {localAgentId : String}

/-- A decision the policy admits is `Accept`, or `AcceptWithFlag` under a policy with both
flags off. -/
theorem allowsPeer_iff {decision : TrustDecision} :
    allowsPeer config decision = true ↔
      decision = .accept ∨
        decision = .acceptWithFlag ∧ config.mesh.trustedFriendsOnly = false ∧
          config.mesh.requireTrustedContacts = false := by
  cases decision <;> simp [allowsPeer]

/-- A record at a key comes from an admissible message of the run with that key. -/
theorem exists_admitted_of_record {steps : List (MeshStep ContactStore)} {key : String}
    {record : PeerCapabilityRecord}
    (h : ((registryMachine crates config localAgentId).exec .new steps).peers[key]? =
      some record) :
    ∃ s ∈ steps, ∃ v, Admissible crates config localAgentId s v ∧
      encodeAgentId crates.hex v.sender = key ∧ record.capability = v.capability ∧
      record.trustDecision = v.decision crates s := by
  rcases getElem?_peers_eq_some_iff.mp h with ⟨_, _, s, v, _, hlast, hcapability, hdecision, _⟩
  rcases hlast with ⟨pre, post, rfl, _, hadm, hkey⟩
  exact ⟨s, by simp, v, hadm, hkey, hcapability, hdecision⟩

/-- A record is kept under the agent id it announces. -/
theorem registry_record_key {steps : List (MeshStep ContactStore)} {key : String}
    {record : PeerCapabilityRecord}
    (h : ((registryMachine crates config localAgentId).exec .new steps).peers[key]? =
      some record) :
    key = record.capability.identity.agentId := by
  obtain ⟨s, -, v, hadm, rfl, hcap, -⟩ := exists_admitted_of_record h
  rw [hcap, hadm.agentId]

/-! ## A small mesh

Concrete crates for the runs of this and the following files: JSON text for a list of known
announcements whose strings need no escapes, and trust by contact list. -/

def jsonString (s : String) : String := "\"" ++ s ++ "\""

def jsonOption (s : Option String) : String := (s.map jsonString).getD "null"

def jsonBool (b : Bool) : String := if b then "true" else "false"

/-- The JSON text of an announcement between the opening brace and its observation time. -/
def CapabilityAnnouncement.jsonPrefix (c : CapabilityAnnouncement) : String :=
  "\"protocol_version\":" ++ Nat.repr c.protocolVersion.toNat ++
  ",\"identity\":\x7b\"machine_id\":" ++ jsonString c.identity.machineId ++
  ",\"agent_id\":" ++ jsonString c.identity.agentId ++
  ",\"user_id\":" ++ jsonOption c.identity.userId ++
  "\x7d,\"hardware\":\x7b\"hostname\":" ++ jsonOption c.hardware.hostname ++
  ",\"cpu_brand\":" ++ jsonString c.hardware.cpuBrand ++
  ",\"logical_cores\":" ++ Nat.repr c.hardware.logicalCores.toNat ++
  ",\"total_memory_bytes\":" ++ Nat.repr c.hardware.totalMemoryBytes.toNat ++
  ",\"available_memory_bytes\":" ++ Nat.repr c.hardware.availableMemoryBytes.toNat ++
  "\x7d,\"policy\":\x7b\"mesh_name\":" ++ jsonString c.policy.meshName ++
  ",\"trusted_friends_only\":" ++ jsonBool c.policy.trustedFriendsOnly ++
  ",\"require_trusted_contacts\":" ++ jsonBool c.policy.requireTrustedContacts ++
  ",\"prefer_user_identity\":" ++ jsonBool c.policy.preferUserIdentity ++
  "\x7d,\"available_models\":[" ++ ",".intercalate (c.availableModels.map jsonString) ++
  "],\"observed_at_unix_secs\":"

/-- The bytes of the JSON text of an announcement whose strings need no escapes. -/
def CapabilityAnnouncement.jsonBytes (c : CapabilityAnnouncement) : List U8 :=
  0x7b ::
    (c.jsonPrefix.toList ++ Nat.toDigits 10 c.observedAtUnixSecs.toNat ++ [Char.ofNat 0x7d]).map
      fun ch => BitVec.ofNat 8 ch.toNat

/-- JSON encoding and decoding of the announcements in `known`. -/
def plainJson (known : List CapabilityAnnouncement) : SerdeJson CapabilityAnnouncement where
  toVec c := if c ∈ known then .ok c.jsonBytes else .error "not a known value"
  fromSlice payload :=
    match known.find? fun c => c.jsonBytes = payload with
    | some c => .ok c
    | none => .error "expected value at line 1 column 1"

/-- Trust by contact list: a listed agent has its decision, any other is unknown. -/
def contactTrust : TrustEvaluator (List (AgentId × TrustDecision)) where
  evaluate contacts context := (contacts.lookup context.agentId).getD .unknown

/-- An agent whose identities are one byte repeated. -/
def uniformAgent (b : U8) : Agent where
  machineId := ⟨Vector.replicate 32 b⟩
  agentId := ⟨Vector.replicate 32 b⟩
  userId := none

def friendsConfig : ComputeConfig := ComputeConfig.default ⟨[]⟩

def friendsSystem : SystemReport where
  cpuBrands := []
  hostName := none
  totalMemory := 0
  availableMemory := 0

/-- What the agent announces at the time `now` under the default configuration. -/
def friendCapability (b : U8) (now : U64) : CapabilityAnnouncement :=
  .local friendsConfig (.fromAgent .usual (uniformAgent b)) friendsSystem now

/-- Who announces when. -/
def friendTimes : List (U8 × U64) := [(0xaa, 1), (0xaa, 2), (0xbb, 3)]

def friendsCrates : MeshCrates (List (AgentId × TrustDecision)) where
  hex := .usual
  json := plainJson (friendTimes.map fun p => friendCapability p.1 p.2)
  trust := contactTrust

/-- The id of the node that receives the announcements. -/
def friendsLocalId : String := encodeAgentId .usual (uniformAgent 0xff).agentId

/-- A verified message of the agent, handled at the time `now` with the agent's decision in
the contact list. -/
def friendStep (payload : List U8) (b : U8) (now : U64) (decision : TrustDecision) :
    MeshStep (List (AgentId × TrustDecision)) where
  message :=
    { payload := payload
      sender := some (uniformAgent b).agentId
      verified := true }
  contacts := [((uniformAgent b).agentId, decision)]
  now := now

@[simp] theorem friendStep_sender (payload : List U8) (b : U8) (now : U64)
    (decision : TrustDecision) :
    (friendStep payload b now decision).message.sender = some (uniformAgent b).agentId := rfl

/-- The one-digit times at the end of equal texts are equal. -/
theorem observedAt_of_jsonBytes {c c' : CapabilityAnnouncement}
    (h : c.observedAtUnixSecs.toNat < 10) (h' : c'.observedAtUnixSecs.toNat < 10)
    (heq : c.jsonBytes = c'.jsonBytes) : c.observedAtUnixSecs = c'.observedAtUnixSecs := by
  have hdigit : ∀ m < 10, ∀ n < 10, BitVec.ofNat 8 (Nat.digitChar m).toNat =
      BitVec.ofNat 8 (Nat.digitChar n).toNat → m = n := by decide
  unfold CapabilityAnnouncement.jsonBytes at heq
  rw [Nat.toDigits_of_lt_base h, Nat.toDigits_of_lt_base h'] at heq
  simp only [List.append_assoc, List.map_append, List.cons.injEq, true_and] at heq
  have hlast := (List.append_inj' heq rfl).2
  simp only [List.map_cons, List.map_nil, List.cons_append, List.cons.injEq] at hlast
  exact BitVec.eq_of_toNat_eq (hdigit _ h _ h' hlast.1)

theorem plainJson_fromSlice {known : List CapabilityAnnouncement} {c : CapabilityAnnouncement}
    (h : c ∈ known) (hinj : ∀ c' ∈ known, c'.jsonBytes = c.jsonBytes → c' = c) :
    (plainJson known).fromSlice c.jsonBytes = .ok c := by
  unfold plainJson
  cases hfind : known.find? fun c' => c'.jsonBytes = c.jsonBytes with
  | none =>
    have := List.find?_eq_none.mp hfind c h
    simp at this
  | some c' =>
    have hbytes := List.find?_some hfind
    rw [hinj c' (List.mem_of_find?_eq_some hfind) (of_decide_eq_true hbytes)] at hfind
    simp only [hfind]

theorem plainJson_toVec_eq_ok_iff {known : List CapabilityAnnouncement}
    {c : CapabilityAnnouncement} {payload : List U8} :
    (plainJson known).toVec c = .ok payload ↔ c ∈ known ∧ c.jsonBytes = payload := by
  simp only [plainJson]
  by_cases h : c ∈ known <;> simp [h]

attribute [irreducible] plainJson CapabilityAnnouncement.jsonBytes

theorem friendsCrates_fromSlice (b : U8) (observed : U64) (h : (b, observed) ∈ friendTimes) :
    friendsCrates.json.fromSlice (friendCapability b observed).jsonBytes =
      .ok (friendCapability b observed) := by
  have htime : ∀ p ∈ friendTimes, p.2.toNat < 10 := by simp [friendTimes]
  have hinj : ∀ p ∈ friendTimes, ∀ q ∈ friendTimes, p.2 = q.2 → p = q := by
    simp [friendTimes]
  have hmem : friendCapability b observed ∈
      friendTimes.map fun p => friendCapability p.1 p.2 := List.mem_map.mpr ⟨_, h, rfl⟩
  refine plainJson_fromSlice hmem ?_
  intro c' h' heq
  rcases List.mem_map.mp h' with ⟨p, hp, rfl⟩
  have hsame := observedAt_of_jsonBytes (htime p hp) (htime _ h) heq
  rw [hinj p hp _ h hsame]

theorem friendsCrates_toVec_eq_ok_iff {c : CapabilityAnnouncement} {payload : List U8} :
    friendsCrates.json.toVec c = .ok payload ↔
      c ∈ friendTimes.map (fun p => friendCapability p.1 p.2) ∧ c.jsonBytes = payload :=
  plainJson_toVec_eq_ok_iff

theorem friendsCrates_roundTrips : friendsCrates.json.RoundTrips := by
  intro c payload h
  rcases friendsCrates_toVec_eq_ok_iff.mp h with ⟨hmem, rfl⟩
  rcases List.mem_map.mp hmem with ⟨p, hp, rfl⟩
  exact friendsCrates_fromSlice p.1 p.2 hp

theorem encodeAgentId_uniformAgent_ne_local {b : U8} (hb : b ≠ 0xff) :
    encodeAgentId .usual (uniformAgent b).agentId ≠ friendsLocalId := by
  intro heq
  have hid : (uniformAgent b).agentId = (uniformAgent 0xff).agentId :=
    encodeAgentId_injective HexCrate.usual_encodesLower.encode_injective heq
  have hbyte := congrArg (fun a : AgentId => a.bytes[0]) hid
  simp only [uniformAgent, Vector.getElem_replicate] at hbyte
  exact hb hbyte

/-- What is found in a friend's announcement. -/
def friendVetting (b : U8) (observed : U64) : Vetting where
  sender := (uniformAgent b).agentId
  capability := friendCapability b observed
  machineId := (uniformAgent b).machineId

theorem friendStep_vetted {payload : List U8} {b : U8} {observed : U64}
    (h : friendsCrates.json.fromSlice payload = .ok (friendCapability b observed))
    (hb : b ≠ 0xff) (now : U64) (decision : TrustDecision) :
    Vetted friendsCrates friendsConfig friendsLocalId (friendStep payload b now decision)
      (friendVetting b observed) where
  sender := rfl
  verified := rfl
  notSelf := encodeAgentId_uniformAgent_ne_local hb
  decoded := h
  protocol := rfl
  meshName := rfl
  agentId := rfl
  machineId := parseMachineIdHex_encodeMachineId HexCrate.usual_decodesEncoded
    (uniformAgent b).machineId

/-- The contact list of a friend's step has its decision. -/
theorem friendVetting_decision (payload : List U8) (b : U8) (observed now : U64)
    (decision : TrustDecision) :
    (friendVetting b observed).decision friendsCrates (friendStep payload b now decision) =
      decision := by
  simp [Vetting.decision, friendsCrates, contactTrust, friendVetting, friendStep]

theorem friendStep_admissible {b : U8} {observed : U64} (h : (b, observed) ∈ friendTimes)
    (hb : b ≠ 0xff) (now : U64) :
    Admissible friendsCrates friendsConfig friendsLocalId
      (friendStep (friendCapability b observed).jsonBytes b now .accept)
      (friendVetting b observed) where
  toVetted := friendStep_vetted (friendsCrates_fromSlice b observed h) hb now .accept
  allowed := by
    rw [friendVetting_decision]
    rfl

/-- The id under which a friend's record is kept. -/
def friendId (b : U8) : String := encodeAgentId .usual (uniformAgent b).agentId

/-! ## Provenance -/

/-- Every record in the registry was announced by its authenticated sender: the key is the
sender's id and the announced agent id, not the local one, and the capability is the decoded
payload of a verified message of the run, for the right protocol and mesh and with a machine
id that parses. Its trust decision is the evaluator's, under the contact store of that
message, and the policy admits it. -/
theorem registry_provenance {steps : List (MeshStep ContactStore)} {key : String}
    {record : PeerCapabilityRecord}
    (h : ((registryMachine crates config localAgentId).exec .new steps).peers[key]? =
      some record) :
    key = record.capability.identity.agentId ∧ key ≠ localAgentId ∧
      record.capability.protocolVersion = protocolVersion ∧
      record.capability.policy.meshName = config.mesh.name ∧
      (allowsPeer config record.trustDecision = true ∧
        (record.trustDecision = .accept ∨
          record.trustDecision = .acceptWithFlag ∧ config.mesh.trustedFriendsOnly = false ∧
            config.mesh.requireTrustedContacts = false)) ∧
      ∃ s ∈ steps, ∃ sender machineId,
        s.message.sender = some sender ∧ s.message.verified = true ∧
        key = encodeAgentId crates.hex sender ∧
        (crates.hex.EncodesLower → key = hexLower sender.bytes.toList) ∧
        crates.json.fromSlice s.message.payload = .ok record.capability ∧
        parseMachineIdHex crates.hex record.capability.identity.machineId = .ok machineId ∧
        record.trustDecision =
          crates.trust.evaluate s.contacts { agentId := sender, machineId := machineId } := by
  obtain ⟨s, hs, v, hadm, rfl, hcap, hdec⟩ := exists_admitted_of_record h
  have hallowed : allowsPeer config record.trustDecision = true := by
    rw [hdec]
    exact hadm.allowed
  rw [hcap]
  exact ⟨hadm.agentId.symm, hadm.notSelf, hadm.protocol, hadm.meshName,
    ⟨hallowed, allowsPeer_iff.mp hallowed⟩, s, hs, v.sender, v.machineId, hadm.sender,
    hadm.verified, rfl, fun hlower => hlower _, hadm.decoded, hadm.machineId, hdec⟩

/-- The run of one accepted announcement, and where its record comes from. -/
theorem registry_provenance_friend :
    ∃ record, ((registryMachine friendsCrates friendsConfig friendsLocalId).exec .new
        [friendStep (friendCapability 0xaa 1).jsonBytes 0xaa 10 .accept]).peers[friendId 0xaa]? =
          some record ∧
      friendId 0xaa = record.capability.identity.agentId ∧ friendId 0xaa ≠ friendsLocalId ∧
      record.capability.policy.meshName = "friends" ∧
      (record.trustDecision = .accept ∨
        record.trustDecision = .acceptWithFlag ∧ friendsConfig.mesh.trustedFriendsOnly = false ∧
          friendsConfig.mesh.requireTrustedContacts = false) := by
  have hadm : Admissible friendsCrates friendsConfig friendsLocalId
      (friendStep (friendCapability 0xaa 1).jsonBytes 0xaa 10 .accept)
      (friendVetting 0xaa 1) := friendStep_admissible (by decide) (by decide) 10
  have hrecord := getElem?_peers_exec_new_singleton hadm
  obtain ⟨hagent, hself, -, hmesh, ⟨-, hallowed⟩, -⟩ := registry_provenance hrecord
  exact ⟨_, hrecord, hagent, hself, hmesh, hallowed⟩

end X0xCompute
