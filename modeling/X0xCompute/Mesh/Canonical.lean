import X0xCompute.Mesh.Exactness
import X0xCompute.X0xIdentity.Codec

/-!
# Which identifiers the registry stores

The snapshot of an identity is documented to hold lowercase hexadecimal. The agent id of a
stored record is compared with the encoded sender and always does. The machine id is only
parsed, by a parser that takes digits of either case, and the user id is not looked at: they
are as canonical as the admissible messages announce them.
-/

namespace X0xCompute

open Lib

variable {ContactStore : Type} {crates : MeshCrates ContactStore} {config : ComputeConfig}
  {localAgentId : String}

/-- The lowercase hexadecimal form of 32 bytes. -/
def IsCanonicalId (value : String) : Prop :=
  ∃ bytes : Vector U8 32, value = hexLower bytes.toList

/-- Every identifier of the snapshot is in the documented form. -/
structure CanonicalIdentity (identity : AgentIdentitySnapshot) : Prop where
  agentId : IsCanonicalId identity.agentId
  machineId : IsCanonicalId identity.machineId
  userId : ∀ userId, identity.userId = some userId → IsCanonicalId userId

/-- Every stored identifier is in the documented form, so a machine id is the encoding of
what it parses to, and two records name one machine exactly when the texts agree. -/
structure CanonicalRegistry (hex : HexCrate) (registry : TrustedPeerRegistry) : Prop where
  identity (key : String) (record : PeerCapabilityRecord) :
    registry.peers[key]? = some record → CanonicalIdentity record.capability.identity
  encode_parsed (key : String) (record : PeerCapabilityRecord) :
    registry.peers[key]? = some record → ∃ machineId,
      parseMachineIdHex hex record.capability.identity.machineId = .ok machineId ∧
        encodeMachineId hex machineId = record.capability.identity.machineId
  same_machine (key key' : String) (record record' : PeerCapabilityRecord)
    (machineId machineId' : MachineId) :
    registry.peers[key]? = some record → registry.peers[key']? = some record' →
    parseMachineIdHex hex record.capability.identity.machineId = .ok machineId →
    parseMachineIdHex hex record'.capability.identity.machineId = .ok machineId' →
      (machineId = machineId' ↔
        record.capability.identity.machineId = record'.capability.identity.machineId)

/-- What is asked of an announced snapshot beyond what the checks of a message ask: no
uppercase letter in the machine id, and a user id, if any, of 64 lowercase digits. -/
structure AnnouncesLowercase (identity : AgentIdentitySnapshot) : Prop where
  machineId : ∀ c ∈ identity.machineId.toList, c.isUpper = false
  userId : ∀ userId, identity.userId = some userId →
    IsIdText userId ∧ ∀ c ∈ userId.toList, c.isUpper = false

theorem isCanonicalId_iff {value : String} :
    IsCanonicalId value ↔ IsIdText value ∧ ∀ c ∈ value.toList, c.isUpper = false := by
  rw [IsIdText, and_assoc, ← exists_hexLower_iff (n := 32)]
  refine ⟨?_, ?_⟩
  · intro h
    obtain ⟨bytes, hvalue⟩ := h
    exact ⟨bytes.toList, bytes.length_toList, hvalue⟩
  · intro h
    obtain ⟨bs, hlength, hvalue⟩ := h
    exact ⟨⟨bs.toArray, hlength⟩, hvalue⟩

theorem isCanonicalId_encodeAgentId {hex : HexCrate} (henc : hex.EncodesLower)
    (agentId : AgentId) : IsCanonicalId (encodeAgentId hex agentId) :=
  ⟨agentId.bytes, henc _⟩

theorem isCanonicalId_encodeMachineId {hex : HexCrate} (henc : hex.EncodesLower)
    (machineId : MachineId) : IsCanonicalId (encodeMachineId hex machineId) :=
  ⟨machineId.bytes, henc _⟩

/-- A machine id that parses has 64 digits. -/
theorem Vetted.isIdText_machineId (hdec : crates.hex.DecodesHex) {s : MeshStep ContactStore}
    {v : Vetting} (h : Vetted crates config localAgentId s v) :
    IsIdText v.capability.identity.machineId := by
  rw [← parseHex32_accepts_iff hdec _ "machine_id"]
  have hparse := h.machineId
  unfold parseMachineIdHex at hparse
  cases hbytes : parseHex32 crates.hex v.capability.identity.machineId "machine_id" with
  | error e =>
    rw [hbytes] at hparse
    cases hparse
  | ok bytes => exact ⟨bytes, rfl⟩

/-- The snapshot of a vetted message is canonical exactly when it announces lowercase. -/
theorem Vetted.canonicalIdentity_iff (henc : crates.hex.EncodesLower)
    (hdec : crates.hex.DecodesHex) {s : MeshStep ContactStore} {v : Vetting}
    (h : Vetted crates config localAgentId s v) :
    CanonicalIdentity v.capability.identity ↔ AnnouncesLowercase v.capability.identity := by
  refine ⟨?_, ?_⟩
  · intro hcanonical
    exact
      { machineId := (isCanonicalId_iff.mp hcanonical.machineId).2
        userId := fun userId hu => isCanonicalId_iff.mp (hcanonical.userId userId hu) }
  · intro hlower
    exact
      { agentId := h.agentId ▸ isCanonicalId_encodeAgentId henc v.sender
        machineId := isCanonicalId_iff.mpr ⟨h.isIdText_machineId hdec, hlower.machineId⟩
        userId := fun userId hu => isCanonicalId_iff.mpr (hlower.userId userId hu) }

/-- With canonical snapshots throughout, the machine ids compare as texts. -/
theorem canonicalRegistry_of_identity (henc : crates.hex.EncodesLower)
    (hdec : crates.hex.DecodesHex) {registry : TrustedPeerRegistry}
    (hidentity : ∀ (key : String) (record : PeerCapabilityRecord),
      registry.peers[key]? = some record → CanonicalIdentity record.capability.identity) :
    CanonicalRegistry crates.hex registry := by
  refine ⟨hidentity, ?encode_parsed, ?same_machine⟩
  case encode_parsed =>
    intro key record h
    obtain ⟨bytes, hbytes⟩ := (hidentity key record h).machineId
    have hencode : encodeMachineId crates.hex ⟨bytes⟩ =
        record.capability.identity.machineId := by
      rw [hbytes, encodeMachineId, henc]
    refine ⟨⟨bytes⟩, ?_, hencode⟩
    rw [← hencode]
    exact parseMachineIdHex_encodeMachineId (hdec.decodesEncoded henc) ⟨bytes⟩
  case same_machine =>
    intro key key' record record' machineId machineId' h h' hparse hparse'
    have hlower := (isCanonicalId_iff.mp (hidentity key record h).machineId).2
    have hlower' := (isCanonicalId_iff.mp (hidentity key' record' h').machineId).2
    rw [(exactIdentityCodec_machineId henc hdec).parsed_eq_iff hparse hparse',
      toLower_eq_self_iff.mpr hlower, toLower_eq_self_iff.mpr hlower']

/-- The registry is canonical throughout a run exactly when every admissible message of the
run announces lowercase. -/
theorem registry_canonical_iff (henc : crates.hex.EncodesLower) (hdec : crates.hex.DecodesHex)
    (steps : List (MeshStep ContactStore)) :
    (∀ pre post, steps = pre ++ post →
      CanonicalRegistry crates.hex
        ((registryMachine crates config localAgentId).exec .new pre)) ↔
      ∀ s ∈ steps, ∀ v, Admissible crates config localAgentId s v →
        AnnouncesLowercase v.capability.identity := by
  refine ⟨?_, ?_⟩
  · intro h s hs v hadm
    obtain ⟨pre, post, hsplit⟩ := List.append_of_mem hs
    have hstored := h (pre ++ [s]) post (by simp [hsplit])
    rw [Machine.exec_snoc] at hstored
    have hrecord := getElem?_step_of_admissible
      ((registryMachine crates config localAgentId).exec .new pre) hadm
      (encodeAgentId crates.hex v.sender)
    rw [if_pos rfl] at hrecord
    exact (hadm.canonicalIdentity_iff henc hdec).mp (hstored.identity _ _ hrecord)
  · intro h pre post hsplit
    apply canonicalRegistry_of_identity henc hdec
    intro key record hrecord
    obtain ⟨s, hs, v, hadm, -, hcapability, -⟩ := exists_admitted_of_record hrecord
    rw [hcapability, hadm.canonicalIdentity_iff henc hdec]
    exact h s (by simp [hsplit, hs]) v hadm

theorem friendCapability_announcesLowercase (b : U8) (observed : U64) :
    AnnouncesLowercase (friendCapability b observed).identity where
  machineId := (isCanonicalId_iff.mp (isCanonicalId_encodeMachineId
    HexCrate.usual_encodesLower (uniformAgent b).machineId)).2
  userId := nofun

/-- The run of one accepted announcement leaves a canonical registry. -/
theorem registry_canonical_friend :
    CanonicalRegistry HexCrate.usual
      ((registryMachine friendsCrates friendsConfig friendsLocalId).exec .new
        [friendStep (friendCapability 0xaa 1).jsonBytes 0xaa 10 .accept]) := by
  have hadm : Admissible friendsCrates friendsConfig friendsLocalId
      (friendStep (friendCapability 0xaa 1).jsonBytes 0xaa 10 .accept)
      (friendVetting 0xaa 1) := friendStep_admissible (by decide) (by decide) 10
  have henc : friendsCrates.hex.EncodesLower := HexCrate.usual_encodesLower
  have hdec : friendsCrates.hex.DecodesHex := HexCrate.usual_decodesHex
  refine (registry_canonical_iff henc hdec
    [friendStep (friendCapability 0xaa 1).jsonBytes 0xaa 10 .accept]).mpr ?_ _ []
    (List.append_nil _).symm
  intro s hs v hv
  rw [List.mem_singleton] at hs
  subst hs
  rw [hv.toVetted.unique hadm.toVetted]
  exact friendCapability_announcesLowercase 0xaa 1

/-! ## A machine id in uppercase -/

/-- A friend's announcement with the machine id in uppercase and a name for the user id. -/
def shoutedCapability : CapabilityAnnouncement :=
  { friendCapability 0xaa 1 with
    identity :=
      { machineId := String.ofList (List.replicate 64 'A')
        agentId := friendId 0xaa
        userId := some "operator" } }

def shoutedCrates : MeshCrates (List (AgentId × TrustDecision)) where
  hex := .usual
  json := plainJson [shoutedCapability]
  trust := contactTrust

theorem shoutedCrates_fromSlice :
    shoutedCrates.json.fromSlice shoutedCapability.jsonBytes = .ok shoutedCapability :=
  plainJson_fromSlice (List.mem_singleton.mpr rfl) (by simp)

theorem hexBytes?_replicate_A (n : Nat) :
    hexBytes? (List.replicate (2 * n) 'A') = some (List.replicate n 0xaa) := by
  induction n with
  | zero => rfl
  | succ n ih =>
    rw [Nat.mul_succ, List.replicate_succ, List.replicate_succ, hexBytes?, ih]
    rfl

theorem shoutedStep_admissible {payload : List U8}
    (h : shoutedCrates.json.fromSlice payload = .ok shoutedCapability) :
    Admissible shoutedCrates friendsConfig friendsLocalId (friendStep payload 0xaa 10 .accept)
      { sender := (uniformAgent 0xaa).agentId
        capability := shoutedCapability
        machineId := (uniformAgent 0xaa).machineId } where
  sender := rfl
  verified := rfl
  notSelf := encodeAgentId_uniformAgent_ne_local (by decide)
  decoded := h
  protocol := rfl
  meshName := rfl
  agentId := rfl
  machineId := by
    have hread : hexBytes? (List.replicate 64 'A') = some (List.replicate 32 0xaa) :=
      hexBytes?_replicate_A 32
    have hparse : parseHex32 HexCrate.usual (String.ofList (List.replicate 64 'A')) "machine_id"
        = .ok (Vector.replicate 32 0xaa) := by
      rw [parseHex32_eq_ok_iff HexCrate.usual_decodesHex, String.toList_ofList, hread,
        Vector.toList_replicate]
    show (parseHex32 HexCrate.usual _ "machine_id").map MachineId.mk = _
    rw [shoutedCapability, hparse]
    rfl
  allowed := by
    simp [Vetting.decision, shoutedCrates, contactTrust, friendStep, allowsPeer]

/-- The friend is accepted and its record is stored with the machine id in uppercase and with
the name as user id. -/
theorem registry_canonical_shouted :
    ∃ record, ((registryMachine shoutedCrates friendsConfig friendsLocalId).exec .new
        [friendStep shoutedCapability.jsonBytes 0xaa 10 .accept]).peers[friendId 0xaa]? =
          some record ∧
      record.capability.identity.machineId = String.ofList (List.replicate 64 'A') ∧
      record.capability.identity.userId = some "operator" ∧
      ¬ CanonicalIdentity record.capability.identity ∧
      ¬ CanonicalRegistry HexCrate.usual
        ((registryMachine shoutedCrates friendsConfig friendsLocalId).exec .new
          [friendStep shoutedCapability.jsonBytes 0xaa 10 .accept]) := by
  have hrecord := getElem?_peers_exec_new_singleton
    (shoutedStep_admissible shoutedCrates_fromSlice)
  have hidentity : ¬ CanonicalIdentity shoutedCapability.identity := by
    intro h
    have hlower := (isCanonicalId_iff.mp h.machineId).2 'A'
    simp [shoutedCapability] at hlower
  exact ⟨_, hrecord, rfl, rfl, hidentity, fun h => hidentity (h.identity _ _ hrecord)⟩

end X0xCompute
