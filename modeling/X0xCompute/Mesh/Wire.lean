import X0xCompute.Capability.Format
import X0xCompute.Lib.Utf8
import X0xCompute.Mesh.Announce

/-!
# Announcements on the wire

The message handler over the documents that payloads are the text of: what a later version
may add to an announcement without being read otherwise, and what the document of every
accepted message says of its sender.
-/

namespace X0xCompute

open Lib Lib.JsonCodec Lib.JsonFields

/-- The crates with `serde_json` over documents. -/
def MeshCrates.overDocuments {ContactStore : Type} (hex : HexCrate) (text : JsonText)
    (trust : TrustEvaluator ContactStore) : MeshCrates ContactStore where
  hex := hex
  json := text.serde CapabilityAnnouncement.json
  trust := trust

/-! ## What documents are read as -/

theorem CapabilityAnnouncement.decode_object_iff {members : JsonMembers}
    {capability : CapabilityAnnouncement} :
    CapabilityAnnouncement.json.decode (.object members) = some capability ↔
      (∃ v, members.valuesOf "protocol_version" = [v] ∧
        (JsonCodec.unsigned 32).decode v = some capability.protocolVersion) ∧
      (∃ v, members.valuesOf "identity" = [v] ∧
        AgentIdentitySnapshot.json.decode v = some capability.identity) ∧
      (∃ v, members.valuesOf "hardware" = [v] ∧
        HardwareProfile.json.decode v = some capability.hardware) ∧
      (∃ v, members.valuesOf "policy" = [v] ∧
        TrustedMeshPolicy.json.decode v = some capability.policy) ∧
      (∃ v, members.valuesOf "available_models" = [v] ∧
        JsonCodec.string.list.decode v = some capability.availableModels) ∧
      ∃ v, members.valuesOf "observed_at_unix_secs" = [v] ∧
        (JsonCodec.unsigned 64).decode v = some capability.observedAtUnixSecs := by
  rw [CapabilityAnnouncement.json, record_decode_object_iff]
  simp only [jsonFields, decodeMembers_and_iff, decodeMembers_field_iff]
  rfl

/-- The one agent id in the document of an identity. -/
theorem AgentIdentitySnapshot.agentId_of_decode {members : JsonMembers}
    {identity : AgentIdentitySnapshot}
    (h : AgentIdentitySnapshot.json.decode (.object members) = some identity) :
    members.valuesOf "agent_id" = [.string identity.agentId] := by
  rw [AgentIdentitySnapshot.json, record_decode_object_iff] at h
  simp only [decodeMembers_and_iff, decodeMembers_field_iff, string_decode_iff] at h
  obtain ⟨-, ⟨v, hone, rfl⟩, -⟩ := h
  exact hone

/-- The one mesh name in the document of a policy. -/
theorem TrustedMeshPolicy.meshName_of_decode {members : JsonMembers}
    {policy : TrustedMeshPolicy}
    (h : TrustedMeshPolicy.json.decode (.object members) = some policy) :
    members.valuesOf "mesh_name" = [.string policy.meshName] := by
  rw [TrustedMeshPolicy.json, record_decode_object_iff] at h
  simp only [decodeMembers_and_iff, decodeMembers_field_iff, string_decode_iff] at h
  obtain ⟨⟨v, hone, rfl⟩, -⟩ := h
  exact hone

/-! ## A friend of a later version -/

/-- The document of the announcement of the friend `0xaa`. -/
def friendDocument : JsonMembers :=
  CapabilityAnnouncement.jsonFields.encode
    (CapabilityAnnouncement.unpack (friendCapability 0xaa 1))

/-- The same document with a member that this version does not know. -/
def laterDocument : JsonMembers := ("region", .string "eu") :: friendDocument

theorem laterDocument_extends :
    (CapabilityAnnouncement.json.encode (friendCapability 0xaa 1)).Extends
      (.object laterDocument) := by
  apply JsonValue.Extends.of_perm_append [("region", .string "eu")]
  · exact @List.perm_append_comm _ [("region", .string "eu")] friendDocument
  · decide

/-- The text of that document, after a blank. -/
def laterPayload : List U8 :=
  0x20 :: 0x7b :: (utf8 "\"region\":\"eu\"," ++ (friendCapability 0xaa 1).jsonBytes.tail)

/-- `serde_json` on the two texts. -/
def friendText : JsonText where
  print _ := (friendCapability 0xaa 1).jsonBytes
  parse
    | 0x20 :: _ => .ok (.object laterDocument)
    | _ => .ok (.object friendDocument)
  dataError _ := "invalid type"

theorem friendText_print :
    friendText.parse (friendText.print (CapabilityAnnouncement.json.encode
      (friendCapability 0xaa 1))) =
        .ok (CapabilityAnnouncement.json.encode (friendCapability 0xaa 1)) := by
  show friendText.parse (friendCapability 0xaa 1).jsonBytes = _
  rw [CapabilityAnnouncement.jsonBytes]
  rfl

/-- The message with the later document is accepted. -/
theorem laterStep_accepted (registry : TrustedPeerRegistry) :
    ((registryMachine (.overDocuments .usual friendText contactTrust) friendsConfig
      friendsLocalId).step registry (friendStep laterPayload 0xaa 10 .accept)).1.accepted := by
  have hdecoded : (friendText.serde CapabilityAnnouncement.json).fromSlice laterPayload =
      .ok (friendCapability 0xaa 1) :=
    JsonText.serde_fromSlice rfl
      (CapabilityAnnouncement.json_stable _ _ laterDocument_extends)
  have hvetted : Vetted (.overDocuments .usual friendText contactTrust) friendsConfig
      friendsLocalId (friendStep laterPayload 0xaa 10 .accept) _ :=
    vetted_of_local HexCrate.usual_decodesEncoded rfl (by decide) rfl rfl hdecoded
  have hallowed : allowsPeer friendsConfig (contactTrust.evaluate
      (friendStep laterPayload 0xaa 10 .accept).contacts
      ⟨(uniformAgent 0xaa).agentId, (uniformAgent 0xaa).machineId⟩) = true := by
    simp [contactTrust, friendStep, allowsPeer]
  exact (accepted_step_iff registry _).mpr
    ⟨_, { toVetted := hvetted, allowed := hallowed }⟩

/-! ## Main results -/

section

variable {ContactStore : Type} (hex : HexCrate) (text : JsonText)
  (trust : TrustEvaluator ContactStore) (config : ComputeConfig) (localAgentId : String)

/-- The payload matters only for what it is decoded to. -/
theorem applyMessage_payload_congr {crates : MeshCrates ContactStore}
    {payload payload' : List U8}
    (h : crates.json.fromSlice payload = crates.json.fromSlice payload')
    (registry : TrustedPeerRegistry) (contacts : ContactStore) (now : U64)
    (sender : Option AgentId) (verified : Bool) :
    registry.applyMessage crates config localAgentId contacts now
        ⟨payload, sender, verified⟩ =
      registry.applyMessage crates config localAgentId contacts now
        ⟨payload', sender, verified⟩ := by
  simp only [TrustedPeerRegistry.applyMessage, h]

/-- A document that extends an announcement is taken as the announcement. Whatever a later
version adds to the members of the document or of the objects in it, and in whatever order
they stand: the message with such a document for its payload does to every registry what the
message with the announcement itself does, and is answered alike. -/
theorem extension_taken_alike {capability : CapabilityAnnouncement}
    (hprinted : text.parse (text.print (CapabilityAnnouncement.json.encode capability)) =
      .ok (CapabilityAnnouncement.json.encode capability))
    {payload : List U8} {v : JsonValue} (hparse : text.parse payload = .ok v)
    (hextends : (CapabilityAnnouncement.json.encode capability).Extends v)
    (registry : TrustedPeerRegistry) (contacts : ContactStore) (now : U64)
    (sender : Option AgentId) (verified : Bool) :
    ∃ plain, (text.serde CapabilityAnnouncement.json).toVec capability = .ok plain ∧
      registry.applyMessage (.overDocuments hex text trust) config localAgentId contacts now
          ⟨payload, sender, verified⟩ =
        registry.applyMessage (.overDocuments hex text trust) config localAgentId contacts now
          ⟨plain, sender, verified⟩ := by
  refine ⟨_, rfl, ?_⟩
  apply applyMessage_payload_congr
  have hextended := CapabilityAnnouncement.json_stable capability v hextends
  have hplain := CapabilityAnnouncement.json_stable capability _ (.refl _)
  exact (JsonText.serde_fromSlice hparse hextended).trans
    (JsonText.serde_fromSlice hprinted hplain).symm

theorem extension_taken_alike_friend :
    ∃ plain, (friendText.serde CapabilityAnnouncement.json).toVec (friendCapability 0xaa 1) =
        .ok plain ∧
      TrustedPeerRegistry.new.applyMessage (.overDocuments .usual friendText contactTrust)
          friendsConfig friendsLocalId [((uniformAgent 0xaa).agentId, .accept)] 10
          ⟨laterPayload, some (uniformAgent 0xaa).agentId, true⟩ =
        TrustedPeerRegistry.new.applyMessage (.overDocuments .usual friendText contactTrust)
          friendsConfig friendsLocalId [((uniformAgent 0xaa).agentId, .accept)] 10
          ⟨plain, some (uniformAgent 0xaa).agentId, true⟩ :=
  extension_taken_alike .usual friendText contactTrust friendsConfig friendsLocalId
    friendText_print rfl laterDocument_extends .new _ 10 _ true

/-- The document of an accepted message is not ambiguous. Whatever the payload, if the
message is accepted and its document is an object, then that has one protocol version, which
is the supported one; one identity, in which, if it is an object, the one agent id is that of
the authenticated sender; and one policy, in which, if it is an object, the one mesh name is
the node's. -/
theorem accepted_document {s : MeshStep ContactStore} {members : JsonMembers}
    (hparse : text.parse s.message.payload = .ok (.object members))
    (registry : TrustedPeerRegistry)
    (haccepted : ((registryMachine (.overDocuments hex text trust) config localAgentId).step
      registry s).1.accepted) :
    ∃ sender, s.message.sender = some sender ∧
      members.valuesOf "protocol_version" = [.unsigned 1] ∧
      (∃ identity, members.valuesOf "identity" = [identity] ∧
        ∀ own : JsonMembers, identity = .object own →
          own.valuesOf "agent_id" = [.string (encodeAgentId hex sender)]) ∧
      ∃ policy, members.valuesOf "policy" = [policy] ∧
        ∀ own : JsonMembers, policy = .object own →
          own.valuesOf "mesh_name" = [.string config.mesh.name] := by
  obtain ⟨v, hadm⟩ := (accepted_step_iff registry s).mp haccepted
  have hdecoded := hadm.decoded
  simp only [MeshCrates.overDocuments, JsonText.serde, hparse] at hdecoded
  split at hdecoded
  · rename_i capability hdecode
    rw [Except.ok.injEq] at hdecoded
    subst hdecoded
    obtain ⟨hversion, hidentity, -, hpolicy, -⟩ :=
      CapabilityAnnouncement.decode_object_iff.mp hdecode
    refine ⟨v.sender, hadm.sender, ?_, ?_, ?_⟩
    · rcases hversion with ⟨version, hone, hread⟩
      rw [hadm.protocol, unsigned_decode_iff (by decide)] at hread
      rw [hone, hread]
      rfl
    · rcases hidentity with ⟨identity, hone, hread⟩
      refine ⟨identity, hone, ?_⟩
      intro own hown
      rw [hown] at hread
      rw [AgentIdentitySnapshot.agentId_of_decode hread, hadm.agentId]
      rfl
    · rcases hpolicy with ⟨policy, hone, hread⟩
      refine ⟨policy, hone, ?_⟩
      intro own hown
      rw [hown] at hread
      rw [TrustedMeshPolicy.meshName_of_decode hread, hadm.meshName]
  · cases hdecoded

end

theorem accepted_document_friend :
    ∃ identity, laterDocument.valuesOf "identity" = [identity] ∧
      ∀ own : JsonMembers, identity = .object own →
        own.valuesOf "agent_id" = [.string (friendId 0xaa)] := by
  obtain ⟨sender, hsender, -, hidentity, -⟩ := accepted_document .usual friendText contactTrust
    friendsConfig friendsLocalId rfl .new (laterStep_accepted .new)
  rw [friendStep_sender, Option.some.injEq] at hsender
  rw [← hsender] at hidentity
  exact hidentity

end X0xCompute
