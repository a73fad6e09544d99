import X0xCompute.Capability
import X0xCompute.Lib.Json

/-!
# Announcements as JSON documents

The codecs that the serde derives of `capability.rs` and `x0x_identity.rs` build, each field
under its name, and `serde_json` over them.
-/

namespace X0xCompute

open Lib Lib.JsonCodec Lib.JsonFields

/-- `serde_json` between bytes and documents: the text that is written, the document of a
text, and the text of the error for a document that is not of the type asked for. -/
structure JsonText where
  print : JsonValue → List U8
  parse : List U8 → Except String JsonValue
  dataError : JsonValue → String

namespace JsonText

variable {α : Type} (text : JsonText) (codec : JsonCodec α)

/-- `to_vec` and `from_slice` at a type with the codec. -/
def serde : SerdeJson α where
  toVec a := .ok (text.print (codec.encode a))
  fromSlice payload :=
    match text.parse payload with
    | .error error => .error error
    | .ok v =>
      match codec.decode v with
      | some a => .ok a
      | none => .error (text.dataError v)

variable {text codec}

theorem serde_fromSlice {payload : List U8} {v : JsonValue} {a : α}
    (hparse : text.parse payload = .ok v) (hdecode : codec.decode v = some a) :
    (text.serde codec).fromSlice payload = .ok a := by
  simp [serde, hparse, hdecode]

end JsonText

/-! ## The records -/

def AgentIdentitySnapshot.unpack : AgentIdentitySnapshot ≃ String × String × Option String where
  toFun identity := (identity.machineId, identity.agentId, identity.userId)
  invFun
    | (machineId, agentId, userId) => { machineId, agentId, userId }

def AgentIdentitySnapshot.json : JsonCodec AgentIdentitySnapshot :=
  .record
    ((field "machine_id" string).and <|
      (field "agent_id" string).and <|
      optionalField "user_id" string)
    unpack

def HardwareProfile.unpack : HardwareProfile ≃ Option String × String × U64 × U64 × U64 where
  toFun hardware :=
    (hardware.hostname, hardware.cpuBrand, hardware.logicalCores, hardware.totalMemoryBytes,
      hardware.availableMemoryBytes)
  invFun
    | (hostname, cpuBrand, logicalCores, totalMemoryBytes, availableMemoryBytes) =>
      { hostname, cpuBrand, logicalCores, totalMemoryBytes, availableMemoryBytes }

def HardwareProfile.json : JsonCodec HardwareProfile :=
  .record
    ((optionalField "hostname" string).and <|
      (field "cpu_brand" string).and <|
      (field "logical_cores" (unsigned 64)).and <|
      (field "total_memory_bytes" (unsigned 64)).and <|
      field "available_memory_bytes" (unsigned 64))
    unpack

def TrustedMeshPolicy.unpack : TrustedMeshPolicy ≃ String × Bool × Bool × Bool where
  toFun policy :=
    (policy.meshName, policy.trustedFriendsOnly, policy.requireTrustedContacts,
      policy.preferUserIdentity)
  invFun
    | (meshName, trustedFriendsOnly, requireTrustedContacts, preferUserIdentity) =>
      { meshName, trustedFriendsOnly, requireTrustedContacts, preferUserIdentity }

def TrustedMeshPolicy.json : JsonCodec TrustedMeshPolicy :=
  .record
    ((field "mesh_name" string).and <|
      (field "trusted_friends_only" boolean).and <|
      (field "require_trusted_contacts" boolean).and <|
      field "prefer_user_identity" boolean)
    unpack

def CapabilityAnnouncement.unpack :
    CapabilityAnnouncement ≃
      U32 × AgentIdentitySnapshot × HardwareProfile × TrustedMeshPolicy × List String × U64 where
  toFun capability :=
    (capability.protocolVersion, capability.identity, capability.hardware, capability.policy,
      capability.availableModels, capability.observedAtUnixSecs)
  invFun
    | (protocolVersion, identity, hardware, policy, availableModels, observedAtUnixSecs) =>
      { protocolVersion, identity, hardware, policy, availableModels, observedAtUnixSecs }

/-- The fields of an announcement. -/
def CapabilityAnnouncement.jsonFields :
    JsonFields
      (U32 × AgentIdentitySnapshot × HardwareProfile × TrustedMeshPolicy × List String × U64) :=
  (field "protocol_version" (unsigned 32)).and <|
    (field "identity" AgentIdentitySnapshot.json).and <|
    (field "hardware" HardwareProfile.json).and <|
    (field "policy" TrustedMeshPolicy.json).and <|
    (field "available_models" (list string)).and <|
    field "observed_at_unix_secs" (unsigned 64)

def CapabilityAnnouncement.json : JsonCodec CapabilityAnnouncement := .record jsonFields unpack

/-! ## Stability -/

theorem encode_string_ne_null (text : String) : JsonCodec.string.encode text ≠ .null := by
  simp [JsonCodec.string]

theorem AgentIdentitySnapshot.json_stable : AgentIdentitySnapshot.json.Stable := by
  apply record_stable
  apply and_stable (by simp) (field_stable string_stable _)
  apply and_stable (by simp) (field_stable string_stable _)
  exact optionalField_stable string_stable encode_string_ne_null _

theorem HardwareProfile.json_stable : HardwareProfile.json.Stable := by
  apply record_stable
  apply and_stable (by simp) (optionalField_stable string_stable encode_string_ne_null _)
  apply and_stable (by simp) (field_stable string_stable _)
  apply and_stable (by simp) (field_stable (unsigned_stable le_rfl) _)
  apply and_stable (by simp) (field_stable (unsigned_stable le_rfl) _)
  exact field_stable (unsigned_stable le_rfl) _

theorem TrustedMeshPolicy.json_stable : TrustedMeshPolicy.json.Stable := by
  apply record_stable
  apply and_stable (by simp) (field_stable string_stable _)
  apply and_stable (by simp) (field_stable boolean_stable _)
  apply and_stable (by simp) (field_stable boolean_stable _)
  exact field_stable boolean_stable _

theorem CapabilityAnnouncement.jsonFields_stable : jsonFields.Stable := by
  apply and_stable (by simp) (field_stable (unsigned_stable (by decide)) _)
  apply and_stable (by simp) (field_stable AgentIdentitySnapshot.json_stable _)
  apply and_stable (by simp) (field_stable HardwareProfile.json_stable _)
  apply and_stable (by simp) (field_stable TrustedMeshPolicy.json_stable _)
  apply and_stable (by simp) (field_stable (list_stable string_stable) _)
  exact field_stable (unsigned_stable le_rfl) _

/-- What a node announces is read back from every document that extends it. -/
theorem CapabilityAnnouncement.json_stable : CapabilityAnnouncement.json.Stable :=
  record_stable jsonFields_stable unpack

end X0xCompute
