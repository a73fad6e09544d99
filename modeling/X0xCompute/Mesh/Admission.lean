import X0xCompute.Lib.KeyedWrite
import X0xCompute.Lib.Machine
import X0xCompute.Mesh

/-!
# What one message does to the registry

`apply_message` first vets a message without looking at the registry, then asks for a trust
decision, and then makes one keyed write. This file separates the three: the facts a vetted
message satisfies, the disposition of every message, and the write of an admissible one.
-/

namespace X0xCompute

open Lib

variable {ContactStore : Type}

/-- One step of a registry's run: a message, and the contact store and the clock reading it
is handled with. -/
structure MeshStep (ContactStore : Type) where
  message : PubSubMessage
  contacts : ContactStore
  now : U64

/-- What is known of a message that reached the trust evaluation. -/
structure Vetting where
  sender : AgentId
  capability : CapabilityAnnouncement
  machineId : MachineId
  deriving DecidableEq

section

variable (crates : MeshCrates ContactStore) (config : ComputeConfig) (localAgentId : String)

/-- The registry as a machine that takes messages and answers dispositions. -/
def registryMachine :
    Machine TrustedPeerRegistry (MeshStep ContactStore) CapabilityDisposition where
  step self s :=
    TrustedPeerRegistry.applyMessage crates self config localAgentId s.contacts s.now s.message

/-- The message passes every check that comes before the trust evaluation. -/
structure Vetted (s : MeshStep ContactStore) (v : Vetting) : Prop where
  sender : s.message.sender = some v.sender
  verified : s.message.verified = true
  notSelf : encodeAgentId crates.hex v.sender ≠ localAgentId
  decoded : crates.json.fromSlice s.message.payload = .ok v.capability
  protocol : v.capability.protocolVersion = protocolVersion
  meshName : v.capability.policy.meshName = config.mesh.name
  agentId : v.capability.identity.agentId = encodeAgentId crates.hex v.sender
  machineId : parseMachineIdHex crates.hex v.capability.identity.machineId = .ok v.machineId

/-- The evaluator's decision on the sender and the machine it announces, under the contact
store of the step. -/
def Vetting.decision (v : Vetting) (s : MeshStep ContactStore) : TrustDecision :=
  crates.trust.evaluate s.contacts { agentId := v.sender, machineId := v.machineId }

/-- A vetted message whose trust decision the policy admits. -/
structure Admissible (s : MeshStep ContactStore) (v : Vetting) : Prop
    extends Vetted crates config localAgentId s v where
  allowed : allowsPeer config (v.decision crates s) = true

/-- The checks before the trust evaluation, in the order of the source. -/
def vet (s : MeshStep ContactStore) : Except CapabilityDisposition Vetting :=
  match s.message.sender with
  | none => .error .rejectedMissingSender
  | some sender =>
    if s.message.verified = false then .error .rejectedUnverifiedSender
    else if encodeAgentId crates.hex sender = localAgentId then .error .ignoredSelf
    else
      match crates.json.fromSlice s.message.payload with
      | .error _ => .error .rejectedInvalidPayload
      | .ok capability =>
        if capability.protocolVersion ≠ protocolVersion then
          .error .rejectedUnsupportedProtocol
        else if capability.policy.meshName ≠ config.mesh.name then .error .rejectedWrongMesh
        else if capability.identity.agentId ≠ encodeAgentId crates.hex sender then
          .error .rejectedSenderMismatch
        else
          match parseMachineIdHex crates.hex capability.identity.machineId with
          | .error _ => .error .rejectedInvalidMachineId
          | .ok machineId => .ok ⟨sender, capability, machineId⟩

/-- The record written for a vetted message over the one held, if any. -/
def Vetting.record (v : Vetting) (s : MeshStep ContactStore)
    (held : Option PeerCapabilityRecord) : PeerCapabilityRecord where
  capability := v.capability
  trustDecision := v.decision crates s
  firstSeenUnixSecs := (held.map PeerCapabilityRecord.firstSeenUnixSecs).getD s.now
  lastSeenUnixSecs := s.now

/-- The write of a vetted message: at the key of the authenticated sender. -/
def Vetting.write (v : Vetting) (s : MeshStep ContactStore) :
    KeyedWrite String PeerCapabilityRecord where
  key := encodeAgentId crates.hex v.sender
  update := v.record crates s

/-- The vetting of an admissible message, and nothing for every other message. -/
def admission (s : MeshStep ContactStore) : Option Vetting :=
  match vet crates config localAgentId s with
  | .error _ => none
  | .ok v => if allowsPeer config (v.decision crates s) then some v else none

/-- The write a message makes, if it makes one. -/
def stepWrite (s : MeshStep ContactStore) : Option (KeyedWrite String PeerCapabilityRecord) :=
  (admission crates config localAgentId s).map fun v => v.write crates s

/-- The disposition of a message, given the record held for its sender. -/
def stepDisposition (s : MeshStep ContactStore)
    (heldAt : String → Option PeerCapabilityRecord) : CapabilityDisposition :=
  match vet crates config localAgentId s with
  | .error d => d
  | .ok v =>
    if allowsPeer config (v.decision crates s) then
      match heldAt (encodeAgentId crates.hex v.sender) with
      | some _ => .updatedPeer
      | none => .acceptedNewPeer
    else .rejectedTrust (v.decision crates s)

end

variable {crates : MeshCrates ContactStore} {config : ComputeConfig} {localAgentId : String}

/-- `vet` accepts exactly the vetted messages. -/
theorem vet_eq_ok_iff {s : MeshStep ContactStore} {v : Vetting} :
    vet crates config localAgentId s = .ok v ↔ Vetted crates config localAgentId s v := by
  refine ⟨?_, ?_⟩
  · intro h
    unfold vet at h
    split at h
    · cases h
    rename_i sender hsender
    split at h
    · cases h
    rename_i hverified
    split at h
    · cases h
    rename_i hself
    split at h
    · cases h
    rename_i capability hdecoded
    split at h
    · cases h
    rename_i hprotocol
    split at h
    · cases h
    rename_i hmesh
    split at h
    · cases h
    rename_i hagent
    split at h
    · cases h
    rename_i machineId hmachine
    cases h
    exact
      { sender := hsender
        verified := by simpa using hverified
        notSelf := hself
        decoded := hdecoded
        protocol := not_not.mp hprotocol
        meshName := not_not.mp hmesh
        agentId := not_not.mp hagent
        machineId := hmachine }
  · intro h
    simp only [vet, h.sender, h.verified, h.notSelf, h.decoded, h.protocol, h.meshName,
      h.agentId, h.machineId, Bool.true_eq_false, ne_eq, not_true_eq_false, if_false]

/-- The whole effect of a message: its disposition, and one keyed write or none. -/
theorem applyMessage_eq (self : TrustedPeerRegistry) (s : MeshStep ContactStore) :
    (registryMachine crates config localAgentId).step self s =
      (stepDisposition crates config localAgentId s (fun k => self.peers[k]?),
        ⟨KeyedWrite.apply self.peers (stepWrite crates config localAgentId s)⟩) := by
  unfold stepDisposition stepWrite admission vet
  simp only [registryMachine, TrustedPeerRegistry.applyMessage]
  cases s.message.sender with
  | none => rfl
  | some sender =>
    cases s.message.verified with
    | false => rfl
    | true =>
      by_cases hself : encodeAgentId crates.hex sender = localAgentId
      · simp only [hself, if_true]
        rfl
      cases crates.json.fromSlice s.message.payload with
      | error _ =>
        simp only [hself, if_false]
        rfl
      | ok capability =>
        by_cases hprotocol : capability.protocolVersion = protocolVersion
        swap
        · simp [hself, hprotocol, KeyedWrite.apply]
        by_cases hmesh : capability.policy.meshName = config.mesh.name
        swap
        · simp [hself, hprotocol, hmesh, KeyedWrite.apply]
        by_cases hagent : capability.identity.agentId = encodeAgentId crates.hex sender
        swap
        · simp [hself, hprotocol, hmesh, hagent, KeyedWrite.apply]
        cases hmachine : parseMachineIdHex crates.hex capability.identity.machineId with
        | error _ => simp [hself, hprotocol, hmesh, hagent, hmachine, KeyedWrite.apply]
        | ok machineId =>
          by_cases hallow : allowsPeer config (crates.trust.evaluate s.contacts
            { agentId := sender, machineId := machineId }) = true
          · cases hheld : self.peers[encodeAgentId crates.hex sender]? <;>
              simp [hself, hprotocol, hmesh, hagent, hmachine, hallow, hheld, KeyedWrite.apply,
                Vetting.decision, Vetting.write, Vetting.record]
          · simp [hself, hprotocol, hmesh, hagent, hmachine, hallow, KeyedWrite.apply,
              Vetting.decision]

end X0xCompute
