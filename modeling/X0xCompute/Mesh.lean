import X0xCompute.Capability
import X0xCompute.Lib.TreeMap

/-!
# The trusted peer registry

`mesh.rs`: the registry of peer capabilities, the message handler that feeds it, and the
announcement a node publishes. The clock reading of a call is an argument.
-/

namespace X0xCompute

open Std

/-- Stored view of a trusted peer capability announcement. -/
structure PeerCapabilityRecord where
  capability : CapabilityAnnouncement
  trustDecision : TrustDecision
  firstSeenUnixSecs : U64
  lastSeenUnixSecs : U64
  deriving DecidableEq

/-- Outcome of processing an incoming capability announcement. -/
inductive CapabilityDisposition where
  | acceptedNewPeer
  | updatedPeer
  | ignoredSelf
  | rejectedMissingSender
  | rejectedUnverifiedSender
  | rejectedInvalidPayload
  | rejectedUnsupportedProtocol
  | rejectedWrongMesh
  | rejectedSenderMismatch
  | rejectedInvalidMachineId
  | rejectedTrust (decision : TrustDecision)
  deriving DecidableEq

/-- In-memory registry of trusted peer capabilities. -/
structure TrustedPeerRegistry where
  peers : ExtTreeMap String PeerCapabilityRecord

/-- `allows_peer`. -/
def allowsPeer (config : ComputeConfig) (decision : TrustDecision) : Bool :=
  match decision with
  | .accept => true
  | .acceptWithFlag => !config.mesh.trustedFriendsOnly && !config.mesh.requireTrustedContacts
  | .rejectMachineMismatch | .rejectBlocked | .unknown => false

/-- The functions of other crates that the message handler calls. -/
structure MeshCrates (ContactStore : Type) where
  hex : HexCrate
  json : SerdeJson CapabilityAnnouncement
  trust : TrustEvaluator ContactStore

namespace TrustedPeerRegistry

/-- `TrustedPeerRegistry::new`: an empty registry. -/
def new : TrustedPeerRegistry := ⟨∅⟩

/-- The currently accepted peer capabilities, in the order of their agent ids. -/
def snapshot (self : TrustedPeerRegistry) : List PeerCapabilityRecord :=
  Lib.values self.peers

def len (self : TrustedPeerRegistry) : Nat := self.peers.size

def isEmpty (self : TrustedPeerRegistry) : Bool := self.peers.isEmpty

variable {ContactStore : Type} (crates : MeshCrates ContactStore)

/-- `TrustedPeerRegistry::apply_message`: one incoming message, with the contact store and
the clock reading it is handled with. -/
def applyMessage (self : TrustedPeerRegistry) (config : ComputeConfig) (localAgentId : String)
    (contacts : ContactStore) (now : U64) (message : PubSubMessage) :
    CapabilityDisposition × TrustedPeerRegistry := Id.run do
  let some sender := message.sender
    | return (.rejectedMissingSender, self)
  if !message.verified then
    return (.rejectedUnverifiedSender, self)
  let senderHex := encodeAgentId crates.hex sender
  if senderHex = localAgentId then
    return (.ignoredSelf, self)
  let .ok capability := crates.json.fromSlice message.payload
    | return (.rejectedInvalidPayload, self)
  if capability.protocolVersion ≠ protocolVersion then
    return (.rejectedUnsupportedProtocol, self)
  if capability.policy.meshName ≠ config.mesh.name then
    return (.rejectedWrongMesh, self)
  if capability.identity.agentId ≠ senderHex then
    return (.rejectedSenderMismatch, self)
  let .ok machineId := parseMachineIdHex crates.hex capability.identity.machineId
    | return (.rejectedInvalidMachineId, self)
  let decision := crates.trust.evaluate contacts { agentId := sender, machineId := machineId }
  if !allowsPeer config decision then
    return (.rejectedTrust decision, self)
  let peerId := capability.identity.agentId
  match self.peers[peerId]? with
  | some existing =>
    let updated :=
      { existing with
        capability := capability
        trustDecision := decision
        lastSeenUnixSecs := now }
    return (.updatedPeer, ⟨self.peers.insert peerId updated⟩)
  | none =>
    let record :=
      { capability := capability
        trustDecision := decision
        firstSeenUnixSecs := now
        lastSeenUnixSecs := now }
    return (.acceptedNewPeer, ⟨self.peers.insert peerId record⟩)

end TrustedPeerRegistry

/-- A payload handed to the agent for a topic. -/
structure Publication where
  topic : String
  payload : List U8
  deriving DecidableEq

/-- `announce_local_capability`, with `Agent::publish` and the text of its error as a
parameter: what is handed to the agent, and the result. -/
def announceLocalCapability (json : SerdeJson CapabilityAnnouncement)
    (publish : Publication → Except String Unit) (config : ComputeConfig)
    (identity : AgentIdentitySnapshot) (system : SystemReport) (now : U64) :
    Option Publication × Except ComputeError CapabilityAnnouncement :=
  let capability := CapabilityAnnouncement.local config identity system now
  match json.toVec capability with
  | .error error => (none, .error (.json error))
  | .ok payload =>
    let publication := { topic := config.capabilityTopic, payload := payload }
    match publish publication with
    | .error error => (some publication, .error (.x0xIdentity error))
    | .ok () => (some publication, .ok capability)

end X0xCompute
