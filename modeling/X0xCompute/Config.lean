import X0xCompute.Primitive

/-!
# Configuration records

The records of `config.rs`, with every field, and their defaults.
-/

namespace X0xCompute

/-- Mesh-level policy for trusted friend groups. -/
structure MeshConfig where
  name : String
  trustedFriendsOnly : Bool
  requireTrustedContacts : Bool
  preferUserIdentity : Bool
  deriving DecidableEq

/-- Runtime backend kind. -/
inductive RuntimeBackend where
  | skeleton
  deriving DecidableEq

/-- Local runtime configuration. -/
structure RuntimeConfig where
  backend : RuntimeBackend
  skeletonResponsePrefix : String
  deriving DecidableEq

/-- Static local model inventory entry. -/
structure ModelConfig where
  id : String
  family : String
  contextWindowTokens : U32
  maxOutputTokens : U32
  maxParallelReservations : U16
  tags : List String
  deriving DecidableEq

/-- Optional overrides for x0x identity and contact-store paths. -/
structure X0xConfig where
  machineKeyPath : Option PathBuf
  agentKeyPath : Option PathBuf
  userKeyPath : Option PathBuf
  contactStorePath : Option PathBuf
  deriving DecidableEq

/-- x0x-compute configuration. -/
structure ComputeConfig where
  apiBind : SocketAddr
  dataDir : PathBuf
  capabilityTopic : String
  joinNetworkOnStart : Bool
  announceOnStart : Bool
  requireUserId : Bool
  resourceAnnounceIntervalSecs : U64
  mesh : MeshConfig
  runtime : RuntimeConfig
  models : List ModelConfig
  x0x : X0xConfig
  deriving DecidableEq

/-- `CAPABILITY_TOPIC`, the reserved topic for capability advertisements. -/
def capabilityTopic : String := "x0x.compute.capabilities.v1"

/-- `PROTOCOL_VERSION`, the wire protocol version of announcements. -/
def protocolVersion : U32 := 1

instance : Inhabited MeshConfig where
  default :=
    { name := "friends"
      trustedFriendsOnly := true
      requireTrustedContacts := true
      preferUserIdentity := true }

instance : Inhabited RuntimeConfig where
  default :=
    { backend := .skeleton
      skeletonResponsePrefix := "x0x-compute skeleton response" }

instance : Inhabited X0xConfig where
  default :=
    { machineKeyPath := none
      agentKeyPath := none
      userKeyPath := none
      contactStorePath := none }

/-- `ComputeConfig::default`, with the platform's data directory as a parameter. -/
def ComputeConfig.default (dataDir : PathBuf) : ComputeConfig :=
  { apiBind := .v4 #v[127, 0, 0, 1] 12800
    dataDir := dataDir
    capabilityTopic := X0xCompute.capabilityTopic
    joinNetworkOnStart := false
    announceOnStart := false
    requireUserId := false
    resourceAnnounceIntervalSecs := 60
    mesh := Inhabited.default
    runtime := Inhabited.default
    models := []
    x0x := Inhabited.default }

end X0xCompute
