import X0xCompute.Config
import X0xCompute.X0xIdentity

/-!
# Capability announcements

`capability.rs`: the record a node announces about itself, and how it is built from the
configuration, the identity snapshot, what the system reports and the clock.
-/

namespace X0xCompute

/-- Local hardware profile. `logical_cores` is a `usize` of a 64-bit target. -/
structure HardwareProfile where
  hostname : Option String
  cpuBrand : String
  logicalCores : U64
  totalMemoryBytes : U64
  availableMemoryBytes : U64
  deriving DecidableEq

/-- Mesh policy derived from x0x-compute configuration. -/
structure TrustedMeshPolicy where
  meshName : String
  trustedFriendsOnly : Bool
  requireTrustedContacts : Bool
  preferUserIdentity : Bool
  deriving DecidableEq

/-- Compute capability advertisement for trusted meshes. -/
structure CapabilityAnnouncement where
  protocolVersion : U32
  identity : AgentIdentitySnapshot
  hardware : HardwareProfile
  policy : TrustedMeshPolicy
  availableModels : List String
  observedAtUnixSecs : U64
  deriving DecidableEq

/-- What the `sysinfo` crate reports: the brand of each processor, the host name and the
memory. -/
structure SystemReport where
  cpuBrands : List String
  hostName : Option String
  totalMemory : U64
  availableMemory : U64

/-- The brand announced: the first processor's, unless there is none or it is empty. -/
def SystemReport.cpuBrand (system : SystemReport) : String :=
  (system.cpuBrands.head?.filter (· ≠ "")).getD "unknown"

/-- `CapabilityAnnouncement::local`. -/
def CapabilityAnnouncement.local (config : ComputeConfig) (identity : AgentIdentitySnapshot)
    (system : SystemReport) (now : U64) : CapabilityAnnouncement where
  protocolVersion := X0xCompute.protocolVersion
  identity := identity
  hardware :=
    { hostname := system.hostName
      cpuBrand := system.cpuBrand
      logicalCores := BitVec.ofNat 64 system.cpuBrands.length
      totalMemoryBytes := system.totalMemory
      availableMemoryBytes := system.availableMemory }
  policy :=
    { meshName := config.mesh.name
      trustedFriendsOnly := config.mesh.trustedFriendsOnly
      requireTrustedContacts := config.mesh.requireTrustedContacts
      preferUserIdentity := config.mesh.preferUserIdentity }
  availableModels := config.models.map ModelConfig.id
  observedAtUnixSecs := now

end X0xCompute
