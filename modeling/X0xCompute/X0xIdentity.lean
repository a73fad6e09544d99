import X0xCompute.Error
import X0xCompute.Foreign
import X0xCompute.Lib.Hex

/-!
# Identity snapshots and their encoding

`x0x_identity.rs`: the encoders and parsers of 32-byte identities, and the snapshot of an
agent's identities. `build_agent` is part of the start of the daemon, in `X0xCompute.Startup`.
-/

namespace X0xCompute

/-- Snapshot of the x0x identity that x0x-compute reuses. -/
structure AgentIdentitySnapshot where
  machineId : String
  agentId : String
  userId : Option String
  deriving DecidableEq

variable (hex : HexCrate)

def encodeMachineId (machineId : MachineId) : String := hex.encode machineId.bytes.toList

def encodeAgentId (agentId : AgentId) : String := hex.encode agentId.bytes.toList

def encodeUserId (userId : UserId) : String := hex.encode userId.bytes.toList

/-- `parse_hex_32`: 32 bytes from hexadecimal text. -/
def parseHex32 (value : String) (field : String) : Except ComputeError (Vector U8 32) :=
  match hex.decode value with
  | .error details => .error (.invalidIdentityEncoding field details)
  | .ok decoded =>
    if h : decoded.length = 32 then
      .ok ⟨decoded.toArray, h⟩
    else
      .error (.invalidIdentityEncoding field
        ("expected 32 bytes, got " ++ Nat.repr decoded.length))

def parseAgentIdHex (value : String) : Except ComputeError AgentId :=
  (parseHex32 hex value "agent_id").map AgentId.mk

def parseMachineIdHex (value : String) : Except ComputeError MachineId :=
  (parseHex32 hex value "machine_id").map MachineId.mk

/-- The documented behaviour of `hex::encode`: two lowercase digits for each byte. -/
def HexCrate.EncodesLower : Prop := ∀ bs, hex.encode bs = Lib.hexLower bs

/-- `hex::decode` undoes `hex::encode`. -/
def HexCrate.DecodesEncoded : Prop := ∀ bs, hex.decode (hex.encode bs) = .ok bs

/-- What `x0x::Agent` answers about its identities. -/
structure Agent where
  machineId : MachineId
  agentId : AgentId
  userId : Option UserId
  deriving DecidableEq

/-- `AgentIdentitySnapshot::from_agent`. -/
def AgentIdentitySnapshot.fromAgent (agent : Agent) : AgentIdentitySnapshot where
  machineId := encodeMachineId hex agent.machineId
  agentId := encodeAgentId hex agent.agentId
  userId := agent.userId.map (encodeUserId hex)

variable {hex}

theorem HexCrate.EncodesLower.encode_injective (h : hex.EncodesLower) :
    Function.Injective hex.encode := by
  intro bs cs heq
  rw [h, h] at heq
  exact Lib.hexLower_injective heq

theorem HexCrate.DecodesEncoded.encode_injective (h : hex.DecodesEncoded) :
    Function.Injective hex.encode := by
  intro bs cs heq
  have := (h bs).symm.trans (heq ▸ h cs)
  exact Except.ok.inj this

theorem encodeAgentId_injective (h : Function.Injective hex.encode) :
    Function.Injective (encodeAgentId hex) := by
  rintro ⟨a⟩ ⟨b⟩ heq
  have hbytes : a.toList = b.toList := h heq
  rw [AgentId.mk.injEq]
  exact Vector.toList_inj.mp hbytes

/-- A parsed machine id is the one that was encoded. -/
theorem parseMachineIdHex_encodeMachineId (h : hex.DecodesEncoded) (machineId : MachineId) :
    parseMachineIdHex hex (encodeMachineId hex machineId) = .ok machineId := by
  obtain ⟨⟨bytes, hsize⟩⟩ := machineId
  unfold parseMachineIdHex parseHex32 encodeMachineId
  rw [h]
  simp [Except.map, hsize]

/-- A `hex` crate with the documented encoding. `decode` takes digits of either case; the
text for a character that is no digit is shortened. -/
def HexCrate.usual : HexCrate where
  encode := Lib.hexLower
  decode value :=
    match Lib.hexBytes? value.toList with
    | some bs => .ok bs
    | none =>
      if value.toList.length % 2 = 1 then .error "Odd number of digits"
      else .error "Invalid character"

theorem HexCrate.usual_encodesLower : HexCrate.usual.EncodesLower := fun _ => rfl

theorem HexCrate.usual_decodesEncoded : HexCrate.usual.DecodesEncoded := by
  intro bs
  simp [HexCrate.usual, Lib.hexBytes?_hexLower]

end X0xCompute
