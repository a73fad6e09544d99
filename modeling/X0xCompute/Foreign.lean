import X0xCompute.Primitive

/-!
# What other crates provide

The types of the x0x network crate that messages and trust decisions are made of, and the
functions of other crates that x0x-compute calls. The functions are parameters of the
model: nothing is assumed of them here, and a result that relies on one says what it
relies on.
-/

namespace X0xCompute

/-- `x0x::identity::AgentId`. -/
structure AgentId where
  bytes : Vector U8 32
  deriving DecidableEq

/-- `x0x::identity::MachineId`. -/
structure MachineId where
  bytes : Vector U8 32
  deriving DecidableEq

/-- `x0x::identity::UserId`. -/
structure UserId where
  bytes : Vector U8 32
  deriving DecidableEq

/-- `x0x::trust::TrustDecision`. -/
inductive TrustDecision where
  | accept
  | acceptWithFlag
  | rejectMachineMismatch
  | rejectBlocked
  | unknown
  deriving DecidableEq

/-- `x0x::trust::TrustContext`. -/
structure TrustContext where
  agentId : AgentId
  machineId : MachineId
  deriving DecidableEq

/-- `x0x::PubSubMessage`, without the fields that x0x-compute never reads. -/
structure PubSubMessage where
  payload : List U8
  sender : Option AgentId
  verified : Bool
  deriving DecidableEq

/-- The `hex` crate: `encode`, and `decode` with the text of its error. -/
structure HexCrate where
  encode : List U8 → String
  decode : String → Except String (List U8)

/-- `serde_json` at one type: `to_vec` and `from_slice`, with the texts of their errors. -/
structure SerdeJson (α : Type) where
  toVec : α → Except String (List U8)
  fromSlice : List U8 → Except String α

/-- `serde_json::from_slice` undoes `serde_json::to_vec`. -/
def SerdeJson.RoundTrips {α : Type} (json : SerdeJson α) : Prop :=
  ∀ value payload, json.toVec value = .ok payload → json.fromSlice payload = .ok value

/-- `x0x::trust::TrustEvaluator::evaluate` over a contact store. -/
structure TrustEvaluator (ContactStore : Type) where
  evaluate : ContactStore → TrustContext → TrustDecision

end X0xCompute
