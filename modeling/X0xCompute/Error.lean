import X0xCompute.Primitive

/-!
# Errors

`error.rs`: the error type of the crate. The errors of other crates are carried as the text
they display.
-/

namespace X0xCompute

/-- Error type for x0x-compute. -/
inductive ComputeError where
  | x0xIdentity (error : String)
  | io (error : String)
  | json (error : String)
  | tomlDecode (error : String)
  | tomlEncode (error : String)
  | userIdentityRequired
  | invalidIdentityEncoding (field : String) (details : String)
  | missingParentDirectory (path : PathBuf)
  | modelNotFound (model : String)
  | modelCapacityExceeded (model : String) (requestedSlots availableSlots : U16)
  | reservationNotFound (reservationId : String)
  | invalidReservationRequest (message : String)
  | invalidChatRequest (message : String)
  | unsupportedFeature (message : String)
  deriving DecidableEq

end X0xCompute
