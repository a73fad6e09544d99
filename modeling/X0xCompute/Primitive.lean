import Mathlib.Tactic

/-!
# Fixed-width integers, paths and socket addresses

The standard-library types that the configuration and the wire records are made of.
-/

namespace X0xCompute

abbrev U8 : Type := BitVec 8
abbrev U16 : Type := BitVec 16
abbrev U32 : Type := BitVec 32
abbrev U64 : Type := BitVec 64

/-- `std::path::PathBuf`: the bytes of an operating-system path, which need not be UTF-8. -/
structure PathBuf where
  bytes : List U8
  deriving DecidableEq

/-- `std::net::SocketAddr`, with the flow information and scope of a version 6 address. -/
inductive SocketAddr where
  | v4 (ip : Vector U8 4) (port : U16)
  | v6 (ip : Vector U16 8) (port : U16) (flowinfo scopeId : U32)
  deriving DecidableEq

end X0xCompute
