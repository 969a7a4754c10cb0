import AxiomCore.Lib.Bytes

/-!
# Identifiers, constraints and intent descriptors

The data model shared by every crate: node and intent identifiers (fixed-width byte arrays), socket
addresses, the six kinds of constraint value, and the intent descriptor that is hashed for routing
and for approval binding.

A Rust `String` is a Lean `String`, an `i64` is an `Int64`, and an `f64` is its 64-bit pattern
(`f64::to_bits`): the modelled code copies, compares and serialises floats, and never computes
with them. A Rust `HashMap<K, V>` is a function `K → Option V`.

Source: `axiom-types/src/intent.rs`.
-/

namespace AxiomCore

/-- `NodeId`: the 32-byte Ed25519 public key a node is known by. Source:
`axiom-types/src/crypto.rs`, `NodeId`. -/
structure NodeId where
  bytes : Vector UInt8 32
  deriving DecidableEq

/-- `IntentHash`: the first 16 bytes of a BLAKE3 digest. Source: `axiom-types/src/crypto.rs`,
`IntentHash`. -/
structure IntentHash where
  bytes : Vector UInt8 16
  deriving DecidableEq

inductive SocketAddr where
  | v4 (ip : Vector UInt8 4) (port : UInt16)
  | v6 (ip : Vector UInt8 16) (port : UInt16) (flowinfo scopeId : UInt32)
  deriving DecidableEq

/-- An address in `fe80::/10`. Source: `axiom-router/src/bootstrap.rs`, `is_link_local`;
`forge-node/src/network.rs`, `is_link_local_v6`. -/
def isLinkLocal : SocketAddr → Bool
  | .v4 _ _ => false
  | .v6 ip _ _ _ => ip.getD 0 0 = 0xfe && ip.getD 1 0 &&& 0xc0 = 0x80

inductive ConstraintValue where
  | string (s : String)
  | int (i : Int64)
  /-- `Float(f64)`, as its bit pattern. -/
  | float (bits : UInt64)
  | bool (b : Bool)
  /-- `Range { min, max }`, both `f64` as bit patterns. -/
  | range (min max : UInt64)
  | oneOf (values : List String)
  deriving DecidableEq

/-- A named constraint, also used as a named Tier 2 parameter. -/
structure Constraint where
  key : String
  value : ConstraintValue
  deriving DecidableEq

/-- The part of `IntentDescriptor` that is hashed. The `fallbacks` field is left out: no modelled
function reads it. -/
structure IntentDescriptor where
  capability : String
  /-- Constraints, in the caller's order. -/
  constraints : List Constraint
  priority : UInt8
  ttlMs : UInt32

/-- `IntentDescriptor::new`: no constraints, middle priority, half a minute to live. -/
def IntentDescriptor.new (capability : String) : IntentDescriptor where
  capability := capability
  constraints := []
  priority := 128
  ttlMs := 30000

/-! ## Times -/

def saturatingSub64 (a b : UInt64) : UInt64 := if b ≤ a then a - b else 0

lemma toNat_saturatingSub64 (a b : UInt64) :
    (saturatingSub64 a b).toNat = a.toNat - b.toNat := by
  unfold saturatingSub64
  split_ifs with h
  · exact UInt64.toNat_sub_of_le _ _ h
  rw [UInt64.le_iff_toNat_le] at h
  simp only [UInt64.toNat_zero]
  omega

end AxiomCore
