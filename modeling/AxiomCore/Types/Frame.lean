import AxiomCore.Lib.Bits
import AxiomCore.Types.Basic
import AxiomCore.Types.Clock

/-!
# Frames

What nodes exchange: a fixed header, optional extensions, a payload and its authentication. The
enumerations have the source's constructors; `Reserved` carries a value the enumeration does not
name.

On the wire an enumeration is a bit field. Reading a field and writing it back gives the field
(`toU8_fromU8`); writing a value and reading it back gives the value, for reserved values only if
they are none of the named ones and fit the field (`fromU8_toU8`).

Source: `axiom-types/src/frame.rs`.
-/

namespace AxiomCore

open Lib

/-! ## Constants -/

/-- `PROTOCOL_VERSION`. Source: `axiom-types/src/lib.rs`. -/
def protocolVersion : UInt8 := 1

/-- `MAGIC`, two bits. -/
def magic : UInt8 := 0b10

def maxPayloadSize : Nat := 0xFFFFFF

/-! ## Identifiers and secrets of the wire -/

/-- An Ed25519 signature. Source: `axiom-types/src/crypto.rs`, `Signature`. -/
structure Signature where
  bytes : Vector UInt8 64
  deriving DecidableEq

/-- Source: `axiom-types/src/crypto.rs`, `SessionToken`. -/
structure SessionToken where
  bytes : Vector UInt8 16
  deriving DecidableEq

/-- Source: `axiom-types/src/crypto.rs`, `TraceId`. -/
structure TraceId where
  bytes : Vector UInt8 8
  deriving DecidableEq

/-! ## Header -/

inductive FrameType where
  | intent
  | fulfill
  | stream
  | sync
  | trust
  | route
  | compress
  | bridge
  | announce
  | flow
  | error
  | fragment
  | ping
  | pong
  | ack
  | nack
  | join
  | leave
  | reserved (value : UInt8)
  deriving DecidableEq

inductive Priority where
  | low
  | normal
  | high
  | critical
  deriving DecidableEq

structure FrameFlags where
  encrypted : Bool
  compressed : Bool
  fragmented : Bool
  deriving DecidableEq

/-- Source: `axiom-types/src/trust.rs`, `TrustLevel`. -/
inductive TrustLevel where
  | full
  | sig
  | compress
  | raw
  deriving DecidableEq

structure FrameHeader where
  version : UInt8
  frameType : FrameType
  flags : FrameFlags
  trustLevel : TrustLevel
  priority : Priority
  clock : HybridClock
  intentHash : IntentHash
  senderId : NodeId
  deriving DecidableEq

def FrameHeader.new (frameType : FrameType) (senderId : NodeId) : FrameHeader where
  version := 1
  frameType := frameType
  flags := ⟨false, false, false⟩
  trustLevel := .full
  priority := .normal
  clock := .zero
  intentHash := ⟨Vector.replicate 16 0⟩
  senderId := senderId

/-! ## Frame -/

structure RoutingExt where
  destination : NodeId
  ttl : UInt8
  deriving DecidableEq

structure FragmentInfo where
  sequence : UInt16
  total : UInt16
  deriving DecidableEq

/-- Source: `axiom-types/src/payload.rs`, `PayloadType`. -/
inductive PayloadType where
  | raw
  | tensor
  | embed
  | delta
  | intentDesc
  | graph
  | legacy
  | dictRef
  | kv
  | error
  | trust
  | route
  | flow
  | reserved (value : UInt8)
  deriving DecidableEq

structure PayloadHeader where
  payloadType : PayloadType
  length : UInt32
  flags : UInt8
  deriving DecidableEq

inductive Authentication where
  | signature (s : Signature)
  | token (t : SessionToken)
  | none
  deriving DecidableEq

structure Frame where
  header : FrameHeader
  /-- Correlates a request with its reply. -/
  traceId : Option TraceId
  routing : Option RoutingExt
  fragmentInfo : Option FragmentInfo
  payloadHeader : PayloadHeader
  payload : List UInt8
  auth : Authentication
  deriving DecidableEq

/-- `Frame::new`, with an empty authentication of the header's trust level. -/
def Frame.new (header : FrameHeader) (payloadType : PayloadType) (payload : List UInt8) : Frame where
  header := header
  traceId := none
  routing := none
  fragmentInfo := none
  payloadHeader := ⟨payloadType, UInt32.ofNat payload.length, 0⟩
  payload := payload
  auth :=
    match header.trustLevel with
    | .full | .sig => .signature ⟨Vector.replicate 64 0⟩
    | .compress => .token ⟨Vector.replicate 16 0⟩
    | .raw => .none

/-! ## Wire values -/

namespace FrameType

def fromU8 (value : UInt8) : FrameType :=
  match value with
  | 0x00 => .intent
  | 0x01 => .fulfill
  | 0x02 => .stream
  | 0x03 => .sync
  | 0x04 => .trust
  | 0x05 => .route
  | 0x06 => .compress
  | 0x07 => .bridge
  | 0x08 => .announce
  | 0x09 => .flow
  | 0x0A => .error
  | 0x0B => .fragment
  | 0x0C => .ping
  | 0x0D => .pong
  | 0x0E => .ack
  | 0x0F => .nack
  | 0x10 => .join
  | 0x11 => .leave
  | v => .reserved v

def toU8 : FrameType → UInt8
  | .intent => 0x00
  | .fulfill => 0x01
  | .stream => 0x02
  | .sync => 0x03
  | .trust => 0x04
  | .route => 0x05
  | .compress => 0x06
  | .bridge => 0x07
  | .announce => 0x08
  | .flow => 0x09
  | .error => 0x0A
  | .fragment => 0x0B
  | .ping => 0x0C
  | .pong => 0x0D
  | .ack => 0x0E
  | .nack => 0x0F
  | .join => 0x10
  | .leave => 0x11
  | .reserved v => v

/-- The value has a field of 5 bits of its own. -/
def Encodable : FrameType → Prop
  | .reserved v => 0x12 ≤ v.toNat ∧ v.toNat < 32
  | _ => True

instance : DecidablePred Encodable := fun t => by unfold Encodable; split <;> infer_instance

@[simp] lemma toU8_fromU8 (v : UInt8) : (fromU8 v).toU8 = v := by
  unfold fromU8
  split <;> rfl

lemma fromU8_toU8 {t : FrameType} (h : t.Encodable) : fromU8 t.toU8 = t := by
  cases t with
  | reserved v =>
    have hv : 0x12 ≤ v.toNat := h.1
    show fromU8 v = .reserved v
    unfold fromU8
    split
    case h_19 => rfl
    all_goals simp at hv
  | _ => rfl

lemma toU8_lt {t : FrameType} (h : t.Encodable) : t.toU8.toNat < 32 := by
  cases t with
  | reserved v => exact h.2
  | _ => simp [toU8]

lemma encodable_fromU8 {v : UInt8} (h : v.toNat < 32) : (fromU8 v).Encodable := by
  unfold fromU8
  split
  case h_19 =>
    refine ⟨?_, h⟩
    -- none of the named values
    simp only [imp_false, ← UInt8.toNat_inj, UInt8.reduceToNat] at *
    omega
  all_goals trivial

end FrameType

namespace PayloadType

/-- Source: `axiom-types/src/payload.rs`, `PayloadType::from_u8`. -/
def fromU8 (value : UInt8) : PayloadType :=
  match value &&& 0x0F with
  | 0x0 => .raw
  | 0x1 => .tensor
  | 0x2 => .embed
  | 0x3 => .delta
  | 0x4 => .intentDesc
  | 0x5 => .graph
  | 0x6 => .legacy
  | 0x7 => .dictRef
  | 0x8 => .kv
  | 0x9 => .error
  | 0xA => .trust
  | 0xB => .route
  | 0xC => .flow
  | v => .reserved v

/-- Source: `axiom-types/src/payload.rs`, `PayloadType::to_u8`. -/
def toU8 : PayloadType → UInt8
  | .raw => 0x0
  | .tensor => 0x1
  | .embed => 0x2
  | .delta => 0x3
  | .intentDesc => 0x4
  | .graph => 0x5
  | .legacy => 0x6
  | .dictRef => 0x7
  | .kv => 0x8
  | .error => 0x9
  | .trust => 0xA
  | .route => 0xB
  | .flow => 0xC
  | .reserved v => v

/-- The value has a field of 4 bits of its own. -/
def Encodable : PayloadType → Prop
  | .reserved v => 0xD ≤ v.toNat ∧ v.toNat < 16
  | _ => True

instance : DecidablePred Encodable := fun t => by unfold Encodable; split <;> infer_instance

lemma toNat_and_nibble (v : UInt8) : (v &&& 0x0F).toNat = v.toNat % 16 :=
  toNat_and_mask 4 rfl v

lemma toU8_fromU8 (v : UInt8) : (fromU8 v).toU8 = v &&& 0x0F := by
  unfold fromU8
  split <;> simp_all [toU8]

lemma fromU8_toU8 {t : PayloadType} (h : t.Encodable) : fromU8 t.toU8 = t := by
  cases t with
  | reserved v =>
    have hv : 0xD ≤ v.toNat ∧ v.toNat < 16 := h
    have hand : v &&& 0x0F = v := by
      rw [← UInt8.toNat_inj, toNat_and_nibble]
      omega
    show fromU8 v = .reserved v
    unfold fromU8
    rw [hand]
    split
    case h_14 => rfl
    all_goals simp at hv
  | _ => rfl

lemma toU8_lt {t : PayloadType} (h : t.Encodable) : t.toU8.toNat < 16 := by
  cases t with
  | reserved v => exact h.2
  | _ => simp [toU8]

lemma encodable_fromU8 (v : UInt8) : (fromU8 v).Encodable := by
  have hlt : (v &&& 0x0F).toNat < 16 := by
    rw [toNat_and_nibble]
    omega
  unfold fromU8
  split
  case h_14 =>
    refine ⟨?_, hlt⟩
    -- none of the named values
    simp only [imp_false, ← UInt8.toNat_inj, UInt8.reduceToNat] at *
    omega
  all_goals trivial

end PayloadType

namespace Priority

def fromU8 (value : UInt8) : Priority :=
  match value &&& 0x03 with
  | 0 => .low
  | 1 => .normal
  | 2 => .high
  -- 3: two bits hold nothing else
  | _ => .critical

def toU8 : Priority → UInt8
  | .low => 0
  | .normal => 1
  | .high => 2
  | .critical => 3

lemma fromU8_toU8 (p : Priority) : fromU8 p.toU8 = p := by cases p <;> rfl

lemma toNat_toU8_fromU8 (v : UInt8) : (fromU8 v).toU8.toNat = v.toNat % 4 := by
  have hmask : (v &&& 0x03).toNat = v.toNat % 4 := toNat_and_mask 2 rfl v
  unfold fromU8
  split
  all_goals
    simp only [toU8, imp_false, ← UInt8.toNat_inj, UInt8.reduceToNat] at *
    omega

end Priority

namespace TrustLevel

/-- Source: `axiom-types/src/trust.rs`, `TrustLevel::from_u8`. -/
def fromU8 (value : UInt8) : TrustLevel :=
  match value &&& 0x03 with
  | 0 => .full
  | 1 => .sig
  | 2 => .compress
  -- 3: two bits hold nothing else
  | _ => .raw

/-- Source: `axiom-types/src/trust.rs`, `TrustLevel::to_u8`. -/
def toU8 : TrustLevel → UInt8
  | .full => 0
  | .sig => 1
  | .compress => 2
  | .raw => 3

/-- Source: `axiom-types/src/trust.rs`, `TrustLevel::auth_overhead`. -/
def authOverhead : TrustLevel → Nat
  | .full | .sig => 64
  | .compress => 16
  | .raw => 0

lemma fromU8_toU8 (t : TrustLevel) : fromU8 t.toU8 = t := by cases t <;> rfl

lemma toU8_lt (t : TrustLevel) : t.toU8.toNat < 4 := by cases t <;> simp [toU8]

lemma toNat_toU8_fromU8 (v : UInt8) : (fromU8 v).toU8.toNat = v.toNat % 4 := by
  have hmask : (v &&& 0x03).toNat = v.toNat % 4 := toNat_and_mask 2 rfl v
  unfold fromU8
  split
  all_goals
    simp only [toU8, imp_false, ← UInt8.toNat_inj, UInt8.reduceToNat] at *
    omega

end TrustLevel

namespace FrameFlags

def fromU8 (value : UInt8) : FrameFlags where
  encrypted := value &&& 0b001 ≠ 0
  compressed := value &&& 0b010 ≠ 0
  fragmented := value &&& 0b100 ≠ 0

def toU8 (flags : FrameFlags) : UInt8 :=
  let value := 0
  let value := if flags.encrypted then value ||| 0b001 else value
  let value := if flags.compressed then value ||| 0b010 else value
  if flags.fragmented then value ||| 0b100 else value

lemma toNat_toU8 (flags : FrameFlags) :
    flags.toU8.toNat =
      flags.encrypted.toNat + 2 * flags.compressed.toNat + 4 * flags.fragmented.toNat := by
  rcases flags with ⟨_ | _, _ | _, _ | _⟩ <;> rfl

lemma toU8_lt (flags : FrameFlags) : flags.toU8.toNat < 8 := by
  rcases flags with ⟨_ | _, _ | _, _ | _⟩ <;> simp [toNat_toU8]

lemma fromU8_toU8 (flags : FrameFlags) : fromU8 flags.toU8 = flags := by
  rcases flags with ⟨_ | _, _ | _, _ | _⟩ <;> rfl

lemma toNat_toU8_fromU8 (v : UInt8) : (fromU8 v).toU8.toNat = v.toNat % 8 := by
  have hencrypted := and_bit_ne_zero_iff (m := 0b001) 0 rfl v
  have hcompressed := and_bit_ne_zero_iff (m := 0b010) 1 rfl v
  have hfragmented := and_bit_ne_zero_iff (m := 0b100) 2 rfl v
  simp only [toNat_toU8, fromU8, hencrypted, hcompressed, hfragmented, Bool.toNat,
    Bool.cond_decide]
  split_ifs <;> omega

end FrameFlags

/-! ## Sizes -/

def Authentication.wireSize : Authentication → Nat
  | .signature _ => 64
  | .token _ => 16
  | .none => 0

/-- `Frame::wire_size`: 58 bytes of header, optionally a trace id, a destination with its hop count
and the place among the fragments, then the payload with its header and the authentication. -/
def Frame.wireSize (frame : Frame) : Nat :=
  let size := 58
  let size := if frame.traceId.isSome then size + 8 else size
  let size := if frame.routing.isSome then size + 33 else size
  let size := if frame.fragmentInfo.isSome then size + 4 else size
  size + 4 + frame.payload.length + frame.auth.wireSize

end AxiomCore
