import AxiomCore.Lib.Buffer
import AxiomCore.Types.Frame

/-!
# Frame encoder

`Encoder::encode` writes a frame into a buffer, section by section. The writers are the source's
own; `wireBytes` says what they write together, and `encode_eq` that this is all `encode` does:
given room, the frame's bytes replace the beginning of the buffer and the rest stays.

`signature_data` is what a signature covers: the frame's bytes with no hops left and without the
authentication (`signatureData_eq`).

Source: `axiom-codec/src/encoder.rs`.
-/

namespace AxiomCore

open Lib

/-- Source: `axiom-types/src/error.rs`, `CodecError`. -/
inductive CodecError where
  | invalidMagic
  | unsupportedVersion (version : UInt8)
  | bufferTooSmall (needed have_ : Nat)
  | invalidFrameType (value : UInt8)
  | invalidPayloadType (value : UInt8)
  | payloadTooLarge (size : Nat)
  | invalidSignature
  | invalidToken
  | truncatedFrame
  | invalidUtf8
  | invalidDType (value : UInt8)
  deriving DecidableEq

namespace Encoder

/-! ## Packed bytes -/

/-- Bits 0 to 7: magic, version, high bits of the frame type. -/
def byte0 (header : FrameHeader) : UInt8 :=
  (magic <<< 6) ||| ((header.version &&& 0x0F) <<< 2) |||
    ((header.frameType.toU8 >>> 3) &&& 0x03)

/-- Bits 8 to 15: low bits of the frame type, flags, trust level. -/
def byte1 (header : FrameHeader) : UInt8 :=
  ((header.frameType.toU8 &&& 0x07) <<< 5) ||| ((header.flags.toU8 &&& 0x07) <<< 2) |||
    (header.trustLevel.toU8 &&& 0x03)

/-- Bits 16 to 23: priority, which extensions there are, four reserved bits. -/
def byte2 (header : FrameHeader) (hasTraceId hasRouting : Bool) : UInt8 :=
  let traceFlag : UInt8 := if hasTraceId then 0x20 else 0x00
  let routingFlag : UInt8 := if hasRouting then 0x10 else 0x00
  ((header.priority.toU8 &&& 0x03) <<< 6) ||| traceFlag ||| routingFlag

/-- The four bytes of a payload header: 4 bits of type, 24 of length, 4 of flags. -/
def payloadHeaderBytes (payloadType : PayloadType) (length : UInt32) (flags : UInt8) :
    List UInt8 :=
  [((payloadType.toU8 &&& 0x0F) <<< 4) ||| ((length >>> 20).toUInt8 &&& 0x0F),
    ((length >>> 12) &&& 0xFF).toUInt8,
    ((length >>> 4) &&& 0xFF).toUInt8,
    (((length &&& 0x0F) <<< 4) ||| (flags.toUInt32 &&& 0x0F)).toUInt8]

/-! ## Writers -/

def encodeFixedHeader (header : FrameHeader) (hasTraceId hasRouting : Bool) (c : Cursor) :
    Checked CodecError Cursor :=
  if c.room < 58 then .error (.error (.bufferTooSmall 58 c.room))
  else do
    let c ← c.put [byte0 header]
    let c ← c.put [byte1 header]
    let c ← c.put [byte2 header hasTraceId hasRouting]
    let c ← c.put header.clock.toBytes
    let c ← c.put header.intentHash.bytes.toList
    c.put header.senderId.bytes.toList

def encodeTraceId (traceId : Option TraceId) (c : Cursor) : Checked CodecError Cursor :=
  match traceId with
  | some traceId => c.put traceId.bytes.toList
  | none => .ok c

def encodeRouting (routing : Option RoutingExt) (c : Cursor) : Checked CodecError Cursor :=
  match routing with
  | some routing => do
    let c ← c.put routing.destination.bytes.toList
    c.put [routing.ttl]
  | none => .ok c

def encodeFragmentInfo (fragmentInfo : Option FragmentInfo) (c : Cursor) :
    Checked CodecError Cursor :=
  match fragmentInfo with
  | some frag => do
    let c ← c.put (beBytes 2 frag.sequence.toNat)
    c.put (beBytes 2 frag.total.toNat)
  | none => .ok c

def encodePayloadHeader (payloadType : PayloadType) (length : UInt32) (flags : UInt8)
    (c : Cursor) : Checked CodecError Cursor :=
  if c.room < 4 then .error (.error (.bufferTooSmall 4 c.room))
  else c.put (payloadHeaderBytes payloadType length flags)

def encodeAuth (auth : Authentication) (c : Cursor) : Checked CodecError Cursor :=
  match auth with
  | .signature sig =>
    if c.room < 64 then .error (.error (.bufferTooSmall 64 c.room))
    else c.put sig.bytes.toList
  | .token token =>
    if c.room < 16 then .error (.error (.bufferTooSmall 16 c.room))
    else c.put token.bytes.toList
  | .none => .ok c

def encodeSections (frame : Frame) (c : Cursor) : Checked CodecError Cursor := do
  let c ← c.onTail (encodeFixedHeader frame.header frame.traceId.isSome frame.routing.isSome)
  let c ← encodeTraceId frame.traceId c
  let c ← encodeRouting frame.routing c
  let c ← encodeFragmentInfo frame.fragmentInfo c
  let c ← c.onTail (encodePayloadHeader frame.payloadHeader.payloadType
    (UInt32.ofNat frame.payload.length) frame.payloadHeader.flags)
  let c ← c.put frame.payload
  c.onTail (encodeAuth frame.auth)

/-- `Encoder::encode`: the number of bytes written, and the buffer after that. -/
def encode (frame : Frame) (buffer : List UInt8) : Checked CodecError (Nat × List UInt8) :=
  if buffer.length < frame.wireSize then
    .error (.error (.bufferTooSmall frame.wireSize buffer.length))
  else if frame.payload.length > maxPayloadSize then
    .error (.error (.payloadTooLarge frame.payload.length))
  else do
    let c ← encodeSections frame ⟨0, buffer⟩
    .ok (c.offset, c.buffer)

/-- `Encoder::signature_data`. If the frame cannot be encoded, the buffer stays as it was made. -/
def signatureData (frame : Frame) : List UInt8 :=
  let canonical :=
    { frame with routing := frame.routing.map fun routing => { routing with ttl := 0 } }
  let authSize := canonical.auth.wireSize
  let totalSize := canonical.wireSize
  let dataSize := totalSize - authSize
  let buffer := List.replicate totalSize 0
  let buffer :=
    match encode canonical buffer with
    | .ok (_, buffer) => buffer
    | .error _ => buffer
  buffer.take dataSize

end Encoder

/-! ## What is written -/

namespace Encoder

def fixedHeaderBytes (header : FrameHeader) (hasTraceId hasRouting : Bool) : List UInt8 :=
  [byte0 header] ++ ([byte1 header] ++ ([byte2 header hasTraceId hasRouting] ++
    (header.clock.toBytes ++ (header.intentHash.bytes.toList ++ header.senderId.bytes.toList))))

def traceIdBytes : Option TraceId → List UInt8
  | some traceId => traceId.bytes.toList
  | none => []

def routingBytes : Option RoutingExt → List UInt8
  | some routing => routing.destination.bytes.toList ++ [routing.ttl]
  | none => []

def fragmentInfoBytes : Option FragmentInfo → List UInt8
  | some frag => beBytes 2 frag.sequence.toNat ++ beBytes 2 frag.total.toNat
  | none => []

def authBytes : Authentication → List UInt8
  | .signature sig => sig.bytes.toList
  | .token token => token.bytes.toList
  | .none => []

end Encoder

open Encoder

/-- The frame's bytes before its authentication. -/
def Frame.bodyBytes (frame : Frame) : List UInt8 :=
  fixedHeaderBytes frame.header frame.traceId.isSome frame.routing.isSome ++
    traceIdBytes frame.traceId ++ routingBytes frame.routing ++
    fragmentInfoBytes frame.fragmentInfo ++
    payloadHeaderBytes frame.payloadHeader.payloadType (UInt32.ofNat frame.payload.length)
      frame.payloadHeader.flags ++
    frame.payload

def Frame.wireBytes (frame : Frame) : List UInt8 := frame.bodyBytes ++ authBytes frame.auth

namespace Encoder

variable (frame : Frame) (fragmentInfo : Option FragmentInfo) (routing : Option RoutingExt)
  (traceId : Option TraceId) (auth : Authentication) (header : FrameHeader)

@[simp] lemma length_fixedHeaderBytes (hasTraceId hasRouting : Bool) :
    (fixedHeaderBytes header hasTraceId hasRouting).length = 58 := by
  simp [fixedHeaderBytes]

lemma length_traceIdBytes : (traceIdBytes traceId).length = if traceId.isSome then 8 else 0 := by
  cases traceId <;> simp [traceIdBytes]

lemma length_routingBytes : (routingBytes routing).length = if routing.isSome then 33 else 0 := by
  cases routing <;> simp [routingBytes]

lemma length_fragmentInfoBytes :
    (fragmentInfoBytes fragmentInfo).length = if fragmentInfo.isSome then 4 else 0 := by
  cases fragmentInfo <;> simp [fragmentInfoBytes]

@[simp] lemma length_payloadHeaderBytes (payloadType : PayloadType) (length : UInt32)
    (flags : UInt8) : (payloadHeaderBytes payloadType length flags).length = 4 := rfl

@[simp] lemma length_authBytes : (authBytes auth).length = auth.wireSize := by
  cases auth <;> simp [authBytes, Authentication.wireSize]

lemma length_bodyBytes : frame.bodyBytes.length = frame.wireSize - frame.auth.wireSize := by
  simp only [Frame.bodyBytes, List.length_append, length_fixedHeaderBytes, length_traceIdBytes,
    length_routingBytes, length_fragmentInfoBytes, length_payloadHeaderBytes, Frame.wireSize]
  split_ifs <;> omega

lemma length_wireBytes : frame.wireBytes.length = frame.wireSize := by
  have hle : frame.auth.wireSize ≤ frame.wireSize := by
    simp only [Frame.wireSize]
    omega
  rw [Frame.wireBytes, List.length_append, length_bodyBytes, length_authBytes]
  omega

/-! ## The writers write that -/

lemma writes_fixedHeader (hasTraceId hasRouting : Bool) :
    Writes (encodeFixedHeader header hasTraceId hasRouting)
      (fixedHeaderBytes header hasTraceId hasRouting) := by
  have hputs : @Writes CodecError _ (fixedHeaderBytes header hasTraceId hasRouting) :=
    .seq (writes_put _) (.seq (writes_put _) (.seq (writes_put _) (.seq (writes_put _)
      (.seq (writes_put _) (writes_put _)))))
  have hguarded := hputs.ofRoom (CodecError.bufferTooSmall 58)
  rw [length_fixedHeaderBytes] at hguarded
  exact hguarded

lemma writes_traceId : Writes (encodeTraceId traceId) (traceIdBytes traceId) := by
  cases traceId with
  | none => exact writes_nil
  | some traceId => exact writes_put _

lemma writes_routing : Writes (encodeRouting routing) (routingBytes routing) := by
  cases routing with
  | none => exact writes_nil
  | some routing => exact .seq (writes_put _) (writes_put _)

lemma writes_fragmentInfo :
    Writes (encodeFragmentInfo fragmentInfo) (fragmentInfoBytes fragmentInfo) := by
  cases fragmentInfo with
  | none => exact writes_nil
  | some frag => exact .seq (writes_put _) (writes_put _)

lemma writes_payloadHeader (payloadType : PayloadType) (length : UInt32) (flags : UInt8) :
    Writes (encodePayloadHeader payloadType length flags)
      (payloadHeaderBytes payloadType length flags) :=
  (writes_put (payloadHeaderBytes payloadType length flags)).ofRoom (CodecError.bufferTooSmall 4)

lemma writes_auth : Writes (encodeAuth auth) (authBytes auth) := by
  cases auth with
  | none => exact writes_nil
  | signature sig =>
    have hguarded := (writes_put sig.bytes.toList).ofRoom (CodecError.bufferTooSmall 64)
    rw [Vector.length_toList] at hguarded
    exact hguarded
  | token token =>
    have hguarded := (writes_put token.bytes.toList).ofRoom (CodecError.bufferTooSmall 16)
    rw [Vector.length_toList] at hguarded
    exact hguarded

lemma writes_sections : Writes (encodeSections frame) frame.wireBytes := by
  have hsections : Writes (encodeSections frame) _ :=
    .seq (writes_fixedHeader _ _ _).onTail (.seq (writes_traceId _) (.seq (writes_routing _)
      (.seq (writes_fragmentInfo _) (.seq (writes_payloadHeader _ _ _).onTail
        (.seq (writes_put _) (writes_auth _).onTail)))))
  simpa only [Frame.wireBytes, Frame.bodyBytes, List.append_assoc] using hsections

lemma encode_eq (buffer : List UInt8) :
    encode frame buffer =
      if buffer.length < frame.wireSize then
        .error (.error (.bufferTooSmall frame.wireSize buffer.length))
      else if frame.payload.length > maxPayloadSize then
        .error (.error (.payloadTooLarge frame.payload.length))
      else .ok (frame.wireSize, frame.wireBytes ++ buffer.drop frame.wireSize) := by
  unfold encode
  split_ifs with hroom hpayload
  · rfl
  · rfl
  have hwrites := writes_sections frame [] buffer (by rw [length_wireBytes]; omega)
  simp only [List.nil_append, List.length_nil, length_wireBytes] at hwrites
  rw [hwrites]
  rfl

lemma encode_of_le {frame : Frame} {buffer : List UInt8} (hroom : frame.wireSize ≤ buffer.length)
    (hpayload : frame.payload.length ≤ maxPayloadSize) :
    encode frame buffer = .ok (frame.wireSize, frame.wireBytes ++ buffer.drop frame.wireSize) := by
  rw [encode_eq, if_neg (by omega), if_neg (by omega)]

end Encoder

/-- The frame with no hops left: what a relay may change is set to a fixed value. -/
def Frame.canonical (frame : Frame) : Frame :=
  { frame with routing := frame.routing.map fun routing => { routing with ttl := 0 } }

lemma Encoder.signatureData_eq {frame : Frame} (h : frame.payload.length ≤ maxPayloadSize) :
    signatureData frame = frame.canonical.bodyBytes := by
  have hencode : encode frame.canonical (List.replicate frame.canonical.wireSize 0) =
      .ok (frame.canonical.wireSize, frame.canonical.wireBytes) := by
    have hcanonical : frame.canonical.payload.length ≤ maxPayloadSize := h
    rw [encode_of_le (by simp) hcanonical]
    simp
  show (match encode frame.canonical (List.replicate frame.canonical.wireSize 0) with
    | .ok (_, buffer) => buffer
    | .error _ => List.replicate frame.canonical.wireSize 0).take
      (frame.canonical.wireSize - frame.canonical.auth.wireSize) = _
  rw [hencode, ← length_bodyBytes]
  exact List.take_left

end AxiomCore
