import AxiomCore.Codec.Encoder

/-!
# Frame decoder

`Decoder::decode` reads a frame from the beginning of a buffer, section by section, with the offset
in hand. Which sections there are is read from the header. Slices and elements of the buffer are
taken with `slice` and `elementAt`, for which leaving the buffer is a fault.

Source: `axiom-codec/src/decoder.rs`.
-/

namespace AxiomCore

open Lib Encoder

/-- Its fields are those of a frame. -/
abbrev DecodedFrame := Frame

namespace Decoder

/-! ## Readers -/

/-- `Decoder::decode_fixed_header`: the header, and whether a trace id and a routing extension
follow. -/
def decodeFixedHeader (buffer : List UInt8) : Checked CodecError (FrameHeader × Bool × Bool) := do
  let byte0 ← elementAt buffer 0
  let byte1 ← elementAt buffer 1
  let byte2 ← elementAt buffer 2
  let version := (byte0 >>> 2) &&& 0x0F
  if byte0 >>> 6 ≠ magic then .error (.error .invalidMagic)
  else if version ≠ protocolVersion then .error (.error (.unsupportedVersion version))
  else
    let frameTypeRaw := ((byte0 &&& 0x03) <<< 3) ||| ((byte1 >>> 5) &&& 0x07)
    let clockBytes ← slice buffer 3 10
    let intentBytes ← slice buffer 10 26
    let senderBytes ← slice buffer 26 58
    .ok ({ version := version
           frameType := .fromU8 frameTypeRaw
           flags := .fromU8 ((byte1 >>> 2) &&& 0x07)
           trustLevel := .fromU8 (byte1 &&& 0x03)
           priority := .fromU8 (byte2 >>> 6)
           clock := .fromBytes clockBytes
           intentHash := ⟨takeVec 16 intentBytes⟩
           senderId := ⟨takeVec 32 senderBytes⟩ },
      byte2 &&& 0x20 ≠ 0, byte2 &&& 0x10 ≠ 0)

def decodeTraceId (hasTraceId : Bool) (buffer : List UInt8) (offset : Nat) :
    Checked CodecError (Option TraceId × Nat) :=
  if hasTraceId then
    if buffer.length < offset + 8 then .error (.error .truncatedFrame)
    else do
      let traceBytes ← slice buffer offset (offset + 8)
      .ok (some ⟨takeVec 8 traceBytes⟩, offset + 8)
  else .ok (none, offset)

def decodeRouting (hasRouting : Bool) (buffer : List UInt8) (offset : Nat) :
    Checked CodecError (Option RoutingExt × Nat) :=
  if hasRouting then
    if buffer.length < offset + 32 + 1 then .error (.error .truncatedFrame)
    else do
      let destBytes ← slice buffer offset (offset + 32)
      let ttl ← elementAt buffer (offset + 32)
      .ok (some ⟨⟨takeVec 32 destBytes⟩, ttl⟩, offset + 32 + 1)
  else .ok (none, offset)

def decodeFragmentInfo (isFragmented : Bool) (buffer : List UInt8) (offset : Nat) :
    Checked CodecError (Option FragmentInfo × Nat) :=
  if isFragmented then
    if buffer.length < offset + 4 then .error (.error .truncatedFrame)
    else do
      let sequence ← slice buffer offset (offset + 2)
      let total ← slice buffer (offset + 2) (offset + 4)
      .ok (some ⟨UInt16.ofNat (beNat sequence), UInt16.ofNat (beNat total)⟩, offset + 4)
  else .ok (none, offset)

def decodePayloadHeader (buffer : List UInt8) : Checked CodecError PayloadHeader := do
  let typeAndLenHigh ← elementAt buffer 0
  let lenMid ← elementAt buffer 1
  let lenLowAndFlagsHigh ← elementAt buffer 2
  let lenLowestAndFlags ← elementAt buffer 3
  .ok
    { payloadType := .fromU8 (typeAndLenHigh >>> 4)
      length := ((typeAndLenHigh.toUInt32 &&& 0x0F) <<< 20) ||| (lenMid.toUInt32 <<< 12) |||
        (lenLowAndFlagsHigh.toUInt32 <<< 4) ||| (lenLowestAndFlags.toUInt32 >>> 4)
      flags := lenLowestAndFlags &&& 0x0F }

def decodeAuth (trustLevel : TrustLevel) (buffer : List UInt8) :
    Checked CodecError Authentication :=
  match trustLevel with
  | .full | .sig =>
    if buffer.length < 64 then .error (.error .truncatedFrame)
    else do
      let sigBytes ← slice buffer 0 64
      .ok (.signature ⟨takeVec 64 sigBytes⟩)
  | .compress =>
    if buffer.length < 16 then .error (.error .truncatedFrame)
    else do
      let tokenBytes ← slice buffer 0 16
      .ok (.token ⟨takeVec 16 tokenBytes⟩)
  | .raw => .ok .none

def decodeBody (trustLevel : TrustLevel) (buffer : List UInt8) (offset : Nat) :
    Checked CodecError (PayloadHeader × List UInt8 × Authentication) :=
  if buffer.length < offset + 4 then .error (.error .truncatedFrame)
  else do
    let headerBytes ← slice buffer offset (offset + 4)
    let payloadHeader ← decodePayloadHeader headerBytes
    let offset := offset + 4
    let payloadLen := payloadHeader.length.toNat
    if payloadLen > maxPayloadSize then .error (.error (.payloadTooLarge payloadLen))
    else
      let authSize := trustLevel.authOverhead
      if buffer.length < offset + payloadLen + authSize then .error (.error .truncatedFrame)
      else
        let payload ← slice buffer offset (offset + payloadLen)
        let offset := offset + payloadLen
        let authBytes ← slice buffer offset (offset + authSize)
        let auth ← decodeAuth trustLevel authBytes
        .ok (payloadHeader, payload, auth)

def decode (buffer : List UInt8) : Checked CodecError DecodedFrame :=
  if buffer.length < 62 then .error (.error (.bufferTooSmall 62 buffer.length))
  else do
    let fixed ← slice buffer 0 58
    let (header, hasTraceId, hasRouting) ← decodeFixedHeader fixed
    let (traceId, offset) ← decodeTraceId hasTraceId buffer 58
    let (routing, offset) ← decodeRouting hasRouting buffer offset
    let (fragmentInfo, offset) ← decodeFragmentInfo header.flags.fragmented buffer offset
    let (payloadHeader, payload, auth) ← decodeBody header.trustLevel buffer offset
    .ok ⟨header, traceId, routing, fragmentInfo, payloadHeader, payload, auth⟩

def decodeHeader (buffer : List UInt8) : Checked CodecError FrameHeader :=
  if buffer.length < 58 then .error (.error (.bufferTooSmall 58 buffer.length))
  else do
    let fixed ← slice buffer 0 58
    let (header, _, _) ← decodeFixedHeader fixed
    .ok header

def payloadSlice (buffer : List UInt8) : Checked CodecError (List UInt8) :=
  if buffer.length < 62 then .error (.error (.bufferTooSmall 62 buffer.length))
  else do
    let fixed ← slice buffer 0 58
    let (header, hasTraceId, hasRouting) ← decodeFixedHeader fixed
    let offset := 58
    let offset := if hasTraceId then offset + 8 else offset
    let offset := if hasRouting then offset + 32 + 1 else offset
    let offset := if header.flags.fragmented then offset + 4 else offset
    if buffer.length < offset + 4 then .error (.error .truncatedFrame)
    else
      let headerBytes ← slice buffer offset (offset + 4)
      let payloadHeader ← decodePayloadHeader headerBytes
      let offset := offset + 4
      let payloadLen := payloadHeader.length.toNat
      if buffer.length < offset + payloadLen then .error (.error .truncatedFrame)
      else slice buffer offset (offset + payloadLen)

end Decoder

end AxiomCore
