import AxiomCore.Codec.Decoder

/-!
# The wire format, both ways

What each reader accepts is said by an equivalence: it returns a value exactly if the value is one
the format has room for and the value's bytes stand in the buffer at the offset.

- `decode_eq_ok_iff`: **the decoder returns a frame exactly if the frame is well formed and its
  bytes, reserved bits apart, are what the buffer begins with.** Both round trips are read off this,
  for every combination of sections.
-/

namespace AxiomCore

open Lib Encoder TrustLevel List

/-! ## Well-formed frames -/

/-- The authentication is of the kind the trust level prescribes. Source:
`axiom-types/src/trust.rs`, `TrustLevel`. -/
def TrustLevel.prescribes : TrustLevel → Authentication → Bool
  | .full, .signature _ => true
  | .sig, .signature _ => true
  | .compress, .token _ => true
  | .raw, .none => true
  | _, _ => false

structure FrameHeader.WellFormed (header : FrameHeader) : Prop where
  version : header.version = protocolVersion
  /-- The clock's second has 40 bits. -/
  clock : header.clock.physical.toNat < 2 ^ 40
  /-- A reserved frame type is none of the named ones, and has 5 bits. -/
  frameType : header.frameType.Encodable

structure PayloadHeader.WellFormed (payloadHeader : PayloadHeader) : Prop where
  /-- A reserved payload type is none of the named ones, and has 4 bits. -/
  payloadType : payloadHeader.payloadType.Encodable
  length : payloadHeader.length.toNat ≤ maxPayloadSize
  flags : payloadHeader.flags.toNat < 16

/-- A frame that fits the wire format. -/
structure Frame.WellFormed (frame : Frame) : Prop where
  header : frame.header.WellFormed
  payloadHeader : frame.payloadHeader.WellFormed
  length : frame.payloadHeader.length.toNat = frame.payload.length
  /-- Fragments, and only they, have a place among the fragments. -/
  fragmented : frame.header.flags.fragmented = frame.fragmentInfo.isSome
  /-- The authentication is of the prescribed kind. -/
  auth : frame.header.trustLevel.prescribes frame.auth

/-! ## The packed bytes of the header -/

section PackedBytes

variable {header : FrameHeader}

lemma toNat_byte0_packed (header : FrameHeader) :
    (byte0 header).toNat = 128 + header.version.toNat % 16 * 4 +
      header.frameType.toU8.toNat / 8 % 4 := by
  have htype : ((header.frameType.toU8 >>> 3) &&& 0x03).toNat =
      header.frameType.toU8.toNat / 8 % 4 := by
    rw [toNat_and_mask 2 rfl, toNat_shiftRight 3 rfl (by norm_num)]
    norm_num
  have hversion : (header.version &&& 0x0F).toNat = header.version.toNat % 16 :=
    toNat_and_mask 4 rfl _
  have hversionUp : ((header.version &&& 0x0F) <<< 2).toNat = header.version.toNat % 16 * 4 := by
    rw [toNat_shiftLeft 2 rfl (by norm_num) (by omega), hversion]
    norm_num
  have hmagic : (magic <<< 6).toNat = 128 := rfl
  have hhigh : ((magic <<< 6) ||| ((header.version &&& 0x0F) <<< 2)).toNat =
      128 + header.version.toNat % 16 * 4 := by
    rw [toNat_or_below 6 (by rw [hmagic]; norm_num) (by omega), hmagic, hversionUp]
  rw [byte0, toNat_or_below 2 (by omega) (by omega), hhigh, htype]

lemma toNat_byte0 (h : header.version = protocolVersion) :
    (byte0 header).toNat = 132 + header.frameType.toU8.toNat / 8 % 4 := by
  rw [toNat_byte0_packed, h]
  rfl

lemma toNat_byte1 (header : FrameHeader) :
    (byte1 header).toNat = header.frameType.toU8.toNat % 8 * 32 + header.flags.toU8.toNat * 4 +
      header.trustLevel.toU8.toNat := by
  have hflags := header.flags.toU8_lt
  have htrust := header.trustLevel.toU8_lt
  have htype : (header.frameType.toU8 &&& 0x07).toNat = header.frameType.toU8.toNat % 8 :=
    toNat_and_mask 3 rfl _
  have hflags' : (header.flags.toU8 &&& 0x07).toNat = header.flags.toU8.toNat := by
    rw [toNat_and_mask 3 rfl]
    omega
  have htrust' : (header.trustLevel.toU8 &&& 0x03).toNat = header.trustLevel.toU8.toNat := by
    rw [toNat_and_mask 2 rfl]
    omega
  have htypeUp : ((header.frameType.toU8 &&& 0x07) <<< 5).toNat =
      header.frameType.toU8.toNat % 8 * 32 := by
    rw [toNat_shiftLeft 5 rfl (by norm_num) (by omega), htype]
    norm_num
  have hflagsUp : ((header.flags.toU8 &&& 0x07) <<< 2).toNat = header.flags.toU8.toNat * 4 := by
    rw [toNat_shiftLeft 2 rfl (by norm_num) (by omega), hflags']
    norm_num
  have hhigh : (((header.frameType.toU8 &&& 0x07) <<< 5) |||
      ((header.flags.toU8 &&& 0x07) <<< 2)).toNat =
        header.frameType.toU8.toNat % 8 * 32 + header.flags.toU8.toNat * 4 := by
    rw [toNat_or_below 5 (by omega) (by omega), htypeUp, hflagsUp]
  rw [byte1, toNat_or_below 2 (by omega) (by omega), hhigh, htrust']

lemma toNat_byte2 {hasTraceId hasRouting : Bool} :
    (byte2 header hasTraceId hasRouting).toNat =
      header.priority.toU8.toNat * 64 + hasTraceId.toNat * 32 + hasRouting.toNat * 16 := by
  unfold byte2
  cases header.priority <;> cases hasTraceId <;> cases hasRouting <;> rfl

lemma toNat_frameTypeRaw (b0 b1 : UInt8) :
    (((b0 &&& 0x03) <<< 3) ||| ((b1 >>> 5) &&& 0x07)).toNat =
      b0.toNat % 4 * 8 + b1.toNat / 32 := by
  have hb1 := b1.toNat_lt
  have hhigh : (b0 &&& 0x03).toNat = b0.toNat % 4 := toNat_and_mask 2 rfl _
  have hhighUp : ((b0 &&& 0x03) <<< 3).toNat = b0.toNat % 4 * 8 := by
    rw [toNat_shiftLeft 3 rfl (by norm_num) (by omega), hhigh]
    norm_num
  have hlow : ((b1 >>> 5) &&& 0x07).toNat = b1.toNat / 32 := by
    rw [toNat_and_mask 3 rfl, toNat_shiftRight 5 rfl (by norm_num)]
    omega
  rw [toNat_or_below 3 (by omega) (by omega), hhighUp, hlow]

/-- A byte without its four low bits. -/
def clearLow (b : UInt8) : UInt8 := (b >>> 4) <<< 4

lemma toNat_clearLow (b : UInt8) : (clearLow b).toNat = b.toNat / 16 * 16 := by
  have hb := b.toNat_lt
  have hshift : (b >>> 4).toNat = b.toNat / 16 := toNat_shiftRight 4 rfl (by norm_num) b
  rw [clearLow, toNat_shiftLeft 4 rfl (by norm_num) (by omega), hshift]
  norm_num

/-- What the packed bytes are read as. Source: `axiom-codec/src/decoder.rs`,
`Decoder::decode_fixed_header`. -/
structure Unpacks (b0 b1 b2 : UInt8) (header : FrameHeader) (hasTraceId hasRouting : Bool) :
    Prop where
  magic : b0 >>> 6 = magic
  known : (b0 >>> 2) &&& 0x0F = protocolVersion
  version : header.version = (b0 >>> 2) &&& 0x0F
  frameType : header.frameType = .fromU8 (((b0 &&& 0x03) <<< 3) ||| ((b1 >>> 5) &&& 0x07))
  flags : header.flags = .fromU8 ((b1 >>> 2) &&& 0x07)
  trustLevel : header.trustLevel = .fromU8 (b1 &&& 0x03)
  priority : header.priority = .fromU8 (b2 >>> 6)
  hasTraceId : hasTraceId = decide (b2 &&& 0x20 ≠ 0)
  hasRouting : hasRouting = decide (b2 &&& 0x10 ≠ 0)

section Unpacks

variable {hasTraceId hasRouting : Bool} {b0 b1 b2 : UInt8}

lemma toNat_version (b0 : UInt8) : ((b0 >>> 2) &&& 0x0F).toNat = b0.toNat / 4 % 16 := by
  rw [toNat_and_mask 4 rfl, toNat_shiftRight 2 rfl (by norm_num)]
  norm_num

lemma toNat_flags (b1 : UInt8) : ((b1 >>> 2) &&& 0x07).toNat = b1.toNat / 4 % 8 := by
  rw [toNat_and_mask 3 rfl, toNat_shiftRight 2 rfl (by norm_num)]
  norm_num

lemma toNat_topTwo (b : UInt8) : (b >>> 6).toNat = b.toNat / 64 :=
  toNat_shiftRight 6 rfl (by norm_num) b

lemma unpacks_of_packed (hversion : header.version = protocolVersion)
    (htype : header.frameType.Encodable) (h0 : byte0 header = b0) (h1 : byte1 header = b1)
    (h2 : byte2 header hasTraceId hasRouting = clearLow b2) :
    Unpacks b0 b1 b2 header hasTraceId hasRouting := by
  have hb0 := toNat_byte0 hversion
  have hb1 := toNat_byte1 header
  have hb2 := congrArg UInt8.toNat h2
  rw [h0] at hb0
  rw [h1] at hb1
  rw [toNat_byte2, toNat_clearLow] at hb2
  have htypeLt := FrameType.toU8_lt htype
  have hflagsLt := header.flags.toU8_lt
  have htrustLt := header.trustLevel.toU8_lt
  have htraceLt := Bool.toNat_le hasTraceId
  have hroutingLt := Bool.toNat_le hasRouting
  have hknown : (b0 >>> 2) &&& 0x0F = protocolVersion := by
    apply UInt8.toNat_inj.mp
    rw [toNat_version, show protocolVersion.toNat = 1 from rfl]
    omega
  have hraw : (((b0 &&& 0x03) <<< 3) ||| ((b1 >>> 5) &&& 0x07)) = header.frameType.toU8 := by
    apply UInt8.toNat_inj.mp
    rw [toNat_frameTypeRaw]
    omega
  have hflags : (b1 >>> 2) &&& 0x07 = header.flags.toU8 := by
    apply UInt8.toNat_inj.mp
    rw [toNat_flags]
    omega
  have htrust : b1 &&& 0x03 = header.trustLevel.toU8 := by
    apply UInt8.toNat_inj.mp
    rw [toNat_and_mask 2 rfl]
    omega
  have hpriority : b2 >>> 6 = header.priority.toU8 := by
    apply UInt8.toNat_inj.mp
    rw [toNat_topTwo]
    omega
  refine ⟨?_, hknown, ?_, ?_, ?_, ?_, ?_, ?_, ?_⟩
  · apply UInt8.toNat_inj.mp
    rw [toNat_topTwo, show magic.toNat = 2 from rfl]
    omega
  · rw [hversion, hknown]
  · rw [hraw, FrameType.fromU8_toU8 htype]
  · rw [hflags, FrameFlags.fromU8_toU8]
  · rw [htrust, TrustLevel.fromU8_toU8]
  · rw [hpriority, Priority.fromU8_toU8]
  · rw [Bool.eq_iff_iff, decide_eq_true_iff, and_bit_ne_zero_iff 5 rfl, ← Bool.toNat_eq_one]
    omega
  · rw [Bool.eq_iff_iff, decide_eq_true_iff, and_bit_ne_zero_iff 4 rfl, ← Bool.toNat_eq_one]
    omega

namespace Unpacks

variable (h : Unpacks b0 b1 b2 header hasTraceId hasRouting)

include h

lemma version_eq : header.version = protocolVersion := h.version.trans h.known

lemma encodable : header.frameType.Encodable := by
  have hb1 := b1.toNat_lt
  rw [h.frameType]
  apply FrameType.encodable_fromU8
  rw [toNat_frameTypeRaw]
  omega

lemma byte0_eq : byte0 header = b0 := by
  have hb1 := b1.toNat_lt
  have hmagic : b0.toNat / 64 = 2 := by
    rw [← toNat_topTwo, h.magic]
    rfl
  have hknown : b0.toNat / 4 % 16 = 1 := by
    rw [← toNat_version, h.known]
    rfl
  apply UInt8.toNat_inj.mp
  rw [toNat_byte0 h.version_eq, h.frameType, FrameType.toU8_fromU8, toNat_frameTypeRaw]
  omega

lemma byte1_eq : byte1 header = b1 := by
  have hb1 := b1.toNat_lt
  apply UInt8.toNat_inj.mp
  rw [toNat_byte1, h.frameType, FrameType.toU8_fromU8, toNat_frameTypeRaw, h.flags,
    FrameFlags.toNat_toU8_fromU8, toNat_flags, h.trustLevel, TrustLevel.toNat_toU8_fromU8,
    toNat_and_mask 2 rfl]
  omega

lemma byte2_eq : byte2 header hasTraceId hasRouting = clearLow b2 := by
  have hb2 := b2.toNat_lt
  apply UInt8.toNat_inj.mp
  rw [toNat_byte2, toNat_clearLow, h.priority, Priority.toNat_toU8_fromU8, toNat_topTwo,
    h.hasTraceId, h.hasRouting]
  simp only [and_bit_ne_zero_iff (m := 0x20) 5 rfl, and_bit_ne_zero_iff (m := 0x10) 4 rfl,
    Bool.toNat, Bool.cond_decide]
  split_ifs <;> omega

end Unpacks

end Unpacks

end PackedBytes

/-! ## The fixed header -/

def clearReserved : List UInt8 → List UInt8
  | b0 :: b1 :: b2 :: rest => b0 :: b1 :: clearLow b2 :: rest
  | buffer => buffer

namespace Decoder

lemma exists_fixedHeader {buffer : List UInt8} (h : buffer.length = 58) :
    ∃ b0 b1 b2, ∃ clock intent sender : List UInt8, clock.length = 7 ∧ intent.length = 16 ∧
      sender.length = 32 ∧ buffer = b0 :: b1 :: b2 :: (clock ++ (intent ++ sender)) := by
  match buffer, h with
  | b0 :: b1 :: b2 :: rest, h =>
    simp only [length_cons] at h
    refine ⟨b0, b1, b2, rest.take 7, (rest.drop 7).take 16, rest.drop 23, ?_, ?_, ?_, ?_⟩
    · rw [length_take]
      omega
    · rw [length_take, length_drop]
      omega
    · rw [length_drop]
      omega
    · rw [show rest.drop 23 = (rest.drop 7).drop 16 by rw [drop_drop],
        take_append_drop, take_append_drop]

section FixedHeader

variable {b0 b1 b2 : UInt8} {clock intent sender : List UInt8} {header : FrameHeader}
  {hasTraceId hasRouting : Bool}

lemma decodeFixedHeader_cons (hclock : clock.length = 7) (hintent : intent.length = 16)
    (hsender : sender.length = 32) :
    decodeFixedHeader (b0 :: b1 :: b2 :: (clock ++ (intent ++ sender))) =
      if b0 >>> 6 ≠ magic then .error (.error .invalidMagic)
      else if (b0 >>> 2) &&& 0x0F ≠ protocolVersion then
        .error (.error (.unsupportedVersion ((b0 >>> 2) &&& 0x0F)))
      else .ok ({ version := (b0 >>> 2) &&& 0x0F
                  frameType := .fromU8 (((b0 &&& 0x03) <<< 3) ||| ((b1 >>> 5) &&& 0x07))
                  flags := .fromU8 ((b1 >>> 2) &&& 0x07)
                  trustLevel := .fromU8 (b1 &&& 0x03)
                  priority := .fromU8 (b2 >>> 6)
                  clock := .fromBytes clock
                  intentHash := ⟨takeVec 16 intent⟩
                  senderId := ⟨takeVec 32 sender⟩ },
        decide (b2 &&& 0x20 ≠ 0), decide (b2 &&& 0x10 ≠ 0)) := by
  have hlength : (b0 :: b1 :: b2 :: (clock ++ (intent ++ sender))).length = 58 := by
    simp [hclock, hintent, hsender]
  have hclockSlice : (slice (b0 :: b1 :: b2 :: (clock ++ (intent ++ sender))) 3 10 :
      Checked CodecError _) = .ok clock := by
    rw [slice_of_le (by norm_num) (by omega)]
    exact congrArg Except.ok (take_left' hclock)
  have hintentSlice : (slice (b0 :: b1 :: b2 :: (clock ++ (intent ++ sender))) 10 26 :
      Checked CodecError _) = .ok intent := by
    rw [slice_of_le (by norm_num) (by omega)]
    show Except.ok (((clock ++ (intent ++ sender)).drop 7).take 16) = _
    rw [drop_left' hclock, take_left' hintent]
  have hsenderSlice : (slice (b0 :: b1 :: b2 :: (clock ++ (intent ++ sender))) 26 58 :
      Checked CodecError _) = .ok sender := by
    rw [slice_of_le (by norm_num) (by omega)]
    show Except.ok (((clock ++ (intent ++ sender)).drop (7 + 16)).take 32) = _
    rw [← drop_drop, drop_left' hclock, drop_left' hintent,
      take_of_length_le (by omega)]
  unfold decodeFixedHeader
  rw [elementAt_of_lt (by omega), elementAt_of_lt (by omega), elementAt_of_lt (by omega),
    hclockSlice, hintentSlice, hsenderSlice]
  rfl

lemma decodeFixedHeader_eq_ok_iff {buffer : List UInt8} (h : buffer.length = 58) :
    decodeFixedHeader buffer = .ok (header, hasTraceId, hasRouting) ↔
      header.WellFormed ∧
        fixedHeaderBytes header hasTraceId hasRouting = clearReserved buffer := by
  obtain ⟨b0, b1, b2, clock, intent, sender, hclock, hintent, hsender, rfl⟩ :=
    exists_fixedHeader h
  rw [decodeFixedHeader_cons hclock hintent hsender]
  constructor
  · intro hok
    split_ifs at hok with hmagic hknown
    obtain ⟨hheader, hpresent⟩ := Prod.mk.inj (Except.ok.inj hok)
    obtain ⟨htrace, hrouting⟩ := Prod.mk.inj hpresent
    have hunpacks : Unpacks b0 b1 b2 header hasTraceId hasRouting := by
      rw [← hheader, ← htrace, ← hrouting]
      exact ⟨not_not.mp hmagic, not_not.mp hknown, rfl, rfl, rfl, rfl, rfl, rfl, rfl⟩
    obtain ⟨hclockFits, hclockBytes⟩ :=
      (HybridClock.fromBytes_eq_iff hclock).mp (congrArg FrameHeader.clock hheader)
    have hintentBytes : header.intentHash.bytes.toList = intent := by
      rw [← hheader, toList_takeVec hintent]
    have hsenderBytes : header.senderId.bytes.toList = sender := by
      rw [← hheader, toList_takeVec hsender]
    refine ⟨⟨hunpacks.version_eq, hclockFits, hunpacks.encodable⟩, ?_⟩
    rw [fixedHeaderBytes, hunpacks.byte0_eq, hunpacks.byte1_eq, hunpacks.byte2_eq, hclockBytes,
      hintentBytes, hsenderBytes]
    rfl
  · rintro ⟨hwf, hbytes⟩
    simp only [fixedHeaderBytes, clearReserved, cons_append, nil_append,
      List.cons.injEq] at hbytes
    obtain ⟨h0, h1, h2, hrest⟩ := hbytes
    obtain ⟨hclockBytes, hrest⟩ := append_inj hrest (by simp [hclock])
    obtain ⟨hintentBytes, hsenderBytes⟩ := append_inj hrest (by simp [hintent])
    have hunpacks := unpacks_of_packed hwf.version hwf.frameType h0 h1 h2
    rw [if_neg (not_not_intro hunpacks.magic), if_neg (not_not_intro hunpacks.known),
      (HybridClock.fromBytes_eq_iff hclock).mpr ⟨hwf.clock, hclockBytes⟩,
      (takeVec_eq_iff hintent).mpr hintentBytes, (takeVec_eq_iff hsender).mpr hsenderBytes,
      ← hunpacks.version, ← hunpacks.frameType, ← hunpacks.flags, ← hunpacks.trustLevel,
      ← hunpacks.priority, ← hunpacks.hasTraceId, ← hunpacks.hasRouting]

end FixedHeader

/-! ## The optional sections -/

section Sections

variable {buffer : List UInt8} {offset offset' : Nat}

lemma decodeTraceId_true (h : offset + 8 ≤ buffer.length) :
    decodeTraceId true buffer offset =
      .ok (some ⟨takeVec 8 ((buffer.drop offset).take 8)⟩, offset + 8) := by
  rw [decodeTraceId, if_pos rfl, if_neg (by omega), slice_add h]
  rfl

lemma decodeTraceId_eq_ok_iff {hasTraceId : Bool} {traceId : Option TraceId} :
    decodeTraceId hasTraceId buffer offset = .ok (traceId, offset') ↔
      traceId.isSome = hasTraceId ∧ traceIdBytes traceId <+: buffer.drop offset ∧
        offset' = offset + (traceIdBytes traceId).length := by
  cases hasTraceId with
  | false => cases traceId <;> simp [decodeTraceId, traceIdBytes, eq_comm]
  | true =>
    by_cases hshort : buffer.length < offset + 8
    · -- a trace id would reach past the end
      simp only [decodeTraceId, if_pos hshort, if_true, reduceCtorEq, false_iff]
      rintro ⟨hsome, hbytes, -⟩
      obtain ⟨traceId, rfl⟩ := Option.isSome_iff_exists.mp hsome
      have hlength := hbytes.length_le
      simp only [traceIdBytes, Vector.length_toList, length_drop] at hlength
      omega
    · rw [decodeTraceId_true (by omega)]
      cases traceId with
      | none => simp
      | some traceId =>
        have hread : takeVec 8 ((buffer.drop offset).take 8) = traceId.bytes ↔
            traceId.bytes.toList <+: buffer.drop offset :=
          takeVec_take_eq_iff (by rw [length_drop]; omega)
        rcases traceId with ⟨bytes⟩
        simp [traceIdBytes, hread, @eq_comm _ offset']

lemma decodeRouting_true (h : offset + 32 < buffer.length) :
    decodeRouting true buffer offset =
      .ok (some ⟨⟨takeVec 32 ((buffer.drop offset).take 32)⟩, buffer[offset + 32]⟩,
        offset + 32 + 1) := by
  rw [decodeRouting, if_pos rfl, if_neg (by omega), slice_add (by omega), elementAt_of_lt h]
  rfl

lemma decodeRouting_eq_ok_iff {hasRouting : Bool} {routing : Option RoutingExt} :
    decodeRouting hasRouting buffer offset = .ok (routing, offset') ↔
      routing.isSome = hasRouting ∧ routingBytes routing <+: buffer.drop offset ∧
        offset' = offset + (routingBytes routing).length := by
  cases hasRouting with
  | false => cases routing <;> simp [decodeRouting, routingBytes, eq_comm]
  | true =>
    by_cases hshort : buffer.length < offset + 32 + 1
    · -- a routing extension would reach past the end
      simp only [decodeRouting, if_pos hshort, if_true, reduceCtorEq, false_iff]
      rintro ⟨hsome, hbytes, -⟩
      obtain ⟨routing, rfl⟩ := Option.isSome_iff_exists.mp hsome
      have hlength := hbytes.length_le
      simp only [routingBytes, length_append, Vector.length_toList, length_singleton,
        length_drop] at hlength
      omega
    · rw [decodeRouting_true (by omega)]
      cases routing with
      | none => simp
      | some routing =>
        have hread : takeVec 32 ((buffer.drop offset).take 32) = routing.destination.bytes ↔
            routing.destination.bytes.toList <+: buffer.drop offset :=
          takeVec_take_eq_iff (by rw [length_drop]; omega)
        have httl : [routing.ttl] <+: buffer.drop (offset + 32) ↔
            buffer[offset + 32] = routing.ttl := singleton_prefix_drop_iff (by omega)
        rcases routing with ⟨⟨bytes⟩, ttl⟩
        simp [routingBytes, append_prefix_drop, hread, httl, @eq_comm _ offset', and_assoc]

lemma decodeFragmentInfo_true (h : offset + 4 ≤ buffer.length) :
    decodeFragmentInfo true buffer offset =
      .ok (some ⟨UInt16.ofNat (beNat ((buffer.drop offset).take 2)),
        UInt16.ofNat (beNat ((buffer.drop (offset + 2)).take 2))⟩, offset + 4) := by
  rw [decodeFragmentInfo, if_pos rfl, if_neg (by omega), slice_add (by omega),
    slice_of_le (by omega) h, Nat.add_sub_add_left]
  rfl

lemma ofNat_beNat_eq_iff {bs : List UInt8} (h : 2 ≤ bs.length) {n : UInt16} :
    UInt16.ofNat (beNat (bs.take 2)) = n ↔ beBytes 2 n.toNat <+: bs := by
  have hlength : (bs.take 2).length = 2 := by simp [h]
  have hlt := beNat_lt (bs.take 2)
  rw [hlength] at hlt
  rw [← UInt16.toNat_inj, UInt16.toNat_ofNat', Nat.mod_eq_of_lt (by omega),
    beNat_eq_iff hlength n.toNat_lt, prefix_iff_eq_take, length_beBytes]

lemma decodeFragmentInfo_eq_ok_iff {isFragmented : Bool} {fragmentInfo : Option FragmentInfo} :
    decodeFragmentInfo isFragmented buffer offset = .ok (fragmentInfo, offset') ↔
      fragmentInfo.isSome = isFragmented ∧ fragmentInfoBytes fragmentInfo <+: buffer.drop offset ∧
        offset' = offset + (fragmentInfoBytes fragmentInfo).length := by
  cases isFragmented with
  | false => cases fragmentInfo <;> simp [decodeFragmentInfo, fragmentInfoBytes, eq_comm]
  | true =>
    by_cases hshort : buffer.length < offset + 4
    · -- the two numbers would reach past the end
      simp only [decodeFragmentInfo, if_pos hshort, if_true, reduceCtorEq, false_iff]
      rintro ⟨hsome, hbytes, -⟩
      obtain ⟨frag, rfl⟩ := Option.isSome_iff_exists.mp hsome
      have hlength := hbytes.length_le
      simp only [fragmentInfoBytes, length_append, length_beBytes,
        length_drop] at hlength
      omega
    · rw [decodeFragmentInfo_true (by omega)]
      cases fragmentInfo with
      | none => simp
      | some frag =>
        rcases frag with ⟨sequence, total⟩
        have hsequence : 2 ≤ (buffer.drop offset).length := by rw [length_drop]; omega
        have htotal : 2 ≤ (buffer.drop (offset + 2)).length := by
          rw [length_drop]
          omega
        simp [fragmentInfoBytes, append_prefix_drop, ofNat_beNat_eq_iff hsequence,
          ofNat_beNat_eq_iff htotal, @eq_comm _ offset']

end Sections

/-! ## The payload header -/

section PayloadHeader

variable {payloadType : PayloadType} {length : UInt32} {flags : UInt8}

/-- The length in the packed bytes. Source: `axiom-codec/src/decoder.rs`,
`Decoder::decode_payload_header`. -/
def unpackedLength (a b c d : UInt8) : UInt32 :=
  ((a.toUInt32 &&& 0x0F) <<< 20) ||| (b.toUInt32 <<< 12) ||| (c.toUInt32 <<< 4) |||
    (d.toUInt32 >>> 4)

lemma toNat_unpackedLength (a b c d : UInt8) :
    (unpackedLength a b c d).toNat =
      a.toNat % 16 * 2 ^ 20 + b.toNat * 2 ^ 12 + c.toNat * 2 ^ 4 + d.toNat / 16 := by
  have hb := b.toNat_lt
  have hc := c.toNat_lt
  have hd := d.toNat_lt
  have hhigh : (a.toUInt32 &&& 0x0F).toNat = a.toNat % 16 := by
    rw [toNat_and_mask32 4 rfl, UInt8.toNat_toUInt32]
    norm_num
  have ha' : ((a.toUInt32 &&& 0x0F) <<< 20).toNat = a.toNat % 16 * 2 ^ 20 := by
    rw [toNat_shiftLeft32 20 rfl (by norm_num) (by omega), hhigh]
  have hb' : (b.toUInt32 <<< 12).toNat = b.toNat * 2 ^ 12 := by
    rw [toNat_shiftLeft32 12 rfl (by norm_num)] <;> rw [UInt8.toNat_toUInt32]
    omega
  have hc' : (c.toUInt32 <<< 4).toNat = c.toNat * 2 ^ 4 := by
    rw [toNat_shiftLeft32 4 rfl (by norm_num)] <;> rw [UInt8.toNat_toUInt32]
    omega
  have hd' : (d.toUInt32 >>> 4).toNat = d.toNat / 16 := by
    rw [toNat_shiftRight32 4 rfl (by norm_num), UInt8.toNat_toUInt32]
    norm_num
  have hab : (((a.toUInt32 &&& 0x0F) <<< 20) ||| (b.toUInt32 <<< 12)).toNat =
      a.toNat % 16 * 2 ^ 20 + b.toNat * 2 ^ 12 := by
    rw [toNat_or_below32 20 (by omega) (by omega), ha', hb']
  have habc : (((a.toUInt32 &&& 0x0F) <<< 20) ||| (b.toUInt32 <<< 12) |||
      (c.toUInt32 <<< 4)).toNat =
        a.toNat % 16 * 2 ^ 20 + b.toNat * 2 ^ 12 + c.toNat * 2 ^ 4 := by
    rw [toNat_or_below32 12 (by omega) (by omega), hab, hc']
  rw [unpackedLength, toNat_or_below32 4 (by omega) (by omega), habc, hd']

lemma decodePayloadHeader_cons (a b c d : UInt8) :
    decodePayloadHeader [a, b, c, d] =
      .ok ⟨.fromU8 (a >>> 4), unpackedLength a b c d, d &&& 0x0F⟩ :=
  rfl

lemma toNat_payloadHeaderBytes (hlength : length.toNat < 2 ^ 24) :
    (payloadHeaderBytes payloadType length flags).map UInt8.toNat =
      [payloadType.toU8.toNat % 16 * 16 + length.toNat / 2 ^ 20, length.toNat / 2 ^ 12 % 256,
        length.toNat / 2 ^ 4 % 256, length.toNat % 16 * 16 + flags.toNat % 16] := by
  have htypeLow : (payloadType.toU8 &&& 0x0F).toNat = payloadType.toU8.toNat % 16 :=
    toNat_and_mask 4 rfl _
  have htypeUp : ((payloadType.toU8 &&& 0x0F) <<< 4).toNat =
      payloadType.toU8.toNat % 16 * 16 := by
    rw [toNat_shiftLeft 4 rfl (by norm_num) (by omega), htypeLow]
    norm_num
  have hlengthHigh : ((length >>> 20).toUInt8 &&& 0x0F).toNat = length.toNat / 2 ^ 20 := by
    rw [toNat_and_mask 4 rfl, UInt32.toNat_toUInt8, toNat_shiftRight32 20 rfl (by norm_num)]
    omega
  have ha : (((payloadType.toU8 &&& 0x0F) <<< 4) ||| ((length >>> 20).toUInt8 &&& 0x0F)).toNat =
      payloadType.toU8.toNat % 16 * 16 + length.toNat / 2 ^ 20 := by
    rw [toNat_or_below 4 (by omega) (by omega), htypeUp, hlengthHigh]
  have hb : ((length >>> 12) &&& 0xFF).toUInt8.toNat = length.toNat / 2 ^ 12 % 256 := by
    rw [UInt32.toNat_toUInt8, toNat_and_mask32 8 rfl, toNat_shiftRight32 12 rfl (by norm_num)]
    omega
  have hc : ((length >>> 4) &&& 0xFF).toUInt8.toNat = length.toNat / 2 ^ 4 % 256 := by
    rw [UInt32.toNat_toUInt8, toNat_and_mask32 8 rfl, toNat_shiftRight32 4 rfl (by norm_num)]
    omega
  have hlow : (length &&& 0x0F).toNat = length.toNat % 16 := toNat_and_mask32 4 rfl length
  have hlowUp : ((length &&& 0x0F) <<< 4).toNat = length.toNat % 16 * 16 := by
    rw [toNat_shiftLeft32 4 rfl (by norm_num) (by omega), hlow]
    norm_num
  have hflagsLow : (flags.toUInt32 &&& 0x0F).toNat = flags.toNat % 16 := by
    rw [toNat_and_mask32 4 rfl, UInt8.toNat_toUInt32]
    norm_num
  have hd : (((length &&& 0x0F) <<< 4) ||| (flags.toUInt32 &&& 0x0F)).toUInt8.toNat =
      length.toNat % 16 * 16 + flags.toNat % 16 := by
    rw [UInt32.toNat_toUInt8, toNat_or_below32 4 (by omega) (by omega), hlowUp, hflagsLow]
    omega
  simp only [payloadHeaderBytes, map_cons, map_nil, ha, hb, hc, hd]

lemma payloadHeaderBytes_eq_iff (htype : payloadType.toU8.toNat < 16)
    (hlength : length.toNat < 2 ^ 24) (hflags : flags.toNat < 16) {a b c d : UInt8} :
    payloadHeaderBytes payloadType length flags = [a, b, c, d] ↔
      a.toNat = payloadType.toU8.toNat * 16 + length.toNat / 2 ^ 20 ∧
        b.toNat = length.toNat / 2 ^ 12 % 256 ∧ c.toNat = length.toNat / 2 ^ 4 % 256 ∧
        d.toNat = length.toNat % 16 * 16 + flags.toNat := by
  have hinjective : Function.Injective (map UInt8.toNat) :=
    map_injective_iff.mpr fun _ _ => UInt8.toNat_inj.mp
  rw [← hinjective.eq_iff, toNat_payloadHeaderBytes hlength, Nat.mod_eq_of_lt htype,
    Nat.mod_eq_of_lt hflags]
  simp only [map_cons, map_nil, List.cons.injEq, and_true, eq_comm]

lemma decodePayloadHeader_eq_ok_iff {buffer : List UInt8} (h : buffer.length = 4)
    {payloadHeader : PayloadHeader} :
    decodePayloadHeader buffer = .ok payloadHeader ↔
      payloadHeader.WellFormed ∧
        payloadHeaderBytes payloadHeader.payloadType payloadHeader.length payloadHeader.flags =
          buffer := by
  obtain ⟨a, b, c, d, rfl⟩ : ∃ a b c d, buffer = [a, b, c, d] := by
    match buffer, h with
    | [a, b, c, d], _ => exact ⟨a, b, c, d, rfl⟩
  have ha := a.toNat_lt
  have hb := b.toNat_lt
  have hc := c.toNat_lt
  have hd := d.toNat_lt
  have htype : (a >>> 4).toNat = a.toNat / 16 := toNat_shiftRight 4 rfl (by norm_num) a
  have hflags : (d &&& 0x0F).toNat = d.toNat % 16 := toNat_and_mask 4 rfl d
  have hlength := toNat_unpackedLength a b c d
  rw [decodePayloadHeader_cons]
  constructor
  · intro hok
    have hheader := Except.ok.inj hok
    subst hheader
    have htypeOut : (PayloadType.fromU8 (a >>> 4)).toU8.toNat = a.toNat / 16 := by
      rw [PayloadType.toU8_fromU8, PayloadType.toNat_and_nibble, htype]
      omega
    refine ⟨⟨PayloadType.encodable_fromU8 _, ?_, ?_⟩, ?_⟩
    · show (unpackedLength a b c d).toNat ≤ maxPayloadSize
      unfold maxPayloadSize
      omega
    · show (d &&& 0x0F).toNat < 16
      omega
    · rw [payloadHeaderBytes_eq_iff]
      all_goals simp only
      all_goals omega
  · rintro ⟨hwf, hbytes⟩
    have htypeLt := PayloadType.toU8_lt hwf.payloadType
    have hlengthLt : payloadHeader.length.toNat ≤ 0xFFFFFF := hwf.length
    rw [payloadHeaderBytes_eq_iff htypeLt (by omega) hwf.flags] at hbytes
    obtain ⟨ha', hb', hc', hd'⟩ := hbytes
    have hflagsLt := hwf.flags
    have htypeIn : a >>> 4 = payloadHeader.payloadType.toU8 := UInt8.toNat_inj.mp (by omega)
    have hlengthIn : unpackedLength a b c d = payloadHeader.length :=
      UInt32.toNat_inj.mp (by omega)
    have hflagsIn : d &&& 0x0F = payloadHeader.flags := UInt8.toNat_inj.mp (by omega)
    rw [htypeIn, PayloadType.fromU8_toU8 hwf.payloadType, hlengthIn, hflagsIn]

end PayloadHeader

/-! ## Payload and authentication -/

section Body

variable {trustLevel : TrustLevel} {buffer : List UInt8} {offset : Nat}
  {payloadHeader : PayloadHeader} {payload : List UInt8} {auth : Authentication}

lemma wireSize_of_prescribes (h : trustLevel.prescribes auth) :
    auth.wireSize = trustLevel.authOverhead := by
  cases trustLevel <;> cases auth <;> first | rfl | simp [prescribes] at h

lemma decodeAuth_eq_ok_iff (h : buffer.length = trustLevel.authOverhead) :
    decodeAuth trustLevel buffer = .ok auth ↔
      trustLevel.prescribes auth ∧ authBytes auth = buffer := by
  have hsignature (h : buffer.length = 64) : decodeAuth .full buffer = .ok auth ↔
      TrustLevel.full.prescribes auth ∧ authBytes auth = buffer := by
    have hslice : (slice buffer 0 64 : Checked CodecError _) = .ok buffer := by
      rw [slice_of_le (by norm_num) (by omega)]
      simp [← h]
    simp only [decodeAuth, if_neg (show ¬ buffer.length < 64 by omega), hslice]
    cases auth with
    | signature sig =>
      rcases sig with ⟨bytes⟩
      simp [prescribes, authBytes, takeVec_eq_iff h]
    | _ => simp [prescribes]
  cases trustLevel with
  | full => exact hsignature h
  | sig =>
    have hsame : sig.prescribes auth = TrustLevel.full.prescribes auth := by
      cases auth <;> rfl
    rw [hsame]
    exact hsignature h
  | compress =>
    have h16 : buffer.length = 16 := h
    have hslice : (slice buffer 0 16 : Checked CodecError _) = .ok buffer := by
      rw [slice_of_le (by norm_num) (by omega)]
      simp [← h16]
    simp only [decodeAuth, if_neg (show ¬ buffer.length < 16 by omega), hslice]
    cases auth with
    | token token =>
      rcases token with ⟨bytes⟩
      simp [prescribes, authBytes, takeVec_eq_iff h16]
    | _ => simp [prescribes]
  | raw =>
    have hnil : buffer = [] := length_eq_zero_iff.mp h
    cases auth <;> simp [decodeAuth, prescribes, authBytes, hnil]

lemma decodeBody_eq_ok_iff :
    decodeBody trustLevel buffer offset = .ok (payloadHeader, payload, auth) ↔
      payloadHeader.WellFormed ∧ payloadHeader.length.toNat = payload.length ∧
        trustLevel.prescribes auth ∧
        payloadHeaderBytes payloadHeader.payloadType payloadHeader.length payloadHeader.flags ++
          (payload ++ authBytes auth) <+: buffer.drop offset := by
  by_cases hshort : buffer.length < offset + 4
  · -- the header would reach past the end
    simp only [decodeBody, if_pos hshort, reduceCtorEq, false_iff]
    rintro ⟨-, -, -, hbytes⟩
    have hlength := hbytes.length_le
    simp only [length_append, length_payloadHeaderBytes, length_drop] at hlength
    omega
  have hheader : ((buffer.drop offset).take 4).length = 4 := by
    rw [length_take, length_drop]
    omega
  rw [decodeBody, if_neg hshort, slice_add (by omega), ok_bind, bind_eq_ok, append_prefix_drop,
    append_prefix_drop, length_payloadHeaderBytes]
  constructor
  · rintro ⟨payloadHeader', hdecode, hrest⟩
    obtain ⟨hwf, hheaderBytes⟩ := (decodePayloadHeader_eq_ok_iff hheader).mp hdecode
    simp only at hrest
    split_ifs at hrest with hlarge htruncated
    have hauthSlice : ((buffer.drop (offset + 4 + payloadHeader'.length.toNat)).take
        trustLevel.authOverhead).length = trustLevel.authOverhead := by
      rw [length_take, length_drop]
      omega
    rw [slice_add (by omega), ok_bind, slice_add (by omega), ok_bind] at hrest
    obtain ⟨auth', hauth, hok⟩ := bind_eq_ok.mp hrest
    obtain ⟨hprescribes, hauthBytes⟩ := (decodeAuth_eq_ok_iff hauthSlice).mp hauth
    obtain ⟨rfl, hpair⟩ := Prod.mk.inj (Except.ok.inj hok)
    cases hpair
    have hpayloadLength : ((buffer.drop (offset + 4)).take payloadHeader'.length.toNat).length =
        payloadHeader'.length.toNat := by
      rw [length_take, length_drop]
      omega
    refine ⟨hwf, hpayloadLength.symm, hprescribes, ?_, ?_, ?_⟩
    · rw [hheaderBytes]
      exact take_prefix ..
    · exact take_prefix ..
    · rw [hauthBytes, hpayloadLength]
      exact take_prefix ..
  · rintro ⟨hwf, hlength, hauth, hheaderBytes, hpayload, hauthBytes⟩
    have hauthSize := wireSize_of_prescribes hauth
    have hpayloadFits := hpayload.length_le
    have hauthFits := hauthBytes.length_le
    rw [length_drop] at hpayloadFits hauthFits
    rw [length_authBytes] at hauthFits
    have hsmall : payloadHeader.length.toNat ≤ maxPayloadSize := hwf.length
    have hauthSlice : ((buffer.drop (offset + 4 + payload.length)).take
        trustLevel.authOverhead).length = trustLevel.authOverhead := by
      rw [length_take, length_drop]
      omega
    refine ⟨payloadHeader, (decodePayloadHeader_eq_ok_iff hheader).mpr ⟨hwf, ?_⟩, ?_⟩
    · rw [prefix_iff_eq_take] at hheaderBytes
      exact hheaderBytes
    · simp only [hlength]
      rw [if_neg (by omega), if_neg (by omega), slice_add (by omega), ok_bind,
        slice_add (by omega), ok_bind]
      refine bind_eq_ok.mpr ⟨auth, (decodeAuth_eq_ok_iff hauthSlice).mpr ⟨hauth, ?_⟩, ?_⟩
      · rw [← hauthSize, ← length_authBytes]
        exact prefix_iff_eq_take.mp hauthBytes
      · rw [← prefix_iff_eq_take.mp hpayload]

end Body

end Decoder

/-! ## Frames -/

@[simp] lemma length_clearReserved (buffer : List UInt8) :
    (clearReserved buffer).length = buffer.length := by
  match buffer with
  | [] | [_] | [_, _] | _ :: _ :: _ :: _ => rfl

lemma clearReserved_append {head tail : List UInt8} (h : 3 ≤ head.length) :
    clearReserved (head ++ tail) = clearReserved head ++ tail := by
  match head, h with
  | _ :: _ :: _ :: _, _ => rfl

lemma wireBytes_prefix_iff {frame : Frame} {buffer : List UInt8} (h : 58 ≤ buffer.length) :
    frame.wireBytes <+: clearReserved buffer ↔
      fixedHeaderBytes frame.header frame.traceId.isSome frame.routing.isSome =
          clearReserved (buffer.take 58) ∧
        traceIdBytes frame.traceId ++ (routingBytes frame.routing ++
          (fragmentInfoBytes frame.fragmentInfo ++
            (payloadHeaderBytes frame.payloadHeader.payloadType
                (UInt32.ofNat frame.payload.length) frame.payloadHeader.flags ++
              (frame.payload ++ authBytes frame.auth)))) <+: buffer.drop 58 := by
  have htake : (buffer.take 58).length = 58 := by simp [h]
  have hsplit : clearReserved buffer = clearReserved (buffer.take 58) ++ buffer.drop 58 := by
    rw [← clearReserved_append (by omega), take_append_drop]
  have hhead : (clearReserved (buffer.take 58)).length = 58 := by
    rw [length_clearReserved, htake]
  rw [hsplit]
  simp only [Frame.wireBytes, Frame.bodyBytes, append_assoc]
  constructor
  · rintro ⟨rest, hrest⟩
    rw [append_assoc] at hrest
    obtain ⟨hheader, htail⟩ := append_inj hrest (by rw [length_fixedHeaderBytes, hhead])
    exact ⟨hheader, rest, htail⟩
  · rintro ⟨hheader, htail⟩
    rw [hheader]
    exact (prefix_append_right_inj _).mpr htail

namespace Decoder

lemma decode_eq_ok_iff {buffer : List UInt8} {frame : Frame} :
    decode buffer = .ok frame ↔ frame.WellFormed ∧ frame.wireBytes <+: clearReserved buffer := by
  by_cases hshort : buffer.length < 62
  · simp only [decode, if_pos hshort, reduceCtorEq, false_iff]
    rintro ⟨-, hbytes⟩
    have hlength := hbytes.length_le
    rw [length_wireBytes, length_clearReserved] at hlength
    simp only [Frame.wireSize] at hlength
    split_ifs at hlength <;> omega
  have hfixed : (buffer.take 58).length = 58 := by
    rw [length_take]
    omega
  have hslice : (slice buffer 0 58 : Checked CodecError _) = .ok (buffer.take 58) :=
    slice_of_le (Nat.zero_le 58) (by omega)
  rw [wireBytes_prefix_iff (by omega), append_prefix_drop, append_prefix_drop, append_prefix_drop,
    decode, if_neg hshort, hslice, ok_bind]
  constructor
  · intro hdecode
    obtain ⟨⟨header, hasTraceId, hasRouting⟩, hheader, hdecode⟩ := bind_eq_ok.mp hdecode
    obtain ⟨⟨traceId, offset₁⟩, htrace, hdecode⟩ := bind_eq_ok.mp hdecode
    obtain ⟨⟨routing, offset₂⟩, hrouting, hdecode⟩ := bind_eq_ok.mp hdecode
    obtain ⟨⟨fragmentInfo, offset₃⟩, hfragment, hdecode⟩ := bind_eq_ok.mp hdecode
    obtain ⟨⟨payloadHeader, payload, auth⟩, hbody, hdecode⟩ := bind_eq_ok.mp hdecode
    cases hdecode
    obtain ⟨hheaderWf, hheaderBytes⟩ := (decodeFixedHeader_eq_ok_iff hfixed).mp hheader
    obtain ⟨rfl, htraceBytes, rfl⟩ := decodeTraceId_eq_ok_iff.mp htrace
    obtain ⟨rfl, hroutingBytes, rfl⟩ := decodeRouting_eq_ok_iff.mp hrouting
    obtain ⟨hfragmented, hfragmentBytes, rfl⟩ := decodeFragmentInfo_eq_ok_iff.mp hfragment
    obtain ⟨hpayloadWf, hlength, hauth, hbodyBytes⟩ := decodeBody_eq_ok_iff.mp hbody
    refine ⟨⟨hheaderWf, hpayloadWf, hlength, hfragmented.symm, hauth⟩, hheaderBytes, htraceBytes,
      hroutingBytes, hfragmentBytes, ?_⟩
    have hofNat : UInt32.ofNat payload.length = payloadHeader.length := by
      rw [← hlength, UInt32.ofNat_toNat]
    simp only [hofNat]
    exact hbodyBytes
  · rintro ⟨hwf, hheaderBytes, htraceBytes, hroutingBytes, hfragmentBytes, hbodyBytes⟩
    have hofNat : UInt32.ofNat frame.payload.length = frame.payloadHeader.length := by
      rw [← hwf.length, UInt32.ofNat_toNat]
    rw [hofNat] at hbodyBytes
    refine bind_eq_ok.mpr ⟨(frame.header, frame.traceId.isSome, frame.routing.isSome),
      (decodeFixedHeader_eq_ok_iff hfixed).mpr ⟨hwf.header, hheaderBytes⟩, ?_⟩
    refine bind_eq_ok.mpr ⟨(frame.traceId, _),
      decodeTraceId_eq_ok_iff.mpr ⟨rfl, htraceBytes, rfl⟩, ?_⟩
    refine bind_eq_ok.mpr ⟨(frame.routing, _),
      decodeRouting_eq_ok_iff.mpr ⟨rfl, hroutingBytes, rfl⟩, ?_⟩
    refine bind_eq_ok.mpr ⟨(frame.fragmentInfo, _),
      decodeFragmentInfo_eq_ok_iff.mpr ⟨hwf.fragmented.symm, hfragmentBytes, rfl⟩, ?_⟩
    exact bind_eq_ok.mpr ⟨(frame.payloadHeader, frame.payload, frame.auth),
      decodeBody_eq_ok_iff.mpr ⟨hwf.payloadHeader, hwf.length, hwf.auth, hbodyBytes⟩, rfl⟩

end Decoder

end AxiomCore
