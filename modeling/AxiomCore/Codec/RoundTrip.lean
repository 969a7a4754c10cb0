import AxiomCore.Codec.Laws

/-!
# Round trips of the frame codec

From what the encoder writes (`encode_eq`) and what the decoder accepts (`decode_eq_ok_iff`).

- `decode_after_encode`: a well-formed frame is decoded as it was, whatever comes behind it.
- `decode_inBounds_canonical`: the decoder stays in bounds, and what it accepts is encoded to the
  bytes it read, but for reserved bits.
-/

namespace AxiomCore

open Lib Encoder Decoder AxiomCore.Frame List

/-! ## Encode, then decode -/

variable {frame : Frame} {buffer : List UInt8}

lemma Frame.WellFormed.payload_le (h : frame.WellFormed) :
    frame.payload.length ≤ maxPayloadSize := by
  rw [← h.length]
  exact h.payloadHeader.length

lemma clearReserved_wireBytes (frame : Frame) :
    clearReserved frame.wireBytes = frame.wireBytes := by
  have hclear : clearLow (byte2 frame.header frame.traceId.isSome frame.routing.isSome) =
      byte2 frame.header frame.traceId.isSome frame.routing.isSome := by
    apply UInt8.toNat_inj.mp
    rw [toNat_clearLow, toNat_byte2]
    omega
  simp only [wireBytes, bodyBytes, fixedHeaderBytes, append_assoc,
    cons_append, nil_append, clearReserved, hclear]

lemma decode_wireBytes (h : frame.WellFormed) (rest : List UInt8) :
    decode (frame.wireBytes ++ rest) = .ok frame := by
  have hlength : 3 ≤ frame.wireBytes.length := by
    simp only [wireBytes, bodyBytes, length_append, length_fixedHeaderBytes]
    omega
  refine decode_eq_ok_iff.mpr ⟨h, ?_⟩
  rw [clearReserved_append hlength, clearReserved_wireBytes]
  exact prefix_append ..

/-- **Encode, then decode.** A well-formed frame is written into any buffer that has room for it, in
exactly its wire size, and read back from these bytes, whatever follows them. -/
theorem decode_after_encode {frame : Frame} (hwf : frame.WellFormed) {buffer : List UInt8}
    (hroom : frame.wireSize ≤ buffer.length) :
    ∃ out, encode frame buffer = .ok (frame.wireSize, out) ∧ out.length = buffer.length ∧
      out.drop frame.wireSize = buffer.drop frame.wireSize ∧
      ∀ rest, decode (out.take frame.wireSize ++ rest) = .ok frame := by
  have hlength := length_wireBytes frame
  refine ⟨_, encode_of_le hroom hwf.payload_le, ?_, ?_, ?_⟩
  · rw [length_append, length_drop]
    omega
  · rw [← hlength, drop_left]
  · intro rest
    rw [← hlength, take_left]
    exact decode_wireBytes hwf rest

def routedFragment : Frame where
  header :=
    { FrameHeader.new (.reserved 0x1F) ⟨Vector.replicate 32 7⟩ with
      flags := ⟨false, true, true⟩
      trustLevel := .compress
      priority := .critical
      clock := ⟨2 ^ 40 - 1, 65535⟩ }
  traceId := some ⟨Vector.replicate 8 1⟩
  routing := some ⟨⟨Vector.replicate 32 9⟩, 8⟩
  fragmentInfo := some ⟨2, 515⟩
  payloadHeader := ⟨.reserved 0x0D, 3, 0x0F⟩
  payload := [1, 2, 3]
  auth := .token ⟨Vector.replicate 16 255⟩

lemma routedFragment_wellFormed : routedFragment.WellFormed :=
  ⟨⟨rfl, by decide, by decide⟩, ⟨by decide, by decide, by decide⟩, rfl, rfl, rfl⟩

theorem decode_after_encode_routedFragment :
    ∃ out, encode routedFragment (List.replicate 200 0) = .ok (routedFragment.wireSize, out) ∧
      out.length = (List.replicate 200 (0 : UInt8)).length ∧
      out.drop routedFragment.wireSize =
        (List.replicate 200 0).drop routedFragment.wireSize ∧
      ∀ rest, decode (out.take routedFragment.wireSize ++ rest) = .ok routedFragment :=
  decode_after_encode routedFragment_wellFormed
    (by rw [length_replicate]; decide)

/-! ## No read leaves the buffer -/

lemma decodeFixedHeader_inBounds (h : buffer.length = 58) :
    InBounds (decodeFixedHeader buffer) := by
  obtain ⟨b0, b1, b2, clock, intent, sender, hclock, hintent, hsender, rfl⟩ :=
    exists_fixedHeader h
  rw [decodeFixedHeader_cons hclock hintent hsender]
  apply InBounds.ite
  · exact fun _ => inBounds_error _
  · intro _
    apply InBounds.ite
    · exact fun _ => inBounds_error _
    · exact fun _ => inBounds_ok _

lemma decodePayloadHeader_inBounds (h : buffer.length = 4) :
    InBounds (decodePayloadHeader buffer) := by
  match buffer, h with
  | [a, b, c, d], _ => exact inBounds_ok _

lemma decodeAuth_inBounds (trustLevel : TrustLevel) (buffer : List UInt8) :
    InBounds (decodeAuth trustLevel buffer) := by
  have hguarded (n : Nat) (f : List UInt8 → Authentication) :
      InBounds (if buffer.length < n then .error (.error CodecError.truncatedFrame)
        else slice buffer 0 n >>= fun bs => .ok (f bs)) := by
    apply InBounds.ite
    · exact fun _ => inBounds_error _
    · intro hlong
      rw [slice_of_le (Nat.zero_le n) (by omega)]
      exact inBounds_ok _
  cases trustLevel with
  | full | sig => exact hguarded 64 fun bs => .signature ⟨takeVec 64 bs⟩
  | compress => exact hguarded 16 fun bs => .token ⟨takeVec 16 bs⟩
  | raw => exact inBounds_ok _

section InBounds

variable (buffer : List UInt8) (offset : Nat)

lemma decodeTraceId_inBounds (hasTraceId : Bool) :
    InBounds (decodeTraceId hasTraceId buffer offset) := by
  cases hasTraceId with
  | false => exact inBounds_ok _
  | true =>
    by_cases hshort : buffer.length < offset + 8
    · rw [decodeTraceId, if_pos rfl, if_pos hshort]
      exact inBounds_error _
    · rw [decodeTraceId_true (by omega)]
      exact inBounds_ok _

lemma decodeRouting_inBounds (hasRouting : Bool) :
    InBounds (decodeRouting hasRouting buffer offset) := by
  cases hasRouting with
  | false => exact inBounds_ok _
  | true =>
    by_cases hshort : buffer.length < offset + 32 + 1
    · rw [decodeRouting, if_pos rfl, if_pos hshort]
      exact inBounds_error _
    · rw [decodeRouting_true (by omega)]
      exact inBounds_ok _

lemma decodeFragmentInfo_inBounds (isFragmented : Bool) :
    InBounds (decodeFragmentInfo isFragmented buffer offset) := by
  cases isFragmented with
  | false => exact inBounds_ok _
  | true =>
    by_cases hshort : buffer.length < offset + 4
    · rw [decodeFragmentInfo, if_pos rfl, if_pos hshort]
      exact inBounds_error _
    · rw [decodeFragmentInfo_true (by omega)]
      exact inBounds_ok _

lemma length_take_four {buffer : List UInt8} {offset : Nat} (h : offset + 4 ≤ buffer.length) :
    ((buffer.drop offset).take 4).length = 4 := by
  rw [length_take, length_drop]
  omega

lemma decodeBody_inBounds (trustLevel : TrustLevel) :
    InBounds (decodeBody trustLevel buffer offset) := by
  apply InBounds.ite
  · exact fun _ => inBounds_error _
  intro hheader
  rw [slice_add (by omega), ok_bind]
  apply (decodePayloadHeader_inBounds (length_take_four (by omega))).bind
  intro payloadHeader
  apply InBounds.ite
  · exact fun _ => inBounds_error _
  intro _
  apply InBounds.ite
  · exact fun _ => inBounds_error _
  intro hlong
  rw [slice_add (by omega), ok_bind]
  dsimp only
  rw [slice_add (by omega), ok_bind]
  apply (decodeAuth_inBounds trustLevel _).bind
  exact fun _ => inBounds_ok _

lemma decode_inBounds : InBounds (decode buffer) := by
  apply InBounds.ite
  · exact fun _ => inBounds_error _
  intro hlong
  rw [slice_of_le (Nat.zero_le 58) (by omega), ok_bind]
  apply (decodeFixedHeader_inBounds (by simp; omega)).bind
  rintro ⟨header, hasTraceId, hasRouting⟩
  apply (decodeTraceId_inBounds buffer 58 hasTraceId).bind
  rintro ⟨traceId, offset⟩
  apply (decodeRouting_inBounds buffer offset hasRouting).bind
  rintro ⟨routing, offset⟩
  apply (decodeFragmentInfo_inBounds buffer offset header.flags.fragmented).bind
  rintro ⟨fragmentInfo, offset⟩
  apply (decodeBody_inBounds buffer offset header.trustLevel).bind
  exact fun _ => inBounds_ok _

lemma decodeHeader_inBounds : InBounds (decodeHeader buffer) := by
  apply InBounds.ite
  · exact fun _ => inBounds_error _
  intro hlong
  rw [slice_of_le (Nat.zero_le 58) (by omega), ok_bind]
  apply (decodeFixedHeader_inBounds (by simp; omega)).bind
  exact fun _ => inBounds_ok _

lemma payloadSlice_inBounds : InBounds (payloadSlice buffer) := by
  apply InBounds.ite
  · exact fun _ => inBounds_error _
  intro hlong
  rw [slice_of_le (Nat.zero_le 58) (by omega), ok_bind]
  apply (decodeFixedHeader_inBounds (by simp; omega)).bind
  rintro ⟨header, hasTraceId, hasRouting⟩
  -- the optional sections are skipped unread, so only the sum of their sizes matters
  show InBounds (let offset := _; if buffer.length < offset + 4 then _ else _)
  apply InBounds.ite
  · exact fun _ => inBounds_error _
  intro hheader
  rw [slice_add (by omega), ok_bind]
  apply (decodePayloadHeader_inBounds (length_take_four (by omega))).bind
  intro payloadHeader
  apply InBounds.ite
  · exact fun _ => inBounds_error _
  intro hpayload
  rw [slice_add (by omega)]
  exact inBounds_ok _

end InBounds

/-! ## Decode, then encode -/

lemma take_clearReserved {n : Nat} (h : 3 ≤ n) (buffer : List UInt8) :
    (clearReserved buffer).take n = clearReserved (buffer.take n) := by
  obtain ⟨m, rfl⟩ := Nat.exists_eq_add_of_le' h
  match buffer with
  | [] | [_] | [_, _] | _ :: _ :: _ :: _ => rfl

/-- **Decoding is total and canonical.** The decoder never reads outside the buffer. A frame it
returns is written back into any buffer with room for it, as the bytes it was read from, with the
four reserved bits cleared. -/
theorem decode_inBounds_canonical (buffer : List UInt8) :
    InBounds (decode buffer) ∧ InBounds (decodeHeader buffer) ∧ InBounds (payloadSlice buffer) ∧
      ∀ frame, decode buffer = .ok frame →
        frame.wireSize ≤ buffer.length ∧ ∀ target : List UInt8, frame.wireSize ≤ target.length →
          ∃ out, encode frame target = .ok (frame.wireSize, out) ∧
            out.take frame.wireSize = clearReserved (buffer.take frame.wireSize) := by
  refine ⟨decode_inBounds buffer, decodeHeader_inBounds buffer, payloadSlice_inBounds buffer, ?_⟩
  intro frame hdecode
  obtain ⟨hwf, hbytes⟩ := decode_eq_ok_iff.mp hdecode
  have hlength := length_wireBytes frame
  have hthree : 3 ≤ frame.wireSize := by
    rw [← hlength]
    simp only [wireBytes, bodyBytes, length_append, length_fixedHeaderBytes]
    omega
  have hfits : frame.wireSize ≤ buffer.length := by
    have hle := hbytes.length_le
    rwa [length_clearReserved, hlength] at hle
  refine ⟨hfits, fun target hroom => ⟨_, encode_of_le hroom hwf.payload_le, ?_⟩⟩
  calc (frame.wireBytes ++ target.drop frame.wireSize).take frame.wireSize
      = frame.wireBytes := by rw [← hlength, take_left]
    _ = (clearReserved buffer).take frame.wireSize := by
        rw [← hlength]
        exact prefix_iff_eq_take.mp hbytes
    _ = clearReserved (buffer.take frame.wireSize) := take_clearReserved hthree buffer

/-- The bytes of `routedFragment` with every reserved bit set, and one more byte. -/
def dirtyBuffer : List UInt8 :=
  [byte0 routedFragment.header, byte1 routedFragment.header, 0xFF] ++
    routedFragment.wireBytes.drop 3 ++ [42]

lemma decode_dirtyBuffer : decode dirtyBuffer = .ok routedFragment := by
  refine decode_eq_ok_iff.mpr ⟨routedFragment_wellFormed, ?_⟩
  have hclear : clearReserved dirtyBuffer = routedFragment.wireBytes ++ [42] := rfl
  rw [hclear]
  exact prefix_append ..

theorem decode_inBounds_canonical_dirtyBuffer :
    decode dirtyBuffer = .ok routedFragment ∧
      ∃ out, encode routedFragment (List.replicate 200 0) = .ok (routedFragment.wireSize, out) ∧
        out.take routedFragment.wireSize =
          clearReserved (dirtyBuffer.take routedFragment.wireSize) :=
  ⟨decode_dirtyBuffer,
    ((decode_inBounds_canonical dirtyBuffer).2.2.2 routedFragment decode_dirtyBuffer).2 _
      (by rw [length_replicate]; decide)⟩

/-! ## Cut and extended buffers -/

/-- **Only the frame is read.** A buffer that is cut off decodes exactly if it is not cut inside the
frame it decodes to, and then to the same frame. So what is left of a truncated frame is always
refused, and bytes behind a frame change nothing. -/
theorem decode_take_eq_ok_iff (buffer : List UInt8) (n : Nat) (frame : Frame) :
    decode (buffer.take n) = .ok frame ↔ decode buffer = .ok frame ∧ frame.wireSize ≤ n := by
  have hlength := length_wireBytes frame
  have hlong : 3 ≤ frame.wireSize := by
    dsimp only [wireSize]
    omega
  rw [decode_eq_ok_iff, decode_eq_ok_iff, and_assoc]
  refine and_congr_right fun _ => ?_
  by_cases hn : frame.wireSize ≤ n
  · rw [← take_clearReserved (hlong.trans hn), prefix_take_iff, hlength]
  · refine iff_of_false (fun h => hn ?_) fun h => hn h.2
    have hle := h.length_le
    rw [length_clearReserved, length_take, hlength] at hle
    exact hle.trans (min_le_left ..)

end AxiomCore
