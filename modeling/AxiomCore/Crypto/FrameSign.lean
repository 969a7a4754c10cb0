import AxiomCore.Codec.RoundTrip

/-!
# Frame signatures

A frame of trust level `Full` or `Sig` is signed by its sender over `Encoder::signature_data`.

`signatureData_eq_iff`: two frames that were decoded have the same signed bytes exactly if they
agree on everything but the hop count and the authentication. So with a signature that cannot be
forged, nothing else can be changed on the way. Frames that were not decoded can be beyond the
payload limit, or give a place among fragments without the flag: `signing_separates_iff`.

Ed25519 is a parameter: a `Keypair` is its public key and its signing function, and verification is
a function of key, message and signature.

Source: `axiom-crypto/src/frame_sign.rs`.
-/

namespace AxiomCore

open Lib Encoder Decoder

/-! ## Keys -/

/-- Source: `axiom-crypto/src/identity.rs`, `Keypair`. -/
structure Keypair where
  nodeId : NodeId
  sign : List UInt8 → Signature

/-- `NodeId::verify`. Source: `axiom-crypto/src/identity.rs`, `Verifier`. -/
abbrev Verify := NodeId → List UInt8 → Signature → Bool

/-- A public key, where the source has plain bytes. Source: `axiom-crypto/src/revocation.rs`,
`axiom-crypto/src/attestation.rs`. -/
abbrev KeyId := Vector UInt8 32

/-! ## Signing and verifying -/

inductive SignError where
  | noSignatureRequired
  | encodingFailed
  | invalidTrustLevel
  deriving DecidableEq

def FrameSigner.sign (keypair : Keypair) (frame : Frame) : Except SignError Frame :=
  match frame.header.trustLevel with
  | .full | .sig => .ok { frame with auth := .signature (keypair.sign (signatureData frame)) }
  | .compress => .error .invalidTrustLevel
  | .raw => .error .noSignatureRequired

def FrameVerifier.verify (V : Verify) (frame : Frame) : Except SignError Bool :=
  match frame.header.trustLevel with
  | .full | .sig =>
    match frame.auth with
    | .signature sig => .ok (V frame.header.senderId (signatureData frame) sig)
    | _ => .ok false
  | .compress => .error .invalidTrustLevel
  | .raw => .error .noSignatureRequired

variable {frame f g : Frame}

lemma FrameVerifier.verify_eq_true_iff {V : Verify} :
    verify V frame = .ok true ↔
      (frame.header.trustLevel = .full ∨ frame.header.trustLevel = .sig) ∧
        ∃ sig, frame.auth = .signature sig ∧
          V frame.header.senderId (signatureData frame) sig := by
  unfold verify
  cases frame.header.trustLevel <;> cases frame.auth <;> simp

/-! ## What is signed -/

/-- The frames agree on everything but the hop count and the authentication. -/
structure Frame.AgreeUpToTtl (f g : Frame) : Prop where
  header : f.header = g.header
  traceId : f.traceId = g.traceId
  /-- Whether the frame is routed, and where to. -/
  destination : f.routing.map (·.destination) = g.routing.map (·.destination)
  fragmentInfo : f.fragmentInfo = g.fragmentInfo
  payloadHeader : f.payloadHeader = g.payloadHeader
  payload : f.payload = g.payload

lemma Frame.AgreeUpToTtl.trans {h : Frame} (hfg : f.AgreeUpToTtl g) (hgh : g.AgreeUpToTtl h) :
    f.AgreeUpToTtl h :=
  ⟨hfg.header.trans hgh.header, hfg.traceId.trans hgh.traceId,
    hfg.destination.trans hgh.destination, hfg.fragmentInfo.trans hgh.fragmentInfo,
    hfg.payloadHeader.trans hgh.payloadHeader, hfg.payload.trans hgh.payload⟩

/-- An authentication of the prescribed kind, with nothing in it. Source:
`axiom-types/src/frame.rs`, `Frame::new`. -/
def TrustLevel.emptyAuth : TrustLevel → Authentication
  | .full | .sig => .signature ⟨Vector.replicate 64 0⟩
  | .compress => .token ⟨Vector.replicate 16 0⟩
  | .raw => .none

lemma prescribes_emptyAuth (trustLevel : TrustLevel) :
    trustLevel.prescribes trustLevel.emptyAuth := by
  cases trustLevel <;> rfl

/-- What a signature covers of a frame, as a frame. -/
def Frame.signed (frame : Frame) : Frame :=
  { frame.canonical with auth := frame.header.trustLevel.emptyAuth }

lemma signed_wellFormed (h : frame.WellFormed) : frame.signed.WellFormed :=
  ⟨h.header, h.payloadHeader, h.length, h.fragmented, prescribes_emptyAuth _⟩

lemma withoutTtl_eq_iff {r r' : Option RoutingExt} :
    (r.map fun routing => { routing with ttl := 0 }) =
        (r'.map fun routing => { routing with ttl := 0 }) ↔
      r.map (·.destination) = r'.map (·.destination) := by
  cases r <;> cases r' <;> simp

lemma signed_eq_iff : f.signed = g.signed ↔ f.AgreeUpToTtl g := by
  constructor
  · intro h
    simp only [Frame.signed, Frame.canonical, Frame.mk.injEq] at h
    obtain ⟨hheader, htrace, hroute, hfragment, hpayloadHeader, hpayload, -⟩ := h
    exact ⟨hheader, htrace, withoutTtl_eq_iff.mp hroute, hfragment, hpayloadHeader, hpayload⟩
  · rintro ⟨hheader, htrace, hroute, hfragment, hpayloadHeader, hpayload⟩
    simp only [Frame.signed, Frame.canonical, Frame.mk.injEq]
    exact ⟨hheader, htrace, withoutTtl_eq_iff.mpr hroute, hfragment, hpayloadHeader, hpayload,
      by rw [hheader]⟩

lemma decode_signatureData (h : frame.WellFormed) :
    decode (signatureData frame ++ List.replicate 64 0) = .ok frame.signed := by
  obtain ⟨rest, hrest⟩ :
      ∃ rest, authBytes frame.header.trustLevel.emptyAuth ++ rest = List.replicate 64 0 := by
    cases frame.header.trustLevel with
    | full => exact ⟨[], rfl⟩
    | sig => exact ⟨[], rfl⟩
    | compress => exact ⟨List.replicate 48 0, rfl⟩
    | raw => exact ⟨List.replicate 64 0, rfl⟩
  rw [signatureData_eq h.payload_le, ← hrest, ← List.append_assoc]
  exact decode_wireBytes (signed_wellFormed h) rest

lemma signatureData_eq_of_agree (hf : f.WellFormed) (hg : g.WellFormed)
    (h : f.AgreeUpToTtl g) : signatureData f = signatureData g := by
  have hbody : f.signed.bodyBytes = g.signed.bodyBytes :=
    congrArg Frame.bodyBytes (signed_eq_iff.mpr h)
  rw [signatureData_eq hf.payload_le, signatureData_eq hg.payload_le]
  exact hbody

/-- **What a signature covers.** Two frames that were decoded have the same signed bytes exactly if
they agree on everything but the hop count and the authentication. So if no one but its sender can
sign, and the sender signed one frame, then every frame of this sender that verifies is that frame
up to the hop count. -/
theorem signatureData_eq_iff {b₁ b₂ : List UInt8} {f₁ f₂ : Frame} (h₁ : decode b₁ = .ok f₁)
    (h₂ : decode b₂ = .ok f₂) :
    (signatureData f₁ = signatureData f₂ ↔ f₁.AgreeUpToTtl f₂) ∧
      ∀ V : Verify,
        (∀ message sig, V f₁.header.senderId message sig → message = signatureData f₁) →
          f₂.header.senderId = f₁.header.senderId → FrameVerifier.verify V f₂ = .ok true →
            f₁.AgreeUpToTtl f₂ := by
  have hwf₁ := (decode_eq_ok_iff.mp h₁).1
  have hwf₂ := (decode_eq_ok_iff.mp h₂).1
  have hiff : signatureData f₁ = signatureData f₂ ↔ f₁.AgreeUpToTtl f₂ := by
    constructor
    · intro hdata
      have hdecode := decode_signatureData hwf₁
      rw [hdata, decode_signatureData hwf₂] at hdecode
      exact signed_eq_iff.mp (Except.ok.inj hdecode).symm
    · exact signatureData_eq_of_agree hwf₁ hwf₂
  refine ⟨hiff, fun V hunforgeable hsender hverify => hiff.mp ?_⟩
  obtain ⟨-, sig, -, hsig⟩ := FrameVerifier.verify_eq_true_iff.mp hverify
  rw [hsender] at hsig
  exact (hunforgeable _ sig hsig).symm

/-- The public key of the seed 0, 1, …, 31. -/
def sampleOrigin : NodeId :=
  ⟨hex 32 0x03a107bff3ce10be1d70dd18e74bc09967e4d6309ba50d5f1ddc8664125531b8⟩

/-- The public key of the seed 1, 2, …, 32. -/
def sampleProvider : NodeId :=
  ⟨hex 32 0x79b5562e8fe654f94078b112e8a98ba7901f853ae695bed7e0e3910bad049664⟩

/-- The public key of the seed 2, 3, …, 33. -/
def samplePasser : NodeId :=
  ⟨hex 32 0x43cdc023d22d5f9e107d1a0693457d35d1d10eb7d21c721192f56f5de40665d3⟩

def sampleTraceId : TraceId := ⟨#v[0, 0, 0, 0, 0, 0, 0, 1]⟩

def signedFragment : Frame :=
  { routedFragment with
    header := { routedFragment.header with trustLevel := .sig, senderId := sampleOrigin }
    auth := .signature ⟨
      hex 64 (0x2438cf03f55a92261871dca07dd53c3de044db19922c1b5ef3d98e64be2f4eeb <<< 256 +
      0x2567221c666d0a9ef03dc53aa44234147989f26c0a528414ff2177dca69f4307)⟩ }

def relayedFragment : Frame :=
  { signedFragment with routing := some ⟨⟨Vector.replicate 32 9⟩, 7⟩ }

def fragmentVerify : Verify := fun node message sig =>
  node = sampleOrigin && message = signatureData signedFragment &&
    .signature sig = signedFragment.auth

lemma signedFragment_wellFormed : signedFragment.WellFormed :=
  ⟨⟨rfl, by decide, by decide⟩, routedFragment_wellFormed.payloadHeader, rfl, rfl, rfl⟩

lemma relayedFragment_wellFormed : relayedFragment.WellFormed :=
  { signedFragment_wellFormed with }

lemma fragmentVerify_iff {node : NodeId} {message : List UInt8} {sig : Signature} :
    fragmentVerify node message sig ↔
      node = sampleOrigin ∧ message = signatureData signedFragment ∧
        .signature sig = signedFragment.auth := by
  simp only [fragmentVerify, Bool.and_eq_true, decide_eq_true_eq, and_assoc]

theorem signatureData_eq_iff_relayedFragment :
    signatureData signedFragment = signatureData relayedFragment ∧
      signedFragment.AgreeUpToTtl relayedFragment := by
  have hiff := signatureData_eq_iff (decode_wireBytes signedFragment_wellFormed [])
    (decode_wireBytes relayedFragment_wellFormed [])
  have hdata : signatureData signedFragment = signatureData relayedFragment :=
    hiff.1.mpr ⟨rfl, rfl, rfl, rfl, rfl, rfl⟩
  refine ⟨hdata, hiff.2 fragmentVerify (fun _ _ h => (fragmentVerify_iff.mp h).2.1) rfl ?_⟩
  exact FrameVerifier.verify_eq_true_iff.mpr
    ⟨.inr rfl, _, rfl, fragmentVerify_iff.mpr ⟨rfl, hdata.symm, rfl⟩⟩

/-! ## What `sign` accepts -/

/-- `sign` does not refuse the frame. -/
def Frame.Signable (frame : Frame) : Prop :=
  frame.header.trustLevel = .full ∨ frame.header.trustLevel = .sig

lemma FrameSigner.sign_eq_ok_iff {keypair : Keypair} {signed : Frame} :
    sign keypair frame = .ok signed ↔
      frame.Signable ∧
        signed = { frame with auth := .signature (keypair.sign (signatureData frame)) } := by
  unfold sign Frame.Signable
  cases frame.header.trustLevel <;> simp [eq_comm]

/-- A payload beyond the limit is signed as zeros: the buffer stays as it was made. -/
lemma signatureData_of_lt (h : maxPayloadSize < frame.payload.length) :
    signatureData frame = List.replicate frame.canonical.bodyBytes.length 0 := by
  have hencode : encode frame.canonical (List.replicate frame.canonical.wireSize 0) =
      .error (.error (.payloadTooLarge frame.payload.length)) := by
    rw [encode_eq, if_neg (by simp)]
    exact if_pos h
  rw [length_bodyBytes]
  unfold signatureData
  dsimp only [Frame.canonical] at hencode ⊢
  rw [hencode]
  simp

lemma bodyBytes_ne_zeros (frame : Frame) (n : Nat) : frame.bodyBytes ≠ List.replicate n 0 := by
  intro h
  have hmem : byte0 frame.header ∈ List.replicate n 0 := by
    rw [← h]
    exact List.mem_cons_self
  have hzero := List.eq_of_mem_replicate hmem
  rw [byte0, UInt8.or_eq_zero_iff, UInt8.or_eq_zero_iff] at hzero
  cases hzero.1.1

/-- The third byte says which other extensions there are. -/
lemma extensions_eq_of_bodyBytes_eq (h : f.bodyBytes = g.bodyBytes) :
    f.traceId.isSome = g.traceId.isSome ∧ f.routing.isSome = g.routing.isSome := by
  have hthird : some (byte2 f.header f.traceId.isSome f.routing.isSome) =
      some (byte2 g.header g.traceId.isSome g.routing.isSome) := congrArg (·[2]?) h
  have hbyte := congrArg UInt8.toNat (Option.some.inj hthird)
  rw [toNat_byte2, toNat_byte2] at hbyte
  revert hbyte
  cases f.traceId.isSome <;> cases g.traceId.isSome <;> cases f.routing.isSome <;>
    cases g.routing.isSome <;> simp <;> omega

lemma payload_eq_of_bodyBytes_eq (h : f.bodyBytes = g.bodyBytes)
    (hinfo : f.fragmentInfo.isSome = g.fragmentInfo.isSome) : f.payload = g.payload := by
  refine (List.append_inj h ?_).2
  simp only [List.length_append, length_fixedHeaderBytes, length_traceIdBytes,
    length_routingBytes, length_fragmentInfoBytes, length_payloadHeaderBytes,
    extensions_eq_of_bodyBytes_eq h, hinfo]

/-- What is written of a header. -/
structure FrameHeader.WrittenLike (h k : FrameHeader) : Prop where
  version : h.version.toNat % 16 = k.version.toNat % 16
  frameType : h.frameType.toU8.toNat % 32 = k.frameType.toU8.toNat % 32
  flags : h.flags = k.flags
  trustLevel : h.trustLevel = k.trustLevel
  priority : h.priority = k.priority
  physical : h.clock.physical.toNat % 2 ^ 40 = k.clock.physical.toNat % 2 ^ 40
  logical : h.clock.logical = k.clock.logical
  intentHash : h.intentHash = k.intentHash
  senderId : h.senderId = k.senderId

/-- Only `f` gives its place among fragments, but the place is the payload header of `g` when read
as such, and what follows it in `f` is the payload of `g`. -/
structure Frame.PosesAs (f g : Frame) : Prop where
  header : f.header.WrittenLike g.header
  traceId : f.traceId = g.traceId
  destination : f.routing.map (·.destination) = g.routing.map (·.destination)
  /-- Four bits of type, 24 of length, four of flags. -/
  place : ∃ place, f.fragmentInfo = some place ∧
    place.sequence.toNat * 2 ^ 16 + place.total.toNat =
      g.payloadHeader.payloadType.toU8.toNat % 16 * 2 ^ 28 + g.payload.length * 2 ^ 4 +
        g.payloadHeader.flags.toNat % 16
  whole : g.fragmentInfo = none
  payload : g.payload = payloadHeaderBytes f.payloadHeader.payloadType
    (UInt32.ofNat f.payload.length) f.payloadHeader.flags ++ f.payload

lemma Frame.PosesAs.payload_ne (h : f.PosesAs g) : f.payload ≠ g.payload := by
  intro hsame
  have hlength := congrArg List.length h.payload
  rw [← hsame, List.length_append, length_payloadHeaderBytes] at hlength
  omega

lemma HybridClock.toBytes_eq_iff {c d : HybridClock} : c.toBytes = d.toBytes ↔
    c.physical.toNat % 2 ^ 40 = d.physical.toNat % 2 ^ 40 ∧ c.logical = d.logical := by
  have hseconds (n : Nat) : beBytes 5 (n % 2 ^ 40) = beBytes 5 n := by
    have hread := beBytes_beNat (beBytes 5 n)
    rwa [length_beBytes, beNat_beBytes] at hread
  constructor
  · intro h
    obtain ⟨hphysical, hlogical⟩ := List.append_inj h (by simp)
    have hphysical' := congrArg beNat hphysical
    rw [beNat_beBytes, beNat_beBytes] at hphysical'
    exact ⟨hphysical', UInt16.toNat_inj.mp
      (beBytes_inj c.logical.toNat_lt d.logical.toNat_lt hlogical)⟩
  · rintro ⟨hphysical, hlogical⟩
    rw [toBytes, toBytes, ← hseconds c.physical.toNat, hphysical, hseconds, hlogical]

lemma fixedHeaderBytes_eq_iff {h k : FrameHeader} (a b : Bool) :
    fixedHeaderBytes h a b = fixedHeaderBytes k a b ↔ h.WrittenLike k := by
  have hbytes : fixedHeaderBytes h a b = fixedHeaderBytes k a b ↔ byte0 h = byte0 k ∧
      byte1 h = byte1 k ∧ byte2 h a b = byte2 k a b ∧ h.clock.toBytes = k.clock.toBytes ∧
      h.intentHash.bytes.toList = k.intentHash.bytes.toList ∧
      h.senderId.bytes.toList = k.senderId.bytes.toList := by
    simp only [fixedHeaderBytes, List.cons_append, List.nil_append, List.cons.injEq]
    refine and_congr_right' (and_congr_right' (and_congr_right' ⟨fun hrest => ?_, ?_⟩))
    · obtain ⟨hclock, hids⟩ := List.append_inj hrest (by simp)
      exact ⟨hclock, List.append_inj hids (by simp)⟩
    · rintro ⟨hclock, hintent, hsender⟩
      rw [hclock, hintent, hsender]
  rw [hbytes, ← UInt8.toNat_inj, ← UInt8.toNat_inj, ← UInt8.toNat_inj, toNat_byte0_packed,
    toNat_byte0_packed, toNat_byte1, toNat_byte1, toNat_byte2, toNat_byte2,
    HybridClock.toBytes_eq_iff]
  constructor
  · rintro ⟨h0, h1, h2, ⟨hphysical, hlogical⟩, hintent, hsender⟩
    have hflags := h.flags.toU8_lt
    have hflags' := k.flags.toU8_lt
    have htrust := h.trustLevel.toU8_lt
    have htrust' := k.trustLevel.toU8_lt
    have hsameFlags : h.flags.toU8 = k.flags.toU8 := UInt8.toNat_inj.mp (by omega)
    have hsameTrust : h.trustLevel.toU8 = k.trustLevel.toU8 := UInt8.toNat_inj.mp (by omega)
    have hsamePriority : h.priority.toU8 = k.priority.toU8 := UInt8.toNat_inj.mp (by omega)
    refine ⟨by omega, by omega, ?_, ?_, ?_, hphysical, hlogical, ?_, ?_⟩
    · rw [← FrameFlags.fromU8_toU8 h.flags, hsameFlags, FrameFlags.fromU8_toU8]
    · rw [← TrustLevel.fromU8_toU8 h.trustLevel, hsameTrust, TrustLevel.fromU8_toU8]
    · rw [← Priority.fromU8_toU8 h.priority, hsamePriority, Priority.fromU8_toU8]
    · exact congrArg IntentHash.mk (Vector.toList_inj.mp hintent)
    · exact congrArg NodeId.mk (Vector.toList_inj.mp hsender)
  · rintro ⟨hversion, htype, hflags, htrust, hpriority, hphysical, hlogical, hintent, hsender⟩
    rw [hflags, htrust, hpriority, hintent, hsender]
    exact ⟨by omega, by omega, rfl, ⟨hphysical, hlogical⟩, rfl, rfl⟩

lemma place_eq_payloadHeader_iff {place : FragmentInfo} {payloadType : PayloadType}
    {length : UInt32} {flags : UInt8} (hlength : length.toNat < 2 ^ 24) :
    fragmentInfoBytes (some place) = payloadHeaderBytes payloadType length flags ↔
      place.sequence.toNat * 2 ^ 16 + place.total.toNat =
        payloadType.toU8.toNat % 16 * 2 ^ 28 + length.toNat * 2 ^ 4 + flags.toNat % 16 := by
  have hsequence := place.sequence.toNat_lt
  have htotal := place.total.toNat_lt
  have hinjective : Function.Injective (List.map UInt8.toNat) :=
    List.map_injective_iff.mpr fun _ _ => UInt8.toNat_inj.mp
  have hplace : (fragmentInfoBytes (some place)).map UInt8.toNat =
      [place.sequence.toNat / 256, place.sequence.toNat % 256, place.total.toNat / 256,
        place.total.toNat % 256] := by
    simp [fragmentInfoBytes, beBytes]
    omega
  rw [← hinjective.eq_iff, hplace, toNat_payloadHeaderBytes hlength]
  simp only [List.cons.injEq, and_true]
  omega

lemma traceIdBytes_injective : Function.Injective traceIdBytes := by
  intro t t' h
  have hlength := congrArg List.length h
  rcases t with _ | ⟨⟨bytes⟩⟩ <;> rcases t' with _ | ⟨⟨bytes'⟩⟩
  · rfl
  · simp [traceIdBytes] at hlength
  · simp [traceIdBytes] at hlength
  · obtain rfl : bytes = bytes' := Vector.toList_inj.mp h
    rfl

lemma routingBytes_injective : Function.Injective routingBytes := by
  intro r r' h
  have hlength := congrArg List.length h
  rcases r with _ | ⟨⟨bytes⟩, ttl⟩ <;> rcases r' with _ | ⟨⟨bytes'⟩, ttl'⟩
  · rfl
  · simp [routingBytes] at hlength
  · simp [routingBytes] at hlength
  · obtain ⟨hbytes, httl⟩ := List.append_inj' h rfl
    obtain rfl : bytes = bytes' := Vector.toList_inj.mp hbytes
    obtain rfl : ttl = ttl' := List.head_eq_of_cons_eq httl
    rfl

lemma bodyBytes_eq_iff_of_place {place : FragmentInfo} (hplace : f.fragmentInfo = some place)
    (hwhole : g.fragmentInfo = none) :
    f.bodyBytes = g.bodyBytes ↔ f.header.WrittenLike g.header ∧ f.traceId = g.traceId ∧
      f.routing = g.routing ∧
      fragmentInfoBytes (some place) = payloadHeaderBytes g.payloadHeader.payloadType
        (UInt32.ofNat g.payload.length) g.payloadHeader.flags ∧
      payloadHeaderBytes f.payloadHeader.payloadType (UInt32.ofNat f.payload.length)
        f.payloadHeader.flags ++ f.payload = g.payload := by
  have hnone : fragmentInfoBytes none = [] := rfl
  constructor
  · intro h
    obtain ⟨htraceSome, hroutingSome⟩ := extensions_eq_of_bodyBytes_eq h
    simp only [Frame.bodyBytes, hplace, hwhole, hnone, List.append_nil, List.append_assoc] at h
    obtain ⟨hfixed, h⟩ := List.append_inj h (by simp)
    obtain ⟨htrace, h⟩ := List.append_inj h (by simp [length_traceIdBytes, htraceSome])
    obtain ⟨hrouting, h⟩ := List.append_inj h (by simp [length_routingBytes, hroutingSome])
    obtain ⟨hnumbers, hrest⟩ := List.append_inj h (by simp [length_fragmentInfoBytes])
    rw [htraceSome, hroutingSome] at hfixed
    exact ⟨(fixedHeaderBytes_eq_iff _ _).mp hfixed, traceIdBytes_injective htrace,
      routingBytes_injective hrouting, hnumbers, hrest⟩
  · rintro ⟨hheader, htrace, hrouting, hnumbers, hrest⟩
    have hfixed := (fixedHeaderBytes_eq_iff g.traceId.isSome g.routing.isSome).mpr hheader
    simp only [Frame.bodyBytes, hplace, hwhole, hnone, htrace, hrouting, hfixed, hnumbers,
      List.append_nil, List.append_assoc, hrest]

lemma posesAs_iff (hg : g.payload.length ≤ maxPayloadSize) :
    f.PosesAs g ↔ f.canonical.bodyBytes = g.canonical.bodyBytes ∧ f.fragmentInfo.isSome ∧
      g.fragmentInfo = none := by
  have hlength : (UInt32.ofNat g.payload.length).toNat = g.payload.length := by
    rw [UInt32.toNat_ofNat']
    exact Nat.mod_eq_of_lt (by unfold maxPayloadSize at hg; omega)
  have hfits : (UInt32.ofNat g.payload.length).toNat < 2 ^ 24 := by
    unfold maxPayloadSize at hg
    omega
  have hbody {place : FragmentInfo} (hplace : f.fragmentInfo = some place)
      (hwhole : g.fragmentInfo = none) :=
    bodyBytes_eq_iff_of_place (f := f.canonical) (g := g.canonical) hplace hwhole
  constructor
  · rintro ⟨hheader, htrace, hdestination, ⟨place, hplace, hnumber⟩, hwhole, hpayload⟩
    refine ⟨(hbody hplace hwhole).mpr ⟨hheader, htrace, withoutTtl_eq_iff.mpr hdestination, ?_,
      hpayload.symm⟩, by rw [hplace]; rfl, hwhole⟩
    rw [← hlength] at hnumber
    exact (place_eq_payloadHeader_iff hfits).mpr hnumber
  · rintro ⟨hsame, hsome, hwhole⟩
    obtain ⟨place, hplace⟩ := Option.isSome_iff_exists.mp hsome
    obtain ⟨hheader, htrace, hrouting, hnumbers, hrest⟩ := (hbody hplace hwhole).mp hsame
    have hnumber := (place_eq_payloadHeader_iff hfits).mp hnumbers
    rw [hlength] at hnumber
    exact ⟨hheader, htrace, withoutTtl_eq_iff.mp hrouting, ⟨place, hplace, hnumber⟩, hwhole,
      hrest.symm⟩

/-- **What signing separates.** That a frame which `sign` accepts can be encoded, and that its
signed bytes differ from those of every other frame `sign` accepts whose payload is different, holds
exactly if its payload is within the limit, and neither it nor another such frame gives a place
among fragments with which it poses as the other. -/
theorem signing_separates_iff (keypair : Keypair) (f g : Frame) :
    ((∀ signed, FrameSigner.sign keypair f = .ok signed → ∀ buffer : List UInt8,
        signed.wireSize ≤ buffer.length → ∃ written, encode signed buffer = .ok written) ∧
      ((∃ signed, FrameSigner.sign keypair f = .ok signed) →
        (∃ signed, FrameSigner.sign keypair g = .ok signed) → f.payload ≠ g.payload →
          signatureData f ≠ signatureData g)) ↔
    (f.Signable → f.payload.length ≤ maxPayloadSize ∧
      (g.Signable → g.payload.length ≤ maxPayloadSize → ¬ f.PosesAs g ∧ ¬ g.PosesAs f)) := by
  simp only [FrameSigner.sign_eq_ok_iff, exists_and_left, exists_eq, and_true]
  constructor
  · rintro ⟨hencodes, hdiffers⟩ hf
    have hfits : f.payload.length ≤ maxPayloadSize := by
      by_contra hlarge
      obtain ⟨written, hwritten⟩ := hencodes _ ⟨hf, rfl⟩ (List.replicate _ 0)
        (List.length_replicate ..).ge
      rw [encode_eq, if_neg (by simp), if_pos (Nat.lt_of_not_le hlarge)] at hwritten
      cases hwritten
    refine ⟨hfits, fun hg hgfits => ⟨fun hposes => ?_, fun hposes => ?_⟩⟩
    · refine hdiffers hf hg hposes.payload_ne ?_
      rw [signatureData_eq hfits, signatureData_eq hgfits, ((posesAs_iff hgfits).mp hposes).1]
    · refine hdiffers hf hg hposes.payload_ne.symm ?_
      rw [signatureData_eq hfits, signatureData_eq hgfits, ((posesAs_iff hfits).mp hposes).1]
  · intro h
    constructor
    · rintro signed ⟨hf, rfl⟩ buffer hroom
      exact ⟨_, encode_of_le hroom (h hf).1⟩
    · intro hf hg hne hdata
      obtain ⟨hfits, hposes⟩ := h hf
      rw [signatureData_eq hfits] at hdata
      by_cases hgfits : g.payload.length ≤ maxPayloadSize
      · obtain ⟨hfg, hgf⟩ := hposes hg hgfits
        rw [signatureData_eq hgfits] at hdata
        rw [posesAs_iff hgfits] at hfg
        rw [posesAs_iff hfits] at hgf
        have hinfo : f.fragmentInfo.isSome = g.fragmentInfo.isSome := by
          rcases hf' : f.fragmentInfo with _ | place <;>
            rcases hg' : g.fragmentInfo with _ | place'
          · rfl
          · exact absurd ⟨hdata.symm, by rw [hg']; rfl, hf'⟩ hgf
          · exact absurd ⟨hdata, by rw [hf']; rfl, hg'⟩ hfg
          · rfl
        exact hne (payload_eq_of_bodyBytes_eq (f := f.canonical) (g := g.canonical) hdata hinfo)
      · rw [signatureData_of_lt (Nat.lt_of_not_le hgfits)] at hdata
        exact bodyBytes_ne_zeros _ _ hdata

def oversizedFrame (byte : UInt8) : Frame :=
  .new { FrameHeader.new .stream sampleOrigin with trustLevel := .sig } .raw
    (List.replicate (maxPayloadSize + 1) byte)

/-- Two frames with different payloads are signed alike, and neither can be encoded. -/
theorem oversized_frames_signed_alike :
    let keypair : Keypair := ⟨sampleOrigin, fun _ => ⟨Vector.replicate 64 0⟩⟩
    (∀ byte : UInt8, ∃ signed, FrameSigner.sign keypair (oversizedFrame byte) = .ok signed ∧
      ∀ buffer, ∃ e, encode signed buffer = .error e) ∧
    (oversizedFrame 0).payload ≠ (oversizedFrame 1).payload ∧
    signatureData (oversizedFrame 0) = signatureData (oversizedFrame 1) := by
  have hpayload (byte : UInt8) :
      (oversizedFrame byte).payload = byte :: List.replicate maxPayloadSize byte :=
    List.replicate_succ
  have hlarge (byte : UInt8) : maxPayloadSize < (oversizedFrame byte).payload.length := by
    rw [hpayload, List.length_cons, List.length_replicate]
    exact Nat.lt_succ_self _
  refine ⟨fun byte => ⟨_, FrameSigner.sign_eq_ok_iff.mpr ⟨.inr rfl, rfl⟩, fun buffer => ?_⟩, ?_, ?_⟩
  · rw [encode_eq]
    split_ifs with hroom hfits
    · exact ⟨_, rfl⟩
    · exact ⟨_, rfl⟩
    · exact absurd (hlarge byte) hfits
  · rw [hpayload, hpayload]
    intro h
    cases (List.cons.inj h).1
  · have hsize (byte : UInt8) :
        (oversizedFrame byte).canonical.bodyBytes.length = 62 + (maxPayloadSize + 1) := by
      rw [length_bodyBytes]
      simp [Frame.wireSize, Frame.canonical, oversizedFrame, Frame.new]
    rw [signatureData_of_lt (hlarge 0), signatureData_of_lt (hlarge 1), hsize, hsize]

end AxiomCore
