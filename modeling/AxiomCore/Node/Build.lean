import AxiomCore.Node.Forward

/-!
# Frames that a node builds

Requests and their replies are small signed frames. `build_simple_frame` signs and encodes them; if
that fails, it returns no bytes.

`decodeVerifiedFrame_buildSimpleFrame`: what a node builds is a frame that verifies, provided that
the payload fits and the node's signatures verify.

Source: `forge-node/src/network.rs`.
-/

namespace AxiomCore

open Lib Encoder Decoder

def signAndEncodeFrame (identity : Keypair) (frame : Frame) : List UInt8 :=
  match FrameSigner.sign identity frame with
  | .error _ => []
  | .ok frame =>
    let wireSize := frame.wireSize
    let buffer := List.replicate (wireSize + 32) 0
    match encode frame buffer with
    | .ok (size, buffer) => buffer.take size
    | .error _ => []

def simpleFrame (sender : NodeId) (frameType : FrameType) (traceId : TraceId)
    (intentHash : IntentHash) (payload : List UInt8) (routing : Option RoutingExt) : Frame :=
  let header := { FrameHeader.new frameType sender with
    trustLevel := .sig
    intentHash := intentHash }
  { Frame.new header .raw payload with
    traceId := some traceId
    routing := routing }

def buildSimpleFrame (identity : Keypair) (frameType : FrameType) (traceId : TraceId)
    (intentHash : IntentHash) (payload : List UInt8) (routing : Option RoutingExt) : List UInt8 :=
  signAndEncodeFrame identity
    (simpleFrame identity.nodeId frameType traceId intentHash payload routing)

def buildIntentFrame (identity : Keypair) (intentHash : IntentHash) (traceId : TraceId)
    (payload : List UInt8) (routing : Option RoutingExt) : List UInt8 :=
  buildSimpleFrame identity .intent traceId intentHash payload routing

def buildFulfillFrame (identity : Keypair) (intentHash : IntentHash) (traceId : TraceId)
    (payload : List UInt8) (routing : Option RoutingExt) : List UInt8 :=
  buildSimpleFrame identity .fulfill traceId intentHash payload routing

def buildErrorFrame (identity : Keypair) (intentHash : IntentHash) (traceId : TraceId)
    (reason : String) (routing : Option RoutingExt) : List UInt8 :=
  buildSimpleFrame identity .error traceId intentHash (utf8 reason) routing

section Signed

variable {identity : Keypair} {frameType : FrameType} {traceId : TraceId} {intentHash : IntentHash}
  {payload : List UInt8} {routing : Option RoutingExt}

def signedSimpleFrame (identity : Keypair) (frameType : FrameType) (traceId : TraceId)
    (intentHash : IntentHash) (payload : List UInt8) (routing : Option RoutingExt) : Frame :=
  let frame := simpleFrame identity.nodeId frameType traceId intentHash payload routing
  { frame with auth := .signature (identity.sign (signatureData frame)) }

lemma buildSimpleFrame_eq :
    buildSimpleFrame identity frameType traceId intentHash payload routing =
      if payload.length ≤ maxPayloadSize then
        (signedSimpleFrame identity frameType traceId intentHash payload routing).wireBytes
      else [] := by
  have hsign : FrameSigner.sign identity
      (simpleFrame identity.nodeId frameType traceId intentHash payload routing) =
        .ok (signedSimpleFrame identity frameType traceId intentHash payload routing) := rfl
  simp only [buildSimpleFrame, signAndEncodeFrame, hsign]
  generalize hframe : signedSimpleFrame identity frameType traceId intentHash payload routing = frame
  have hpayload : frame.payload = payload := by rw [← hframe]; rfl
  split_ifs with hfits
  · rw [encode_of_le (by simp) (by rwa [hpayload])]
    simp only [← length_wireBytes, List.take_left]
  · rw [encode_eq, if_neg (by simp), if_pos (by rw [hpayload]; omega)]

lemma simpleFrame_wellFormed (sender : NodeId) (traceId : TraceId) (intentHash : IntentHash)
    (routing : Option RoutingExt) (htype : frameType.Encodable)
    (hfits : payload.length ≤ maxPayloadSize) :
    (simpleFrame sender frameType traceId intentHash payload routing).WellFormed := by
  have hlength : (UInt32.ofNat payload.length).toNat = payload.length := by
    rw [UInt32.toNat_ofNat_of_lt']
    have hmax : maxPayloadSize < UInt32.size := by decide
    omega
  have hclock : HybridClock.zero.physical.toNat < 2 ^ 40 := by decide
  have hflags : (0 : UInt8).toNat < 16 := by decide
  exact ⟨⟨rfl, hclock, htype⟩, ⟨trivial, hlength.trans_le hfits, hflags⟩, hlength, rfl, rfl⟩

lemma decodeVerifiedFrame_buildSimpleFrame {V : Verify}
    (hsigns : ∀ message, V identity.nodeId message (identity.sign message))
    (htype : frameType.Encodable) (hfits : payload.length ≤ maxPayloadSize) :
    decodeVerifiedFrame V (buildSimpleFrame identity frameType traceId intentHash payload routing) =
      some (signedSimpleFrame identity frameType traceId intentHash payload routing) := by
  have hunsigned := simpleFrame_wellFormed identity.nodeId traceId intentHash routing htype hfits
  have hsigned : (signedSimpleFrame identity frameType traceId intentHash payload
      routing).WellFormed := { hunsigned with auth := rfl }
  -- the signature is not part of what is signed
  have hdata : signatureData (simpleFrame identity.nodeId frameType traceId intentHash payload
      routing) = signatureData (signedSimpleFrame identity frameType traceId intentHash payload
        routing) := signatureData_eq_of_agree hunsigned hsigned ⟨rfl, rfl, rfl, rfl, rfl, rfl⟩
  have hverify := hsigns (signatureData (simpleFrame identity.nodeId frameType traceId intentHash
    payload routing))
  rw [buildSimpleFrame_eq, if_pos hfits, decodeVerifiedFrame_eq_some_iff]
  refine ⟨by simpa using decode_wireBytes hsigned [], FrameVerifier.verify_eq_true_iff.mpr
    ⟨.inr rfl, _, rfl, ?_⟩⟩
  rw [← hdata]
  exact hverify

/-- **What a node sends is read back.** An Intent, a Fulfill or an Error that a node builds is a
frame that verifies at every node, with what it was built from. If the payload is too long, no bytes
are built, and those are no frame. -/
theorem built_frames_read_back (V : Verify) (identity : Keypair)
    (hsigns : ∀ message, V identity.nodeId message (identity.sign message))
    (intentHash : IntentHash) (traceId : TraceId) (payload : List UInt8) (reason : String)
    (routing : Option RoutingExt) :
    let read (frameType : FrameType) (payload : List UInt8) : Option Frame :=
      if payload.length ≤ maxPayloadSize then
        some (signedSimpleFrame identity frameType traceId intentHash payload routing)
      else none
    decodeVerifiedFrame V (buildIntentFrame identity intentHash traceId payload routing) =
        read .intent payload ∧
      decodeVerifiedFrame V (buildFulfillFrame identity intentHash traceId payload routing) =
        read .fulfill payload ∧
      decodeVerifiedFrame V (buildErrorFrame identity intentHash traceId reason routing) =
        read .error (utf8 reason) := by
  have hread : ∀ (frameType : FrameType) (bytes : List UInt8), frameType.Encodable →
      decodeVerifiedFrame V (buildSimpleFrame identity frameType traceId intentHash bytes routing) =
        if bytes.length ≤ maxPayloadSize then
          some (signedSimpleFrame identity frameType traceId intentHash bytes routing)
        else none := by
    intro frameType bytes htype
    split_ifs with hfits
    · exact decodeVerifiedFrame_buildSimpleFrame hsigns htype hfits
    · rw [buildSimpleFrame_eq, if_neg hfits]
      rfl
  exact ⟨hread .intent payload trivial, hread .fulfill payload trivial, hread .error _ trivial⟩

theorem short_fulfill_read_back :
    let identity : Keypair := ⟨sampleOrigin, fun _ => ⟨.replicate 64 0⟩⟩
    let hash : IntentHash := ⟨.replicate 16 0⟩
    decodeVerifiedFrame (fun _ _ _ => true)
        (buildFulfillFrame identity hash sampleTraceId [104, 105] none) =
      some (signedSimpleFrame identity .fulfill sampleTraceId hash [104, 105] none) :=
  (built_frames_read_back _ ⟨sampleOrigin, fun _ => ⟨.replicate 64 0⟩⟩ (fun _ => rfl) _ _ [104, 105]
    "" none).2.1

end Signed

/-! ## Sample data -/

def sampleAddr (host : UInt8) : SocketAddr := .v4 #v[10, 0, 0, host] 7777

def echoHash : IntentHash :=
  ⟨#v[84, 238, 212, 70, 13, 114, 72, 196, 1, 88, 250, 166, 89, 205, 11, 109]⟩

def unsignedRequest : Frame :=
  simpleFrame sampleOrigin .intent sampleTraceId echoHash [104, 105] (some ⟨sampleProvider, 8⟩)

def unsignedReply : Frame :=
  simpleFrame sampleProvider .fulfill sampleTraceId echoHash [104, 105] (some ⟨sampleOrigin, 8⟩)

def requester : Keypair where
  nodeId := sampleOrigin
  sign message :=
    if message = signatureData unsignedRequest then
      ⟨hex 64 (0xa9925e2323b40b206901313c3ab3825c41d80a37dd8382d75d8ef772b0ed51df <<< 256 +
        0xb5661404b04fa18a8dd1e3cf83d1135a01e40e24485f4b57d4926a024bb4e503)⟩
    else ⟨Vector.replicate 64 0⟩

def provider : Keypair where
  nodeId := sampleProvider
  sign message :=
    if message = signatureData unsignedReply then
      ⟨hex 64 (0xc4926b7297cde774e74ce123479bf4f8f40ada10b40b7fb4074ddd64c352c278 <<< 256 +
        0x84c7ea1c92dc9a6c75e3a393afdcb0ffcd6e29c1a490c6ea4813ae841ad73201)⟩
    else ⟨Vector.replicate 64 0⟩

def echoVerify : Verify := fun node message sig =>
  (node = requester.nodeId && sig = requester.sign message) ||
    (node = provider.nodeId && sig = provider.sign message)

lemma echoVerify_requester (message : List UInt8) :
    echoVerify requester.nodeId message (requester.sign message) := by
  simp [echoVerify]

lemma echoVerify_provider (message : List UInt8) :
    echoVerify provider.nodeId message (provider.sign message) := by
  simp [echoVerify]

def signedRequest : Frame :=
  signedSimpleFrame requester .intent sampleTraceId echoHash [104, 105] (some ⟨sampleProvider, 8⟩)

lemma decodeVerifiedFrame_signedRequest :
    decodeVerifiedFrame echoVerify signedRequest.wireBytes = some signedRequest := by
  have hfits : ([104, 105] : List UInt8).length ≤ maxPayloadSize := by decide
  have hbuild : decodeVerifiedFrame echoVerify (buildIntentFrame requester echoHash sampleTraceId
      [104, 105] (some ⟨sampleProvider, 8⟩)) = some signedRequest :=
    decodeVerifiedFrame_buildSimpleFrame echoVerify_requester trivial hfits
  rw [buildIntentFrame, buildSimpleFrame_eq, if_pos hfits] at hbuild
  exact hbuild

def signedReply : Frame :=
  signedSimpleFrame provider .fulfill sampleTraceId echoHash [104, 105] (some ⟨sampleOrigin, 8⟩)

lemma buildSimpleFrame_signedReply :
    buildSimpleFrame provider .fulfill sampleTraceId echoHash [104, 105] (some ⟨sampleOrigin, 8⟩) =
      signedReply.wireBytes := by
  have hfits : ([104, 105] : List UInt8).length ≤ maxPayloadSize := by decide
  rw [buildSimpleFrame_eq, if_pos hfits]
  rfl

lemma decodeVerifiedFrame_signedReply :
    decodeVerifiedFrame echoVerify signedReply.wireBytes = some signedReply := by
  rw [← buildSimpleFrame_signedReply]
  exact decodeVerifiedFrame_buildSimpleFrame echoVerify_provider trivial (by decide)

end AxiomCore
