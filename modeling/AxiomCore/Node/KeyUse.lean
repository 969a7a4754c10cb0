import AxiomCore.Node.Hello
import AxiomCore.Router.Announce
import AxiomCore.Transport.Liveness

/-!
# One key, four uses

A node has one key. It signs greetings, frames, its announcements and pongs with it. Announcements
and pongs start with a context string; greetings and frames do not, and part of what is signed is
chosen by others: the payload of a frame, the nonce of a pong.

`signatures_serve_one_use`: no byte string is signed for two uses, and a signature that verifies only
for the bytes it was made for is accepted for no other use.
-/

namespace AxiomCore

open Lib Encoder

/-! ## Uses -/

/-- What a node signs for. Source: `forge-node/src/network.rs`, `axiom-router/src/announce.rs`,
`axiom-transport/src/wan.rs`. -/
inductive KeyUse where
  | greeting
  /-- Frames of trust level `Full` or `Sig`. -/
  | frame
  /-- The origin's signature in an announcement. -/
  | announcement
  /-- Liveness over the WAN. -/
  | pong
  deriving DecidableEq

namespace KeyUse

/-- The byte strings that are signed for a use. Source: `forge-node/src/network.rs`, `build_frame`;
`axiom-codec/src/encoder.rs`, `Encoder::signature_data`; `axiom-router/src/announce.rs`,
`AnnouncePayload::origin_signing_bytes_for`; `axiom-transport/src/wan.rs`, `pong_signing_bytes`. -/
def signs : KeyUse → Set (List UInt8)
  | .greeting => { message | ∃ nodeId timestamp,
      message = helloBody nodeId helloMsgType timestamp ∨
        message = helloBody nodeId helloAckMsgType timestamp }
  | .frame => { message | ∃ frame : Frame, frame.header.version = protocolVersion ∧
      (frame.header.trustLevel = .full ∨ frame.header.trustLevel = .sig) ∧
        message = signatureData frame }
  | .announcement => { message | ∃ origin originClock capabilities,
      message = AnnouncePayload.originSigningBytesFor origin originClock capabilities }
  | .pong => { message | ∃ echoedNonce respondedAt,
      message = pongSigningBytes echoedNonce respondedAt }

/-- Something that is received for a use has this signature, and it is accepted as signed by the
node. Source: `forge-node/src/network.rs`, `extract_sender_with_timestamp`, `decode_verified_frame`,
`handle_axiom_frame` (Announce arm); `axiom-transport/src/wan.rs`, `verify_signed_pong`. -/
def Accepts (V : Verify) (node : NodeId) (signature : Signature) : KeyUse → Prop
  | .greeting => ∃ data timestamp,
      extractSenderWithTimestamp V data = some (node, timestamp) ∧ helloSignature data = signature
  | .frame => ∃ data frame, decodeVerifiedFrame V data = some frame ∧
      frame.header.senderId = node ∧ frame.auth = .signature signature
  | .announcement => ∃ frame claim ttl, verifiedClaim V frame = some claim ∧ claim.origin = node ∧
      AnnouncePayload.decode frame.payload = some (claim.payload signature ttl)
  | .pong => ∃ ping pong nowUnix, verifySignedPong V ping pong nowUnix = .ok () ∧
      pong.responder = node ∧ pong.signature = signature

/-- What the first byte and the length say. The first byte of a frame has the magic bits `10` on
top, or is zero if the frame was too large to be encoded. -/
def Looks : KeyUse → List UInt8 → Prop
  | .greeting, message => message.head? = some 0x41 ∧ message.length = 46
  | .frame, message => ∃ first : UInt8, message.head? = some first ∧
      (first.toNat = 0 ∨ 128 ≤ first.toNat)
  | .announcement, message => message.head? = some 0x41 ∧ 65 ≤ message.length
  | .pong, message => message.head? = some 0x61

variable {use : KeyUse} {message : List UInt8}

/-- **No byte string looks like two uses.** The first byte tells them apart, but for greetings and
announcements, which differ in length. -/
theorem looks_unique {other : KeyUse} (h : use.Looks message)
    (h' : other.Looks message) : use = other := by
  have hne : ∀ {a b : UInt8}, message.head? = some a → message.head? = some b → a.toNat = b.toNat :=
    fun ha hb => congrArg UInt8.toNat (Option.some.inj (ha.symm.trans hb))
  have hA : (0x41 : UInt8).toNat = 65 := rfl
  have ha : (0x61 : UInt8).toNat = 97 := rfl
  cases use with
  | greeting =>
    obtain ⟨hfirst, hlength⟩ := h
    cases other with
    | greeting => rfl
    | frame =>
      obtain ⟨first, hother, hrange⟩ := h'
      have := hne hfirst hother
      omega
    | announcement =>
      have := h'.2
      omega
    | pong =>
      have := hne hfirst h'
      omega
  | frame =>
    obtain ⟨first, hfirst, hrange⟩ := h
    cases other with
    | greeting =>
      have := hne hfirst h'.1
      omega
    | frame => rfl
    | announcement =>
      have := hne hfirst h'.1
      omega
    | pong =>
      have := hne hfirst h'
      omega
  | announcement =>
    obtain ⟨hfirst, hlength⟩ := h
    cases other with
    | greeting =>
      have := h'.2
      omega
    | frame =>
      obtain ⟨first, hother, hrange⟩ := h'
      have := hne hfirst hother
      omega
    | announcement => rfl
    | pong =>
      have := hne hfirst h'
      omega
  | pong =>
    cases other with
    | greeting =>
      have := hne h h'.1
      omega
    | frame =>
      obtain ⟨first, hother, hrange⟩ := h'
      have := hne h hother
      omega
    | announcement =>
      have := hne h h'.1
      omega
    | pong => rfl

/-! ## What each use looks like -/

lemma looks_signatureData {f : Frame} (hversion : f.header.version = protocolVersion) :
    frame.Looks (signatureData f) := by
  by_cases hfits : f.payload.length ≤ maxPayloadSize
  · refine ⟨byte0 f.header, ?_, .inr ?_⟩
    · rw [signatureData_eq hfits]
      rfl
    · rw [toNat_byte0 hversion]
      omega
  · -- the buffer is as it was made
    refine ⟨0, ?_, .inl rfl⟩
    rw [signatureData_of_lt (not_le.mp hfits), List.head?_replicate, if_neg]
    simp only [Frame.bodyBytes, List.length_append, length_fixedHeaderBytes]
    omega

lemma looks_originSigningBytesFor (origin : NodeId) (originClock : HybridClock)
    (capabilities : List AnnouncedCapability) :
    announcement.Looks (AnnouncePayload.originSigningBytesFor origin originClock capabilities) := by
  have hdomain : originSigDomain.length = 24 := by decide
  constructor
  · rfl
  · simp only [AnnouncePayload.originSigningBytesFor, List.length_append, hdomain,
      Vector.length_toList, HybridClock.length_toBytes, length_beBytes]
    omega

lemma looks_pongSigningBytes (echoedNonce : Vector UInt8 16) (respondedAt : UInt64) :
    pong.Looks (pongSigningBytes echoedNonce respondedAt) := rfl

lemma looks_of_mem_signs (h : message ∈ use.signs) :
    use.Looks message := by
  cases use with
  | greeting =>
    obtain ⟨nodeId, timestamp, rfl | rfl⟩ := h
    · exact ⟨rfl, length_helloBody ..⟩
    · exact ⟨rfl, length_helloBody ..⟩
  | frame =>
    obtain ⟨f, hversion, -, rfl⟩ := h
    exact looks_signatureData hversion
  | announcement =>
    obtain ⟨origin, originClock, capabilities, rfl⟩ := h
    exact looks_originSigningBytesFor origin originClock capabilities
  | pong =>
    obtain ⟨echoedNonce, respondedAt, rfl⟩ := h
    exact looks_pongSigningBytes echoedNonce respondedAt

lemma exists_looks_of_accepts {V : Verify} {node : NodeId} {signature : Signature}
    (h : use.Accepts V node signature) : ∃ message, use.Looks message ∧ V node message signature := by
  cases use with
  | greeting =>
    obtain ⟨data, timestamp, hextract, rfl⟩ := h
    obtain ⟨hsigned, rfl, -⟩ := extractSenderWithTimestamp_eq_some_iff.mp hextract
    have hlength := hsigned.length
    refine ⟨data.take 46, ⟨?_, by simp; omega⟩, hsigned.signature⟩
    have hhead : (data.take 4).head? = some 0x41 := by rw [hsigned.magic]; rfl
    rw [List.head?_take] at hhead ⊢
    simpa using hhead
  | frame =>
    obtain ⟨data, f, hdecode, rfl, hauth⟩ := h
    obtain ⟨hdecode, hverify⟩ := decodeVerifiedFrame_eq_some_iff.mp hdecode
    obtain ⟨-, sig, hsig, hV⟩ := FrameVerifier.verify_eq_true_iff.mp hverify
    obtain rfl := Authentication.signature.inj (hsig.symm.trans hauth)
    have hversion := (Decoder.decode_eq_ok_iff.mp hdecode).1.header.version
    exact ⟨signatureData f, looks_signatureData hversion, hV⟩
  | announcement =>
    obtain ⟨f, claim, ttl, hverified, rfl, hdecode⟩ := h
    obtain ⟨ttl', sig, hdecode', hV⟩ := exists_payload_of_verifiedClaim hverified
    have hpayload := Option.some.inj (hdecode'.symm.trans hdecode)
    obtain ⟨-, rfl⟩ : ttl' = ttl ∧ sig = signature := by simpa [Claim.payload] using hpayload
    exact ⟨claim.signingBytes, looks_originSigningBytesFor .., hV⟩
  | pong =>
    obtain ⟨ping, answer, nowUnix, hverify, rfl, rfl⟩ := h
    obtain ⟨-, -, hV⟩ := verifySignedPong_eq_ok_iff.mp hverify
    exact ⟨_, looks_pongSigningBytes .., hV⟩

end KeyUse

open KeyUse

/-- **A signature serves one use.** Whatever the fields are, the byte strings that are signed for
two uses are different. So if a signature verifies only for the bytes it was made for, then what a
node signed for one use is not accepted, in whatever is received, for another. -/
theorem signatures_serve_one_use :
    (∀ use other : KeyUse, use ≠ other → Disjoint use.signs other.signs) ∧
      ∀ (V : Verify) (keypair : Keypair) (use other : KeyUse) (message : List UInt8),
        use ≠ other → message ∈ use.signs →
          (∀ checked, V keypair.nodeId checked (keypair.sign message) → checked = message) →
            ¬ other.Accepts V keypair.nodeId (keypair.sign message) := by
  constructor
  · intro use other hne
    rw [Set.disjoint_left]
    intro message hsigned hother
    exact hne (looks_unique (looks_of_mem_signs hsigned)
      (looks_of_mem_signs hother))
  · intro V keypair use other message hne hsigned hbinding haccepts
    obtain ⟨checked, hlooks, hV⟩ := exists_looks_of_accepts haccepts
    obtain rfl := hbinding checked hV
    exact hne (looks_unique (looks_of_mem_signs hsigned) hlooks)

/-- A greeting's signature, under a key that made it for these bytes only. -/
theorem greeting_signature_serves_no_pong :
    ¬ KeyUse.pong.Accepts greeterVerify greeter.nodeId
      (greeter.sign (helloBody sampleOrigin helloMsgType 1700000000)) := by
  apply signatures_serve_one_use.2 greeterVerify greeter .greeting .pong _ (by decide)
    ⟨_, _, .inl rfl⟩
  intro checked hV
  by_contra hne
  simp only [greeterVerify, greeter, decide_true, Bool.true_and, decide_eq_true_eq, if_true,
    if_neg hne] at hV
  split_ifs at hV <;> exact absurd hV (by decide)

end AxiomCore
