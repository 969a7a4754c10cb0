import AxiomCore.Crypto.FrameSign

/-!
# Liveness of a WAN peer

Over the internet, nodes are connected by a QUIC library that dials by public key: the key of the
other end of a connection is known once the handshake is done. The node that accepts a connection
checks that the key is on its allowlist and answers one ping. The pong is signed, over a context
string, the nonce of the ping and a time, so the node that dialed knows that the private key is at
the other end now.

`handleIncoming_eq_ok_iff`: a connection is handed on exactly if its key is on the allowlist and
the exchange is completed.

The library is what its calls return: an `Awaited` value for each.

Source: `axiom-transport/src/wan.rs`.
-/

namespace AxiomCore

open Lib

/-! ## Pings and pongs -/

inductive WanError where
  | notAllowlisted (peer : NodeId)
  | responderMismatch (expected actual : NodeId)
  | badSignature
  | nonceMismatch
  | stale (age : Nat)
  | exchangeTimeout
  | transport (reason : String)

def livenessFreshnessWindowSecs : Nat := 30

def pongSigningContext : List UInt8 := utf8 "axiom-wan-pong-v1"

structure SignedPing where
  nonce : Vector UInt8 16
  /-- When, by the clock of the node that dials. -/
  sentAt : UInt64

namespace SignedPing

def toWire (ping : SignedPing) : List UInt8 :=
  ping.nonce.toList ++ beBytes 8 ping.sentAt.toNat

def fromWire (bytes : List UInt8) : SignedPing :=
  ⟨takeVec 16 bytes, UInt64.ofNat (beNat ((bytes.drop 16).take 8))⟩

lemma length_toWire (ping : SignedPing) : ping.toWire.length = 24 := by
  simp [toWire]

end SignedPing

structure SignedPong where
  responder : NodeId
  echoedNonce : Vector UInt8 16
  /-- When, by the clock of the node that answers. -/
  respondedAt : UInt64
  signature : Signature

def pongSigningBytes (echoedNonce : Vector UInt8 16) (respondedAt : UInt64) : List UInt8 :=
  pongSigningContext ++ (echoedNonce.toList ++ beBytes 8 respondedAt.toNat)

def buildSignedPong (keypair : Keypair) (ping : SignedPing) (respondedAt : UInt64) : SignedPong where
  responder := keypair.nodeId
  echoedNonce := ping.nonce
  respondedAt := respondedAt
  signature := keypair.sign (pongSigningBytes ping.nonce respondedAt)

def verifySignedPong (V : Verify) (ping : SignedPing) (pong : SignedPong) (nowUnix : UInt64) :
    Except WanError Unit :=
  if pong.echoedNonce ≠ ping.nonce then .error .nonceMismatch
  else
    let age := nowUnix.toNat - ping.sentAt.toNat
    if age > livenessFreshnessWindowSecs then .error (.stale age)
    else if ¬ V pong.responder (pongSigningBytes pong.echoedNonce pong.respondedAt)
        pong.signature then .error .badSignature
    else .ok ()

def encodePong (pong : SignedPong) : List UInt8 :=
  pong.responder.bytes.toList ++ (pong.echoedNonce.toList ++ (beBytes 8 pong.respondedAt.toNat ++
    pong.signature.bytes.toList))

def decodePong (bytes : List UInt8) : Except WanError SignedPong :=
  if bytes.length ≠ 32 + 16 + 8 + 64 then
    .error (.transport s!"malformed pong: {bytes.length} bytes")
  else .ok
    ⟨⟨takeVec 32 bytes⟩, takeVec 16 (bytes.drop 32),
      UInt64.ofNat (beNat ((bytes.drop 48).take 8)), ⟨takeVec 64 (bytes.drop 56)⟩⟩

variable {V : Verify} {nowUnix : UInt64} {keypair : Keypair} {allowlist : WanAllowlist}
  {peer : NodeId}

lemma verifySignedPong_eq_ok_iff {ping : SignedPing} {pong : SignedPong} :
    verifySignedPong V ping pong nowUnix = .ok () ↔
      pong.echoedNonce = ping.nonce ∧
        nowUnix.toNat - ping.sentAt.toNat ≤ livenessFreshnessWindowSecs ∧
        V pong.responder (pongSigningBytes pong.echoedNonce pong.respondedAt) pong.signature := by
  constructor
  · intro h
    by_cases hnonce : pong.echoedNonce = ping.nonce
    · rw [verifySignedPong, if_neg (not_not.mpr hnonce)] at h
      by_cases hstale : nowUnix.toNat - ping.sentAt.toNat > livenessFreshnessWindowSecs
      · simp only [if_pos hstale] at h
        cases h
      simp only [if_neg hstale] at h
      split_ifs at h with hV
      exact ⟨hnonce, not_lt.mp hstale, hV⟩
    · rw [verifySignedPong, if_pos hnonce] at h
      cases h
  · rintro ⟨hnonce, hfresh, hV⟩
    rw [verifySignedPong, if_neg (not_not.mpr hnonce)]
    simp only [if_neg (not_lt.mpr hfresh)]
    exact if_neg (not_not.mpr hV)

/-! ## Accepting a connection -/

structure WanAllowlist where
  allowed : Finset NodeId

namespace WanAllowlist

def isAllowed (allowlist : WanAllowlist) (id : NodeId) : Bool := id ∈ allowlist.allowed

def check (allowlist : WanAllowlist) (id : NodeId) : Except WanError Unit :=
  if allowlist.isAllowed id then .ok () else .error (.notAllowlisted id)

end WanAllowlist

/-- What an await of the library ends with. Source: crate `iroh`. -/
inductive Awaited (α : Type) where
  | done (value : α)
  | failed (reason : String)
  /-- The timeout around it, before it is done. -/
  | timedOut

/-- A connection that is accepted, by what the library returns for it: the key of the other end
after the handshake, what is read of the ping's stream, and whether the pong is written. Source:
crate `iroh`, `Incoming`. -/
structure Incoming where
  /-- The handshake; its timeout is that of the caller. -/
  handshake : Except String NodeId
  /-- The stream of the ping, accepted and read to its end. -/
  ping : Awaited (List UInt8)
  /-- The stream of the pong, written and finished. -/
  pong : Awaited Unit

/-- `WanEndpoint::handle_incoming`: the peer, and the pong that is sent to it. A stream is read up
to 1024 bytes. -/
def handleIncoming (allowlist : WanAllowlist) (keypair : Keypair) (incoming : Incoming)
    (nowUnix : UInt64) : Except WanError (NodeId × List UInt8) :=
  match incoming.handshake with
  | .error reason => .error (.transport reason)
  | .ok peer =>
    match allowlist.check peer with
    | .error e => .error e
    | .ok () =>
      match incoming.ping with
      | .timedOut => .error .exchangeTimeout
      | .failed reason => .error (.transport reason)
      | .done bytes =>
        if bytes.length > 1024 then .error (.transport "stream too long")
        else if bytes.length ≠ 24 then .error (.transport "malformed ping")
        else
          let pong := buildSignedPong keypair (.fromWire bytes) nowUnix
          match incoming.pong with
          | .timedOut => .error .exchangeTimeout
          | .failed reason => .error (.transport reason)
          | .done () => .ok (peer, encodePong pong)

/-- **Which connections are handed on.** The key of the other end is on the allowlist, a ping was
read and its pong was written. -/
theorem handleIncoming_eq_ok_iff
    {incoming : Incoming} {sent : List UInt8} :
    handleIncoming allowlist keypair incoming nowUnix = .ok (peer, sent) ↔
      incoming.handshake = .ok peer ∧ allowlist.isAllowed peer ∧
        (∃ bytes, incoming.ping = .done bytes ∧ bytes.length = 24 ∧
          sent = encodePong (buildSignedPong keypair (.fromWire bytes) nowUnix)) ∧
        incoming.pong = .done () := by
  constructor
  · intro h
    unfold handleIncoming at h
    rcases hhandshake : incoming.handshake with reason | remote
    · simp only [hhandshake] at h
      cases h
    simp only [hhandshake, WanAllowlist.check] at h
    by_cases hallowed : allowlist.isAllowed remote
    · simp only [if_pos hallowed] at h
      rcases hping : incoming.ping with bytes | reason | _
      · simp only [hping] at h
        split_ifs at h with hlong hlength
        rcases hpong : incoming.pong with _ | reason | _
        · simp only [hpong] at h
          cases h
          exact ⟨rfl, hallowed, ⟨bytes, rfl, not_not.mp hlength, rfl⟩, rfl⟩
        · simp only [hpong] at h
          cases h
        · simp only [hpong] at h
          cases h
      · simp only [hping] at h
        cases h
      · simp only [hping] at h
        cases h
    · simp only [if_neg hallowed] at h
      cases h
  · rintro ⟨hhandshake, hallowed, ⟨bytes, hping, hlength, rfl⟩, hpong⟩
    simp [handleIncoming, WanAllowlist.check, hhandshake, hallowed, hping, hlength, hpong]

/-! ## Dialing -/

/-- A connection that is dialed, by what the library returns for it. Source: crate `iroh`. -/
structure Dial where
  connect : Except String Unit
  /-- The ping is written, and what is answered is read to its end. -/
  reply : Awaited (List UInt8)

/-- `WanEndpoint::connect_direct_and_verify_liveness`, with the ping it draws and the clock reading
that it is verified at. -/
def connectDirectAndVerifyLiveness (V : Verify) (allowlist : WanAllowlist) (peer : NodeId)
    (ping : SignedPing) (dial : Dial) (nowUnix : UInt64) : Except WanError SignedPong := do
  allowlist.check peer
  match dial.connect with
  | .error reason => .error (.transport reason)
  | .ok () =>
    match dial.reply with
    | .timedOut => .error .exchangeTimeout
    | .failed reason => .error (.transport reason)
    | .done bytes =>
      if bytes.length > 1024 then .error (.transport "stream too long")
      else
        let pong ← decodePong bytes
        verifySignedPong V ping pong nowUnix
        if pong.responder ≠ peer then .error (.responderMismatch peer pong.responder)
        else .ok pong

lemma connect_eq_ok_iff {ping : SignedPing} {dial : Dial} {pong : SignedPong} :
    connectDirectAndVerifyLiveness V allowlist peer ping dial nowUnix = .ok pong ↔
      allowlist.isAllowed peer ∧ dial.connect = .ok () ∧
        (∃ bytes, dial.reply = .done bytes ∧ bytes.length ≤ 1024 ∧ decodePong bytes = .ok pong) ∧
        verifySignedPong V ping pong nowUnix = .ok () ∧ pong.responder = peer := by
  unfold connectDirectAndVerifyLiveness WanAllowlist.check
  simp only [bind, Except.bind]
  constructor
  · intro h
    by_cases hallowed : allowlist.isAllowed peer
    · rw [if_pos hallowed] at h
      rcases hconnect : dial.connect with reason | _
      · simp [hconnect] at h
      rcases hreply : dial.reply with bytes | reason | _
      · simp only [hconnect, hreply] at h
        split_ifs at h with hlong
        rcases hdecode : decodePong bytes with e | pong'
        · simp [hdecode] at h
        rcases hverify : verifySignedPong V ping pong' nowUnix with e | _
        · simp [hdecode, hverify] at h
        simp only [hdecode, hverify] at h
        split_ifs at h with hresponder
        cases h
        exact ⟨hallowed, rfl, ⟨bytes, rfl, not_lt.mp hlong, hdecode⟩, hverify,
          not_not.mp hresponder⟩
      · simp [hconnect, hreply] at h
      · simp [hconnect, hreply] at h
    · simp [hallowed] at h
  · rintro ⟨hallowed, hconnect, ⟨bytes, hreply, hlong, hdecode⟩, hverify, hresponder⟩
    simp [hallowed, hconnect, hreply, hlong, hdecode, hverify, hresponder]

lemma SignedPing.fromWire_toWire (ping : SignedPing) : .fromWire ping.toWire = ping := by
  have hlt := ping.sentAt.toNat_lt
  have hdrop : ping.toWire.drop 16 = beBytes 8 ping.sentAt.toNat := List.drop_left' (by simp)
  have htake : (beBytes 8 ping.sentAt.toNat).take 8 = beBytes 8 ping.sentAt.toNat :=
    List.take_of_length_le (by simp)
  rw [fromWire, hdrop, htake, toWire, takeVec_append, beNat_beBytes, Nat.mod_eq_of_lt (by omega),
    UInt64.ofNat_toNat]

lemma decodePong_encodePong (pong : SignedPong) : decodePong (encodePong pong) = .ok pong := by
  obtain ⟨⟨responder⟩, nonce, respondedAt, ⟨signature⟩⟩ := pong
  have hlt := respondedAt.toNat_lt
  unfold decodePong encodePong
  rw [if_neg (by simp)]
  have hnonce : ∀ rest, (responder.toList ++ rest).drop 32 = rest := fun _ =>
    List.drop_left' (by simp)
  have htime : ∀ rest, (responder.toList ++ (nonce.toList ++ rest)).drop 48 = rest := fun _ => by
    rw [← List.append_assoc, List.drop_left' (by simp)]
  have hsignature : ∀ bytes rest : List UInt8, bytes.length = 8 →
      (responder.toList ++ (nonce.toList ++ (bytes ++ rest))).drop 56 = rest := fun _ _ h => by
    rw [← List.append_assoc, ← List.append_assoc, List.drop_left' (by simp [h])]
  rw [hnonce, htime, hsignature _ _ (by simp), takeVec_append, takeVec_append, takeVec_toList,
    List.take_left' (by simp), beNat_beBytes, Nat.mod_eq_of_lt (by omega), UInt64.ofNat_toNat]

/-- **The liveness exchange.** Between two ends that follow the protocol it succeeds exactly if each
has the other one on its allowlist and the pong is back in time. And whatever is answered: the end
that dialed believes a peer only if the peer is on its allowlist, and has signed the nonce of this
very ping. -/
theorem liveness_exchange (V : Verify) (keypair : Keypair)
    (hsigns : ∀ message, V keypair.nodeId message (keypair.sign message))
    (dialing accepting : WanAllowlist) (dialer : NodeId) (ping : SignedPing)
    (respondedAt nowUnix : UInt64) :
    ((∃ sent pong,
        handleIncoming accepting keypair ⟨.ok dialer, .done ping.toWire, .done ()⟩ respondedAt =
          .ok (dialer, sent) ∧
        connectDirectAndVerifyLiveness V dialing keypair.nodeId ping ⟨.ok (), .done sent⟩ nowUnix =
          .ok pong) ↔
      accepting.isAllowed dialer ∧ dialing.isAllowed keypair.nodeId ∧
        nowUnix.toNat - ping.sentAt.toNat ≤ livenessFreshnessWindowSecs) ∧
    ∀ peer dial pong,
      connectDirectAndVerifyLiveness V dialing peer ping dial nowUnix = .ok pong →
        dialing.isAllowed peer ∧
          nowUnix.toNat - ping.sentAt.toNat ≤ livenessFreshnessWindowSecs ∧
          V peer (pongSigningBytes ping.nonce pong.respondedAt) pong.signature := by
  refine ⟨⟨?_, ?_⟩, fun peer dial pong hdialed => ?_⟩
  · rintro ⟨sent, pong, haccepted, hdialed⟩
    obtain ⟨hallowed, -, -, hverify, -⟩ := connect_eq_ok_iff.mp hdialed
    exact ⟨(handleIncoming_eq_ok_iff.mp haccepted).2.1, hallowed,
      (verifySignedPong_eq_ok_iff.mp hverify).2.1⟩
  · rintro ⟨haccepting, hdialing, hfresh⟩
    refine ⟨_, _, handleIncoming_eq_ok_iff.mpr
      ⟨rfl, haccepting, ⟨_, rfl, ping.length_toWire, rfl⟩, rfl⟩, connect_eq_ok_iff.mpr
        ⟨hdialing, rfl, ⟨_, rfl, ?_, decodePong_encodePong _⟩, verifySignedPong_eq_ok_iff.mpr
          ⟨?_, hfresh, hsigns _⟩, rfl⟩⟩
    · simp [encodePong]
    · rw [buildSignedPong, ping.fromWire_toWire]
  · obtain ⟨hallowed, -, -, hverify, hresponder⟩ := connect_eq_ok_iff.mp hdialed
    obtain ⟨hnonce, hfresh, hV⟩ := verifySignedPong_eq_ok_iff.mp hverify
    rw [hresponder, hnonce] at hV
    exact ⟨hallowed, hfresh, hV⟩

theorem liveness_exchange_in_time :
    let ping : SignedPing := ⟨.replicate 16 1, 100⟩
    ∃ sent pong,
      handleIncoming ⟨{sampleProvider}⟩ ⟨sampleOrigin, fun _ => ⟨.replicate 64 0⟩⟩
        ⟨.ok sampleProvider, .done ping.toWire, .done ()⟩ 101 = .ok (sampleProvider, sent) ∧
      connectDirectAndVerifyLiveness (fun _ _ _ => true) ⟨{sampleOrigin}⟩ sampleOrigin ping
        ⟨.ok (), .done sent⟩ 130 = .ok pong :=
  (liveness_exchange (fun _ _ _ => true) ⟨sampleOrigin, fun _ => ⟨.replicate 64 0⟩⟩ (fun _ => rfl)
    _ _ _ _ _ _).1.mpr ⟨by decide, by decide, by decide⟩

end AxiomCore
