import AxiomCore.Lib.Blake3
import AxiomCore.Crypto.FrameSign
import AxiomCore.Crypto.IntentHash

/-!
# Session tokens

A frame of trust level `Compress` carries a token instead of a signature. Each of two peers derives
the token from their shared secret and from the id of the other one, and stores it under that id.

- `SessionManager`: the table of sessions with its operations. Clock readings are arguments.

Source: `axiom-crypto/src/frame_sign.rs`.
-/

namespace AxiomCore

open Lib Function

/-! ## The table -/

structure SessionInfo where
  token : SessionToken
  peerId : NodeId
  /-- Milliseconds. -/
  createdAt : UInt64
  /-- Milliseconds. -/
  expiresAt : UInt64
  frameCount : UInt64

/-- `SessionInfo::new`, when the clock reads `now`. -/
def SessionInfo.new (token : SessionToken) (peerId : NodeId) (ttlMs now : UInt64) : SessionInfo :=
  ⟨token, peerId, now, now + ttlMs, 0⟩

def SessionInfo.isExpired (info : SessionInfo) (now : UInt64) : Bool := now > info.expiresAt

lemma SessionInfo.not_isExpired_new {ttlMs created now : UInt64} (hvalid : now ≤ created + ttlMs)
    (token : SessionToken) (peerId : NodeId) :
    (SessionInfo.new token peerId ttlMs created).isExpired now = false := by
  simpa [isExpired, new] using hvalid

structure SessionManager where
  sessions : NodeId → Option SessionInfo

def sessionTokenInput (sharedSecret : Vector UInt8 32) (peerId : NodeId) : List UInt8 :=
  utf8 "AXIOM-SESSION-TOKEN-V1" ++ sharedSecret.toList ++ peerId.bytes.toList

def sessionToken (blake3 : List UInt8 → Digest) (sharedSecret : Vector UInt8 32)
    (peerId : NodeId) : SessionToken :=
  ⟨Vector.ofFn fun i : Fin 16 =>
    (blake3 (sessionTokenInput sharedSecret peerId)).get (i.castLE hash_le_digest)⟩

namespace SessionManager

def new : SessionManager := ⟨fun _ => none⟩

def createSession (blake3 : List UInt8 → Digest) (m : SessionManager) (peerId : NodeId)
    (sharedSecret : Vector UInt8 32) (ttlMs now : UInt64) : SessionToken × SessionManager :=
  let token := sessionToken blake3 sharedSecret peerId
  (token, ⟨update m.sessions peerId (some (.new token peerId ttlMs now))⟩)

def getSession (m : SessionManager) (peerId : NodeId) (now : UInt64) : Option SessionInfo :=
  (m.sessions peerId).filter fun info => !info.isExpired now

def getToken (m : SessionManager) (peerId : NodeId) (now : UInt64) : Option SessionToken :=
  (m.getSession peerId now).map (·.token)

/-- `SessionManager::verify_token`: the answer, and the table with the frame counted or the expired
session removed. -/
def verifyToken (m : SessionManager) (peerId : NodeId) (token : SessionToken) (now : UInt64) :
    Bool × SessionManager :=
  match m.sessions peerId with
  | some info =>
    if info.isExpired now then (false, ⟨update m.sessions peerId none⟩)
    else if info.token = token then
      (true, ⟨update m.sessions peerId
        (some { info with frameCount := info.frameCount + 1 })⟩)
    else (false, m)
  | none => (false, m)

variable {m : SessionManager} {peerId : NodeId} {token : SessionToken} {now : UInt64}

lemma verifyToken_iff :
    (m.verifyToken peerId token now).1 ↔
      ∃ info, m.sessions peerId = some info ∧ ¬ info.isExpired now ∧ info.token = token := by
  unfold verifyToken
  rcases hsession : m.sessions peerId with _ | info
  · simp
  by_cases hexpired : info.isExpired now
  · simp [hexpired]
  by_cases htoken : info.token = token
  · simp [hexpired, htoken]
  · simp [hexpired, htoken]

variable (blake3 : List UInt8 → Digest)

lemma sessions_createSession (m : SessionManager) (peerId : NodeId)
    (sharedSecret : Vector UInt8 32) (ttlMs now : UInt64) :
    (m.createSession blake3 peerId sharedSecret ttlMs now).2.sessions peerId =
      some (.new (sessionToken blake3 sharedSecret peerId) peerId ttlMs now) := by
  unfold createSession
  exact update_self ..

lemma createSession_getToken (m : SessionManager) (peerId : NodeId)
    (sharedSecret : Vector UInt8 32) {ttlMs created now : UInt64} (hvalid : now ≤ created + ttlMs) :
    (m.createSession blake3 peerId sharedSecret ttlMs created).2.getToken peerId now =
      some (sessionToken blake3 sharedSecret peerId) := by
  rw [getToken, getSession, sessions_createSession, Option.filter_some,
    SessionInfo.not_isExpired_new hvalid]
  rfl

lemma createSession_verifyToken (m : SessionManager) (peerId : NodeId)
    (sharedSecret : Vector UInt8 32) {ttlMs created now : UInt64} (hvalid : now ≤ created + ttlMs)
    (token : SessionToken) :
    ((m.createSession blake3 peerId sharedSecret ttlMs created).2.verifyToken peerId token now).1 ↔
      sessionToken blake3 sharedSecret peerId = token := by
  rw [verifyToken_iff]
  constructor
  · rintro ⟨info, hinfo, -, rfl⟩
    rw [sessions_createSession] at hinfo
    rw [← Option.some.inj hinfo]
    rfl
  · intro htoken
    refine ⟨_, sessions_createSession .., ?_, htoken⟩
    rw [SessionInfo.not_isExpired_new hvalid]
    exact Bool.false_ne_true

end SessionManager

/-! ## Two nodes -/

/-- One of two peers: its id and its sessions, and when it creates the one with the other, and for
how long. -/
structure SessionPeer where
  id : NodeId
  manager : SessionManager
  ttlMs : UInt64
  created : UInt64

def SessionPeer.withSession (blake3 : List UInt8 → Digest) (peer other : SessionPeer)
    (sharedSecret : Vector UInt8 32) : SessionManager :=
  (peer.manager.createSession blake3 other.id sharedSecret peer.ttlMs peer.created).2

/-- The sender takes its token for the receiver when its clock reads `sent`, and the receiver, whose
clock reads `received`, accepts the frame. Source: `axiom-transport/src/secure.rs`,
`SecureTransport::recv`. -/
def tokenAccepted (blake3 : List UInt8 → Digest) (sender receiver : SessionPeer)
    (sharedSecret : Vector UInt8 32) (sent received : UInt64) : Prop :=
  ∃ token, (sender.withSession blake3 receiver sharedSecret).getToken receiver.id sent = some token ∧
    ((receiver.withSession blake3 sender sharedSecret).verifyToken sender.id token received).1

lemma tokenAccepted_iff (blake3 : List UInt8 → Digest) (sender receiver : SessionPeer)
    (sharedSecret : Vector UInt8 32) {sent received : UInt64}
    (hsent : sent ≤ sender.created + sender.ttlMs)
    (hreceived : received ≤ receiver.created + receiver.ttlMs) :
    tokenAccepted blake3 sender receiver sharedSecret sent received ↔
      sessionToken blake3 sharedSecret sender.id = sessionToken blake3 sharedSecret receiver.id := by
  unfold tokenAccepted SessionPeer.withSession
  rw [SessionManager.createSession_getToken blake3 _ _ _ hsent]
  constructor
  · rintro ⟨token, htoken, hverify⟩
    rw [SessionManager.createSession_verifyToken blake3 _ _ _ hreceived] at hverify
    exact hverify.trans (Option.some.inj htoken).symm
  · intro heq
    exact ⟨_, rfl, (SessionManager.createSession_verifyToken blake3 _ _ _ hreceived _).mpr heq⟩

def TokensCollide (blake3 : List UInt8 → Digest) (sharedSecret : Vector UInt8 32) (a b : NodeId) :
    Prop :=
  ∀ i : Fin 16,
    (blake3 (sessionTokenInput sharedSecret a)).get (i.castLE hash_le_digest) =
      (blake3 (sessionTokenInput sharedSecret b)).get (i.castLE hash_le_digest)

lemma sessionToken_eq_iff {blake3 : List UInt8 → Digest} {sharedSecret : Vector UInt8 32}
    {a b : NodeId} :
    sessionToken blake3 sharedSecret a = sessionToken blake3 sharedSecret b ↔
      TokensCollide blake3 sharedSecret a b := by
  unfold sessionToken TokensCollide
  rw [SessionToken.mk.injEq]
  constructor
  · intro h i
    have hget := congrArg (fun v : Vector UInt8 16 => v[i]) h
    simpa using hget
  · intro h
    ext i hi
    simpa using congrArg UInt8.toNat (h ⟨i, hi⟩)

/-- **Each derives the token of the other one's id.** Two nodes create a session with each other
from the same secret. Before it expires, each accepts the frames that carry the other one's token
exactly if the hash of the secret with the one id and that with the other id start with the same 16
bytes. -/
theorem tokens_accepted_iff (blake3 : List UInt8 → Digest) (a b : SessionPeer)
    (sharedSecret : Vector UInt8 32) (sentByA receivedByB sentByB receivedByA : UInt64)
    (hsentByA : sentByA ≤ a.created + a.ttlMs) (hreceivedByB : receivedByB ≤ b.created + b.ttlMs)
    (hsentByB : sentByB ≤ b.created + b.ttlMs) (hreceivedByA : receivedByA ≤ a.created + a.ttlMs) :
    (tokenAccepted blake3 a b sharedSecret sentByA receivedByB ∧
      tokenAccepted blake3 b a sharedSecret sentByB receivedByA) ↔
        TokensCollide blake3 sharedSecret a.id b.id := by
  rw [tokenAccepted_iff blake3 a b sharedSecret hsentByA hreceivedByB,
    tokenAccepted_iff blake3 b a sharedSecret hsentByB hreceivedByA, ← sessionToken_eq_iff]
  constructor
  · exact fun h => h.1
  · exact fun h => ⟨h, h.symm⟩

def sampleSecret : Vector UInt8 32 := Vector.replicate 32 0x11

def sampleSessionPeer (byte : UInt8) : SessionPeer :=
  ⟨⟨Vector.replicate 32 byte⟩, .new, 60000, 1700000000000⟩

lemma sampleSessionPeer_valid (byte : UInt8) :
    1700000000001 ≤ (sampleSessionPeer byte).created + (sampleSessionPeer byte).ttlMs := by
  change (1700000000001 : UInt64) ≤ 1700000000000 + 60000
  decide

theorem distinct_tokens_not_both_accepted :
    ¬ (tokenAccepted Blake3.hash (sampleSessionPeer 0x41) (sampleSessionPeer 0x42) sampleSecret
        1700000000001 1700000000001 ∧
      tokenAccepted Blake3.hash (sampleSessionPeer 0x42) (sampleSessionPeer 0x41) sampleSecret
        1700000000001 1700000000001) := by
  have hA := sampleSessionPeer_valid 0x41
  have hB := sampleSessionPeer_valid 0x42
  rw [tokens_accepted_iff Blake3.hash (sampleSessionPeer 0x41) (sampleSessionPeer 0x42)
    sampleSecret _ _ _ _ hA hB hB hA, ← sessionToken_eq_iff]
  decide +kernel

/-- **Two nodes do not accept each other's tokens.** A millisecond after both created their session
from the same secret, neither accepts what the other one sends. -/
theorem peer_tokens_rejected :
    ¬ tokenAccepted Blake3.hash (sampleSessionPeer 0x41) (sampleSessionPeer 0x42) sampleSecret
        1700000000001 1700000000001 ∧
      ¬ tokenAccepted Blake3.hash (sampleSessionPeer 0x42) (sampleSessionPeer 0x41) sampleSecret
        1700000000001 1700000000001 := by
  have hdiffer : sessionToken Blake3.hash sampleSecret (sampleSessionPeer 0x41).id ≠
      sessionToken Blake3.hash sampleSecret (sampleSessionPeer 0x42).id := by
    decide +kernel
  have hA := sampleSessionPeer_valid 0x41
  have hB := sampleSessionPeer_valid 0x42
  constructor
  · rw [tokenAccepted_iff Blake3.hash _ _ sampleSecret hA hB]
    exact hdiffer
  · rw [tokenAccepted_iff Blake3.hash _ _ sampleSecret hB hA]
    exact hdiffer.symm

end AxiomCore
