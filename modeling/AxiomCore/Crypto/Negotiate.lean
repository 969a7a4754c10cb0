import AxiomCore.Crypto.FrameSign
import AxiomCore.Lib.Run

/-!
# Trust negotiation

Two nodes that meet exchange Hello, Challenge, Response and Ack, and each then holds a session with
the other. The initiator draws a nonce for its Hello, the responder one for its Challenge; the
Response is signed over the second, the Ack over both.

Source: `axiom-crypto/src/negotiate.rs`.
-/

namespace AxiomCore

open Lib

/-! ## Messages -/

inductive NegotiationState where
  | initial
  | challengeSent
  | challengeReceived
  | responseSent
  | established
  | failed
  deriving DecidableEq

inductive TrustMessageType where
  | hello
  | challenge
  | response
  | ack
  | upgradeRequest
  | upgradeResponse
  | downgradeNotify
  | error
  deriving DecidableEq

namespace TrustMessageType

def toU8 : TrustMessageType → UInt8
  | .hello => 0x01
  | .challenge => 0x02
  | .response => 0x03
  | .ack => 0x04
  | .upgradeRequest => 0x05
  | .upgradeResponse => 0x06
  | .downgradeNotify => 0x07
  | .error => 0x08

def fromU8 (v : UInt8) : Option TrustMessageType :=
  match v with
  | 0x01 => some .hello
  | 0x02 => some .challenge
  | 0x03 => some .response
  | 0x04 => some .ack
  | 0x05 => some .upgradeRequest
  | 0x06 => some .upgradeResponse
  | 0x07 => some .downgradeNotify
  | 0x08 => some .error
  | _ => none

end TrustMessageType

/-- What `OsRng` draws. -/
abbrev Nonce := Vector UInt8 32

structure HelloPayload where
  version : UInt16
  /-- The key of the sender, as the sender gives it. -/
  publicKey : Vector UInt8 32
  requestedTrust : TrustLevel
  capabilities : UInt32
  initiatorNonce : Nonce
  deriving DecidableEq

namespace HelloPayload

def encode (p : HelloPayload) : List UInt8 :=
  beBytes 2 p.version.toNat ++ p.publicKey.toList ++ [p.requestedTrust.toU8] ++
    beBytes 4 p.capabilities.toNat ++ p.initiatorNonce.toList

def decode (data : List UInt8) : Option HelloPayload :=
  if data.length < 71 then none
  else do
    let requestedTrust ←
      match data.getD 34 0 with
      | 0 => some TrustLevel.full
      | 1 => some TrustLevel.sig
      | 2 => some TrustLevel.compress
      | 3 => some TrustLevel.raw
      | _ => none
    some {
      version := UInt16.ofNat (beNat (data.take 2))
      publicKey := takeVec 32 (data.drop 2)
      requestedTrust := requestedTrust
      capabilities := UInt32.ofNat (beNat ((data.drop 35).take 4))
      initiatorNonce := takeVec 32 (data.drop 39) }

end HelloPayload

structure ChallengePayload where
  nonce : Nonce
  /-- Seconds. -/
  timestamp : UInt64
  /-- For how many seconds it may be answered. -/
  expirySecs : UInt32

namespace ChallengePayload

def new (nonce : Nonce) (timestamp : UInt64) : ChallengePayload := ⟨nonce, timestamp, 30⟩

def encode (p : ChallengePayload) : List UInt8 :=
  p.nonce.toList ++ beBytes 8 p.timestamp.toNat ++ beBytes 4 p.expirySecs.toNat

def decode (data : List UInt8) : Option ChallengePayload :=
  if data.length < 44 then none
  else some {
    nonce := takeVec 32 data
    timestamp := UInt64.ofNat (beNat ((data.drop 32).take 8))
    expirySecs := UInt32.ofNat (beNat ((data.drop 40).take 4)) }

def isValid (p : ChallengePayload) (currentTimestamp : UInt64) : Bool :=
  currentTimestamp ≤ p.timestamp + p.expirySecs.toUInt64

end ChallengePayload

structure ResponsePayload where
  nonce : Nonce
  /-- Over the transcript of the Response. -/
  signature : Signature

namespace ResponsePayload

def encode (p : ResponsePayload) : List UInt8 := p.nonce.toList ++ p.signature.bytes.toList

def decode (data : List UInt8) : Option ResponsePayload :=
  if data.length < 96 then none
  else some ⟨takeVec 32 data, ⟨takeVec 64 (data.drop 32)⟩⟩

end ResponsePayload

inductive NegotiationError where
  | versionMismatch
  | invalidSignature
  | challengeExpired
  | trustNotSupported
  | rateLimited
  | internal

/-! ## Transcripts -/

def responseTranscript (challengerId responderId : NodeId) (nonce : Nonce) : List UInt8 :=
  utf8 "AXIOM/negotiate-response/v1" ++ challengerId.bytes.toList ++ responderId.bytes.toList ++
    nonce.toList

/-- `ack_transcript`: what an Ack is signed over. -/
def ackTranscript (initiatorPubkey responderPubkey : Vector UInt8 32)
    (initiatorNonce challengeNonce : Nonce) (trustLevel : TrustLevel) : List UInt8 :=
  utf8 "AXIOM/negotiate-ack/v1" ++ initiatorPubkey.toList ++ responderPubkey.toList ++
    initiatorNonce.toList ++ challengeNonce.toList ++ [trustLevel.toU8]

lemma ackTranscript_inj {initiator initiator' responder responder' : Vector UInt8 32}
    {nonce nonce' challenge challenge' : Nonce} {level level' : TrustLevel}
    (h : ackTranscript initiator responder nonce challenge level =
      ackTranscript initiator' responder' nonce' challenge' level') :
    initiator = initiator' ∧ responder = responder' ∧ nonce = nonce' ∧ challenge = challenge' ∧
      level = level' := by
  simp only [ackTranscript, List.append_assoc] at h
  -- every part but the last has a fixed length
  obtain ⟨-, h⟩ := List.append_inj h rfl
  obtain ⟨hinitiator, h⟩ := List.append_inj h (by simp)
  obtain ⟨hresponder, h⟩ := List.append_inj h (by simp)
  obtain ⟨hnonce, h⟩ := List.append_inj h (by simp)
  obtain ⟨hchallenge, h⟩ := List.append_inj h (by simp)
  have hlevel : level = level' := by
    rw [← TrustLevel.fromU8_toU8 level, List.singleton_inj.mp h, TrustLevel.fromU8_toU8]
  exact ⟨Vector.toList_inj.mp hinitiator, Vector.toList_inj.mp hresponder,
    Vector.toList_inj.mp hnonce, Vector.toList_inj.mp hchallenge, hlevel⟩

/-! ## One negotiation -/

structure EstablishedSession where
  peerId : NodeId
  peerPublicKey : Vector UInt8 32
  trustLevel : TrustLevel
  /-- For trust level `Compress`. -/
  sessionToken : Option SessionToken
  /-- Nanoseconds. -/
  establishedAt : Nat
  /-- Nanoseconds. -/
  expiresIn : Nat
  deriving DecidableEq

structure NegotiationContext where
  state : NegotiationState
  keypair : Keypair
  localId : NodeId
  peerId : Option NodeId
  peerPublicKey : Option (Vector UInt8 32)
  pendingChallenge : Option ChallengePayload
  receivedChallenge : Option ChallengePayload
  /-- Ours, if we sent the Hello; else the one of the Hello. -/
  initiatorNonce : Option Nonce

namespace NegotiationContext

def new (keypair : Keypair) (localId : NodeId) : NegotiationContext :=
  ⟨.initial, keypair, localId, none, none, none, none, none⟩

/-- The frame of a message: `Trust`, under our id. -/
def trustFrame (ctx : NegotiationContext) (trustLevel : TrustLevel) (messageType : TrustMessageType)
    (body : List UInt8) : Frame :=
  Frame.new { FrameHeader.new .trust ctx.localId with trustLevel := trustLevel } .raw
    (messageType.toU8 :: body)

def createHello (ctx : NegotiationContext) (requestedTrust : TrustLevel) (nonce : Nonce) :
    Frame × NegotiationContext :=
  let payload : HelloPayload := {
    version := 1
    publicKey := ctx.keypair.nodeId.bytes
    requestedTrust := requestedTrust
    capabilities := 0xFFFFFFFF
    initiatorNonce := nonce }
  (ctx.trustFrame .full .hello payload.encode, { ctx with initiatorNonce := some nonce })

def createChallenge (ctx : NegotiationContext) (timestamp : UInt64) (nonce : Nonce) :
    Frame × NegotiationContext :=
  let challenge := ChallengePayload.new nonce timestamp
  (ctx.trustFrame .full .challenge challenge.encode,
    { ctx with pendingChallenge := some challenge, state := .challengeSent })

def createResponse (ctx : NegotiationContext) (challenge : ChallengePayload)
    (challengerId : NodeId) : Frame × NegotiationContext :=
  let transcript := responseTranscript challengerId ctx.localId challenge.nonce
  let response : ResponsePayload := ⟨challenge.nonce, ctx.keypair.sign transcript⟩
  (ctx.trustFrame .full .response response.encode,
    { ctx with
      receivedChallenge := some challenge
      peerId := some challengerId
      state := .responseSent })

def verifyResponse (V : Verify) (ctx : NegotiationContext) (response : ResponsePayload) :
    Except NegotiationError NegotiationContext :=
  match ctx.pendingChallenge with
  | none => .error .internal
  | some challenge =>
    if response.nonce ≠ challenge.nonce then .error .invalidSignature
    else
      match ctx.peerPublicKey, ctx.peerId with
      | some peerKey, some peerNodeId =>
        let transcript := responseTranscript ctx.localId peerNodeId challenge.nonce
        -- a key that is no point of the curve verifies nothing
        if V ⟨peerKey⟩ transcript response.signature then
          .ok { ctx with state := .established }
        else .error .invalidSignature
      | _, _ => .error .internal

def createAck (ctx : NegotiationContext) (trustLevel : TrustLevel) : Except NegotiationError Frame :=
  match ctx.peerPublicKey, ctx.initiatorNonce, ctx.pendingChallenge with
  | some initiatorPubkey, some initiatorNonce, some challenge =>
    let responderPubkey := ctx.keypair.nodeId.bytes
    let signature := ctx.keypair.sign
      (ackTranscript initiatorPubkey responderPubkey initiatorNonce challenge.nonce trustLevel)
    .ok (ctx.trustFrame trustLevel .ack
      (trustLevel.toU8 :: responderPubkey.toList ++ signature.bytes.toList))
  | _, _, _ => .error .internal

def processHello (ctx : NegotiationContext) (hello : HelloPayload) :
    Except NegotiationError NegotiationContext :=
  if hello.version ≠ 1 then .error .versionMismatch
  else .ok { ctx with
    peerPublicKey := some hello.publicKey
    peerId := some ⟨hello.publicKey⟩
    initiatorNonce := some hello.initiatorNonce
    state := .challengeReceived }

def getSession (ctx : NegotiationContext) (trustLevel : TrustLevel) (now : Nat) :
    Option EstablishedSession :=
  if ctx.state ≠ .established then none
  else do
    let peerId ← ctx.peerId
    let peerPublicKey ← ctx.peerPublicKey
    some {
      peerId := peerId
      peerPublicKey := peerPublicKey
      trustLevel := trustLevel
      sessionToken := none
      establishedAt := now
      expiresIn := 3600 * 10 ^ 9 }

def verifyAckTranscript (V : Verify) (ctx : NegotiationContext)
    (claimedResponderPubkey : Vector UInt8 32) (trustLevel : TrustLevel) (signature : Signature) :
    Bool :=
  match ctx.initiatorNonce, ctx.receivedChallenge with
  | some initiatorNonce, some challenge =>
    V ⟨claimedResponderPubkey⟩ (ackTranscript ctx.localId.bytes claimedResponderPubkey
      initiatorNonce challenge.nonce trustLevel) signature
  | _, _ => false

end NegotiationContext

open NegotiationContext

/-! ## The negotiator -/

structure TrustNegotiator where
  keypair : Keypair
  localId : NodeId
  negotiations : NodeId → Option NegotiationContext
  sessions : NodeId → Option EstablishedSession

def ackTrustLevel (data : List UInt8) : TrustLevel :=
  match data.getD 0 0 with
  | 0 => .full
  | 1 => .sig
  | 2 => .compress
  | _ => .raw

def ackPublicKey (data : List UInt8) : Vector UInt8 32 := takeVec 32 (data.drop 1)

def ackSignature (data : List UInt8) : Signature := ⟨takeVec 64 (data.drop 33)⟩

namespace TrustNegotiator

def new (keypair : Keypair) (localId : NodeId) : TrustNegotiator :=
  ⟨keypair, localId, fun _ => none, fun _ => none⟩

def setNegotiation (s : TrustNegotiator) (peerId : NodeId) (ctx : Option NegotiationContext) :
    TrustNegotiator :=
  { s with negotiations := Function.update s.negotiations peerId ctx }

def insertSession (s : TrustNegotiator) (peerId : NodeId) (session : Option EstablishedSession) :
    TrustNegotiator :=
  match session with
  | some session => { s with sessions := Function.update s.sessions peerId (some session) }
  | none => s

def startNegotiation (s : TrustNegotiator) (peerId : NodeId) (requestedTrust : TrustLevel)
    (nonce : Nonce) : Frame × TrustNegotiator :=
  let (hello, ctx) := (NegotiationContext.new s.keypair s.localId).createHello requestedTrust nonce
  (hello, s.setNegotiation peerId (some ctx))

def onHello (s : TrustNegotiator) (peerId : NodeId) (data : List UInt8) (timestamp : UInt64)
    (nonce : Nonce) : Except NegotiationError (Option Frame) × TrustNegotiator :=
  match HelloPayload.decode data with
  | none => (.error .internal, s)
  | some hello =>
    match (NegotiationContext.new s.keypair s.localId).processHello hello with
    | .error e => (.error e, s)
    | .ok ctx =>
      let (challengeFrame, ctx) := ctx.createChallenge timestamp nonce
      (.ok (some challengeFrame), s.setNegotiation peerId (some ctx))

def onChallenge (s : TrustNegotiator) (peerId : NodeId) (data : List UInt8) (timestamp : UInt64) :
    Except NegotiationError (Option Frame) × TrustNegotiator :=
  match ChallengePayload.decode data with
  | none => (.error .internal, s)
  | some challenge =>
    if !challenge.isValid timestamp then (.error .challengeExpired, s)
    else
      match s.negotiations peerId with
      | none => (.error .internal, s)
      | some ctx =>
        let (responseFrame, ctx) := ctx.createResponse challenge peerId
        (.ok (some responseFrame), s.setNegotiation peerId (some ctx))

def onResponse (V : Verify) (s : TrustNegotiator) (peerId : NodeId) (data : List UInt8)
    (now : Nat) : Except NegotiationError (Option Frame) × TrustNegotiator :=
  match ResponsePayload.decode data with
  | none => (.error .internal, s)
  | some response =>
    match s.negotiations peerId with
    | none => (.error .internal, s)
    | some ctx =>
      match ctx.verifyResponse V response with
      | .error e => (.error e, s)
      | .ok ctx =>
        match ctx.createAck .sig with
        -- `get_mut`: the context stays in the table, verified
        | .error e => (.error e, s.setNegotiation peerId (some ctx))
        | .ok ackFrame =>
          (.ok (some ackFrame),
            (s.insertSession peerId (ctx.getSession .sig now)).setNegotiation peerId none)

/-- The session that an Ack completes, if its signature verifies against the key it carries. -/
def acceptedAck (V : Verify) (ctx : NegotiationContext) (peerId : NodeId) (data : List UInt8)
    (now : Nat) : Option EstablishedSession :=
  if ctx.verifyAckTranscript V (ackPublicKey data) (ackTrustLevel data) (ackSignature data) then
    NegotiationContext.getSession
      { ctx with
        peerPublicKey := some (ackPublicKey data)
        peerId := some peerId
        state := .established }
      (ackTrustLevel data) now
  else none

def onAck (V : Verify) (s : TrustNegotiator) (peerId : NodeId) (data : List UInt8) (now : Nat) :
    Except NegotiationError (Option Frame) × TrustNegotiator :=
  if data.length ≥ 1 + 32 + 64 then
    match s.negotiations peerId with
    | none => (.ok none, s)
    | some ctx =>
      (.ok none,
        (s.setNegotiation peerId none).insertSession peerId (acceptedAck V ctx peerId data now))
  else (.ok none, s)

/-- `TrustNegotiator::process_frame`, where `OsRng` draws `nonce` if it is asked. -/
def processFrame (V : Verify) (s : TrustNegotiator) (frame : Frame) (timestamp : UInt64)
    (nonce : Nonce) (now : Nat) : Except NegotiationError (Option Frame) × TrustNegotiator :=
  match frame.payload with
  | [] => (.error .internal, s)
  | byte :: data =>
    match TrustMessageType.fromU8 byte with
    | none => (.error .internal, s)
    | some .hello => s.onHello frame.header.senderId data timestamp nonce
    | some .challenge => s.onChallenge frame.header.senderId data timestamp
    | some .response => s.onResponse V frame.header.senderId data now
    | some .ack => s.onAck V frame.header.senderId data now
    | some _ => (.ok none, s)

end TrustNegotiator

open TrustNegotiator

/-- A call on the negotiator, with what the generator draws and the clock reads in it. -/
inductive TrustEvent where
  | start (peerId : NodeId) (requestedTrust : TrustLevel) (nonce : Nonce)
  | deliver (frame : Frame) (timestamp : UInt64) (nonce : Nonce) (now : Nat)

def TrustNegotiator.step (V : Verify) (s : TrustNegotiator) : TrustEvent → TrustNegotiator
  | .start peerId requestedTrust nonce => (s.startNegotiation peerId requestedTrust nonce).2
  | .deliver frame timestamp nonce now => (s.processFrame V frame timestamp nonce now).2

/-! ## What the calls say of a slot -/

/-- How the negotiation in a slot was opened, and the nonce that this node drew for it. -/
inductive Opening where
  | started (nonce : Nonce)
  | greeted (hello : HelloPayload) (nonce : Nonce)
  deriving DecidableEq

namespace Opening

def ownNonce : Opening → Nonce
  | .started nonce => nonce
  | .greeted _ nonce => nonce

def initiatorNonce : Opening → Nonce
  | .started nonce => nonce
  | .greeted hello _ => hello.initiatorNonce

def challengeNonce : Opening → Option Nonce
  | .started _ => none
  | .greeted _ nonce => some nonce

def peerKey : Opening → Option (Vector UInt8 32)
  | .started _ => none
  | .greeted hello _ => some hello.publicKey

end Opening

open Opening

/-- The negotiation in a slot: how it was opened, and the challenge answered last. -/
structure Negotiation where
  opening : Opening
  challenge : Option ChallengePayload

def Frame.trustMessage (frame : Frame) : Option (TrustMessageType × List UInt8) :=
  match frame.payload with
  | [] => none
  | byte :: data => (TrustMessageType.fromU8 byte).map fun messageType => (messageType, data)

namespace TrustEvent

/-- The id under which the call acts. -/
def slot : TrustEvent → NodeId
  | .start peerId _ _ => peerId
  | .deliver frame _ _ _ => frame.header.senderId

def opening : TrustEvent → Option Opening
  | .start _ _ nonce => some (.started nonce)
  | .deliver frame _ nonce _ =>
    match frame.trustMessage with
    | some (.hello, data) =>
      ((HelloPayload.decode data).filter fun hello => hello.version = 1).map (.greeted · nonce)
    | _ => none

def challenge : TrustEvent → Option ChallengePayload
  | .start _ _ _ => none
  | .deliver frame timestamp _ _ =>
    match frame.trustMessage with
    | some (.challenge, data) =>
      (ChallengePayload.decode data).filter fun challenge => challenge.isValid timestamp
    | _ => none

end TrustEvent

def Negotiation.next (negotiation : Option Negotiation) (e : TrustEvent) : Option Negotiation :=
  match e.opening, e.challenge with
  | some opening, _ => some ⟨opening, none⟩
  | none, some challenge => negotiation.map fun n => { n with challenge := some challenge }
  | none, none => negotiation

/-- The negotiation that was opened last under an id. -/
def negotiation (slot : NodeId) (es : List TrustEvent) : Option Negotiation :=
  (es.filter fun e => e.slot = slot).foldl Negotiation.next none

lemma negotiation_concat (es : List TrustEvent) (e : TrustEvent) :
    negotiation e.slot (es ++ [e]) = Negotiation.next (negotiation e.slot es) e := by
  simp [negotiation]

lemma negotiation_concat_of_ne {slot : NodeId} {e : TrustEvent} (h : e.slot ≠ slot)
    (es : List TrustEvent) : negotiation slot (es ++ [e]) = negotiation slot es := by
  simp [negotiation, h]

/-- The context that a negotiation has in the table. -/
structure Negotiation.Of (localId slot : NodeId) (n : Negotiation) (ctx : NegotiationContext) :
    Prop where
  localId : ctx.localId = localId
  initiatorNonce : ctx.initiatorNonce = some n.opening.initiatorNonce
  /-- It has sent a challenge if a Hello opened it. -/
  pending : ctx.pendingChallenge.map (·.nonce) = n.opening.challengeNonce
  peerPublicKey : ctx.peerPublicKey = n.opening.peerKey
  /-- It knows the id of that key, or the one in the headers. -/
  peerId : ctx.peerId = some slot ∨ ctx.peerId = n.opening.peerKey.map NodeId.mk
  /-- It keeps the challenge it answered last. -/
  received : ctx.receivedChallenge = n.challenge

/-! ## What a call does to a slot -/

namespace NegotiationContext

variable {V : Verify} {ctx ctx' : NegotiationContext} {trustLevel : TrustLevel} {now : Nat}
  {session : EstablishedSession}

lemma of_verifyResponse {response : ResponsePayload}
    (h : ctx.verifyResponse V response = .ok ctx') :
    ctx' = { ctx with state := .established } ∧
      ∃ challenge peerKey peerId, ctx.pendingChallenge = some challenge ∧
        ctx.peerPublicKey = some peerKey ∧ ctx.peerId = some peerId ∧
        V ⟨peerKey⟩ (responseTranscript ctx.localId peerId challenge.nonce) response.signature := by
  unfold verifyResponse at h
  split at h
  · cases h
  next challenge hchallenge =>
  split at h
  · cases h
  split at h
  · next peerKey peerId hkey hid =>
    dsimp only at h
    split at h
    · next hverified =>
      exact ⟨(Except.ok.inj h).symm, challenge, peerKey, peerId, hchallenge, hkey, hid,
        hverified⟩
    · cases h
  · cases h

lemma of_getSession (h : ctx.getSession trustLevel now = some session) :
    ctx.peerId = some session.peerId ∧ ctx.peerPublicKey = some session.peerPublicKey ∧
      session.trustLevel = trustLevel := by
  unfold getSession at h
  split at h
  · cases h
  simp only [Option.bind_eq_bind, Option.bind_eq_some_iff] at h
  obtain ⟨peerId, hid, key, hkey, hsession⟩ := h
  cases hsession
  exact ⟨hid, hkey, rfl⟩

lemma of_verifyAckTranscript {key : Vector UInt8 32} {signature : Signature}
    (h : ctx.verifyAckTranscript V key trustLevel signature) :
    ∃ nonce challenge, ctx.initiatorNonce = some nonce ∧
      ctx.receivedChallenge = some challenge ∧
      V ⟨key⟩ (ackTranscript ctx.localId.bytes key nonce challenge.nonce trustLevel) signature := by
  unfold verifyAckTranscript at h
  split at h
  · next nonce challenge hnonce hchallenge =>
    exact ⟨nonce, challenge, hnonce, hchallenge, h⟩
  · cases h

end NegotiationContext

namespace TrustNegotiator

variable {V : Verify} {s : TrustNegotiator} {n peerId : NodeId} {data : List UInt8}
  {timestamp : UInt64} {nonce : Nonce} {now : Nat} {ctx : NegotiationContext}
  {session : EstablishedSession} {e : TrustEvent}

lemma of_acceptedAck (h : acceptedAck V ctx peerId data now = some session) :
    session.peerId = peerId ∧ session.peerPublicKey = ackPublicKey data ∧
      session.trustLevel = ackTrustLevel data ∧
      ∃ nonce challenge, ctx.initiatorNonce = some nonce ∧
        ctx.receivedChallenge = some challenge ∧
        V ⟨ackPublicKey data⟩ (ackTranscript ctx.localId.bytes (ackPublicKey data) nonce
          challenge.nonce (ackTrustLevel data)) (ackSignature data) := by
  unfold acceptedAck at h
  split at h
  · next hverified =>
    obtain ⟨hid, hkey, hlevel⟩ := of_getSession h
    exact ⟨(Option.some_inj.mp hid).symm, (Option.some_inj.mp hkey).symm, hlevel,
      of_verifyAckTranscript hverified⟩
  · cases h

@[simp] lemma negotiations_insertSession (s : TrustNegotiator) (peerId : NodeId)
    (session : Option EstablishedSession) :
    (s.insertSession peerId session).negotiations = s.negotiations := by
  cases session <;> rfl

@[simp] lemma localId_insertSession (s : TrustNegotiator) (peerId : NodeId)
    (session : Option EstablishedSession) : (s.insertSession peerId session).localId = s.localId := by
  cases session <;> rfl

lemma sessions_insertSession {new : Option EstablishedSession}
    (h : (s.insertSession peerId new).sessions n = some session) :
    s.sessions n = some session ∨ n = peerId ∧ new = some session := by
  rcases new with _ | new
  · exact .inl h
  by_cases hn : n = peerId
  · subst hn
    exact .inr ⟨rfl, by simpa [insertSession] using h⟩
  · exact .inl (by simpa [insertSession, hn] using h)

lemma processFrame_snd (V : Verify) (s : TrustNegotiator) (frame : Frame) (timestamp : UInt64)
    (nonce : Nonce) (now : Nat) :
    (s.processFrame V frame timestamp nonce now).2 =
      match frame.trustMessage with
      | some (.hello, data) => (s.onHello frame.header.senderId data timestamp nonce).2
      | some (.challenge, data) => (s.onChallenge frame.header.senderId data timestamp).2
      | some (.response, data) => (s.onResponse V frame.header.senderId data now).2
      | some (.ack, data) => (s.onAck V frame.header.senderId data now).2
      | _ => s := by
  unfold processFrame Frame.trustMessage
  rcases frame.payload with _ | ⟨byte, data⟩
  · rfl
  dsimp only
  rcases TrustMessageType.fromU8 byte with _ | messageType
  · rfl
  · cases messageType <;> rfl

lemma insertSession_setNegotiation (s : TrustNegotiator) (peerId : NodeId)
    (ctx : Option NegotiationContext) (session : Option EstablishedSession) :
    (s.setNegotiation peerId ctx).insertSession peerId session =
      (s.insertSession peerId session).setNegotiation peerId ctx := by
  cases session <;> rfl

/-- A frame that completes a negotiation with a session: a Response or an Ack. -/
inductive Completes (V : Verify) (frame : Frame) (ctx : NegotiationContext)
    (session : EstablishedSession) : Prop where
  | response {data : List UInt8} {now : Nat} {response : ResponsePayload}
      {verified : NegotiationContext} (hmessage : frame.trustMessage = some (.response, data))
      (hverified : ctx.verifyResponse V response = .ok verified)
      (hsession : verified.getSession .sig now = some session)
  | ack {data : List UInt8} {now : Nat} (hmessage : frame.trustMessage = some (.ack, data))
      (hsession : acceptedAck V ctx frame.header.senderId data now = some session)

/-- What a call can do: all of it in one slot. -/
inductive SlotMove (V : Verify) (s : TrustNegotiator) (e : TrustEvent) : TrustNegotiator → Prop where
  | opened {opening : Opening} {ctx : NegotiationContext} (hopening : e.opening = some opening)
      (hctx : (Negotiation.mk opening none).Of s.localId e.slot ctx) :
      SlotMove V s e (s.setNegotiation e.slot (some ctx))
  | answered {challenge : ChallengePayload} {ctx : NegotiationContext} (hopening : e.opening = none)
      (hchallenge : e.challenge = some challenge) (hctx : s.negotiations e.slot = some ctx) :
      SlotMove V s e (s.setNegotiation e.slot (some (ctx.createResponse challenge e.slot).2))
  | verified {ctx : NegotiationContext} (hopening : e.opening = none)
      (hchallenge : e.challenge = none) (hctx : s.negotiations e.slot = some ctx) :
      SlotMove V s e (s.setNegotiation e.slot (some { ctx with state := .established }))
  | closed {frame : Frame} {timestamp : UInt64} {nonce : Nonce} {now : Nat}
      {ctx : NegotiationContext} {session : Option EstablishedSession}
      (hevent : e = .deliver frame timestamp nonce now) (hctx : s.negotiations e.slot = some ctx)
      (hsession : ∀ new, session = some new → Completes V frame ctx new) :
      SlotMove V s e ((s.insertSession e.slot session).setNegotiation e.slot none)
  | idle (hopening : e.opening = none)
      (hchallenge : e.challenge = none ∨ s.negotiations e.slot = none) : SlotMove V s e s

section Branches

variable {frame : Frame}

lemma slotMove_onHello (hmessage : frame.trustMessage = some (.hello, data)) :
    SlotMove V s (.deliver frame timestamp nonce now)
      (s.onHello frame.header.senderId data timestamp nonce).2 := by
  unfold onHello
  rcases hdecode : HelloPayload.decode data with _ | hello
  · exact .idle (by simp [TrustEvent.opening, hmessage, hdecode])
      (.inl (by simp [TrustEvent.challenge, hmessage]))
  by_cases hversion : hello.version = 1
  · simp only [processHello, hversion, ne_eq, not_true_eq_false, if_false]
    have hopening : (TrustEvent.deliver frame timestamp nonce now).opening =
        some (.greeted hello nonce) := by
      simp [TrustEvent.opening, hmessage, hdecode, hversion]
    exact .opened hopening ⟨rfl, rfl, rfl, rfl, .inr rfl, rfl⟩
  · simp only [processHello, hversion, ne_eq, not_false_eq_true, if_true]
    exact .idle (by simp [TrustEvent.opening, hmessage, hdecode, hversion])
      (.inl (by simp [TrustEvent.challenge, hmessage]))

lemma slotMove_onChallenge (hmessage : frame.trustMessage = some (.challenge, data)) :
    SlotMove V s (.deliver frame timestamp nonce now)
      (s.onChallenge frame.header.senderId data timestamp).2 := by
  have hopening : (TrustEvent.deliver frame timestamp nonce now).opening = none := by
    simp [TrustEvent.opening, hmessage]
  unfold onChallenge
  rcases hdecode : ChallengePayload.decode data with _ | challenge
  · exact .idle hopening (.inl (by simp [TrustEvent.challenge, hmessage, hdecode]))
  dsimp only
  split_ifs with hvalid
  · exact .idle hopening
      (.inl (by simpa [TrustEvent.challenge, hmessage, hdecode] using hvalid))
  have hchallenge : (TrustEvent.deliver frame timestamp nonce now).challenge =
      some challenge := by
    simpa [TrustEvent.challenge, hmessage, hdecode] using hvalid
  rcases hctx : s.negotiations frame.header.senderId with _ | ctx
  · exact .idle hopening (.inr hctx)
  · exact .answered hopening hchallenge hctx

lemma slotMove_onResponse (hmessage : frame.trustMessage = some (.response, data)) :
    SlotMove V s (.deliver frame timestamp nonce now)
      (s.onResponse V frame.header.senderId data now).2 := by
  have hopening : (TrustEvent.deliver frame timestamp nonce now).opening = none := by
    simp [TrustEvent.opening, hmessage]
  have hchallenge : (TrustEvent.deliver frame timestamp nonce now).challenge = none := by
    simp [TrustEvent.challenge, hmessage]
  unfold onResponse
  rcases ResponsePayload.decode data with _ | response
  · exact .idle hopening (.inl hchallenge)
  rcases hctx : s.negotiations frame.header.senderId with _ | ctx
  · exact .idle hopening (.inl hchallenge)
  dsimp only
  rcases hverified : ctx.verifyResponse V response with error | verified
  · exact .idle hopening (.inl hchallenge)
  dsimp only
  rcases verified.createAck .sig with error | ackFrame
  · obtain rfl := (of_verifyResponse hverified).1
    exact .verified hopening hchallenge hctx
  · exact .closed rfl hctx fun new hnew => .response hmessage hverified hnew

lemma slotMove_onAck (hmessage : frame.trustMessage = some (.ack, data)) :
    SlotMove V s (.deliver frame timestamp nonce now)
      (s.onAck V frame.header.senderId data now).2 := by
  have hidle : SlotMove V s (.deliver frame timestamp nonce now) s :=
    .idle (by simp [TrustEvent.opening, hmessage]) (.inl (by simp [TrustEvent.challenge, hmessage]))
  unfold onAck
  split
  · rcases hctx : s.negotiations frame.header.senderId with _ | ctx
    · exact hidle
    dsimp only
    rw [insertSession_setNegotiation]
    exact .closed rfl hctx fun new hnew => .ack hmessage hnew
  · exact hidle

end Branches

lemma slotMove_step (V : Verify) (s : TrustNegotiator) (e : TrustEvent) :
    SlotMove V s e (s.step V e) := by
  rcases e with ⟨peerId, requestedTrust, nonce⟩ | ⟨frame, timestamp, nonce, now⟩
  · have hopening : (TrustEvent.start peerId requestedTrust nonce).opening =
        some (.started nonce) := rfl
    exact .opened hopening ⟨rfl, rfl, rfl, rfl, .inr rfl, rfl⟩
  rw [step, processFrame_snd]
  split
  · next data hmessage => exact slotMove_onHello hmessage
  · next data hmessage => exact slotMove_onChallenge hmessage
  · next data hmessage => exact slotMove_onResponse hmessage
  · next data hmessage => exact slotMove_onAck hmessage
  next hhello hchallenge _ _ =>
  refine .idle ?_ (.inl ?_)
  · dsimp only [TrustEvent.opening]
    split
    · next data hmessage => exact absurd hmessage (hhello data)
    · rfl
  · dsimp only [TrustEvent.challenge]
    split
    · next data hmessage => exact absurd hmessage (hchallenge data)
    · rfl

/-! ## What the table holds -/

lemma SlotMove.localId_eq {s' : TrustNegotiator} (h : SlotMove V s e s') :
    s'.localId = s.localId := by
  cases h
  all_goals simp [setNegotiation]

/-- Every context in the table is the one of the negotiation that the calls say its slot holds. -/
def Follows (s : TrustNegotiator) (es : List TrustEvent) : Prop :=
  ∀ slot ctx, s.negotiations slot = some ctx →
    ∃ n, negotiation slot es = some n ∧ n.Of s.localId slot ctx

namespace Follows

variable {es : List TrustEvent} {new : Option NegotiationContext}

lemma setNegotiation (h : s.Follows es)
    (hnew : ∀ ctx, new = some ctx →
      ∃ n, negotiation e.slot (es ++ [e]) = some n ∧ n.Of s.localId e.slot ctx) :
    (s.setNegotiation e.slot new).Follows (es ++ [e]) := by
  intro slot ctx hctx
  by_cases hslot : e.slot = slot
  · subst hslot
    apply hnew
    simpa [TrustNegotiator.setNegotiation] using hctx
  rw [negotiation_concat_of_ne hslot]
  apply h
  simpa [TrustNegotiator.setNegotiation, Function.update_of_ne (Ne.symm hslot)] using hctx

lemma insertSession (h : s.Follows es) (peerId : NodeId) (session : Option EstablishedSession) :
    (s.insertSession peerId session).Follows es := by
  intro slot ctx hctx
  rw [localId_insertSession]
  exact h slot ctx (by simpa using hctx)

lemma slotMove {s' : TrustNegotiator} (h : s.Follows es) (hmove : SlotMove V s e s') :
    s'.Follows (es ++ [e]) := by
  rcases hmove with ⟨hopening, hopened⟩ | ⟨hopening, hchallenge, hctx⟩ |
    ⟨hopening, hchallenge, hctx⟩ | ⟨-, -, -⟩ | ⟨hopening, hchallenge⟩
  · apply h.setNegotiation
    rintro _ ⟨⟩
    refine ⟨_, ?_, hopened⟩
    simp [negotiation_concat, Negotiation.next, hopening]
  · apply h.setNegotiation
    rintro _ ⟨⟩
    obtain ⟨n, hn, hof⟩ := h _ _ hctx
    refine ⟨{ n with challenge := some _ }, ?_, ⟨hof.localId, hof.initiatorNonce, hof.pending,
      hof.peerPublicKey, .inl rfl, rfl⟩⟩
    simp [negotiation_concat, Negotiation.next, hopening, hchallenge, hn]
  · apply h.setNegotiation
    rintro _ ⟨⟩
    obtain ⟨n, hn, hof⟩ := h _ _ hctx
    refine ⟨n, ?_, ⟨hof.localId, hof.initiatorNonce, hof.pending, hof.peerPublicKey, hof.peerId,
      hof.received⟩⟩
    simp [negotiation_concat, Negotiation.next, hopening, hchallenge, hn]
  · exact (h.insertSession _ _).setNegotiation nofun
  · intro slot ctx hctx
    by_cases hslot : e.slot = slot
    · subst hslot
      obtain ⟨n, hn, hof⟩ := h _ _ hctx
      have hnone : e.challenge = none := by
        apply hchallenge.resolve_right
        simp [hctx]
      refine ⟨n, ?_, hof⟩
      simp [negotiation_concat, Negotiation.next, hopening, hnone, hn]
    · rw [negotiation_concat_of_ne hslot]
      exact h slot ctx hctx

end Follows

lemma negotiations_run (V : Verify) (keypair : Keypair) (localId : NodeId)
    (es : List TrustEvent) :
    (run (step V) (new keypair localId) es).localId = localId ∧
      (run (step V) (new keypair localId) es).Follows es := by
  refine run_induction (P := fun es (s : TrustNegotiator) => s.localId = localId ∧ s.Follows es)
    ⟨rfl, fun _ _ hctx => by cases hctx⟩ ?_ es
  rintro es e ⟨hlocal, hfollows⟩
  have hmove := slotMove_step V (run (step V) (new keypair localId) es) e
  exact ⟨hmove.localId_eq.trans hlocal, hfollows.slotMove hmove⟩

end TrustNegotiator

/-! ## What a session rests on -/

/-- The key that the message completing a negotiation is checked against: the Ack brings its own,
for a Response it is the one of the Hello. -/
def carriedKey (opening : Opening) (frame : Frame) : Option (Vector UInt8 32) :=
  match frame.trustMessage with
  | some (.ack, data) => some (ackPublicKey data)
  | _ => opening.peerKey

inductive TranscriptWith (localId : NodeId) (nonce : Nonce) : List UInt8 → Prop where
  | response (peerId : NodeId) : TranscriptWith localId nonce (responseTranscript localId peerId nonce)
  | ack (key : Vector UInt8 32) (challengeNonce : Nonce) (trustLevel : TrustLevel) :
      TranscriptWith localId nonce
        (ackTranscript localId.bytes key nonce challengeNonce trustLevel)

/-- What a session under `slot` rests on that `frame` completed in the negotiation `n`. Nothing is
said of whose id the key is: it is the one the peer gave. Nor is anything said of signatures where
an Ack has completed a negotiation that a Hello opened. -/
structure EstablishedSession.RestsOn (Signed : NodeId → List UInt8 → Prop) (localId slot : NodeId)
    (n : Negotiation) (frame : Frame) (session : EstablishedSession) : Prop where
  /-- The key is the one that came with the Hello or with the Ack. -/
  key : carriedKey n.opening frame = some session.peerPublicKey
  /-- The id is the one in the headers, or spells that key. -/
  peerId : session.peerId = slot ∨ session.peerId = ⟨session.peerPublicKey⟩
  /-- The holder of the key has signed a transcript with a nonce of this node. -/
  signed : (frame.trustMessage.map Prod.fst = some .ack → n.opening.peerKey = none) →
    ∃ transcript, TranscriptWith localId n.opening.ownNonce transcript ∧
      Signed ⟨session.peerPublicKey⟩ transcript

namespace TrustNegotiator

variable {V : Verify} {Signed : NodeId → List UInt8 → Prop} {n : Negotiation}
  {ctx : NegotiationContext} {frame : Frame} {localId slot : NodeId} {session : EstablishedSession}

lemma Completes.restsOn
    (hunforgeable : ∀ key message signature, V key message signature → Signed key message)
    (hof : n.Of localId slot ctx) (hslot : frame.header.senderId = slot)
    (h : Completes V frame ctx session) : session.RestsOn Signed localId slot n frame := by
  rcases h with ⟨hmessage, hverified, hsession⟩ | ⟨hmessage, hsession⟩
  · obtain ⟨rfl, challenge, peerKey, peerId, hpending, hkey, hid, hV⟩ :=
      of_verifyResponse hverified
    obtain ⟨hid', hkey', -⟩ := of_getSession hsession
    cases hid.symm.trans hid'
    cases hkey.symm.trans hkey'
    -- a challenge is pending: a Hello opened the negotiation
    have hnonce := hof.pending
    have hpeerKey := hof.peerPublicKey
    rw [hpending, Option.map_some] at hnonce
    rw [hkey] at hpeerKey
    refine ⟨by simp [carriedKey, hmessage, hpeerKey], ?_, fun _ => ?_⟩
    · rcases hof.peerId with hpeer | hpeer
      · exact .inl (Option.some_inj.mp (hid.symm.trans hpeer))
      · rw [hid, ← hpeerKey] at hpeer
        exact .inr (Option.some_inj.mp hpeer)
    · have hown : challenge.nonce = n.opening.ownNonce := by
        rcases hopening : n.opening with own | ⟨hello, own⟩
        · simp [hopening, challengeNonce] at hnonce
        · simpa [hopening, challengeNonce, ownNonce] using hnonce
      rw [hof.localId, hown] at hV
      exact ⟨_, .response _, hunforgeable _ _ _ hV⟩
  · obtain ⟨hid, hkey, hlevel, nonce, challenge, hnonce, hchallenge, hV⟩ := of_acceptedAck hsession
    refine ⟨by simp [carriedKey, hmessage, hkey], .inl (hid.trans hslot), fun hstarted => ?_⟩
    have hown : nonce = n.opening.ownNonce := by
      have hkeyless := hstarted (by simp [hmessage])
      rw [hof.initiatorNonce] at hnonce
      rcases hopening : n.opening with own | ⟨hello, own⟩
      · simpa [hopening, Opening.initiatorNonce, ownNonce, eq_comm] using hnonce
      · simp [hopening, peerKey] at hkeyless
    rw [hof.localId, hown, ← hkey] at hV
    exact ⟨_, .ack .., hunforgeable _ _ _ hV⟩

lemma SlotMove.sessions_cases {s s' : TrustNegotiator} {e : TrustEvent} (h : SlotMove V s e s')
    (hsession : s'.sessions slot = some session) :
    s.sessions slot = some session ∨
      ∃ frame timestamp nonce now ctx, e = .deliver frame timestamp nonce now ∧
        frame.header.senderId = slot ∧ s.negotiations slot = some ctx ∧
        Completes V frame ctx session := by
  rcases h with - | - | - | ⟨rfl, hctx, hcompletes⟩ | -
  case closed =>
    rcases sessions_insertSession hsession with hold | ⟨rfl, hnew⟩
    · exact .inl hold
    · exact .inr ⟨_, _, _, _, _, rfl, rfl, hctx, hcompletes _ hnew⟩
  all_goals exact .inl hsession

/-- The session that the Ack branch installs, if the frame is an Ack and is accepted. -/
def ackInstalls (V : Verify) (s : TrustNegotiator) (frame : Frame) (now : Nat) :
    Option EstablishedSession :=
  match frame.trustMessage with
  | some (.ack, data) =>
    if data.length ≥ 1 + 32 + 64 then
      (s.negotiations frame.header.senderId).bind fun ctx =>
        acceptedAck V ctx frame.header.senderId data now
    else none
  | _ => none

end TrustNegotiator

/-- An Ack that installed a session under `slot` was signed for this very negotiation, one that this
node opened: the transcript names this node, the key, the nonce this node drew, the challenge it
answered, and the trust level, and no other transcript has the same bytes. -/
def AckAgrees (Signed : NodeId → List UInt8 → Prop) (localId slot : NodeId) (es : List TrustEvent)
    (session : EstablishedSession) : Prop :=
  ∃ nonce challenge, negotiation slot es = some ⟨.started nonce, some challenge⟩ ∧
    Signed ⟨session.peerPublicKey⟩ (ackTranscript localId.bytes session.peerPublicKey nonce
      challenge.nonce session.trustLevel) ∧
    ∀ initiator responder nonce' challengeNonce trustLevel,
      ackTranscript initiator responder nonce' challengeNonce trustLevel =
        ackTranscript localId.bytes session.peerPublicKey nonce challenge.nonce
          session.trustLevel →
      initiator = localId.bytes ∧ responder = session.peerPublicKey ∧ nonce' = nonce ∧
        challengeNonce = challenge.nonce ∧ trustLevel = session.trustLevel

/-- **What a session rests on.** After any calls, every session in the table was put there by a
Response or an Ack under its id. Its key is the one that came with the Hello or with the Ack; its id
is the one in the headers, or spells the key. The holder of the key has signed a transcript with a
nonce that this node drew for the negotiation, except where an Ack completed a negotiation that a
Hello had opened. -/
theorem sessions_proven (V : Verify) (Signed : NodeId → List UInt8 → Prop)
    (hunforgeable : ∀ key message signature, V key message signature → Signed key message)
    (keypair : Keypair) (localId : NodeId) (es : List TrustEvent) (slot : NodeId)
    (session : EstablishedSession)
    (hsession : (run (TrustNegotiator.step V) (.new keypair localId) es).sessions slot =
      some session) :
    ∃ es₁ frame timestamp nonce now es₂ n,
      es = es₁ ++ .deliver frame timestamp nonce now :: es₂ ∧
      frame.header.senderId = slot ∧ negotiation slot es₁ = some n ∧
      (run (TrustNegotiator.step V) (.new keypair localId)
        (es₁ ++ [.deliver frame timestamp nonce now])).sessions slot = some session ∧
      session.RestsOn Signed localId slot n frame := by
  -- the last call either left the session in its place or put it there
  induction es using List.reverseRecOn with
  | nil => cases hsession
  | append_singleton es e ih =>
    have hlast := hsession
    rw [run_append] at hsession
    rcases (slotMove_step V _ e).sessions_cases hsession with
      hold | ⟨frame, timestamp, nonce, now, ctx, rfl, hslot, hctx, hcompletes⟩
    · obtain ⟨es₁, frame, timestamp, nonce, now, es₂, n, rfl, hrest⟩ := ih hold
      exact ⟨es₁, frame, timestamp, nonce, now, es₂ ++ [e], n, by simp, hrest⟩
    obtain ⟨hlocal, hfollows⟩ := negotiations_run V keypair localId es
    obtain ⟨n, hn, hof⟩ := hfollows slot ctx hctx
    rw [hlocal] at hof
    exact ⟨es, frame, timestamp, nonce, now, [], n, rfl, hslot, hn, hlast,
      hcompletes.restsOn hunforgeable hof hslot⟩

/-! ### Samples -/

/-- The public key of the seed 32, 33, …, 63. -/
def negotiatorId : NodeId :=
  ⟨hex 32 0x29acbae141bccaf0b22e1a94d34d0bc7361e526d0bfe12c89794bc9322966dd7⟩

def sampleNonce (byte : UInt8) : Nonce := Vector.replicate 32 byte

/-- Ed25519 with the seed 32, 33, …, 63, on the Response and on the Ack that this node signs
below. -/
def negotiatorKeypair : Keypair where
  nodeId := negotiatorId
  sign message :=
    if message = responseTranscript sampleOrigin negotiatorId (sampleNonce 0x22) then
      ⟨hex 64 (0x85531a1206e95b7414d0d278e239511cfec69fe6d5997ff7daaa34404d3fd2f9 <<< 256 +
        0xebda8eccdd2092cd6d75a993a0cff240377a8a3399dae371b3f8e8afd51c1a01)⟩
    else if message = ackTranscript sampleOrigin.bytes negotiatorId.bytes (sampleNonce 0x44)
        (sampleNonce 0x33) .sig then
      ⟨hex 64 (0x48631ea487c15bba91ec2ce2c21c3a5a34e9c79cdea1aa319ca33c8f21cdee29 <<< 256 +
        0x9cdb1005cee46a101310d6c17152317be47401b14e4466da6c4481c514909d03)⟩
    else ⟨Vector.replicate 64 0⟩

/-- The Ack transcript that `sampleOrigin` signs below. -/
def peerAckTranscript : List UInt8 :=
  ackTranscript negotiatorId.bytes sampleOrigin.bytes (sampleNonce 0x11) (sampleNonce 0x22) .sig

def peerResponseTranscript : List UInt8 :=
  responseTranscript negotiatorId sampleOrigin (sampleNonce 0x33)

def peerAckSignature : Signature :=
  ⟨hex 64 (0xec7b938246f7cca11ad39c3500f3a44dcb3c9ae94a51f4fd462e97a6c2503e66 <<< 256 +
    0x790a22fc2a7ca612b2a32fb957e2d3b92904b44ef6d3b6455ba189d3c5e00a01)⟩

def peerResponseSignature : Signature :=
  ⟨hex 64 (0xcfb296d8a9f73e493f19807fd92eb398f4e0a3491b2350f97accf8ffde151804 <<< 256 +
    0xc8866f4ba21b812e501a3c1fc378da0d15d109b7e25196ac66ff35c709b7ce04)⟩

def negotiationVerify : Verify := fun node message signature =>
  decide (node = sampleOrigin) &&
    (decide (message = peerAckTranscript) && decide (signature = peerAckSignature) ||
      decide (message = peerResponseTranscript) && decide (signature = peerResponseSignature))

/-- What `sampleOrigin` has signed, and nobody else. -/
def peerSigned (node : NodeId) (message : List UInt8) : Prop :=
  node = sampleOrigin ∧ (message = peerAckTranscript ∨ message = peerResponseTranscript)

lemma peerSigned_of_negotiationVerify (key : NodeId) (message : List UInt8)
    (signature : Signature) (h : negotiationVerify key message signature) :
    peerSigned key message := by
  simp only [negotiationVerify, Bool.and_eq_true, Bool.or_eq_true, decide_eq_true_eq] at h
  obtain ⟨hkey, ⟨hmessage, -⟩ | ⟨hmessage, -⟩⟩ := h
  · exact ⟨hkey, .inl hmessage⟩
  · exact ⟨hkey, .inr hmessage⟩

def negotiationFrame (senderId : NodeId) (messageType : TrustMessageType) (body : List UInt8) :
    Frame :=
  Frame.new (FrameHeader.new .trust senderId) .raw (messageType.toU8 :: body)

def peerHello (nonce : Nonce) : HelloPayload := ⟨1, sampleOrigin.bytes, .sig, 0xFFFFFFFF, nonce⟩

def peerChallenge : ChallengePayload := .new (sampleNonce 0x22) 1700000000

def peerAckFrame : Frame :=
  negotiationFrame sampleOrigin .ack
    (TrustLevel.sig.toU8 :: sampleOrigin.bytes.toList ++ peerAckSignature.bytes.toList)

def answeredRun : List TrustEvent :=
  [.start sampleOrigin .sig (sampleNonce 0x11),
    .deliver (negotiationFrame sampleOrigin .challenge peerChallenge.encode) 1700000000
      (sampleNonce 0) 0]

def peerSession (now : Nat) : EstablishedSession :=
  ⟨sampleOrigin, sampleOrigin.bytes, .sig, none, now, 3600 * 10 ^ 9⟩

theorem session_of_ack_proven :
    (run (TrustNegotiator.step negotiationVerify) (.new negotiatorKeypair negotiatorId)
      (answeredRun ++ [.deliver peerAckFrame 1700000001 (sampleNonce 0) 7])).sessions sampleOrigin =
        some (peerSession 7) ∧
    ∃ es₁ frame timestamp nonce now es₂ n,
      answeredRun ++ [.deliver peerAckFrame 1700000001 (sampleNonce 0) 7] =
        es₁ ++ .deliver frame timestamp nonce now :: es₂ ∧
      frame.header.senderId = sampleOrigin ∧ negotiation sampleOrigin es₁ = some n ∧
      (run (TrustNegotiator.step negotiationVerify) (.new negotiatorKeypair negotiatorId)
        (es₁ ++ [.deliver frame timestamp nonce now])).sessions sampleOrigin =
          some (peerSession 7) ∧
      (peerSession 7).RestsOn peerSigned negotiatorId sampleOrigin n frame := by
  refine (and_iff_left_of_imp fun hsession => ?_).mpr (by decide +kernel)
  exact sessions_proven negotiationVerify peerSigned peerSigned_of_negotiationVerify
    negotiatorKeypair negotiatorId _ _ _ hsession

/-- **A session under an id that is not the peer's.** `sampleOrigin` sends its Hello and its
Response in frames that name another sender. The session is stored under that name, with the key and
the id of `sampleOrigin`. -/
theorem session_under_foreign_id :
    (run (TrustNegotiator.step negotiationVerify) (.new negotiatorKeypair negotiatorId)
      [.deliver (negotiationFrame ⟨Vector.replicate 32 0x42⟩ .hello
          (peerHello (sampleNonce 0x44)).encode) 1700000000 (sampleNonce 0x33) 0,
        .deliver (negotiationFrame ⟨Vector.replicate 32 0x42⟩ .response
          (ResponsePayload.mk (sampleNonce 0x33) peerResponseSignature).encode) 1700000001
          (sampleNonce 0) 7]).sessions ⟨Vector.replicate 32 0x42⟩ = some (peerSession 7) ∧
    (peerSession 7).peerPublicKey ≠ (NodeId.mk (Vector.replicate 32 0x42)).bytes ∧
    (peerSession 7).peerId ≠ ⟨Vector.replicate 32 0x42⟩ := by
  decide +kernel

/-- **When an Ack is agreed on.** An Ack that is accepted after any calls was signed for this very
negotiation exactly if this node opened it, with no Hello in the slot since. -/
theorem ack_agreement_iff (V : Verify) (Signed : NodeId → List UInt8 → Prop)
    (hunforgeable : ∀ key message signature, V key message signature → Signed key message)
    (keypair : Keypair) (localId : NodeId) (es : List TrustEvent) (frame : Frame) (now : Nat)
    (session : EstablishedSession)
    (hinstalls : (run (TrustNegotiator.step V) (.new keypair localId) es).ackInstalls V frame now =
      some session) :
    AckAgrees Signed localId frame.header.senderId es session ↔
      ∃ nonce, (negotiation frame.header.senderId es).map (·.opening) = some (.started nonce) := by
  constructor
  · rintro ⟨nonce, challenge, hnegotiation, -⟩
    exact ⟨nonce, by simp [hnegotiation]⟩
  · rintro ⟨nonce, hopening⟩
    unfold ackInstalls at hinstalls
    split at hinstalls
    · next data hmessage =>
      split at hinstalls
      · obtain ⟨ctx, hctx, haccepted⟩ := Option.bind_eq_some_iff.mp hinstalls
        obtain ⟨hlocal, hfollows⟩ := negotiations_run V keypair localId es
        obtain ⟨⟨opening, answered⟩, hn, hof⟩ := hfollows _ ctx hctx
        obtain ⟨-, hkey, hlevel, nonce', challenge, hnonce, hchallenge, hV⟩ :=
          of_acceptedAck haccepted
        -- the context keeps the nonce that was drawn and the challenge that was answered
        obtain rfl : opening = .started nonce := by simpa [hn] using hopening
        obtain rfl : answered = some challenge := hof.received.symm.trans hchallenge
        cases hof.initiatorNonce.symm.trans hnonce
        rw [hof.localId, hlocal, ← hkey, ← hlevel] at hV
        exact ⟨nonce, challenge, hn, hunforgeable _ _ _ hV,
          fun _ _ _ _ _ hbytes => ackTranscript_inj hbytes⟩
      · cases hinstalls
    · cases hinstalls

theorem answered_ack_agreed :
    (run (TrustNegotiator.step negotiationVerify) (.new negotiatorKeypair negotiatorId)
      answeredRun).ackInstalls negotiationVerify peerAckFrame 7 = some (peerSession 7) ∧
    AckAgrees peerSigned negotiatorId sampleOrigin answeredRun (peerSession 7) := by
  have hopened : (negotiation sampleOrigin answeredRun).map (·.opening) =
      some (.started (sampleNonce 0x11)) := by
    decide +kernel
  refine (and_iff_left_of_imp fun hinstalls => ?_).mpr (by decide +kernel)
  exact (ack_agreement_iff negotiationVerify peerSigned peerSigned_of_negotiationVerify
    negotiatorKeypair negotiatorId answeredRun peerAckFrame 7 _ hinstalls).mpr ⟨_, hopened⟩

/-- After the negotiation someone sends a Hello with the nonce that this node drew for it, and the
Challenge again. -/
def replayRun : List TrustEvent :=
  answeredRun ++
    [.deliver peerAckFrame 1700000001 (sampleNonce 0) 7,
      .deliver (negotiationFrame sampleOrigin .hello (peerHello (sampleNonce 0x11)).encode)
        1700000002 (sampleNonce 0x33) 8,
      .deliver (negotiationFrame sampleOrigin .challenge peerChallenge.encode) 1700000003
        (sampleNonce 0) 9]

/-- **An Ack that is replayed installs a session again.** The second time no nonce that this node
drew for the negotiation is in its transcript. -/
theorem replayed_ack_installs :
    (run (TrustNegotiator.step negotiationVerify) (.new negotiatorKeypair negotiatorId)
      answeredRun).ackInstalls negotiationVerify peerAckFrame 7 = some (peerSession 7) ∧
    (run (TrustNegotiator.step negotiationVerify) (.new negotiatorKeypair negotiatorId)
      replayRun).ackInstalls negotiationVerify peerAckFrame 10 = some (peerSession 10) ∧
    ¬ AckAgrees peerSigned negotiatorId sampleOrigin replayRun (peerSession 10) := by
  have hopened : (negotiation sampleOrigin replayRun).map (·.opening) =
      some (.greeted (peerHello (sampleNonce 0x11)) (sampleNonce 0x33)) := by
    decide +kernel
  refine ⟨by decide +kernel, by decide +kernel, ?_⟩
  rintro ⟨nonce, challenge, hstarted, -⟩
  rw [hstarted] at hopened
  cases hopened

end AxiomCore
