import AxiomCore.Crypto.FrameSign
import AxiomCore.Lib.Run

/-!
# Key revocation

A node keeps a set of revoked keys. A key enters it by a certificate, which reaches the node in one
of five ways, or by the votes of enough witnesses; whenever one does, the registered session
invalidators are called.

- `RevocationMove`: what one call can do (`revocationMove_step`).
- `revocations_sound`: a key is revoked by one call, which justifies it, and stays revoked.
- `revoked_authority_iff`: when revoked keys have no part in a revocation.

Source: `axiom-crypto/src/revocation.rs`.
-/

namespace AxiomCore

open Lib List Function

/-! ## Data -/

inductive RevocationReason where
  | keyHolderRevoked
  | keyCompromised
  | keySuperseded
  | affiliationChanged
  | caRevoked
  | thresholdRevoked
  | securityEvent
  | unspecified

def RevocationReason.toU8 : RevocationReason → UInt8
  | .keyHolderRevoked => 0x01
  | .keyCompromised => 0x02
  | .keySuperseded => 0x03
  | .affiliationChanged => 0x04
  | .caRevoked => 0x05
  | .thresholdRevoked => 0x06
  | .securityEvent => 0x07
  | .unspecified => 0xFF

structure RevocationCertificate where
  revokedKeyId : KeyId
  timestampMs : UInt64
  sequence : UInt64
  reason : RevocationReason
  revokerId : KeyId
  signature : Signature
  supersededBy : Option KeyId

def RevocationCertificate.canonicalBytes (c : RevocationCertificate) : List UInt8 :=
  utf8 "AXIOM-REVOKE" ++ [0x00, 0x01] ++ c.revokedKeyId.toList ++ toLeBytes c.timestampMs ++
    toLeBytes c.sequence ++ [c.reason.toU8] ++ c.revokerId.toList ++
    match c.supersededBy with
    | some newKey => 0x01 :: newKey.toList
    | none => [0x00]

/-- `RevocationCertificate::verify`. A key that is no point of the curve verifies nothing. -/
def RevocationCertificate.verify (V : Verify) (c : RevocationCertificate)
    (revokerPublicKey : KeyId) : Bool :=
  V ⟨revokerPublicKey⟩ c.canonicalBytes c.signature

structure RevocationWitness where
  revokedKeyId : KeyId
  witnessId : KeyId
  timestampMs : UInt64
  reason : RevocationReason
  signature : Signature

def RevocationWitness.canonicalBytes (w : RevocationWitness) : List UInt8 :=
  utf8 "AXIOM-WITNESS" ++ [0x00, 0x01] ++ w.revokedKeyId.toList ++ w.witnessId.toList ++
    toLeBytes w.timestampMs ++ [w.reason.toU8]

def RevocationWitness.verify (V : Verify) (w : RevocationWitness) (witnessPublicKey : KeyId) :
    Bool :=
  V ⟨witnessPublicKey⟩ w.canonicalBytes w.signature

inductive RevocationSource where
  | direct
  | authority
  | webOfTrust (fromPeer : KeyId)
  | broadcast
  | crl

structure RevocationEntry where
  certificate : RevocationCertificate
  receivedAtMs : UInt64
  source : RevocationSource
  /-- The votes, if witnesses revoked the key. -/
  witnesses : List RevocationWitness

structure WebOfTrustConfig where
  /-- Least trust level of a peer that relays. -/
  minTrustLevel : UInt8
  witnessThreshold : UInt8 × UInt8
  maxCertificateAgeMs : UInt64
  allowSelfRevocation : Bool

def WebOfTrustConfig.default : WebOfTrustConfig where
  minTrustLevel := 3
  witnessThreshold := (3, 5)
  maxCertificateAgeMs := 365 * 24 * 60 * 60 * 1000
  allowSelfRevocation := true

structure TrustRelationship where
  peerId : KeyId
  trustLevel : UInt8
  canPropagateRevocations : Bool
  canWitness : Bool

inductive RevocationAction where
  | revoked (keyId : KeyId)
  | alreadyRevoked
  | witnessRecorded (keyId : KeyId) (currentWitnesses required : Nat)
  | thresholdReached (keyId : KeyId)

inductive RevocationError where
  | certificateExpired
  | selfRevocationDisabled
  | invalidRevoker
  | invalidSignature
  | notAuthorized
  | untrustedSource
  | insufficientTrust
  | propagationNotAllowed
  | witnessNotAllowed
  | witnessIdMismatch
  | duplicateWitness

/-- The tables, and which session invalidators were called for which keys. -/
structure RevocationManager where
  config : WebOfTrustConfig
  revokedKeys : KeyId → Option RevocationEntry
  /-- Votes so far, by the key they are about; a key without votes has none. -/
  pendingThreshold : KeyId → List RevocationWitness
  /-- Votes are kept under the key they are about. -/
  pending_about : ∀ keyId, ∀ w ∈ pendingThreshold keyId, w.revokedKeyId = keyId
  trustRelationships : KeyId → Option TrustRelationship
  keyIssuers : KeyId → List KeyId
  /-- How many session invalidators there are. -/
  sessionInvalidators : Nat
  /-- Which of them were called, and for which key. -/
  invoked : List (Nat × KeyId)

namespace RevocationManager

def new (config : WebOfTrustConfig) : RevocationManager where
  config := config
  revokedKeys _ := none
  pendingThreshold _ := []
  pending_about := nofun
  trustRelationships _ := none
  keyIssuers _ := []
  sessionInvalidators := 0
  invoked := []

def isRevoked (m : RevocationManager) (keyId : KeyId) : Bool := (m.revokedKeys keyId).isSome

def registerSessionInvalidator (m : RevocationManager) : RevocationManager :=
  { m with sessionInvalidators := m.sessionInvalidators + 1 }

def invalidateSessions (m : RevocationManager) (keyId : KeyId) : RevocationManager :=
  { m with invoked := m.invoked ++ (List.range m.sessionInvalidators).map fun i => (i, keyId) }

def addTrust (m : RevocationManager) (relationship : TrustRelationship) : RevocationManager :=
  { m with
    trustRelationships :=
      update m.trustRelationships relationship.peerId (some relationship) }

def removeTrust (m : RevocationManager) (peerId : KeyId) : RevocationManager :=
  { m with trustRelationships := update m.trustRelationships peerId none }

def registerKeyIssuer (m : RevocationManager) (keyId issuerId : KeyId) : RevocationManager :=
  if (m.keyIssuers keyId).contains issuerId then m
  else
    { m with
      keyIssuers := update m.keyIssuers keyId (m.keyIssuers keyId ++ [issuerId]) }

def isRegisteredAuthority (m : RevocationManager) (keyId revokerId : KeyId) : Bool :=
  (m.keyIssuers keyId).contains revokerId

def insertRevoked (m : RevocationManager) (keyId : KeyId) (entry : RevocationEntry) :
    RevocationManager :=
  { m with revokedKeys := update m.revokedKeys keyId (some entry) }.invalidateSessions
    keyId

def setPending (m : RevocationManager) (keyId : KeyId) (votes : List RevocationWitness)
    (h : ∀ w ∈ votes, w.revokedKeyId = keyId) : RevocationManager :=
  { m with
    pendingThreshold := update m.pendingThreshold keyId votes
    pending_about := by
      intro key w hw
      by_cases hkey : key = keyId
      · subst hkey
        rw [update_self] at hw
        exact h w hw
      · rw [update_of_ne hkey] at hw
        exact m.pending_about key w hw }

variable (V : Verify)

/-- A certificate by the key itself or by an issuer of it, whichever way it came. -/
def checkSelfOrAuthority (m : RevocationManager) (certificate : RevocationCertificate) :
    Except RevocationError Unit :=
  if certificate.revokerId = certificate.revokedKeyId then
    if !m.config.allowSelfRevocation then .error .selfRevocationDisabled
    else if !certificate.verify V certificate.revokedKeyId then .error .invalidSignature
    else .ok ()
  else
    if !certificate.verify V certificate.revokerId then .error .invalidSignature
    else if !m.isRegisteredAuthority certificate.revokedKeyId certificate.revokerId then
      .error .notAuthorized
    else .ok ()

def checkSource (m : RevocationManager) (certificate : RevocationCertificate) :
    RevocationSource → Except RevocationError Unit
  | .direct =>
    if !m.config.allowSelfRevocation then .error .selfRevocationDisabled
    else if certificate.revokerId ≠ certificate.revokedKeyId then .error .invalidRevoker
    else if !certificate.verify V certificate.revokedKeyId then .error .invalidSignature
    else .ok ()
  | .authority =>
    if !certificate.verify V certificate.revokerId then .error .invalidSignature
    else if !m.isRegisteredAuthority certificate.revokedKeyId certificate.revokerId then
      .error .notAuthorized
    else .ok ()
  | .webOfTrust fromPeer =>
    match m.trustRelationships fromPeer with
    | none => .error .untrustedSource
    | some trust =>
      if trust.trustLevel < m.config.minTrustLevel then .error .insufficientTrust
      else if !trust.canPropagateRevocations then .error .propagationNotAllowed
      else m.checkSelfOrAuthority V certificate
  | .broadcast => m.checkSelfOrAuthority V certificate
  | .crl => m.checkSelfOrAuthority V certificate

def processRevocation (m : RevocationManager) (certificate : RevocationCertificate)
    (source : RevocationSource) (currentTimeMs : UInt64) :
    Except RevocationError RevocationAction × RevocationManager :=
  if m.isRevoked certificate.revokedKeyId then (.ok .alreadyRevoked, m)
  else if saturatingSub64 currentTimeMs certificate.timestampMs > m.config.maxCertificateAgeMs then
    (.error .certificateExpired, m)
  else
    match m.checkSource V certificate source with
    | .error e => (.error e, m)
    | .ok () =>
      (.ok (.revoked certificate.revokedKeyId),
        m.insertRevoked certificate.revokedKeyId ⟨certificate, currentTimeMs, source, []⟩)

def thresholdEntry (keyId : KeyId) (witnesses : List RevocationWitness) (currentTimeMs : UInt64) :
    RevocationEntry where
  certificate :=
    { revokedKeyId := keyId
      timestampMs := currentTimeMs
      sequence := 0
      reason := .thresholdRevoked
      revokerId := .replicate 32 0
      signature := ⟨.replicate 64 0⟩
      supersededBy := none }
  receivedAtMs := currentTimeMs
  source := .direct
  witnesses := witnesses

def votesWith (m : RevocationManager) (witness : RevocationWitness) : List RevocationWitness :=
  m.pendingThreshold witness.revokedKeyId ++ [witness]

lemma votesWith_about (m : RevocationManager) (witness : RevocationWitness) :
    ∀ w ∈ m.votesWith witness, w.revokedKeyId = witness.revokedKeyId := by
  intro w hw
  rcases mem_append.mp hw with hold | hnew
  · exact m.pending_about witness.revokedKeyId w hold
  · rw [mem_singleton.mp hnew]

/-- A vote that passed its checks is added. With enough of them the key is revoked, and the list of
its votes starts again. -/
def recordVote (m : RevocationManager) (witness : RevocationWitness) (currentTimeMs : UInt64) :
    Except RevocationError RevocationAction × RevocationManager :=
  let keyId := witness.revokedKeyId
  let pending := m.votesWith witness
  let required := m.config.witnessThreshold.1.toNat
  if pending.length ≥ required then
    (.ok (.thresholdReached keyId),
      (m.setPending keyId [] nofun).insertRevoked keyId
        (thresholdEntry keyId pending currentTimeMs))
  else
    (.ok (.witnessRecorded keyId pending.length required),
      m.setPending keyId pending (m.votesWith_about witness))

/-- `process_witness_vote`. All votes under a key are about it, so the key of the first vote, under
which the source revokes, is the key of this one. -/
def processWitnessVote (m : RevocationManager) (witness : RevocationWitness)
    (witnessPublicKey : KeyId) (currentTimeMs : UInt64) :
    Except RevocationError RevocationAction × RevocationManager :=
  if m.isRevoked witness.revokedKeyId then (.ok .alreadyRevoked, m)
  else
    match m.trustRelationships witnessPublicKey with
    | none => (.error .untrustedSource, m)
    | some trust =>
      if !trust.canWitness then (.error .witnessNotAllowed, m)
      else if !witness.verify V witnessPublicKey then (.error .invalidSignature, m)
      else if witness.witnessId ≠ witnessPublicKey then (.error .witnessIdMismatch, m)
      else if (m.pendingThreshold witness.revokedKeyId).any
          fun w => w.witnessId = witness.witnessId then
        (.error .duplicateWitness, m)
      else m.recordVote witness currentTimeMs

end RevocationManager

open RevocationManager

inductive RevocationEvent where
  | processRevocation (certificate : RevocationCertificate) (source : RevocationSource)
      (currentTimeMs : UInt64)
  | processWitnessVote (witness : RevocationWitness) (witnessPublicKey : KeyId)
      (currentTimeMs : UInt64)
  | addTrust (relationship : TrustRelationship)
  | removeTrust (peerId : KeyId)
  | registerKeyIssuer (keyId issuerId : KeyId)
  | registerSessionInvalidator

def RevocationManager.step (V : Verify) (m : RevocationManager) :
    RevocationEvent → RevocationManager
  | .processRevocation certificate source currentTimeMs =>
    (m.processRevocation V certificate source currentTimeMs).2
  | .processWitnessVote witness witnessPublicKey currentTimeMs =>
    (m.processWitnessVote V witness witnessPublicKey currentTimeMs).2
  | .addTrust relationship => m.addTrust relationship
  | .removeTrust peerId => m.removeTrust peerId
  | .registerKeyIssuer keyId issuerId => m.registerKeyIssuer keyId issuerId
  | .registerSessionInvalidator => m.registerSessionInvalidator

/-! ## What a call does -/

namespace RevocationManager

def mayWitness (m : RevocationManager) (peerId : KeyId) : Bool :=
  (m.trustRelationships peerId).any (·.canWitness)

variable {V : Verify} {m : RevocationManager}

variable (V m) in
/-- What `process_revocation` asks of a certificate. -/
structure ValidCertificate (certificate : RevocationCertificate) (source : RevocationSource)
    (currentTimeMs : UInt64) : Prop where
  fresh : ¬ m.isRevoked certificate.revokedKeyId
  recent :
    saturatingSub64 currentTimeMs certificate.timestampMs ≤ m.config.maxCertificateAgeMs
  checked : m.checkSource V certificate source = .ok ()

variable (V m) in
/-- What `process_witness_vote` asks of a vote. -/
structure ValidVote (witness : RevocationWitness) (witnessPublicKey : KeyId) : Prop where
  fresh : ¬ m.isRevoked witness.revokedKeyId
  allowed : m.mayWitness witnessPublicKey
  signed : witness.verify V witnessPublicKey
  named : witness.witnessId = witnessPublicKey
  first : ∀ w ∈ m.pendingThreshold witness.revokedKeyId, w.witnessId ≠ witness.witnessId

/-- **What a call can do**: revoke by a certificate, take a vote, revoke by the vote that completes
the quorum, or leave keys and votes as they are. -/
inductive RevocationMove (V : Verify) (m : RevocationManager) (e : RevocationEvent) :
    RevocationManager → Prop where
  | certificate {certificate : RevocationCertificate} {source : RevocationSource}
      {currentTimeMs : UInt64} (hevent : e = .processRevocation certificate source currentTimeMs)
      (hvalid : m.ValidCertificate V certificate source currentTimeMs) :
      RevocationMove V m e
        (m.insertRevoked certificate.revokedKeyId ⟨certificate, currentTimeMs, source, []⟩)
  | recorded {witness : RevocationWitness} {witnessPublicKey : KeyId} {currentTimeMs : UInt64}
      (hevent : e = .processWitnessVote witness witnessPublicKey currentTimeMs)
      (hvalid : m.ValidVote V witness witnessPublicKey)
      (hfew : (m.votesWith witness).length < m.config.witnessThreshold.1.toNat) :
      RevocationMove V m e
        (m.setPending witness.revokedKeyId (m.votesWith witness) (m.votesWith_about witness))
  | reached {witness : RevocationWitness} {witnessPublicKey : KeyId} {currentTimeMs : UInt64}
      (hevent : e = .processWitnessVote witness witnessPublicKey currentTimeMs)
      (hvalid : m.ValidVote V witness witnessPublicKey)
      (henough : m.config.witnessThreshold.1.toNat ≤ (m.votesWith witness).length) :
      RevocationMove V m e
        ((m.setPending witness.revokedKeyId [] nofun).insertRevoked witness.revokedKeyId
          (thresholdEntry witness.revokedKeyId (m.votesWith witness) currentTimeMs))
  | tables {m' : RevocationManager} (hrevoked : m'.revokedKeys = m.revokedKeys)
      (hpending : m'.pendingThreshold = m.pendingThreshold) (hinvoked : m'.invoked = m.invoked)
      (hconfig : m'.config = m.config)
      (hissuers : ∀ keyId, ∀ issuerId ∈ m'.keyIssuers keyId,
        issuerId ∈ m.keyIssuers keyId ∨ e = .registerKeyIssuer keyId issuerId) :
      RevocationMove V m e m'

lemma RevocationMove.refused {e : RevocationEvent} : RevocationMove V m e m :=
  .tables rfl rfl rfl rfl fun _ _ h => .inl h

lemma processRevocation_cases (V : Verify) (m : RevocationManager)
    (certificate : RevocationCertificate) (source : RevocationSource) (currentTimeMs : UInt64) :
    (m.processRevocation V certificate source currentTimeMs).2 = m ∧
        ¬ m.ValidCertificate V certificate source currentTimeMs ∨
      m.ValidCertificate V certificate source currentTimeMs ∧
        (m.processRevocation V certificate source currentTimeMs).2 =
          m.insertRevoked certificate.revokedKeyId
            ⟨certificate, currentTimeMs, source, []⟩ := by
  unfold processRevocation
  split_ifs with hrevoked hold
  · exact .inl ⟨rfl, fun h => h.fresh hrevoked⟩
  · exact .inl ⟨rfl, fun h => UInt64.not_lt.mpr h.recent hold⟩
  rcases hcheck : m.checkSource V certificate source with error | ⟨⟩
  · refine .inl ⟨rfl, fun h => ?_⟩
    have hok := h.checked
    rw [hcheck] at hok
    cases hok
  · exact .inr ⟨⟨hrevoked, UInt64.not_lt.mp hold, hcheck⟩, rfl⟩

lemma processWitnessVote_cases (V : Verify) (m : RevocationManager)
    (witness : RevocationWitness) (witnessPublicKey : KeyId) (currentTimeMs : UInt64) :
    (m.processWitnessVote V witness witnessPublicKey currentTimeMs).2 = m ∧
        ¬ m.ValidVote V witness witnessPublicKey ∨
      m.ValidVote V witness witnessPublicKey ∧
        (m.processWitnessVote V witness witnessPublicKey currentTimeMs).2 =
          (m.recordVote witness currentTimeMs).2 := by
  unfold processWitnessVote
  by_cases hrevoked : m.isRevoked witness.revokedKeyId
  · rw [if_pos hrevoked]
    exact .inl ⟨rfl, fun h => h.fresh hrevoked⟩
  rw [if_neg hrevoked]
  rcases htrust : m.trustRelationships witnessPublicKey with _ | trust
  · refine .inl ⟨rfl, fun h => ?_⟩
    have hallowed := h.allowed
    simp [mayWitness, htrust] at hallowed
  dsimp only
  split_ifs with hwitness hsigned hnamed hvoted
  · refine .inl ⟨rfl, fun h => ?_⟩
    have hallowed := h.allowed
    simp only [mayWitness, htrust, Option.any_some] at hallowed
    simp [hallowed] at hwitness
  · refine .inl ⟨rfl, fun h => ?_⟩
    simp [h.signed] at hsigned
  · exact .inl ⟨rfl, fun h => hnamed h.named⟩
  · refine .inl ⟨rfl, fun h => ?_⟩
    obtain ⟨w, hw, hsame⟩ := any_eq_true.mp hvoted
    exact h.first w hw (of_decide_eq_true hsame)
  · refine .inr ⟨⟨hrevoked, ?_, by simpa using hsigned, not_not.mp hnamed, fun w hw hsame => ?_⟩,
      rfl⟩
    · simpa [mayWitness, htrust] using hwitness
    · exact hvoted (any_eq_true.mpr ⟨w, hw, decide_eq_true hsame⟩)

lemma revocationMove_step (V : Verify) (m : RevocationManager) (e : RevocationEvent) :
    RevocationMove V m e (m.step V e) := by
  cases e with
  | processRevocation certificate source currentTimeMs =>
    rcases m.processRevocation_cases V certificate source currentTimeMs with
      ⟨hsame, -⟩ | ⟨hvalid, hnew⟩
    · rw [step, hsame]
      exact .refused
    · rw [step, hnew]
      exact .certificate rfl hvalid
  | processWitnessVote witness witnessPublicKey currentTimeMs =>
    rcases m.processWitnessVote_cases V witness witnessPublicKey currentTimeMs with
      ⟨hsame, -⟩ | ⟨hvalid, hnew⟩
    · rw [step, hsame]
      exact .refused
    rw [step, hnew, recordVote]
    split_ifs with henough
    · exact .reached rfl hvalid henough
    · exact .recorded rfl hvalid (Nat.lt_of_not_le henough)
  | addTrust relationship => exact .tables rfl rfl rfl rfl fun _ _ h => .inl h
  | removeTrust peerId => exact .tables rfl rfl rfl rfl fun _ _ h => .inl h
  | registerKeyIssuer keyId issuerId =>
    rw [step, registerKeyIssuer]
    split_ifs with hcontains
    · exact .refused
    refine .tables rfl rfl rfl rfl fun key issuer hissuer => ?_
    by_cases hkey : key = keyId
    · subst hkey
      dsimp only at hissuer
      rw [update_self] at hissuer
      rcases mem_append.mp hissuer with hold | hnew
      · exact .inl hold
      · rw [mem_singleton.mp hnew]
        exact .inr rfl
    · dsimp only at hissuer
      rw [update_of_ne hkey] at hissuer
      exact .inl hissuer
  | registerSessionInvalidator => exact .tables rfl rfl rfl rfl fun _ _ h => .inl h

/-! ## What a run leaves -/

variable (V : Verify) (config : WebOfTrustConfig)

def after (es : List RevocationEvent) : RevocationManager := run (step V) (new config) es

lemma after_concat (es : List RevocationEvent) (e : RevocationEvent) :
    after V config (es ++ [e]) = (after V config es).step V e := by
  rw [after, run_append]
  rfl

/-- A vote was cast: one of the calls brought it, with a valid signature of the voter, who was
allowed to vote then. -/
def Voted (es : List RevocationEvent) (w : RevocationWitness) : Prop :=
  ∃ es₁ currentTimeMs es₂,
    es = es₁ ++ .processWitnessVote w w.witnessId currentTimeMs :: es₂ ∧
      w.verify V w.witnessId ∧ (after V config es₁).mayWitness w.witnessId

/-- What the call after `es` may revoke a key with. -/
inductive Justified (es : List RevocationEvent) (e : RevocationEvent) (keyId : KeyId) : Prop where
  /-- A certificate that the key itself has signed. -/
  | self {certificate : RevocationCertificate} {source : RevocationSource} {currentTimeMs : UInt64}
      (hevent : e = .processRevocation certificate source currentTimeMs)
      (hkey : certificate.revokedKeyId = keyId) (hself : certificate.revokerId = keyId)
      (hallowed : config.allowSelfRevocation) (hsigned : certificate.verify V keyId)
  /-- A certificate that an issuer has signed, who was registered for the key before. -/
  | issuer {certificate : RevocationCertificate} {source : RevocationSource}
      {currentTimeMs : UInt64} (hevent : e = .processRevocation certificate source currentTimeMs)
      (hkey : certificate.revokedKeyId = keyId)
      (hregistered : .registerKeyIssuer keyId certificate.revokerId ∈ es)
      (hsigned : certificate.verify V certificate.revokerId)
  /-- Votes of enough different witnesses, the last of which this call brings. -/
  | witnesses {votes : List RevocationWitness} {w : RevocationWitness} {currentTimeMs : UInt64}
      (hevent : e = .processWitnessVote w w.witnessId currentTimeMs) (hlast : w ∈ votes)
      (hvotes : ∀ w ∈ votes, w.revokedKeyId = keyId ∧ Voted V config (es ++ [e]) w)
      (hdistinct : (votes.map (·.witnessId)).Nodup)
      (henough : max config.witnessThreshold.1.toNat 1 ≤ votes.length)

def invocations (m : RevocationManager) (keyId : KeyId) : List Nat :=
  (m.invoked.filter (·.2 = keyId)).map (·.1)

/-- A key was revoked by one of the calls: it was not revoked before and is from then on, the call
was justified, and each invalidator that was registered then has been called once for the key. -/
def RevokedOnce (es : List RevocationEvent) (keyId : KeyId) : Prop :=
  ∃ es₁ e es₂, es = es₁ ++ e :: es₂ ∧ ¬ (after V config es₁).isRevoked keyId ∧
    (after V config (es₁ ++ [e])).isRevoked keyId ∧ Justified V config es₁ e keyId ∧
    (after V config es).invocations keyId = List.range (after V config es₁).sessionInvalidators

/-- What the tables hold, in terms of the calls. -/
structure Ledger (es : List RevocationEvent) : Prop where
  configured : (after V config es).config = config
  issuers : ∀ keyId, ∀ issuerId ∈ (after V config es).keyIssuers keyId,
    .registerKeyIssuer keyId issuerId ∈ es
  voted : ∀ keyId, ∀ w ∈ (after V config es).pendingThreshold keyId, Voted V config es w
  distinct : ∀ keyId, ((after V config es).pendingThreshold keyId).map (·.witnessId) |>.Nodup
  revoked : ∀ keyId, (after V config es).isRevoked keyId → RevokedOnce V config es keyId
  silent : ∀ keyId, ¬ (after V config es).isRevoked keyId →
    (after V config es).invocations keyId = []

variable {V config} {es : List RevocationEvent} {e : RevocationEvent} {keyId : KeyId}
  {entry : RevocationEntry}

lemma isRevoked_insertRevoked (m : RevocationManager) (keyId key : KeyId)
    (entry : RevocationEntry) :
    (m.insertRevoked keyId entry).isRevoked key ↔ key = keyId ∨ m.isRevoked key := by
  simp only [insertRevoked, invalidateSessions, isRevoked]
  by_cases hkey : key = keyId
  · simp [hkey]
  · simp [hkey]

lemma invocations_insertRevoked_self (m : RevocationManager) (keyId : KeyId)
    (entry : RevocationEntry) :
    (m.insertRevoked keyId entry).invocations keyId =
      m.invocations keyId ++ List.range m.sessionInvalidators := by
  simp [invocations, insertRevoked, invalidateSessions, filter_append, filter_map,
    comp_def]

lemma invocations_insertRevoked_of_ne (m : RevocationManager) {keyId key : KeyId}
    (h : key ≠ keyId) (entry : RevocationEntry) :
    (m.insertRevoked keyId entry).invocations key = m.invocations key := by
  simp [invocations, insertRevoked, invalidateSessions, filter_append, filter_map,
    comp_def, Ne.symm h]

lemma Voted.concat {w : RevocationWitness} (h : Voted V config es w) (e : RevocationEvent) :
    Voted V config (es ++ [e]) w := by
  obtain ⟨es₁, currentTimeMs, es₂, rfl, hsigned, hallowed⟩ := h
  exact ⟨es₁, currentTimeMs, es₂ ++ [e], by simp, hsigned, hallowed⟩

lemma RevokedOnce.concat (h : RevokedOnce V config es keyId)
    (hinvocations : (after V config (es ++ [e])).invocations keyId =
      (after V config es).invocations keyId) :
    RevokedOnce V config (es ++ [e]) keyId := by
  obtain ⟨es₁, e', es₂, rfl, hfresh, hnow, hjustified, hrange⟩ := h
  exact ⟨es₁, e', es₂ ++ [e], by simp, hfresh, hnow, hjustified, hinvocations.trans hrange⟩

lemma Ledger.insertRevoked {m : RevocationManager} (h : Ledger V config es)
    (hafter : after V config (es ++ [e]) = m.insertRevoked keyId entry)
    (hconfig : m.config = (after V config es).config)
    (hissuers : m.keyIssuers = (after V config es).keyIssuers)
    (hpending : ∀ key, m.pendingThreshold key ⊆ (after V config es).pendingThreshold key ∧
      ((m.pendingThreshold key).map (·.witnessId)).Nodup)
    (hrevoked : ∀ key, m.isRevoked key = (after V config es).isRevoked key)
    (hinvocations : ∀ key, m.invocations key = (after V config es).invocations key)
    (hinvalidators : m.sessionInvalidators = (after V config es).sessionInvalidators)
    (hfresh : ¬ (after V config es).isRevoked keyId)
    (hjustified : Justified V config es e keyId) : Ledger V config (es ++ [e]) := by
  have hself : (after V config (es ++ [e])).invocations keyId =
      List.range (after V config es).sessionInvalidators := by
    rw [hafter, invocations_insertRevoked_self, hinvocations, h.silent keyId hfresh, hinvalidators,
      nil_append]
  have hother {key : KeyId} (hkey : key ≠ keyId) : (after V config (es ++ [e])).invocations key =
      (after V config es).invocations key := by
    rw [hafter, invocations_insertRevoked_of_ne m hkey, hinvocations]
  have hisRevoked (key : KeyId) : (after V config (es ++ [e])).isRevoked key ↔
      key = keyId ∨ (after V config es).isRevoked key := by
    rw [hafter, isRevoked_insertRevoked, hrevoked]
  refine ⟨?_, fun key issuer hissuer => ?_, fun key w hw => ?_, fun key => ?_, fun key hkey => ?_,
    fun key hkey => ?_⟩
  · rw [hafter]
    exact hconfig.trans h.configured
  · rw [hafter] at hissuer
    have hold : issuer ∈ m.keyIssuers key := hissuer
    rw [hissuers] at hold
    exact mem_append_left [e] (h.issuers key issuer hold)
  · rw [hafter] at hw
    exact (h.voted key w ((hpending key).1 hw)).concat e
  · rw [hafter]
    exact (hpending key).2
  · by_cases hsame : key = keyId
    · subst hsame
      exact ⟨es, e, [], rfl, hfresh, hkey, hjustified, hself⟩
    · have hold := ((hisRevoked key).mp hkey).resolve_left hsame
      exact (h.revoked key hold).concat (hother hsame)
  · rw [hisRevoked, not_or] at hkey
    rw [hother hkey.1]
    exact h.silent key hkey.2

variable {certificate : RevocationCertificate} {source : RevocationSource}

lemma entitled_of_checkSource {m : RevocationManager}
    (h : m.checkSource V certificate source = .ok ()) :
    certificate.verify V certificate.revokerId ∧
      (certificate.revokerId = certificate.revokedKeyId ∧ m.config.allowSelfRevocation ∨
        m.isRegisteredAuthority certificate.revokedKeyId certificate.revokerId) := by
  have hinner (h : m.checkSelfOrAuthority V certificate = .ok ()) :
      certificate.verify V certificate.revokerId ∧
        (certificate.revokerId = certificate.revokedKeyId ∧ m.config.allowSelfRevocation ∨
          m.isRegisteredAuthority certificate.revokedKeyId certificate.revokerId) := by
    unfold checkSelfOrAuthority at h
    split_ifs at h with hself hallowed hsigned hsigned hregistered
    · rw [hself]
      exact ⟨by simpa using hsigned, .inl ⟨rfl, by simpa using hallowed⟩⟩
    · exact ⟨by simpa using hsigned, .inr (by simpa using hregistered)⟩
  cases source with
  | direct =>
    simp only [checkSource] at h
    split_ifs at h with hallowed hself hsigned
    rw [not_not.mp hself]
    exact ⟨by simpa using hsigned, .inl ⟨rfl, by simpa using hallowed⟩⟩
  | authority =>
    simp only [checkSource] at h
    split_ifs at h with hsigned hregistered
    exact ⟨by simpa using hsigned, .inr (by simpa using hregistered)⟩
  | webOfTrust fromPeer =>
    simp only [checkSource] at h
    split at h
    · cases h
    · split_ifs at h
      exact hinner h
  | broadcast => exact hinner h
  | crl => exact hinner h

lemma Ledger.justified_certificate
    {currentTimeMs : UInt64} (h : Ledger V config es)
    (hvalid : (after V config es).ValidCertificate V certificate source currentTimeMs) :
    Justified V config es (.processRevocation certificate source currentTimeMs)
      certificate.revokedKeyId := by
  obtain ⟨hsigned, ⟨hself, hallowed⟩ | hregistered⟩ := entitled_of_checkSource hvalid.checked
  · rw [h.configured] at hallowed
    rw [hself] at hsigned
    exact .self rfl rfl hself hallowed hsigned
  · refine .issuer rfl rfl (h.issuers _ _ ?_) hsigned
    simpa [isRegisteredAuthority] using hregistered

lemma Ledger.votesWith {witness : RevocationWitness} {witnessPublicKey : KeyId}
    (h : Ledger V config es) (hvalid : (after V config es).ValidVote V witness witnessPublicKey)
    (currentTimeMs : UInt64) :
    (∀ w ∈ (after V config es).votesWith witness,
        Voted V config
          (es ++ [.processWitnessVote witness witnessPublicKey currentTimeMs]) w) ∧
      (((after V config es).votesWith witness).map (·.witnessId)).Nodup := by
  have hnamed := hvalid.named
  subst hnamed
  constructor
  · intro w hw
    rcases mem_append.mp hw with hold | hnew
    · exact (h.voted _ w hold).concat _
    · rw [mem_singleton.mp hnew]
      exact ⟨es, currentTimeMs, [], rfl, hvalid.signed, hvalid.allowed⟩
  · simp only [RevocationManager.votesWith, map_append, map_cons, map_nil]
    refine nodup_append.mpr ⟨h.distinct _, nodup_singleton _, ?_⟩
    intro id hid id' hid'
    obtain ⟨w, hw, rfl⟩ := mem_map.mp hid
    rw [mem_singleton.mp hid']
    exact hvalid.first w hw

lemma Ledger.keep (h : Ledger V config es)
    (hconfig : (after V config (es ++ [e])).config = (after V config es).config)
    (hissuers : ∀ key, ∀ issuer ∈ (after V config (es ++ [e])).keyIssuers key,
      issuer ∈ (after V config es).keyIssuers key ∨ e = .registerKeyIssuer key issuer)
    (hvoted : ∀ key, ∀ w ∈ (after V config (es ++ [e])).pendingThreshold key,
      Voted V config (es ++ [e]) w)
    (hdistinct : ∀ key,
      (((after V config (es ++ [e])).pendingThreshold key).map (·.witnessId)).Nodup)
    (hrevoked : (after V config (es ++ [e])).revokedKeys = (after V config es).revokedKeys)
    (hinvoked : (after V config (es ++ [e])).invoked = (after V config es).invoked) :
    Ledger V config (es ++ [e]) := by
  have hisRevoked (key : KeyId) :
      (after V config (es ++ [e])).isRevoked key = (after V config es).isRevoked key := by
    rw [isRevoked, hrevoked, isRevoked]
  have hinvocations (key : KeyId) :
      (after V config (es ++ [e])).invocations key = (after V config es).invocations key := by
    rw [invocations, hinvoked, invocations]
  refine ⟨hconfig.trans h.configured, fun key issuer hissuer => ?_, hvoted, hdistinct,
    fun key hkey => ?_, fun key hkey => ?_⟩
  · rcases hissuers key issuer hissuer with hold | rfl
    · exact mem_append_left _ (h.issuers key issuer hold)
    · exact mem_append_right es mem_cons_self
  · rw [hisRevoked] at hkey
    exact (h.revoked key hkey).concat (hinvocations key)
  · rw [hisRevoked] at hkey
    rw [hinvocations]
    exact h.silent key hkey

lemma Ledger.step (h : Ledger V config es) (e : RevocationEvent) :
    Ledger V config (es ++ [e]) := by
  have hmove := revocationMove_step V (after V config es) e
  rw [← after_concat] at hmove
  generalize hafter : after V config (es ++ [e]) = m' at hmove
  rcases hmove with ⟨rfl, hvalid⟩ | ⟨rfl, hvalid, -⟩ | ⟨rfl, hvalid, henough⟩ |
    ⟨hrevoked, hpending, hinvoked, hconfig, hissuers⟩
  · exact h.insertRevoked hafter rfl rfl (fun key => ⟨List.Subset.refl _, h.distinct key⟩)
      (fun _ => rfl) (fun _ => rfl) rfl hvalid.fresh (h.justified_certificate hvalid)
  case recorded witness witnessPublicKey currentTimeMs =>
    obtain ⟨hvoted, hdistinct⟩ := h.votesWith hvalid currentTimeMs
    apply h.keep
    all_goals rw [hafter]
    · rfl
    · exact fun key issuer hissuer => .inl hissuer
    · intro key w hw
      simp only [setPending] at hw
      by_cases hsame : key = witness.revokedKeyId
      · rw [hsame, update_self] at hw
        exact hvoted w hw
      · rw [update_of_ne hsame] at hw
        exact (h.voted key w hw).concat _
    · intro key
      simp only [setPending]
      by_cases hsame : key = witness.revokedKeyId
      · rw [hsame, update_self]
        exact hdistinct
      · rw [update_of_ne hsame]
        exact h.distinct key
    · rfl
    · rfl
  case reached witness witnessPublicKey currentTimeMs =>
    obtain ⟨hvoted, hdistinct⟩ := h.votesWith hvalid currentTimeMs
    refine h.insertRevoked hafter rfl rfl (fun key => ?_) (fun _ => rfl) (fun _ => rfl) rfl
      hvalid.fresh (.witnesses (w := witness) (by rw [hvalid.named]) ?_ ?_ hdistinct ?_)
    · simp only [setPending]
      by_cases hsame : key = witness.revokedKeyId
      · rw [hsame, update_self]
        exact ⟨nil_subset _, nodup_nil⟩
      · rw [update_of_ne hsame]
        exact ⟨List.Subset.refl _, h.distinct key⟩
    · exact mem_append_right _ mem_cons_self
    · exact fun w hw => ⟨votesWith_about _ _ w hw, hvoted w hw⟩
    · rw [h.configured] at henough
      have hpos : 1 ≤ ((after V config es).votesWith witness).length := by
        simp [RevocationManager.votesWith]
      exact max_le henough hpos
  · subst hafter
    refine h.keep hconfig hissuers (fun key w hw => ?_) (fun key => ?_) hrevoked hinvoked
    · rw [hpending] at hw
      exact (h.voted key w hw).concat e
    · rw [hpending]
      exact h.distinct key

lemma ledger_after (V : Verify) (config : WebOfTrustConfig) (es : List RevocationEvent) :
    Ledger V config es := by
  induction es using List.reverseRecOn with
  | nil =>
    have hstart : after V config [] = new config := rfl
    refine ⟨rfl, ?_, ?_, ?_, ?_, ?_⟩
    all_goals
      intro key
      rw [hstart]
    · exact nofun
    · exact nofun
    · exact nodup_nil
    · exact nofun
    · exact fun _ => rfl
  | append_singleton es e ih => exact ih.step e

lemma revokedKeys_step {m : RevocationManager} {keyId : KeyId} (h : m.isRevoked keyId)
    (e : RevocationEvent) : (m.step V e).revokedKeys keyId = m.revokedKeys keyId := by
  have hmove := revocationMove_step V m e
  generalize m.step V e = m' at hmove
  have hkeep {m₁ : RevocationManager} {key : KeyId} {entry : RevocationEntry}
      (hm₁ : m₁.revokedKeys = m.revokedKeys) (hfresh : ¬ m.isRevoked key) :
      (m₁.insertRevoked key entry).revokedKeys keyId = m.revokedKeys keyId := by
    have hne : keyId ≠ key := by
      rintro rfl
      exact hfresh h
    simp [insertRevoked, invalidateSessions, hm₁, hne]
  rcases hmove with ⟨rfl, hvalid⟩ | ⟨-, -, -⟩ | ⟨rfl, hvalid, -⟩ | ⟨hrevoked, -, -, -, -⟩
  · exact hkeep rfl hvalid.fresh
  · rfl
  · exact hkeep rfl hvalid.fresh
  · rw [hrevoked]

end RevocationManager

/-- **Revocation is sound.** After any calls on a new manager: every revoked key was revoked once,
by a call with a certificate that the key itself (where the configuration allows it) or an issuer
registered for it has validly signed, or with valid votes of as many different witnesses as
configured, and at least one, each allowed to vote when it voted. Each invalidator registered at
that call was called exactly once for the key, and none for a key that is not revoked. No call takes
a key out of the set. -/
theorem revocations_sound (V : Verify) (config : WebOfTrustConfig) (es : List RevocationEvent)
    (keyId : KeyId) :
    ((RevocationManager.after V config es).isRevoked keyId →
        RevocationManager.RevokedOnce V config es keyId ∧
          ∀ es', (RevocationManager.after V config (es ++ es')).revokedKeys keyId =
            (RevocationManager.after V config es).revokedKeys keyId) ∧
      (¬ (RevocationManager.after V config es).isRevoked keyId →
        (RevocationManager.after V config es).invocations keyId = []) := by
  have hledger := ledger_after V config es
  refine ⟨fun hrevoked => ⟨hledger.revoked keyId hrevoked, fun es' => ?_⟩, hledger.silent keyId⟩
  have hstep : ∀ m e,
      m.revokedKeys keyId = (RevocationManager.after V config es).revokedKeys keyId →
      (RevocationManager.step V m e).revokedKeys keyId =
        (RevocationManager.after V config es).revokedKeys keyId := by
    intro m e hm
    rw [revokedKeys_step _ e, hm]
    rw [RevocationManager.isRevoked, hm]
    exact hrevoked
  rw [RevocationManager.after, run_append]
  exact run_invariant hstep rfl es'

/-! ## The authority of a revoked key -/

namespace RevocationManager

variable (V : Verify)

/-- The key `k` has a part in the revocation of another: as the revoker of the certificate, as the
peer that relays it, or by a vote that is counted. -/
def HasPart (m' : RevocationManager) (keyId k : KeyId) : RevocationEvent → Prop
  | .processRevocation certificate source _ =>
    certificate.revokerId = k ∨ source = .webOfTrust k
  | .processWitnessVote _ _ _ =>
    ∃ entry, m'.revokedKeys keyId = some entry ∧ ∃ w ∈ entry.witnesses, w.witnessId = k
  | _ => False

def NoRevokedPart (m : RevocationManager) (e : RevocationEvent) : Prop :=
  ∀ keyId, ¬ m.isRevoked keyId → (m.step V e).isRevoked keyId →
    ∀ k, m.isRevoked k → ¬ HasPart (m.step V e) keyId k e

/-- Whoever speaks in a call that is valid is not revoked: the revoker and the relaying peer of a
certificate; the voters about a key, once they are enough. -/
def SpeakersLive (m : RevocationManager) : RevocationEvent → Prop
  | .processRevocation certificate source currentTimeMs =>
    m.ValidCertificate V certificate source currentTimeMs →
      ¬ m.isRevoked certificate.revokerId ∧
        ∀ fromPeer, source = .webOfTrust fromPeer → ¬ m.isRevoked fromPeer
  | .processWitnessVote witness witnessPublicKey _ =>
    m.ValidVote V witness witnessPublicKey →
      m.config.witnessThreshold.1.toNat ≤ (m.votesWith witness).length →
        ∀ w ∈ m.votesWith witness, ¬ m.isRevoked w.witnessId
  | _ => True

variable {V} {m : RevocationManager}

lemma noRevokedPart_processRevocation_iff (certificate : RevocationCertificate)
    (source : RevocationSource) (currentTimeMs : UInt64) :
    m.NoRevokedPart V (.processRevocation certificate source currentTimeMs) ↔
      m.SpeakersLive V (.processRevocation certificate source currentTimeMs) := by
  unfold NoRevokedPart SpeakersLive
  rcases m.processRevocation_cases V certificate source currentTimeMs with
    ⟨hsame, hinvalid⟩ | ⟨hvalid, hnew⟩
  · simp only [step, hsame]
    exact ⟨fun _ hvalid => absurd hvalid hinvalid, fun _ keyId hfresh hrevoked =>
      absurd hrevoked hfresh⟩
  simp only [step, hnew]
  constructor
  · intro h _
    have hself := h certificate.revokedKeyId hvalid.fresh
      ((isRevoked_insertRevoked _ _ _ _).mpr (.inl rfl))
    exact ⟨fun hrevoker => hself _ hrevoker (.inl rfl),
      fun fromPeer hsource hpeer => hself fromPeer hpeer (.inr hsource)⟩
  · rintro h keyId - - k hk (hrevoker | hsource)
    · subst hrevoker
      exact (h hvalid).1 hk
    · exact (h hvalid).2 k hsource hk

lemma noRevokedPart_processWitnessVote_iff (witness : RevocationWitness)
    (witnessPublicKey : KeyId) (currentTimeMs : UInt64) :
    m.NoRevokedPart V (.processWitnessVote witness witnessPublicKey currentTimeMs) ↔
      m.SpeakersLive V (.processWitnessVote witness witnessPublicKey currentTimeMs) := by
  unfold NoRevokedPart SpeakersLive
  rcases m.processWitnessVote_cases V witness witnessPublicKey currentTimeMs with
    ⟨hsame, hinvalid⟩ | ⟨hvalid, hnew⟩
  · simp only [step, hsame]
    exact ⟨fun _ hvalid => absurd hvalid hinvalid, fun _ keyId hfresh hrevoked =>
      absurd hrevoked hfresh⟩
  simp only [step, hnew, recordVote]
  split_ifs with henough
  · -- The key is revoked now, by the votes that were pending and this one.
    have hentry : (((m.setPending witness.revokedKeyId [] nofun).insertRevoked
        witness.revokedKeyId (thresholdEntry witness.revokedKeyId (m.votesWith witness)
          currentTimeMs)).revokedKeys witness.revokedKeyId) =
        some (thresholdEntry witness.revokedKeyId (m.votesWith witness) currentTimeMs) := by
      simp [insertRevoked, invalidateSessions]
    constructor
    · intro h _ _ w hw hrevoked
      exact h witness.revokedKeyId hvalid.fresh ((isRevoked_insertRevoked _ _ _ _).mpr (.inl rfl))
        w.witnessId hrevoked ⟨_, hentry, w, hw, rfl⟩
    · rintro h keyId hfresh hrevoked k hk ⟨entry, hkey, w, hw, rfl⟩
      obtain rfl := ((isRevoked_insertRevoked _ _ _ _).mp hrevoked).resolve_right hfresh
      cases hentry.symm.trans hkey
      exact h hvalid henough w hw hk
  · exact ⟨fun _ _ henough' => absurd henough' henough, fun _ keyId hfresh hrevoked =>
      absurd hrevoked hfresh⟩

end RevocationManager

/-- **When a revoked key has no authority left.** For every state and every call: no revoked key has
a part in the revocation of another exactly if, in a valid certificate, neither the revoker nor the
peer that relays it is revoked, and, in a valid vote that reaches the threshold, none of the voters
is, those of the pending votes included. The code checks neither. -/
theorem revoked_authority_iff (V : Verify) (m : RevocationManager) (e : RevocationEvent) :
    m.NoRevokedPart V e ↔ m.SpeakersLive V e := by
  cases e with
  | processRevocation certificate source currentTimeMs =>
    exact noRevokedPart_processRevocation_iff certificate source currentTimeMs
  | processWitnessVote witness witnessPublicKey currentTimeMs =>
    exact noRevokedPart_processWitnessVote_iff witness witnessPublicKey
      currentTimeMs
  | addTrust | removeTrust | registerKeyIssuer | registerSessionInvalidator =>
    exact ⟨fun _ => trivial, fun _ _ _ _ _ _ h => h⟩

/-! ### Samples -/

def sampleRevocation (keyId : KeyId) (signature : Signature) : RevocationCertificate where
  revokedKeyId := keyId
  timestampMs := 1000
  sequence := 1
  reason := .keyCompromised
  revokerId := sampleOrigin.bytes
  signature := signature
  supersededBy := none

def issuedKey : KeyId := .replicate 32 10

def ownRevocation : RevocationCertificate :=
  sampleRevocation sampleOrigin.bytes
    ⟨hex 64 (0xed3b67c3dfaccddaed2ca8df63c1fd39d8e2a608a81d37efc50d800454734c84 <<< 256 +
      0xbb9889635fcb42739bc8d9633e42c3fc88035290022691b867e705df94fbc307)⟩

def issuedRevocation : RevocationCertificate :=
  sampleRevocation issuedKey
    ⟨hex 64 (0x4c82142f37c1e5eb8bb3485a08319a5ae3ea999c4104f3938c476ea31a67378c <<< 256 +
      0xac807c93810bfae13a45db99aa97b77b14a531b2594df8f9e9047da2b24bcd0d)⟩

def revocationVerify : Verify := fun node message signature =>
  decide (node = sampleOrigin) &&
    (decide (message = ownRevocation.canonicalBytes) &&
        decide (signature = ownRevocation.signature) ||
      decide (message = issuedRevocation.canonicalBytes) &&
        decide (signature = issuedRevocation.signature))

def revokedIssuerRun : List RevocationEvent :=
  [.registerSessionInvalidator, .registerKeyIssuer issuedKey sampleOrigin.bytes,
    .processRevocation ownRevocation .direct 2000]

/-- Whoever has the key of the issuer uses it. -/
def stolenRevocation : RevocationEvent := .processRevocation issuedRevocation .broadcast 3000

def afterOwnRevocation : RevocationManager := .after revocationVerify .default revokedIssuerRun

theorem own_revocation_sound :
    afterOwnRevocation.isRevoked sampleOrigin.bytes ∧
      afterOwnRevocation.invocations sampleOrigin.bytes = [0] ∧
      RevocationManager.RevokedOnce revocationVerify .default revokedIssuerRun
        sampleOrigin.bytes := by
  have hrevoked : afterOwnRevocation.isRevoked sampleOrigin.bytes := by decide +kernel
  exact ⟨hrevoked, by decide +kernel,
    ((revocations_sound revocationVerify .default revokedIssuerRun sampleOrigin.bytes).1
      hrevoked).1⟩

/-- **A revoked issuer revokes.** After the key of the issuer was revoked, a certificate that is
signed with it revokes another key. -/
theorem revoked_issuer_revokes :
    afterOwnRevocation.isRevoked sampleOrigin.bytes ∧
      issuedRevocation.revokerId = sampleOrigin.bytes ∧
      ¬ afterOwnRevocation.isRevoked issuedKey ∧
      (afterOwnRevocation.step revocationVerify stolenRevocation).isRevoked issuedKey ∧
      ¬ afterOwnRevocation.NoRevokedPart revocationVerify stolenRevocation := by
  have hrevoked : afterOwnRevocation.isRevoked sampleOrigin.bytes := by decide +kernel
  have hfresh : ¬ afterOwnRevocation.isRevoked issuedKey := by decide +kernel
  have hstolen : (afterOwnRevocation.step revocationVerify stolenRevocation).isRevoked
      issuedKey := by
    decide +kernel
  refine ⟨hrevoked, rfl, hfresh, hstolen, fun h => ?_⟩
  exact h issuedKey hfresh hstolen sampleOrigin.bytes hrevoked (.inl rfl)

end AxiomCore
