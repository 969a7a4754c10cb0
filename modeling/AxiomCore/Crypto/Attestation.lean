import AxiomCore.Crypto.FrameSign
import AxiomCore.Crypto.IntentHash
import AxiomCore.Lib.Blake3
import AxiomCore.Lib.Run

/-!
# The attestation mesh

A node that wants to know whether another one, the target, is intact asks its attesters. Each sends
back a certificate: the target's own report with the attester's countersignature and verdict. Once
enough certificates say `Valid`, there is a consensus.

- `AttestationMesh`: the attesters and the certificates collected for each target. The hash function
  and Ed25519 are parameters.

Source: `axiom-crypto/src/attestation.rs`.
-/

namespace AxiomCore

open Lib
open Function (update update_of_ne update_self)

/-! ## Reports and certificates -/

structure PcrValues where
  pcr0 : Digest
  pcr1 : Digest
  pcr7 : Digest
  pcr10 : Digest
  deriving DecidableEq

structure AttestedState where
  hdlManifestHash : Digest
  trustLevel : UInt8
  configHash : Digest
  version : Vector UInt8 8
  pcrValues : Option PcrValues
  activeAlerts : UInt16
  uptimeSecs : UInt64
  deriving DecidableEq

structure AttestationReport where
  subjectId : KeyId
  timestampMs : UInt64
  nonce : Digest
  state : AttestedState
  /-- The subject's signature over the rest. -/
  signature : Signature
  deriving DecidableEq

inductive AttestationResult where
  | valid
  | invalidSignature
  | stateMismatch
  | nodeRevoked
  | expired
  | untrustedSubject
  deriving DecidableEq

def AttestationResult.toU8 : AttestationResult → UInt8
  | .valid => 0
  | .invalidSignature => 1
  | .stateMismatch => 2
  | .nodeRevoked => 3
  | .expired => 4
  | .untrustedSubject => 5

structure AttestationCertificate where
  report : AttestationReport
  verifierId : KeyId
  verifiedAtMs : UInt64
  /-- The verifier's signature over the rest. -/
  verifierSignature : Signature
  result : AttestationResult
  deriving DecidableEq

inductive AttestationError where
  | timeout
  | signatureVerificationFailed
  deriving DecidableEq

def pcrBytes : Option PcrValues → List UInt8
  | some pcr =>
    1 :: (pcr.pcr0.toList ++ pcr.pcr1.toList ++ pcr.pcr7.toList ++ pcr.pcr10.toList)
  | none => [0]

section Signatures

variable (hash : List UInt8 → Digest) (V : Verify)

def hashReport (report : AttestationReport) : Digest :=
  hash (report.subjectId.toList ++ toLeBytes report.timestampMs ++ report.nonce.toList ++
    report.state.hdlManifestHash.toList ++ [report.state.trustLevel] ++
    report.state.configHash.toList ++ report.state.version.toList ++
    pcrBytes report.state.pcrValues ++ leBytes 2 report.state.activeAlerts.toNat ++
    toLeBytes report.state.uptimeSecs)

def verifyReportSignature (report : AttestationReport) : Bool :=
  V ⟨report.subjectId⟩ (hashReport hash report).toList report.signature

/-- What a verifier signs. -/
def hashCertificate (cert : AttestationCertificate) : Digest :=
  hash ((hashReport hash cert.report).toList ++ cert.verifierId.toList ++
    toLeBytes cert.verifiedAtMs ++ [cert.result.toU8])

def verifyCertificateSignature (cert : AttestationCertificate) : Bool :=
  V ⟨cert.verifierId⟩ (hashCertificate hash cert).toList cert.verifierSignature

end Signatures

/-- What the mesh reads of the configuration. -/
structure AttestationConfig where
  /-- Milliseconds for which a certificate is taken. -/
  cacheDurationMs : UInt64
  /-- How many certificates make a consensus. -/
  minAttesters : UInt32

def AttestationConfig.default : AttestationConfig := ⟨300000, 2⟩

/-! ## The mesh -/

structure MeshAttestation where
  targetId : KeyId
  certificates : List AttestationCertificate
  startedAtMs : UInt64

structure MeshConsensus where
  targetId : KeyId
  result : AttestationResult
  attesterCount : UInt32
  /-- How many of them say `Valid`. -/
  validCount : UInt32
  certificates : List AttestationCertificate
  deriving DecidableEq

structure AttestationMesh where
  config : AttestationConfig
  attesters : List KeyId
  pendingMesh : KeyId → Option MeshAttestation

namespace AttestationMesh

def new (config : AttestationConfig) : AttestationMesh := ⟨config, [], fun _ => none⟩

def addAttester (m : AttestationMesh) (attesterId : KeyId) : AttestationMesh :=
  if m.attesters.contains attesterId then m
  else { m with attesters := m.attesters ++ [attesterId] }

/-- `request_mesh_attestation`, without the requests that it returns. -/
def requestMeshAttestation (m : AttestationMesh) (targetId : KeyId) (currentTimeMs : UInt64) :
    AttestationMesh :=
  { m with
    pendingMesh := update m.pendingMesh targetId (some ⟨targetId, [], currentTimeMs⟩) }

variable (hash : List UInt8 → Digest) (V : Verify)

def verifyCertificate (config : AttestationConfig) (cert : AttestationCertificate)
    (currentTimeMs : UInt64) : Except AttestationError Unit :=
  if saturatingSub64 currentTimeMs cert.verifiedAtMs > config.cacheDurationMs then .error .timeout
  else if !verifyCertificateSignature hash V cert then .error .signatureVerificationFailed
  else if !verifyReportSignature hash V cert.report then .error .signatureVerificationFailed
  else .ok ()

def validCertificates (certificates : List AttestationCertificate) :
    List AttestationCertificate :=
  certificates.filter (·.result = .valid)

def processMeshCertificate (m : AttestationMesh) (cert : AttestationCertificate)
    (currentTimeMs : UInt64) :
    Except AttestationError (Option MeshConsensus) × AttestationMesh :=
  let targetId := cert.report.subjectId
  match verifyCertificate hash V m.config cert currentTimeMs with
  | .error e => (.error e, m)
  | .ok () =>
    match m.pendingMesh targetId with
    | none => (.ok none, m)
    | some pending =>
      let certificates := pending.certificates ++ [cert]
      let validCount := UInt32.ofNat (validCertificates certificates).length
      if validCount ≥ m.config.minAttesters then
        (.ok (some
            { targetId := targetId
              result := .valid
              attesterCount := UInt32.ofNat certificates.length
              validCount := validCount
              certificates := certificates }),
          { m with pendingMesh := update m.pendingMesh targetId none })
      else
        (.ok none,
          { m with
            pendingMesh := update m.pendingMesh targetId
              (some { pending with certificates := certificates }) })

end AttestationMesh

open AttestationMesh

inductive AttestationEvent where
  | addAttester (attesterId : KeyId)
  | requestMeshAttestation (targetId : KeyId) (currentTimeMs : UInt64)
  | processMeshCertificate (cert : AttestationCertificate) (currentTimeMs : UInt64)

def AttestationMesh.step (hash : List UInt8 → Digest) (V : Verify) (m : AttestationMesh) :
    AttestationEvent → AttestationMesh
  | .addAttester attesterId => m.addAttester attesterId
  | .requestMeshAttestation targetId currentTimeMs =>
    m.requestMeshAttestation targetId currentTimeMs
  | .processMeshCertificate cert currentTimeMs =>
    (m.processMeshCertificate hash V cert currentTimeMs).2

/-! ## What a certificate does -/

namespace AttestationMesh

variable {hash : List UInt8 → Digest} {V : Verify} {m : AttestationMesh}
  {es : List AttestationEvent}

/-- The consensus that a certificate completes. -/
def consensusWith (pending : MeshAttestation) (cert : AttestationCertificate) : MeshConsensus where
  targetId := cert.report.subjectId
  result := .valid
  attesterCount := UInt32.ofNat (pending.certificates ++ [cert]).length
  validCount := UInt32.ofNat (validCertificates (pending.certificates ++ [cert])).length
  certificates := pending.certificates ++ [cert]

lemma processMeshCertificate_cases (hash : List UInt8 → Digest) (V : Verify)
    (m : AttestationMesh) (cert : AttestationCertificate) (currentTimeMs : UInt64) :
    (m.processMeshCertificate hash V cert currentTimeMs).2 = m ∧
        (∀ consensus,
          (m.processMeshCertificate hash V cert currentTimeMs).1 ≠ .ok (some consensus)) ∨
      verifyCertificate hash V m.config cert currentTimeMs = .ok () ∧
        ∃ pending, m.pendingMesh cert.report.subjectId = some pending ∧
          (m.config.minAttesters.toNat ≤
              (validCertificates (pending.certificates ++ [cert])).length ∧
            m.processMeshCertificate hash V cert currentTimeMs =
              (.ok (some (consensusWith pending cert)),
                { m with
                  pendingMesh := update m.pendingMesh cert.report.subjectId none }) ∨
          m.processMeshCertificate hash V cert currentTimeMs =
            (.ok none,
              { m with
                pendingMesh := update m.pendingMesh cert.report.subjectId
                  (some { pending with certificates := pending.certificates ++ [cert] }) })) := by
  unfold processMeshCertificate
  dsimp only
  rcases hverified : verifyCertificate hash V m.config cert currentTimeMs with error | ⟨⟩
  · exact .inl ⟨rfl, nofun⟩
  rcases hpending : m.pendingMesh cert.report.subjectId with _ | pending
  · exact .inl ⟨rfl, nofun⟩
  refine .inr ⟨rfl, pending, rfl, ?_⟩
  dsimp only
  split_ifs with hcount
  · refine .inl ⟨?_, rfl⟩
    -- The count may wrap, which only makes it smaller.
    have hle := UInt32.le_iff_toNat_le.mp hcount
    rw [UInt32.toNat_ofNat'] at hle
    exact hle.trans (Nat.mod_le _ _)
  · exact .inr rfl

variable {config : AttestationConfig} {targetId : KeyId} {e : AttestationEvent}

variable {cert : AttestationCertificate} {currentTimeMs : UInt64}

lemma signed_of_verifyCertificate
    (h : verifyCertificate hash V config cert currentTimeMs = .ok ()) :
    verifyCertificateSignature hash V cert := by
  unfold verifyCertificate at h
  split_ifs at h with _ hsigned _
  simpa using hsigned

/-! ## Votes that count -/

def requestTime (targetId : KeyId) : AttestationEvent → Option UInt64
  | .requestMeshAttestation target currentTimeMs =>
    if target = targetId then some currentTimeMs else none
  | _ => none

def lastRequest (targetId : KeyId) (es : List AttestationEvent) : Option UInt64 :=
  (es.filterMap (requestTime targetId)).getLast?

lemma lastRequest_of_none
    (h : requestTime targetId e = none) (es : List AttestationEvent) :
    lastRequest targetId (es ++ [e]) = lastRequest targetId es := by
  simp [lastRequest, h]

variable (hash V) in
/-- A certificate backs a consensus about a target: a registered attester, who is not the target,
signed `Valid` over a report of the target that is not older than the request. -/
structure Backs (es : List AttestationEvent) (targetId : KeyId) (startedAtMs : UInt64)
    (cert : AttestationCertificate) : Prop where
  subject : cert.report.subjectId = targetId
  valid : cert.result = .valid
  signed : verifyCertificateSignature hash V cert
  registered : .addAttester cert.verifierId ∈ es
  external : cert.verifierId ≠ targetId
  recent : startedAtMs ≤ cert.report.timestampMs

structure FreshVote (m : AttestationMesh) (pending : MeshAttestation)
    (cert : AttestationCertificate) : Prop where
  registered : cert.verifierId ∈ m.attesters
  /-- The verifier is another node than the target. -/
  external : cert.verifierId ≠ cert.report.subjectId
  first : ∀ c ∈ validCertificates pending.certificates, c.verifierId ≠ cert.verifierId
  /-- The report is not older than the request. -/
  recent : pending.startedAtMs ≤ cert.report.timestampMs

variable (hash V) in
def FreshVotes (m : AttestationMesh) : AttestationEvent → Prop
  | .processMeshCertificate cert currentTimeMs =>
    verifyCertificate hash V m.config cert currentTimeMs = .ok () → cert.result = .valid →
      ∀ pending, m.pendingMesh cert.report.subjectId = some pending → m.FreshVote pending cert
  | _ => True

instance decidableFreshVote (m : AttestationMesh) (pending : MeshAttestation)
    (cert : AttestationCertificate) : Decidable (m.FreshVote pending cert) :=
  decidable_of_iff (cert.verifierId ∈ m.attesters ∧ cert.verifierId ≠ cert.report.subjectId ∧
      (∀ c ∈ validCertificates pending.certificates, c.verifierId ≠ cert.verifierId) ∧
      pending.startedAtMs ≤ cert.report.timestampMs)
    ⟨fun h => ⟨h.1, h.2.1, h.2.2.1, h.2.2.2⟩,
      fun h => ⟨h.registered, h.external, h.first, h.recent⟩⟩

instance decidableFreshVotes (hash : List UInt8 → Digest) (V : Verify) (m : AttestationMesh) :
    (e : AttestationEvent) → Decidable (m.FreshVotes hash V e)
  | .processMeshCertificate cert currentTimeMs =>
    inferInstanceAs (Decidable
      (verifyCertificate hash V m.config cert currentTimeMs = .ok () → cert.result = .valid →
        ∀ pending ∈ m.pendingMesh cert.report.subjectId, m.FreshVote pending cert))
  | .addAttester _ => .isTrue trivial
  | .requestMeshAttestation _ _ => .isTrue trivial

variable (hash V) in
/-- The certificates that count are distinct votes that back a consensus. -/
structure Votes (es : List AttestationEvent) (targetId : KeyId) (startedAtMs : UInt64)
    (certificates : List AttestationCertificate) : Prop where
  backed : ∀ cert ∈ validCertificates certificates, Backs hash V es targetId startedAtMs cert
  distinct : ((validCertificates certificates).map (·.verifierId)).Nodup

variable (hash V) in
/-- What the mesh holds, in terms of the calls. -/
structure Collected (config : AttestationConfig) (es : List AttestationEvent)
    (m : AttestationMesh) : Prop where
  configured : m.config = config
  attesters : ∀ attesterId ∈ m.attesters, .addAttester attesterId ∈ es
  requested : ∀ targetId pending, m.pendingMesh targetId = some pending →
    lastRequest targetId es = some pending.startedAtMs
  votes : ∀ targetId pending, m.pendingMesh targetId = some pending →
    Votes hash V es targetId pending.startedAtMs pending.certificates

lemma Votes.concat {startedAtMs : UInt64}
    {certificates : List AttestationCertificate}
    (h : Votes hash V es targetId startedAtMs certificates) (e : AttestationEvent) :
    Votes hash V (es ++ [e]) targetId startedAtMs certificates := by
  refine ⟨fun cert hcert => ?_, h.distinct⟩
  have hbacks := h.backed cert hcert
  exact ⟨hbacks.subject, hbacks.valid, hbacks.signed,
    List.mem_append_left [e] hbacks.registered, hbacks.external, hbacks.recent⟩

lemma Collected.votes_with (h : Collected hash V config es m)
    {pending : MeshAttestation}
    (hfresh : m.FreshVotes hash V (.processMeshCertificate cert currentTimeMs))
    (hverified : verifyCertificate hash V m.config cert currentTimeMs = .ok ())
    (hpending : m.pendingMesh cert.report.subjectId = some pending) :
    Votes hash V es cert.report.subjectId pending.startedAtMs
      (pending.certificates ++ [cert]) := by
  have hold := h.votes _ pending hpending
  by_cases hvalid : cert.result = .valid
  · have hvote := hfresh hverified hvalid pending hpending
    have hsplit : validCertificates (pending.certificates ++ [cert]) =
        validCertificates pending.certificates ++ [cert] := by
      simp [validCertificates, List.filter_append, hvalid]
    constructor
    · rw [hsplit]
      intro c hc
      rcases List.mem_append.mp hc with hc | hc
      · exact hold.backed c hc
      rw [List.mem_singleton.mp hc]
      exact ⟨rfl, hvalid, signed_of_verifyCertificate hverified,
        h.attesters _ hvote.registered, hvote.external, hvote.recent⟩
    · rw [hsplit, List.map_append]
      refine List.nodup_append.mpr ⟨hold.distinct, List.nodup_singleton _, ?_⟩
      intro id hid id' hid'
      obtain ⟨c, hc, rfl⟩ := List.mem_map.mp hid
      rw [List.mem_singleton.mp hid']
      exact hvote.first c hc
  · have hsplit : validCertificates (pending.certificates ++ [cert]) =
        validCertificates pending.certificates := by
      simp [validCertificates, List.filter_append, hvalid]
    exact ⟨by rw [hsplit]; exact hold.backed, by rw [hsplit]; exact hold.distinct⟩

lemma Collected.setPending (h : Collected hash V config es m)
    {new : Option MeshAttestation}
    (he : ∀ target, target ≠ targetId → requestTime target e = none)
    (hnew : ∀ pending, new = some pending →
      lastRequest targetId (es ++ [e]) = some pending.startedAtMs ∧
        Votes hash V (es ++ [e]) targetId pending.startedAtMs pending.certificates) :
    Collected hash V config (es ++ [e])
      { m with pendingMesh := update m.pendingMesh targetId new } := by
  refine ⟨h.configured, fun a ha => List.mem_append_left [e] (h.attesters a ha), ?_, ?_⟩
  all_goals
    intro target pending hpending
    dsimp only at hpending
    by_cases htarget : target = targetId
  · subst htarget
    rw [update_self] at hpending
    exact (hnew pending hpending).1
  · rw [update_of_ne htarget] at hpending
    rw [lastRequest_of_none (he target htarget)]
    exact h.requested target pending hpending
  · subst htarget
    rw [update_self] at hpending
    exact (hnew pending hpending).2
  · rw [update_of_ne htarget] at hpending
    exact (h.votes target pending hpending).concat e

lemma Collected.idle (h : Collected hash V config es m)
    (he : ∀ target, requestTime target e = none) :
    Collected hash V config (es ++ [e]) m := by
  refine ⟨h.configured, fun a ha => List.mem_append_left [e] (h.attesters a ha),
    fun target pending hpending => ?_, fun target pending hpending => ?_⟩
  · rw [lastRequest_of_none (he target)]
    exact h.requested target pending hpending
  · exact (h.votes target pending hpending).concat e

lemma Collected.addAttester (h : Collected hash V config es m)
    (attesterId : KeyId) :
    Collected hash V config (es ++ [.addAttester attesterId]) (m.addAttester attesterId) := by
  have hidle := h.idle (e := .addAttester attesterId) fun _ => rfl
  unfold AttestationMesh.addAttester
  split_ifs with hcontains
  · exact hidle
  refine ⟨hidle.configured, fun a ha => ?_, hidle.requested, hidle.votes⟩
  rcases List.mem_append.mp ha with hold | hnew
  · exact hidle.attesters a hold
  · rw [List.mem_singleton.mp hnew]
    exact List.mem_append_right es List.mem_cons_self

lemma Collected.step (h : Collected hash V config es m)
    (e : AttestationEvent) (he : m.FreshVotes hash V e) :
    Collected hash V config (es ++ [e]) (m.step hash V e) := by
  cases e with
  | addAttester attesterId => exact h.addAttester attesterId
  | requestMeshAttestation targetId currentTimeMs =>
    apply h.setPending
    · intro target htarget
      exact if_neg (Ne.symm htarget)
    · rintro pending ⟨⟩
      have htime : requestTime targetId (.requestMeshAttestation targetId currentTimeMs) =
          some currentTimeMs := if_pos rfl
      exact ⟨by simp [lastRequest, htime], nofun, List.nodup_nil⟩
  | processMeshCertificate cert currentTimeMs =>
    rw [AttestationMesh.step]
    rcases m.processMeshCertificate_cases hash V cert currentTimeMs with
      ⟨hsame, -⟩ | ⟨hverified, pending, hpending, ⟨-, hresult⟩ | hresult⟩
    · rw [hsame]
      exact h.idle fun _ => rfl
    · rw [hresult]
      exact h.setPending (fun _ _ => rfl) nofun
    rw [hresult]
    apply h.setPending (fun _ _ => rfl)
    rintro _ ⟨⟩
    refine ⟨?_, (h.votes_with he hverified hpending).concat _⟩
    rw [lastRequest_of_none rfl]
    exact h.requested _ pending hpending

lemma collected_run
    (hes : Guarded (step hash V) (FreshVotes hash V) (new config) es) :
    Collected hash V config es (run (step hash V) (new config) es) := by
  revert hes
  apply run_induction (P := fun es (m : AttestationMesh) =>
    Guarded (step hash V) (FreshVotes hash V) (new config) es → Collected hash V config es m)
  · intro _
    exact ⟨rfl, nofun, nofun, nofun⟩
  · intro es e ih hes
    obtain ⟨hearlier, hlast, -⟩ := guarded_append.mp hes
    exact (ih hearlier).step e hlast

end AttestationMesh

/-- **A consensus is backed.** In every run in which each certificate that counts is of a registered
attester who is not the target and was not counted yet, on a report that is not older than the
request: a consensus `Valid` contains the certificates of as many different attesters as configured,
each added before, not the target, and signed over a report of the target made no earlier than the
last request. -/
theorem consensus_backed (hash : List UInt8 → Digest) (V : Verify) (config : AttestationConfig)
    (es : List AttestationEvent) (cert : AttestationCertificate) (currentTimeMs : UInt64)
    (hes : Guarded (AttestationMesh.step hash V) (AttestationMesh.FreshVotes hash V) (.new config)
      (es ++ [.processMeshCertificate cert currentTimeMs]))
    (consensus : MeshConsensus)
    (hconsensus : ((run (AttestationMesh.step hash V) (.new config) es).processMeshCertificate hash
      V cert currentTimeMs).1 = .ok (some consensus)) :
    ∃ startedAtMs votes,
      lastRequest consensus.targetId es = some startedAtMs ∧
        votes ⊆ consensus.certificates ∧ config.minAttesters.toNat ≤ votes.length ∧
        (votes.map (·.verifierId)).Nodup ∧
        ∀ vote ∈ votes, AttestationMesh.Backs hash V es consensus.targetId startedAtMs vote := by
  obtain ⟨hearlier, hlast, -⟩ := guarded_append.mp hes
  have hcollected := collected_run hearlier
  rcases processMeshCertificate_cases hash V
    (run (AttestationMesh.step hash V) (.new config) es) cert currentTimeMs with
    ⟨-, hnone⟩ | ⟨hverified, pending, hpending, ⟨hcount, hresult⟩ | hresult⟩
  · exact absurd hconsensus (hnone consensus)
  · rw [hresult] at hconsensus
    cases Except.ok.inj hconsensus
    have hvotes := hcollected.votes_with hlast hverified hpending
    rw [hcollected.configured] at hcount
    exact ⟨pending.startedAtMs, validCertificates (pending.certificates ++ [cert]),
      hcollected.requested _ pending hpending, List.filter_subset_self _, hcount, hvotes.distinct,
      hvotes.backed⟩
  · rw [hresult] at hconsensus
    cases hconsensus

/-! ### Samples -/

def sampleState : AttestedState where
  hdlManifestHash := .replicate 32 0xAA
  trustLevel := 2
  configHash := .replicate 32 0xBB
  version := #v[1, 0, 0, 0, 0, 0, 0, 0]
  pcrValues := none
  activeAlerts := 0
  uptimeSecs := 3600

def sampleReport (timestampMs : UInt64) (signature : Signature) : AttestationReport :=
  ⟨sampleOrigin.bytes, timestampMs, .replicate 32 0xCC, sampleState, signature⟩

def oldReport : AttestationReport :=
  sampleReport 1000
    ⟨hex 64 (0xa4ee91d9f533449291953f029112a0447c6ba4bfcd40df35d6c20e4e24ce4b29 <<< 256 +
      0x6acafadca3931d69119d1200f37c31aebe4b7e52b33007e0c79c348b33933f0c)⟩

def newReport : AttestationReport :=
  sampleReport 5500
    ⟨hex 64 (0x338c13b3fcb4a6b515a017e386bf4e9ad3b9eec7fe4fe5d1a8bd3d93be49339f <<< 256 +
      0xc4c5df417872082da72f0eaccd3e95ea876701da89433bf7efbc9273dc329b0c)⟩

/-- The public keys of the seeds 1, 2, …, 32 and 2, 3, …, 33. -/
def sampleAttester : Bool → KeyId
  | false => sampleProvider.bytes
  | true => samplePasser.bytes

def ownCertificate : AttestationCertificate :=
  ⟨oldReport, sampleOrigin.bytes, 5600,
    ⟨hex 64 (0x8c162d0a48cece89f12a9d45c6fe1b9a835953d6289db804357add79d9d84789 <<< 256 +
      0xfdf2b6a7956af10e0d4a91813022b17078e9bd631f983a1bf8b34ab2e8baf20e)⟩, .valid⟩

def attesterCertificate : Bool → AttestationCertificate
  | false => ⟨newReport, sampleAttester false, 5600,
    ⟨hex 64 (0x6e19d1146b816a2cac77e9906a762f79ffc494eb50f48d5c884fdae44e97ba4a <<< 256 +
      0xd632f1ac7014049b7ef2f1ef3b0e01bd27b90b2727bee68a2d6295d27e716d04)⟩, .valid⟩
  | true => ⟨newReport, sampleAttester true, 5600,
    ⟨hex 64 (0x31f7b7ba9729463e55b9c18c001ecaf9f67c751096666b34286552b013a8198d <<< 256 +
      0xf420d5f9e197c9555fc248543b83d649dd54cec871b4a02f127b04c9d7bdd40c)⟩, .valid⟩

def attestationVerify : Verify := fun node message signature =>
  let certified (cert : AttestationCertificate) : Bool :=
    decide (node = ⟨cert.verifierId⟩) && decide (signature = cert.verifierSignature) &&
      decide (message = (hashCertificate Blake3.hash cert).toList)
  let reported (report : AttestationReport) : Bool :=
    decide (node = ⟨report.subjectId⟩) && decide (signature = report.signature) &&
      decide (message = (hashReport Blake3.hash report).toList)
  reported oldReport || reported newReport || certified ownCertificate ||
    certified (attesterCertificate false) || certified (attesterCertificate true)

/-- Two attesters, a request and the first certificate. -/
def attestedRun : List AttestationEvent :=
  [.addAttester (sampleAttester false), .addAttester (sampleAttester true),
    .requestMeshAttestation sampleOrigin.bytes 5000,
    .processMeshCertificate (attesterCertificate false) 6000]

def selfMadeRun : List AttestationEvent :=
  [.requestMeshAttestation sampleOrigin.bytes 5000, .processMeshCertificate ownCertificate 6000]

/-- What a certificate gets after a run. -/
def meshAnswer (es : List AttestationEvent) (certificate : AttestationCertificate) :=
  ((run (AttestationMesh.step Blake3.hash attestationVerify) (.new .default)
    es).processMeshCertificate Blake3.hash attestationVerify certificate 6000).1

theorem attested_consensus_backed :
    ∃ consensus, meshAnswer attestedRun (attesterCertificate true) = .ok (some consensus) ∧
        ∃ startedAtMs votes,
          lastRequest consensus.targetId attestedRun = some startedAtMs ∧
            votes ⊆ consensus.certificates ∧
            AttestationConfig.default.minAttesters.toNat ≤ votes.length ∧
            (votes.map (·.verifierId)).Nodup ∧
            ∀ vote ∈ votes, AttestationMesh.Backs Blake3.hash attestationVerify attestedRun
              consensus.targetId startedAtMs vote := by
  have hrun : Guarded (AttestationMesh.step Blake3.hash attestationVerify)
        (AttestationMesh.FreshVotes Blake3.hash attestationVerify) (.new .default)
        (attestedRun ++ [.processMeshCertificate (attesterCertificate true) 6000]) ∧
      meshAnswer attestedRun (attesterCertificate true) =
        .ok (some (consensusWith ⟨sampleOrigin.bytes, [attesterCertificate false], 5000⟩
          (attesterCertificate true))) := by
    decide +kernel
  exact ⟨_, hrun.2, consensus_backed Blake3.hash attestationVerify .default attestedRun _ _
    hrun.1 _ hrun.2⟩

/-- **A consensus of one node about itself.** There are no attesters. The target countersigns its
own report, which is older than the request, and sends the certificate twice: a consensus
`Valid`. -/
theorem self_made_consensus :
    ∃ consensus, meshAnswer selfMadeRun ownCertificate = .ok (some consensus) ∧
        consensus.result = .valid ∧
        consensus.certificates.map (·.verifierId) = [consensus.targetId, consensus.targetId] ∧
        (∀ attesterId, .addAttester attesterId ∉ selfMadeRun) ∧
        lastRequest consensus.targetId selfMadeRun = some 5000 ∧
        consensus.certificates.map (·.report.timestampMs) = [1000, 1000] := by
  refine ⟨consensusWith ⟨sampleOrigin.bytes, [ownCertificate], 5000⟩
    ownCertificate, by decide +kernel, rfl, rfl, ?_, by decide +kernel, rfl⟩
  intro attesterId
  simp [selfMadeRun]

end AxiomCore
