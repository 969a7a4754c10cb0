import AxiomCore.Crypto.FrameSign

/-!
# Cross-tier tokens

A token grants its subject capabilities in a trust tier until it expires. A token may name a parent
token, from which it was delegated; the chain of parents ends at a root.

- `TokenVerifier`: the trusted issuers and the revoked tokens, with `verifyToken` and
  `verifyDelegationChain`. Ed25519 is a parameter.

Source: `axiom-transport/src/cross_tier_auth.rs`.
-/

namespace AxiomCore

open Lib

/-! ## Tokens -/

inductive TrustTier where
  | root
  | firmware
  | kernel
  | driver
  | application
  deriving DecidableEq

/-- The discriminants; smaller is more privileged. -/
def TrustTier.toU8 : TrustTier → UInt8
  | .root => 0
  | .firmware => 1
  | .kernel => 2
  | .driver => 3
  | .application => 4

def TrustTier.canIssueFor (tier target : TrustTier) : Bool := tier.toU8 ≤ target.toU8

inductive Capability where
  | memoryRead
  | memoryWrite
  | execute
  | dmaAccess
  | interruptAccess
  | ioPortAccess
  | mmioAccess
  | networkAccess
  | storageAccess
  | cryptoAccess
  | delegate
  | auditAccess
  | admin
  deriving DecidableEq

namespace Capability

def toU16 : Capability → UInt16
  | .memoryRead => 0x0001
  | .memoryWrite => 0x0002
  | .execute => 0x0003
  | .dmaAccess => 0x0004
  | .interruptAccess => 0x0005
  | .ioPortAccess => 0x0006
  | .mmioAccess => 0x0007
  | .networkAccess => 0x0008
  | .storageAccess => 0x0009
  | .cryptoAccess => 0x000A
  | .delegate => 0x000B
  | .auditAccess => 0x000C
  | .admin => 0x00FF

def all : List Capability :=
  [.memoryRead, .memoryWrite, .execute, .dmaAccess, .interruptAccess, .ioPortAccess, .mmioAccess,
    .networkAccess, .storageAccess, .cryptoAccess, .delegate, .auditAccess, .admin]

end Capability

abbrev TokenId := Vector UInt8 16

structure AuthToken where
  tokenId : TokenId
  issuerId : KeyId
  subjectId : KeyId
  tier : TrustTier
  capabilities : Finset Capability
  issuedAtMs : UInt64
  expiresAtMs : UInt64
  parentToken : Option TokenId
  nonce : Vector UInt8 16
  signature : Signature
  /-- How often it was delegated, as it says. -/
  delegationDepth : UInt8
  deriving DecidableEq

namespace AuthToken

def isExpired (token : AuthToken) (currentTimeMs : UInt64) : Bool :=
  currentTimeMs ≥ token.expiresAtMs

def hasCapability (token : AuthToken) (cap : Capability) : Bool := cap ∈ token.capabilities

def canDelegate (token : AuthToken) : Bool := token.hasCapability .delegate

/-- A `BTreeSet` in its order. -/
def sortedCapabilities (token : AuthToken) : List Capability :=
  Capability.all.filter (· ∈ token.capabilities)

def canonicalBytes (token : AuthToken) : List UInt8 :=
  utf8 "AXIOM-TOKEN" ++ [0x00, 0x01] ++ token.tokenId.toList ++ token.issuerId.toList ++
    token.subjectId.toList ++ [token.tier.toU8] ++ leBytes 2 token.sortedCapabilities.length ++
    token.sortedCapabilities.flatMap (fun cap => leBytes 2 cap.toU16.toNat) ++
    toLeBytes token.issuedAtMs ++ toLeBytes token.expiresAtMs ++
    (match token.parentToken with
      | some parent => 0x01 :: parent.toList
      | none => [0x00]) ++
    token.nonce.toList ++ [token.delegationDepth]

def verify (V : Verify) (token : AuthToken) (issuerPublicKey : KeyId) : Bool :=
  V ⟨issuerPublicKey⟩ token.canonicalBytes token.signature

end AuthToken

/-! ## The verifier -/

inductive TokenError where
  | expired
  | revoked
  | untrustedIssuer
  | invalidSignature
  | insufficientTier
  | missingCapability (cap : Capability)
  | capabilityEscalation
  | parentNotProvided
  | expirationExceedsParent
  | maxDelegationDepthExceeded
  deriving DecidableEq

structure TrustedIssuer where
  publicKey : KeyId
  tier : TrustTier
  deriving DecidableEq

structure TokenVerifier where
  trustedIssuers : KeyId → Option TrustedIssuer
  revokedTokens : List TokenId

def maxDelegationDepth : Nat := 5

namespace TokenVerifier

def isRevoked (verifier : TokenVerifier) (tokenId : TokenId) : Bool :=
  verifier.revokedTokens.contains tokenId

def checkCapabilities (token : AuthToken) : List Capability → Except TokenError Unit
  | [] => .ok ()
  | cap :: rest =>
    if !token.hasCapability cap then .error (.missingCapability cap)
    else checkCapabilities token rest

variable (V : Verify)

def checkSignature (verifier : TokenVerifier) (token : AuthToken) : Except TokenError Unit :=
  match verifier.trustedIssuers token.issuerId with
  | none => .error .untrustedIssuer
  | some issuer =>
    if !token.verify V issuer.publicKey then .error .invalidSignature else .ok ()

def verifyToken (verifier : TokenVerifier) (token : AuthToken) (requiredTier : TrustTier)
    (requiredCapabilities : List Capability) (currentTimeMs : UInt64) : Except TokenError Unit :=
  if verifier.isRevoked token.tokenId then .error .revoked
  else if token.isExpired currentTimeMs then .error .expired
  else
    match verifier.checkSignature V token with
    | .error e => .error e
    | .ok () =>
      if token.tier.toU8 > requiredTier.toU8 then .error .insufficientTier
      else checkCapabilities token requiredCapabilities

def checkUnderParent (verifier : TokenVerifier) (token parent : AuthToken) :
    Except TokenError Unit :=
  if token.sortedCapabilities.any fun cap => !parent.hasCapability cap then
    .error .capabilityEscalation
  else if token.expiresAtMs > parent.expiresAtMs then .error .expirationExceedsParent
  else verifier.checkSignature V token

/-- `verify_delegation_chain_bounded`, where `remaining` is how many more calls the depth limit
allows: `MAX_DELEGATION_DEPTH + 1 - depth`. -/
def verifyDelegationChainBounded (verifier : TokenVerifier) (parentTokens : List AuthToken)
    (currentTimeMs : UInt64) : Nat → AuthToken → Except TokenError Unit
  | 0, _ => .error .maxDelegationDepthExceeded
  | remaining + 1, token =>
    match token.parentToken with
    | none => verifier.verifyToken V token .application [] currentTimeMs
    | some parentId =>
      match parentTokens.find? (·.tokenId = parentId) with
      | none => .error .parentNotProvided
      | some parent =>
        match verifier.verifyDelegationChainBounded parentTokens currentTimeMs remaining
            parent with
        | .error e => .error e
        | .ok () => verifier.checkUnderParent V token parent

def verifyDelegationChain (verifier : TokenVerifier) (token : AuthToken)
    (parentTokens : List AuthToken) (currentTimeMs : UInt64) : Except TokenError Unit :=
  verifier.verifyDelegationChainBounded V parentTokens currentTimeMs (maxDelegationDepth + 1) token

end TokenVerifier

open TokenVerifier

/-! ## Chains -/

def parentOf (parentTokens : List AuthToken) (token : AuthToken) : Option AuthToken :=
  match token.parentToken with
  | none => none
  | some parentId => parentTokens.find? (·.tokenId = parentId)

/-- A token is on the chain from a leaf to its root. -/
def OnChain (parentTokens : List AuthToken) : AuthToken → AuthToken → Prop :=
  Relation.ReflTransGen fun child parent => parentOf parentTokens child = some parent

/-- A trusted issuer has validly signed the token. -/
def SignedByTrusted (V : Verify) (verifier : TokenVerifier) (token : AuthToken) : Prop :=
  ∃ issuer, verifier.trustedIssuers token.issuerId = some issuer ∧
    token.verify V issuer.publicKey

/-- What is checked of a token under its parent. -/
structure Attenuates (V : Verify) (verifier : TokenVerifier) (token parent : AuthToken) :
    Prop where
  capabilities : token.capabilities ⊆ parent.capabilities
  expires : token.expiresAtMs ≤ parent.expiresAtMs
  signed : SignedByTrusted V verifier token

structure AuthToken.Live (V : Verify) (verifier : TokenVerifier) (currentTimeMs : UInt64)
    (token : AuthToken) : Prop where
  unrevoked : ¬ verifier.isRevoked token.tokenId
  unexpired : ¬ token.isExpired currentTimeMs
  signed : SignedByTrusted V verifier token

namespace TokenVerifier

variable {V : Verify} {verifier : TokenVerifier} {token parent : AuthToken}
  {parentTokens : List AuthToken} {currentTimeMs : UInt64}

lemma signed_of_checkSignature (h : verifier.checkSignature V token = .ok ()) :
    SignedByTrusted V verifier token := by
  unfold checkSignature at h
  split at h
  · cases h
  next issuer hissuer =>
  split_ifs at h with hsigned
  exact ⟨issuer, hissuer, by simpa using hsigned⟩

lemma live_of_verifyToken {requiredTier : TrustTier} {requiredCapabilities : List Capability}
    (h : verifier.verifyToken V token requiredTier requiredCapabilities currentTimeMs = .ok ()) :
    token.Live V verifier currentTimeMs := by
  unfold verifyToken at h
  by_cases hrevoked : verifier.isRevoked token.tokenId
  · rw [if_pos hrevoked] at h
    cases h
  by_cases hexpired : token.isExpired currentTimeMs
  · rw [if_neg hrevoked, if_pos hexpired] at h
    cases h
  rw [if_neg hrevoked, if_neg hexpired] at h
  split at h
  · cases h
  · next hsigned => exact ⟨hrevoked, hexpired, signed_of_checkSignature hsigned⟩

lemma mem_sortedCapabilities {cap : Capability} :
    cap ∈ token.sortedCapabilities ↔ cap ∈ token.capabilities := by
  have hall : cap ∈ Capability.all := by cases cap <;> decide
  simp [AuthToken.sortedCapabilities, hall]

lemma attenuates_of_checkUnderParent (h : verifier.checkUnderParent V token parent = .ok ()) :
    Attenuates V verifier token parent := by
  unfold checkUnderParent at h
  split_ifs at h with hcapabilities hexpires
  refine ⟨fun cap hcap => ?_, UInt64.not_lt.mp hexpires, signed_of_checkSignature h⟩
  by_contra hmissing
  apply hcapabilities
  refine List.any_eq_true.mpr ⟨cap, mem_sortedCapabilities.mpr hcap, ?_⟩
  simpa [AuthToken.hasCapability] using hmissing

lemma verifyDelegationChainBounded_cases {remaining : Nat}
    (h : verifier.verifyDelegationChainBounded V parentTokens currentTimeMs remaining token =
      .ok ()) :
    token.parentToken = none ∧ token.Live V verifier currentTimeMs ∨
      ∃ parent remaining', remaining = remaining' + 1 ∧
        parentOf parentTokens token = some parent ∧ Attenuates V verifier token parent ∧
        verifier.verifyDelegationChainBounded V parentTokens currentTimeMs remaining' parent =
          .ok () := by
  cases remaining with
  | zero => cases h
  | succ remaining =>
    unfold verifyDelegationChainBounded at h
    split at h
    · next hroot => exact .inl ⟨hroot, live_of_verifyToken h⟩
    next parentId hparentId =>
    split at h
    · cases h
    next parent hfind =>
    split at h
    · cases h
    next haccepted =>
    refine .inr ⟨parent, remaining, rfl, ?_, attenuates_of_checkUnderParent h, haccepted⟩
    simp only [parentOf, hparentId, hfind]

end TokenVerifier

lemma parentOf_eq_none {parentTokens : List AuthToken} {token : AuthToken}
    (hroot : token.parentToken = none) : parentOf parentTokens token = none := by
  simp only [parentOf, hroot]

lemma isSome_of_parentOf {parentTokens : List AuthToken} {token parent : AuthToken}
    (hparent : parentOf parentTokens token = some parent) : token.parentToken.isSome := by
  by_contra hnone
  rw [Bool.not_eq_true, Option.isSome_eq_false_iff, Option.isNone_iff_eq_none] at hnone
  rw [parentOf_eq_none hnone] at hparent
  cases hparent

/-! ## Accepted chains -/

namespace TokenVerifier

variable {V : Verify} {verifier : TokenVerifier} {leaf token parent : AuthToken}
  {parentTokens : List AuthToken} {currentTimeMs : UInt64} {remaining : Nat}

lemma link_of_accepted
    (h : verifier.verifyDelegationChainBounded V parentTokens currentTimeMs remaining token =
      .ok ()) (hlink : parentOf parentTokens token = some parent) :
    Attenuates V verifier token parent ∧ ∃ remaining',
      verifier.verifyDelegationChainBounded V parentTokens currentTimeMs remaining' parent =
        .ok () := by
  rcases verifyDelegationChainBounded_cases h with
    ⟨hroot, -⟩ | ⟨found, remaining', -, hfound, hattenuates, haccepted⟩
  · rw [parentOf_eq_none hroot] at hlink
    cases hlink
  · cases hfound.symm.trans hlink
    exact ⟨hattenuates, remaining', haccepted⟩

lemma accepted_of_onChain
    (h : verifier.verifyDelegationChainBounded V parentTokens currentTimeMs remaining leaf = .ok ())
    (hchain : OnChain parentTokens leaf token) :
    ∃ remaining',
      verifier.verifyDelegationChainBounded V parentTokens currentTimeMs remaining' token =
        .ok () := by
  induction hchain with
  | refl => exact ⟨remaining, h⟩
  | tail _ hlink ih =>
    obtain ⟨remaining', haccepted⟩ := ih
    exact (link_of_accepted haccepted hlink).2

lemma attenuated_of_onChain
    (h : verifier.verifyDelegationChainBounded V parentTokens currentTimeMs remaining leaf = .ok ())
    (hchain : OnChain parentTokens leaf token) :
    leaf.capabilities ⊆ token.capabilities ∧ leaf.expiresAtMs ≤ token.expiresAtMs := by
  induction hchain with
  | refl => exact ⟨Finset.Subset.refl _, UInt64.le_refl _⟩
  | tail hchain hlink ih =>
    obtain ⟨remaining', haccepted⟩ := accepted_of_onChain h hchain
    obtain ⟨hattenuates, -⟩ := link_of_accepted haccepted hlink
    exact ⟨ih.1.trans hattenuates.capabilities, UInt64.le_trans ih.2 hattenuates.expires⟩

lemma exists_live_root
    (h : verifier.verifyDelegationChainBounded V parentTokens currentTimeMs remaining token =
      .ok ()) :
    ∃ root, OnChain parentTokens token root ∧ root.parentToken = none ∧
      root.Live V verifier currentTimeMs := by
  induction remaining generalizing token with
  | zero => cases h
  | succ remaining ih =>
    rcases verifyDelegationChainBounded_cases h with
      ⟨hroot, hlive⟩ | ⟨parent, remaining', hdepth, hparent, -, haccepted⟩
    · exact ⟨token, .refl, hroot, hlive⟩
    obtain rfl := Nat.succ.inj hdepth
    obtain ⟨root, hchain, hroot⟩ := ih haccepted
    exact ⟨root, .head hparent hchain, hroot⟩

end TokenVerifier

variable (V : Verify) (verifier : TokenVerifier) (leaf : AuthToken)
  (parentTokens : List AuthToken) (currentTimeMs : UInt64)

/-- **Which accepted chains are live.** Every token on an accepted chain is live iff the leaf is not
expired and no delegated token on the chain is revoked. The signatures and the root are checked, and
an ancestor outlives the leaf. -/
theorem chain_live_iff
    (hok : verifier.verifyDelegationChain V leaf parentTokens currentTimeMs = .ok ()) :
    (∀ token, OnChain parentTokens leaf token → token.Live V verifier currentTimeMs) ↔
      ¬ leaf.isExpired currentTimeMs ∧
        ∀ token, OnChain parentTokens leaf token → token.parentToken.isSome →
          ¬ verifier.isRevoked token.tokenId := by
  constructor
  · intro hlive
    exact ⟨(hlive leaf .refl).unexpired, fun token hchain _ => (hlive token hchain).unrevoked⟩
  · rintro ⟨hleaf, hunrevoked⟩ token hchain
    obtain ⟨remaining, haccepted⟩ := accepted_of_onChain hok hchain
    rcases verifyDelegationChainBounded_cases haccepted with
      ⟨-, hlive⟩ | ⟨parent, -, -, hparent, hattenuates, -⟩
    · exact hlive
    have hlasts := (attenuated_of_onChain hok hchain).2
    refine ⟨hunrevoked token hchain (isSome_of_parentOf hparent), ?_, hattenuates.signed⟩
    -- the token lasts as long as the leaf, and the leaf is not expired
    simp only [AuthToken.isExpired, ge_iff_le, decide_eq_true_eq, UInt64.not_le] at hleaf ⊢
    exact UInt64.lt_of_lt_of_le hleaf hlasts

/-- **Delegation attenuates.** Along every link of an accepted chain the child grants no more,
expires no later and is signed by an issuer that is itself trusted. The chain ends at a live root,
which grants and lasts at least what the leaf does. -/
theorem delegation_attenuates
    (hok : verifier.verifyDelegationChain V leaf parentTokens currentTimeMs = .ok ()) :
    (∀ child parent, OnChain parentTokens leaf child →
        parentOf parentTokens child = some parent → Attenuates V verifier child parent) ∧
      ∃ root, OnChain parentTokens leaf root ∧ root.parentToken = none ∧
        root.Live V verifier currentTimeMs ∧
        leaf.capabilities ⊆ root.capabilities ∧ leaf.expiresAtMs ≤ root.expiresAtMs := by
  constructor
  · intro child parent hchain hlink
    obtain ⟨remaining, haccepted⟩ := accepted_of_onChain hok hchain
    exact (link_of_accepted haccepted hlink).1
  · obtain ⟨root, hchain, hroot, hlive⟩ := exists_live_root hok
    exact ⟨root, hchain, hroot, hlive, attenuated_of_onChain hok hchain⟩

/-! ### Samples -/

/-- A token of kernel tier that may not be delegated. -/
def rootToken : AuthToken where
  tokenId := .replicate 16 1
  issuerId := sampleOrigin.bytes
  subjectId := .replicate 32 9
  tier := .kernel
  capabilities := {.memoryRead, .networkAccess}
  issuedAtMs := 1000
  expiresAtMs := 100000
  parentToken := none
  nonce := .replicate 16 0
  signature := ⟨hex 64 (0x52d0d6de177ba3eb50159cdea36a2533adbec5139848e016bba6aa6df3aeb84d <<< 256 +
    0xf88b04a92eac11d3f595a9e21157593bfc634fc6502cc6cac57616b08f62640a)⟩
  delegationDepth := 0

def childToken : AuthToken where
  tokenId := .replicate 16 2
  issuerId := sampleOrigin.bytes
  subjectId := .replicate 32 8
  tier := .root
  capabilities := {.memoryRead}
  issuedAtMs := 2000
  expiresAtMs := 5000
  parentToken := some (.replicate 16 1)
  nonce := .replicate 16 0
  signature := ⟨hex 64 (0xff7bb471032e79d9afebcf6d91321eede2b7aa27740490180ff9e48189b0ef31 <<< 256 +
    0x826f9dceaa92a62381f5826e60e4f5dd34ed32a8f3a4d9c807fa0c194b8aa309)⟩
  delegationDepth := 1

def tokenVerify : Verify := fun node message signature =>
  let signed (token : AuthToken) : Bool :=
    decide (node = ⟨token.issuerId⟩) && decide (message = token.canonicalBytes) &&
      decide (signature = token.signature)
  signed rootToken || signed childToken

/-- `sampleOrigin` is trusted, for applications. -/
def sampleTokenVerifier (revokedTokens : List TokenId) : TokenVerifier where
  trustedIssuers id := if id = sampleOrigin.bytes then some ⟨id, .application⟩ else none
  revokedTokens := revokedTokens

lemma sample_chain_ok :
    (sampleTokenVerifier []).verifyDelegationChain tokenVerify childToken [rootToken] 3000 =
      .ok () := by
  decide +kernel

theorem sample_chain_live :
    (sampleTokenVerifier []).verifyDelegationChain tokenVerify childToken [rootToken] 3000 =
        .ok () ∧
      ∀ token, OnChain [rootToken] childToken token →
        token.Live tokenVerify (sampleTokenVerifier []) 3000 := by
  refine ⟨sample_chain_ok, (chain_live_iff _ _ _ _ _ sample_chain_ok).mpr ⟨by decide, ?_⟩⟩
  intro token _ _
  simp [TokenVerifier.isRevoked, sampleTokenVerifier]

/-- **A revoked and expired token is accepted.** The child is revoked and expired; the chain is
checked at 6000 and accepted, where `verify_token` alone rejects it. -/
theorem revoked_child_accepted :
    let verifier := sampleTokenVerifier [childToken.tokenId]
    verifier.verifyDelegationChain tokenVerify childToken [rootToken] 6000 = .ok () ∧
      OnChain [rootToken] childToken childToken ∧ verifier.isRevoked childToken.tokenId ∧
      childToken.isExpired 6000 ∧
      verifier.verifyToken tokenVerify childToken .application [] 6000 = .error .revoked := by
  have hrun : let verifier := sampleTokenVerifier [childToken.tokenId]
      verifier.verifyDelegationChain tokenVerify childToken [rootToken] 6000 = .ok () ∧
        verifier.isRevoked childToken.tokenId ∧ childToken.isExpired 6000 ∧
        verifier.verifyToken tokenVerify childToken .application [] 6000 = .error .revoked := by
    decide +kernel
  exact ⟨hrun.1, .refl, hrun.2⟩

theorem sample_chain_attenuates :
    (sampleTokenVerifier []).verifyDelegationChain tokenVerify childToken [rootToken] 3000 =
        .ok () ∧
      Attenuates tokenVerify (sampleTokenVerifier []) childToken rootToken := by
  have hlinks := (delegation_attenuates _ _ _ _ _ sample_chain_ok).1
  exact ⟨sample_chain_ok, hlinks childToken rootToken .refl (by decide +kernel)⟩

/-- **A token raised to the root tier.** The parent may not be delegated, its subject did not issue
the child, and its own issuer is trusted for applications only; the child, of a more privileged tier
than the parent, is accepted. -/
theorem raised_tier_accepted :
    (sampleTokenVerifier []).verifyDelegationChain tokenVerify childToken [rootToken] 3000 =
        .ok () ∧
      parentOf [rootToken] childToken = some rootToken ∧ ¬ rootToken.canDelegate ∧
      childToken.issuerId ≠ rootToken.subjectId ∧
      childToken.tier.toU8 < rootToken.tier.toU8 ∧
      ∃ issuer, (sampleTokenVerifier []).trustedIssuers rootToken.issuerId = some issuer ∧
        ¬ issuer.tier.canIssueFor rootToken.tier := by
  refine ⟨sample_chain_ok, ?_, ?_, ?_, ?_, ⟨sampleOrigin.bytes, .application⟩, ?_, ?_⟩
  all_goals decide +kernel

end AxiomCore
