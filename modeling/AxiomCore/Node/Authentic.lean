import AxiomCore.Node.KeyUse
import AxiomCore.Node.Registry

/-!
# The registry is authentic

Anyone may relay an announcement. What is registered for an origin is nevertheless its own: the
origin signs its node id, its clock and its capabilities, and an arm that cannot verify them, or
finds them stale, returns before it touches a table.

Source: `forge-node/src/network.rs`.
-/

namespace AxiomCore

open Lib AnnouncementManager ArmStage List

/-! ## Signatures -/

/-- What a node signed. Nothing else verifies as signed by it: its key is its own, and Ed25519 is
unforgeable. -/
structure SigningHistory (V : Verify) (node : NodeId) where
  announced : Set Claim
  /-- The greetings, frames and pongs it signed. -/
  others : Set (List UInt8)
  others_signs : ∀ message ∈ others, ∃ use ≠ KeyUse.announcement, message ∈ use.signs
  unforgeable : ∀ message signature, V node message signature →
    message ∈ others ∨ ∃ claim ∈ announced, message = claim.signingBytes

lemma SigningHistory.mem_announced {V : Verify} {frame : Frame} {claim : Claim}
    (S : SigningHistory V claim.origin) (h : verifiedClaim V frame = some claim) :
    ∃ announced ∈ S.announced,
      announced.origin = claim.origin ∧ announced.capabilities = claim.capabilities := by
  obtain ⟨ttl, signature, -, hV⟩ := exists_payload_of_verifiedClaim h
  rcases S.unforgeable _ _ hV with hother | ⟨announced, hmem, hbytes⟩
  · -- the bytes of an announcement are signed for nothing else
    obtain ⟨use, huse, hsigns⟩ := S.others_signs _ hother
    exact absurd (KeyUse.looks_unique (KeyUse.looks_of_mem_signs hsigns)
      (KeyUse.looks_originSigningBytesFor ..)) huse
  · obtain ⟨horigin, -, hcapabilities⟩ := Claim.eq_of_signingBytes_eq hbytes
    exact ⟨announced, hmem, horigin.symm, hcapabilities.symm⟩

/-! ## The registry -/

/-- Everything in the registry is there under its own hash and has a known name. -/
def SemanticRouter.Known (blake3 : List UInt8 → Digest) (router : SemanticRouter) : Prop :=
  ∀ hash node cap, (node, cap) ∈ (router.capabilities hash).getD [] →
    ∃ name ∈ knownCapabilityNames, cap = .new blake3 name ∧ capabilityHash blake3 name = hash

namespace SemanticRouter.Known

variable {blake3 : List UInt8 → Digest} {router : SemanticRouter}

lemma register (h : router.Known blake3) (node : NodeId) {name : String}
    (hname : name ∈ knownCapabilityNames) :
    (router.register node (.new blake3 name)).Known blake3 := by
  intro hash node' cap hmem
  rw [getD_register] at hmem
  split_ifs at hmem with hhash
  · rcases mem_append.mp hmem with hold | hnew
    · exact h _ _ _ (mem_filter.mp hold).1
    · obtain ⟨-, rfl⟩ := Prod.mk.inj (mem_singleton.mp hnew)
      exact ⟨name, hname, rfl, hhash.symm⟩
  · exact h _ _ _ hmem

lemma unregisterNode (h : router.Known blake3) (node : NodeId) :
    (router.unregisterNode node).Known blake3 := by
  intro hash node' cap hmem
  rw [getD_unregisterNode] at hmem
  exact h hash node' cap (mem_filter.mp hmem).1

lemma replaceRegistrations (h : router.Known blake3) (origin : NodeId)
    (caps : List AnnouncedCapability) :
    (AxiomCore.replaceRegistrations blake3 router origin caps).Known blake3 := by
  unfold AxiomCore.replaceRegistrations
  -- over the capabilities, and for each over the known names
  refine List.foldlRecOn caps _ (h.unregisterNode origin) fun router hrouter cap _ => ?_
  refine List.foldlRecOn knownCapabilityNames _ hrouter fun router hrouter name hname => ?_
  split_ifs
  · exact hrouter.register origin hname
  · exact hrouter

end SemanticRouter.Known

/-- What is registered for the claim's origin is what the claim lists under known names. -/
structure SemanticRouter.Lists (blake3 : List UInt8 → Digest) (router : SemanticRouter)
    (claim : Claim) : Prop where
  provides : ∀ hash, router.provides claim.origin hash ↔ claim.Installs blake3 hash
  named : ∀ hash cap, (claim.origin, cap) ∈ (router.capabilities hash).getD [] →
    ∃ name ∈ knownCapabilityNames, cap = .new blake3 name ∧ capabilityHash blake3 name = hash

/-- For every node, nothing is registered, or what one claim installs that was received with a
signature of the node. -/
structure RouteSystem.Authentic (blake3 : List UInt8 → Digest) (V : Verify) (s : RouteSystem) :
    Prop where
  backed : s.Backed V
  known : s.router.Known blake3
  signed : ∀ node, (∀ hash, ¬ s.router.provides node hash) ∨
    ∃ frame claim, verifiedClaim V frame = some claim ∧ claim.origin = node ∧
      ∀ hash, s.router.provides node hash ↔ claim.Installs blake3 hash

namespace RouteSystem.Authentic

variable {blake3 : List UInt8 → Digest} {V : Verify} {s : RouteSystem}

lemma start (blake3 : List UInt8 → Digest) (V : Verify) (identity : Keypair)
    (secs maxPeers : Nat) (relay : Relay) :
    (RouteSystem.start identity secs maxPeers relay).Authentic blake3 V where
  backed := fun _ _ h => by cases h
  known := fun _ _ _ h => by cases h
  signed := fun node => .inl fun hash h => by cases h

lemma step (h : s.Authentic blake3 V) (e : RouteEvent) :
    (s.step blake3 V e).Authentic blake3 V := by
  have hmove := routerMove_step blake3 V s e
  -- unregistering leaves the others as they were
  have hdrop : ∀ origin node, (∀ hash, ¬ (s.router.unregisterNode origin).provides node hash) ∨
      ∃ frame claim, verifiedClaim V frame = some claim ∧ claim.origin = node ∧
        ∀ hash, (s.router.unregisterNode origin).provides node hash ↔
          claim.Installs blake3 hash := by
    intro origin node
    simp only [SemanticRouter.provides_unregisterNode]
    by_cases hnode : node = origin
    · exact .inl fun hash h => h.1 hnode
    · simpa [hnode] using h.signed node
  refine ⟨h.backed.step e, ?_, ?_⟩
  · generalize (s.step blake3 V e).router = router at hmove ⊢
    cases hmove with
    | same => exact h.known
    | replaced t reading frame claim newCaps harm hfree =>
      exact h.known.replaceRegistrations claim.origin newCaps
    | purged p purge hpurge hfirst => exact h.known.unregisterNode purge.id
    | orphaned p origin hroute => exact h.known.unregisterNode origin
    | swept u stale origin looked hupkeep hroute => exact h.known.unregisterNode origin
  · generalize (s.step blake3 V e).router = router at hmove ⊢
    cases hmove with
    | same => exact h.signed
    | replaced t reading frame claim newCaps harm hfree =>
      -- the arm carries the claim of its frame
      obtain ⟨hverified, rfl⟩ := h.backed t _ harm
      intro node
      simp only [provides_replaceRegistrations s.router claim]
      by_cases hnode : node = claim.origin
      · exact .inr ⟨frame, claim, hverified, hnode.symm, by simp [hnode]⟩
      · simpa [hnode] using h.signed node
    | purged p purge hpurge hfirst => exact hdrop purge.id
    | orphaned p origin hroute => exact hdrop origin
    | swept u stale origin looked hupkeep hroute => exact hdrop origin

lemma lists {origin : NodeId} (h : s.Authentic blake3 V) (S : SigningHistory V origin) :
    (∀ hash, ¬ s.router.provides origin hash) ∨
      ∃ claim ∈ S.announced, claim.origin = origin ∧ s.router.Lists blake3 claim := by
  rcases h.signed origin with hnone | ⟨frame, claim, hverified, rfl, hprovides⟩
  · exact .inl hnone
  obtain ⟨announced, hmem, horigin, hcapabilities⟩ := S.mem_announced hverified
  refine .inr ⟨announced, hmem, horigin, ⟨fun hash => ?_, fun hash cap hcap => ?_⟩⟩
  · rw [horigin, hprovides, Claim.Installs, Claim.Installs, Claim.hashes, Claim.hashes,
      hcapabilities]
  · exact h.known hash _ cap hcap

end RouteSystem.Authentic

/-! ## Rejected frames -/

/-- Arms go through the stages in this order. -/
def ArmStage.rank : ArmStage → Nat
  | .received => 0
  | .gated => 1
  | .rejected => 2
  | .checked _ => 3
  | .introduced _ => 4
  | .limited _ => 5
  | .accepted _ _ => 6
  | .routing _ _ => 7
  | .registering _ _ => 8
  | .ended => 9

def RouteSystem.tables (s : RouteSystem) :
    OriginAdmission × LastAnnounceFrom × AnnouncementManager × ReachableVia × SemanticRouter :=
  (s.originAdmission, s.lastAnnounceFrom, s.manager, s.reachableVia, s.router)

def ArmKeeps {α : Type*} (blake3 : List UInt8 → Digest) (V : Verify) (view : RouteSystem → α)
    (s : RouteSystem) (es : List RouteEvent) (t : Nat) : Prop :=
  ∀ es₁ reading es₂, es = es₁ ++ .arm t reading :: es₂ →
    view ((run (RouteSystem.step blake3 V) s es₁).step blake3 V (.arm t reading)) =
      view (run (RouteSystem.step blake3 V) s es₁)

section Arms

variable {blake3 : List UInt8 → Digest} {V : Verify} {s : RouteSystem} {t : Nat} {arm : Arm}

variable {reading : Reading} {frame : Frame} {es es₁ es₂ : List RouteEvent}

variable {stage stage' : ArmStage} {claim : Claim}

lemma rank_lt_of_next
    (h : Next V s reading frame stage stage') : stage.rank < stage'.rank := by
  cases h <;> simp [rank]

lemma rank_le_of_run (blake3 : List UInt8 → Digest) (V : Verify) (h : s.arms[t]? = some arm)
    (es : List RouteEvent) :
    ∃ stage, (run (RouteSystem.step blake3 V) s es).arms[t]? = some ⟨arm.frame, stage⟩ ∧
      arm.stage.rank ≤ stage.rank := by
  refine run_invariant (I := fun s' : RouteSystem => ∃ stage,
    s'.arms[t]? = some ⟨arm.frame, stage⟩ ∧ arm.stage.rank ≤ stage.rank) ?_ ⟨_, h, le_rfl⟩ es
  rintro s' e ⟨stage, harm, hle⟩
  rcases arms_step blake3 V harm e with hsame | ⟨reading, stage', -, hnew, hnext⟩
  · exact ⟨stage, hsame, hle⟩
  · exact ⟨stage', hnew, hle.trans (rank_lt_of_next hnext).le⟩

lemma returned_of_run (h : s.arms[t]? = some arm)
    (hreturned : arm.stage = .rejected ∨ arm.stage = .ended) (es : List RouteEvent) :
    (run (RouteSystem.step blake3 V) s es).arms[t]? = some arm := by
  refine run_invariant (I := fun s' : RouteSystem => s'.arms[t]? = some arm) ?_ h es
  intro s' e harm
  obtain ⟨frame, stage⟩ := arm
  rcases arms_step blake3 V harm e with hsame | ⟨reading, stage', -, hnew, hnext⟩
  · exact hsame
  rcases hreturned with rfl | rfl
  · cases hnext
  · cases hnext

lemma tables_step_arm (reading : Reading)
    (h : ∀ arm, s.arms[t]? = some arm →
      arm.stage.rank ≤ 2 ∨ arm.stage = .rejected ∨ arm.stage = .ended) :
    (s.step blake3 V (.arm t reading)).tables = s.tables := by
  simp only [RouteSystem.step]
  split
  · rename_i arm harm
    obtain ⟨frame, stage⟩ := arm
    unfold RouteSystem.stepArm
    cases stage with
    | received => rfl
    | gated =>
      simp only
      split
      · rfl
      · rfl
    | rejected => rfl
    | ended => rfl
    | checked | introduced | limited | accepted | routing | registering =>
      have := h _ harm
      simp [rank] at this
  · rfl

/-- The tables past the rate limits. -/
def RouteSystem.announced (s : RouteSystem) : AnnouncementManager × ReachableVia × SemanticRouter :=
  (s.manager, s.reachableVia, s.router)

lemma announced_step_arm (h : ∀ arm, s.arms[t]? = some arm →
      arm.stage.rank < 5) :
    (s.step blake3 V (.arm t reading)).announced = s.announced := by
  simp only [RouteSystem.step]
  split
  · rename_i arm harm
    obtain ⟨frame, stage⟩ := arm
    unfold RouteSystem.stepArm
    cases stage with
    | received => rfl
    | gated =>
      simp only
      split
      · rfl
      · rfl
    | rejected => rfl
    | checked claim => rfl
    | introduced claim => rfl
    | limited | accepted | routing | registering | ended =>
      have := h _ harm
      simp [rank] at this
  · rfl

lemma rank_of_limited
    (h : s.arms[t]? = some ⟨frame, .limited claim⟩) :
    ∃ stage, (s.step blake3 V (.arm t reading)).arms[t]? = some ⟨frame, stage⟩ ∧
      5 < stage.rank := by
  simp only [RouteSystem.step, h, RouteSystem.stepArm]
  split
  · exact ⟨_, getElem?_set_of_some h, by simp [rank]⟩
  · exact ⟨_, getElem?_set_of_some h, by simp [rank]⟩

lemma armKeeps_of_returned {α : Type*} {view : RouteSystem → α}
    (hsplit : es = es₁ ++ .arm t reading :: es₂)
    (harm : (run (RouteSystem.step blake3 V) s es₁).arms[t]? = some ⟨frame, stage⟩)
    (hnew : ((run (RouteSystem.step blake3 V) s es₁).step blake3 V (.arm t reading)).arms[t]? =
      some ⟨frame, stage'⟩)
    (hreturned : stage' = .rejected ∨ stage' = .ended)
    (hhere : view ((run (RouteSystem.step blake3 V) s es₁).step blake3 V (.arm t reading)) =
      view (run (RouteSystem.step blake3 V) s es₁))
    (hafter : ∀ (s' : RouteSystem) (reading' : Reading),
      s'.arms[t]? = some ⟨frame, stage'⟩ →
        view (s'.step blake3 V (.arm t reading')) = view s')
    (hbefore : ∀ (s' : RouteSystem) (reading' : Reading),
      (∀ arm, (s'.step blake3 V (.arm t reading')).arms[t]? = some arm →
        arm.stage.rank ≤ stage.rank) →
      view (s'.step blake3 V (.arm t reading')) = view s') :
    ArmKeeps blake3 V view s es t := by
  intro fs₁ reading' fs₂ hother
  rw [hsplit] at hother
  rcases append_eq_append_iff.mp hother with ⟨rest, rfl, hrest⟩ | ⟨rest, rfl, hrest⟩
  · rcases cons_eq_append_iff.mp hrest with ⟨rfl, hsame⟩ | ⟨rest', rfl, -⟩
    · -- the step itself
      obtain ⟨heq, -⟩ := List.cons.inj hsame
      rw [append_nil, heq]
      exact hhere
    -- a step after it
    apply hafter
    rw [run_append, run_cons]
    exact returned_of_run hnew hreturned rest'
  · rcases cons_eq_append_iff.mp hrest with ⟨rfl, hsame⟩ | ⟨rest', rfl, -⟩
    · obtain ⟨heq, -⟩ := List.cons.inj hsame
      rw [append_nil] at hhere
      rw [← heq]
      exact hhere
    -- a step before it
    apply hbefore
    intro arm harm'
    obtain ⟨stage'', hlater, hle⟩ := rank_le_of_run blake3 V harm' rest'
    rw [run_append, run_cons] at harm
    obtain ⟨-, rfl⟩ := Arm.mk.inj (Option.some.inj (hlater.symm.trans harm))
    exact hle

lemma tables_kept_of_unchecked
    (hsplit : es = es₁ ++ .arm t reading :: es₂)
    (harm : (run (RouteSystem.step blake3 V) s es₁).arms[t]? = some ⟨frame, .gated⟩)
    (hfails : ∀ claim, verifiedClaim V frame = some claim →
      ¬ originClockIsFresh claim.clock.physical reading.secs) :
    ArmKeeps blake3 V RouteSystem.tables s es t := by
  have hnew : ((run (RouteSystem.step blake3 V) s es₁).step blake3 V (.arm t reading)).arms[t]? =
      some ⟨frame, .rejected⟩ := by
    simp only [RouteSystem.step, harm, RouteSystem.stepArm]
    split
    · exact getElem?_set_of_some harm
    rename_i claim hverified
    rw [if_neg (hfails claim hverified)]
    exact getElem?_set_of_some harm
  refine armKeeps_of_returned hsplit harm hnew (.inl rfl) ?_ ?_ ?_
  · apply tables_step_arm
    intro arm harm'
    cases harm.symm.trans harm'
    exact .inl (by simp [rank])
  · intro s' reading' harm'
    apply tables_step_arm
    intro arm harm''
    cases harm'.symm.trans harm''
    exact .inr (.inl rfl)
  · intro s' reading' hrank
    apply tables_step_arm
    intro arm harm'
    obtain ⟨stage, hlater, hle⟩ := rank_le_of_run blake3 V harm' [.arm t reading']
    have := hrank _ hlater
    exact .inl (hle.trans (this.trans (by simp [rank])))

lemma announced_kept_of_stale
    (hbacked : (run (RouteSystem.step blake3 V) s es₁).Backed V)
    (hsplit : es = es₁ ++ .arm t reading :: es₂)
    (harm : (run (RouteSystem.step blake3 V) s es₁).arms[t]? = some ⟨frame, .limited claim⟩)
    (hstale : ¬ withinSkew reading.secs.toNat claim.clock) :
    ArmKeeps blake3 V RouteSystem.announced s es t := by
  have hverified : verifiedClaim V frame = some claim := hbacked t _ harm
  have hprocess : (run (RouteSystem.step blake3 V) s es₁).manager.processAnnouncement V frame
      reading.secs.toNat reading.instants =
        (none, (run (RouteSystem.step blake3 V) s es₁).manager) := by
    apply processAnnouncement_of_not_admits
    intro claim' hadmits
    cases hadmits.verified.symm.trans hverified
    exact hstale hadmits.skew
  have hnew : ((run (RouteSystem.step blake3 V) s es₁).step blake3 V (.arm t reading)).arms[t]? =
      some ⟨frame, .ended⟩ := by
    simp only [RouteSystem.step, harm, RouteSystem.stepArm, hprocess]
    exact getElem?_set_of_some harm
  refine armKeeps_of_returned hsplit harm hnew (.inr rfl) ?_ ?_ ?_
  · simp only [RouteSystem.step, harm, RouteSystem.stepArm, hprocess]
    rfl
  · intro s' reading' harm'
    simp only [RouteSystem.step, harm', RouteSystem.stepArm]
  · intro s' reading' hrank
    apply announced_step_arm
    intro arm harm'
    obtain ⟨stage, hlater, hle⟩ := rank_le_of_run blake3 V harm' [.arm t reading']
    have hbound : arm.stage.rank ≤ 5 := hle.trans (hrank _ hlater)
    refine lt_of_le_of_ne hbound fun hlimited => ?_
    -- at the manager the arm would have gone on
    obtain ⟨frame', stage'⟩ := arm
    cases stage' with
    | limited claim' =>
      obtain ⟨stage', hgone, hlt⟩ := rank_of_limited harm'
      exact absurd (hrank _ hgone) (not_le.mpr hlt)
    | received | gated | rejected | checked | introduced | accepted | routing | registering
    | ended => simp [rank] at hlimited

end Arms

/-- **The registry is authentic.** Whatever is received, from whomever, in any interleaving with
greetings, evictions, the tasks they spawn and maintenance: for an origin whose key is its own,
either nothing is registered, or what one announcement that it signed lists under known names. A
frame whose claim is not signed by its origin, or is stale when its arm checks it, leaves all tables
as they are; one that is stale when the manager looks again leaves the manager, the routes and the
registry. -/
theorem registry_authentic (blake3 : List UInt8 → Digest) (V : Verify) (identity : Keypair)
    (secs maxPeers : Nat) (relay : Relay) (es : List RouteEvent) :
    (∀ (origin : NodeId) (S : SigningHistory V origin),
      (∀ hash, ¬ (run (RouteSystem.step blake3 V) (.start identity secs maxPeers relay)
        es).router.provides origin hash) ∨
      ∃ claim ∈ S.announced, claim.origin = origin ∧
        (run (RouteSystem.step blake3 V) (.start identity secs maxPeers relay) es).router.Lists
          blake3 claim) ∧
    (∀ es₁ t reading es₂ frame, es = es₁ ++ .arm t reading :: es₂ →
      (run (RouteSystem.step blake3 V) (.start identity secs maxPeers relay) es₁).arms[t]? =
        some ⟨frame, .gated⟩ →
      (∀ claim, verifiedClaim V frame = some claim →
        ¬ originClockIsFresh claim.clock.physical reading.secs) →
      ArmKeeps blake3 V RouteSystem.tables (.start identity secs maxPeers relay) es t) ∧
    ∀ es₁ t reading es₂ frame claim, es = es₁ ++ .arm t reading :: es₂ →
      (run (RouteSystem.step blake3 V) (.start identity secs maxPeers relay) es₁).arms[t]? =
        some ⟨frame, .limited claim⟩ →
      ¬ withinSkew reading.secs.toNat claim.clock →
      ArmKeeps blake3 V RouteSystem.announced (.start identity secs maxPeers relay) es t := by
  refine ⟨fun origin S => ?_, fun es₁ t reading es₂ frame hsplit harm hfails => ?_,
    fun es₁ t reading es₂ frame claim hsplit harm hstale => ?_⟩
  · have hauthentic : (run (RouteSystem.step blake3 V) (.start identity secs maxPeers relay)
        es).Authentic blake3 V :=
      run_invariant (fun s e h => h.step e) (.start blake3 V identity secs maxPeers relay) es
    exact hauthentic.lists S
  · exact tables_kept_of_unchecked hsplit harm hfails
  · exact announced_kept_of_stale (backed_run blake3 V identity secs maxPeers relay es₁) hsplit harm
      hstale

def sampleHistory : SigningHistory sampleVerify sampleOrigin where
  announced := {earlyClaim, fullClaim, lateClaim}
  others := ∅
  others_signs := nofun
  unforgeable := by
    intro message signature h
    simp only [sampleVerify, decide_true, Bool.true_and, Bool.or_eq_true, Bool.and_eq_true,
      decide_eq_true_eq] at h
    rcases h with (⟨rfl, -⟩ | ⟨rfl, -⟩) | ⟨rfl, -⟩
    · exact .inr ⟨earlyClaim, by simp, rfl⟩
    · exact .inr ⟨fullClaim, by simp, rfl⟩
    · exact .inr ⟨lateClaim, by simp, rfl⟩

/-- An announcement is registered; then the relay sends one with the signature of another, and its
arm is at the checks. -/
def forgedArrives : List RouteEvent :=
  relayed ++ [.receive (sampleFrame fullClaim earlyClaimSignature)] ++ armSteps 1 1 2

/-- The relay repeats the first when it is almost too old, and the arm is at the manager. -/
def agedArrives : List RouteEvent :=
  [.receive (sampleFrame earlyClaim earlyClaimSignature)] ++ armSteps 2 4 300

def forgedAndAged : List RouteEvent :=
  forgedArrives ++ .arm 1 (readingAt 2) :: (agedArrives ++ [.arm 2 (readingAt 301)])

theorem forged_and_aged_rejected :
    (∃ claim ∈ sampleHistory.announced, claim.origin = sampleOrigin ∧
      (run (RouteSystem.step sampleBlake3 sampleVerify) smallNode forgedAndAged).router.Lists
        sampleBlake3 claim) ∧
      ArmKeeps sampleBlake3 sampleVerify RouteSystem.tables smallNode forgedAndAged 1 ∧
      ArmKeeps sampleBlake3 sampleVerify RouteSystem.announced smallNode forgedAndAged 2 := by
  have hrun :
      (run (RouteSystem.step sampleBlake3 sampleVerify) smallNode forgedAndAged).router.provides
          sampleOrigin echoHash ∧
        ((run (RouteSystem.step sampleBlake3 sampleVerify) smallNode forgedArrives).arms[1]?.map
          fun arm => (verifiedClaim sampleVerify arm.frame, arm.stage)) = some (none, .gated) ∧
        ((run (RouteSystem.step sampleBlake3 sampleVerify) smallNode
          (forgedArrives ++ .arm 1 (readingAt 2) :: agedArrives)).arms[2]?.map Arm.stage) =
            some (.limited earlyClaim) ∧
        ¬ withinSkew (readingAt 301).secs.toNat earlyClaim.clock := by
    decide +kernel
  unfold forgedAndAged smallNode at hrun ⊢
  generalize forgedArrives = es₁ at hrun ⊢
  generalize agedArrives = es₂ at hrun ⊢
  generalize readingAt 2 = reading at hrun ⊢
  generalize readingAt 301 = reading' at hrun ⊢
  obtain ⟨hprovides, hforged, haged, hstale⟩ := hrun
  obtain ⟨⟨frame, stage⟩, harm, hchecks⟩ := Option.map_eq_some_iff.mp hforged
  obtain ⟨hunverified, rfl⟩ := Prod.mk.inj hchecks
  obtain ⟨⟨frame', stage'⟩, harm', rfl⟩ := Option.map_eq_some_iff.mp haged
  obtain ⟨hlists, hunchecked, hignored⟩ := registry_authentic sampleBlake3 sampleVerify
    sampleReceiver 1700000000 1 receiverRelay
    (es₁ ++ .arm 1 reading :: (es₂ ++ [.arm 2 reading']))
  refine ⟨(hlists sampleOrigin sampleHistory).resolve_left fun h => h _ hprovides,
    hunchecked es₁ 1 reading _ frame rfl harm ?_,
    hignored (es₁ ++ .arm 1 reading :: es₂) 2 reading' [] frame' earlyClaim ?_ harm' hstale⟩
  · intro claim hclaim
    rw [hunverified] at hclaim
    cases hclaim
  · simp

def beforeItAges : RouteSystem :=
  run (RouteSystem.step sampleBlake3 sampleVerify) smallNode
    (greets sampleRelayId 2 0 ++ [.receive (sampleFrame earlyClaim earlyClaimSignature)])

/-- Its arm has checked it in the last second in which it is fresh, and the manager a second
later. -/
def afterItAged : RouteSystem :=
  run (RouteSystem.step sampleBlake3 sampleVerify) beforeItAges
    (armSteps 0 4 300 ++ [.arm 0 (readingAt 301)])

/-- **A claim that ages between the two freshness checks has been counted**: the manager does not
take it, but its origin takes a place among those of the relay, and the rate limit has started. -/
theorem stale_claim_counts :
    afterItAged.arms.map Arm.stage = [.ended] ∧ afterItAged.log = [] ∧
      ¬ withinSkew (readingAt 301).secs.toNat earlyClaim.clock ∧
      beforeItAges.originAdmission sampleRelayId = none ∧
      (afterItAged.originAdmission sampleRelayId).isSome ∧
      beforeItAges.lastAnnounceFrom (sampleRelayId, sampleOrigin) = none ∧
      afterItAged.lastAnnounceFrom (sampleRelayId, sampleOrigin) = some (300 * 10 ^ 9) := by
  decide +kernel

end AxiomCore
