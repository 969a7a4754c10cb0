import AxiomCore.Node.Routes

/-!
# What is registered, and for whom

The registry says which node offers what. Announce arms replace the entries of an origin; tasks that
evictions spawn, and maintenance, drop them. This module is about the registry over whole runs of
`RouteSystem`, with all of them at work.

Source: `forge-node/src/network.rs`.
-/

namespace AxiomCore

open Lib AnnouncementManager RouteSystem List

/-! ## What a step can do -/

inductive Next (V : Verify) (s : RouteSystem) (reading : Reading) (frame : Frame) :
    ArmStage → ArmStage → Prop where
  | gated : Next V s reading frame .received .gated
  | unknown : Next V s reading frame .received .rejected
  /-- The claim is signed and fresh. -/
  | checked (claim : Claim) (hverified : verifiedClaim V frame = some claim)
      (hfresh : originClockIsFresh claim.clock.physical reading.secs) :
      Next V s reading frame .gated (.checked claim)
  | unchecked : Next V s reading frame .gated .rejected
  | introduced (claim : Claim) : Next V s reading frame (.checked claim) (.introduced claim)
  | refused (claim : Claim) : Next V s reading frame (.checked claim) .ended
  | limited (claim : Claim) : Next V s reading frame (.introduced claim) (.limited claim)
  | early (claim : Claim) : Next V s reading frame (.introduced claim) .ended
  | accepted (claim : Claim) (newCaps : List AnnouncedCapability) (forward : Option Frame)
      (hprocess : (s.manager.processAnnouncement V frame reading.secs.toNat reading.instants).1 =
        some (newCaps, forward)) :
      Next V s reading frame (.limited claim) (.accepted claim newCaps)
  | ignored (claim : Claim) : Next V s reading frame (.limited claim) .ended
  /-- The origin is a known peer. -/
  | direct (claim : Claim) (newCaps : List AnnouncedCapability) :
      Next V s reading frame (.accepted claim newCaps) (.registering claim newCaps)
  | relayed (claim : Claim) (newCaps : List AnnouncedCapability) :
      Next V s reading frame (.accepted claim newCaps) (.routing claim newCaps)
  | routed (claim : Claim) (newCaps : List AnnouncedCapability) :
      Next V s reading frame (.routing claim newCaps) (.registering claim newCaps)
  | registered (claim : Claim) (newCaps : List AnnouncedCapability) (hfree : s.routerFree) :
      Next V s reading frame (.registering claim newCaps) .ended

/-- What a step does to the registry. -/
inductive RouterMove (blake3 : List UInt8 → Digest) (s : RouteSystem) :
    RouteEvent → SemanticRouter → Prop where
  | same (e : RouteEvent) : RouterMove blake3 s e s.router
  | replaced (t : Nat) (reading : Reading) (frame : Frame) (claim : Claim)
      (newCaps : List AnnouncedCapability)
      (harm : s.arms[t]? = some ⟨frame, .registering claim newCaps⟩) (hfree : s.routerFree) :
      RouterMove blake3 s (.arm t reading)
        (replaceRegistrations blake3 s.router claim.origin newCaps)
  /-- A spawned task unregisters the evicted peer. -/
  | purged (p : Nat) (purge : Purge) (hpurge : s.purges[p]? = some purge)
      (hfirst : purge.started = false) :
      RouterMove blake3 s (.purge p) (s.router.unregisterNode purge.id)
  | orphaned (p : Nat) (origin : NodeId) (hroute : origin ∉ s.reachableVia) :
      RouterMove blake3 s (.orphan p origin) (s.router.unregisterNode origin)
  | swept (u : Nat) (stale : List NodeId) (origin looked : NodeId)
      (hupkeep : s.upkeeps[u]? = some (.sweeping stale (some origin)))
      (hroute : origin ∉ s.reachableVia) :
      RouterMove blake3 s (.sweep u looked) (s.router.unregisterNode origin)

section Step

variable {blake3 : List UInt8 → Digest} {V : Verify} {s : RouteSystem}

lemma arms_stepArm (blake3 : List UInt8 → Digest) (V : Verify) (s : RouteSystem) (t : Nat)
    (arm : Arm) (reading : Reading) :
    (s.stepArm blake3 V t arm reading).arms = s.arms ∨
      ∃ stage, (s.stepArm blake3 V t arm reading).arms = s.arms.set t ⟨arm.frame, stage⟩ ∧
        Next V s reading arm.frame arm.stage stage := by
  obtain ⟨frame, stage⟩ := arm
  unfold RouteSystem.stepArm
  cases stage with
  | received =>
    simp only
    split_ifs
    · exact .inr ⟨_, rfl, .gated⟩
    · exact .inr ⟨_, rfl, .unknown⟩
  | gated =>
    simp only
    split
    · exact .inr ⟨_, rfl, .unchecked⟩
    split_ifs with hfresh
    · exact .inr ⟨_, rfl, .checked _ ‹_› hfresh⟩
    · exact .inr ⟨_, rfl, .unchecked⟩
  | checked claim =>
    simp only
    split_ifs
    · exact .inr ⟨_, rfl, .introduced claim⟩
    · exact .inr ⟨_, rfl, .refused claim⟩
  | introduced claim =>
    simp only
    split_ifs
    · exact .inr ⟨_, rfl, .limited claim⟩
    · exact .inr ⟨_, rfl, .early claim⟩
  | limited claim =>
    simp only
    split
    · exact .inr ⟨_, rfl, .ignored claim⟩
    · rename_i newCaps forward manager hprocess
      exact .inr ⟨_, rfl, .accepted claim newCaps forward (congrArg Prod.fst hprocess)⟩
  | accepted claim newCaps =>
    simp only
    split_ifs
    · exact .inr ⟨_, rfl, .direct claim newCaps⟩
    · exact .inr ⟨_, rfl, .relayed claim newCaps⟩
  | routing claim newCaps => exact .inr ⟨_, rfl, .routed claim newCaps⟩
  | registering claim newCaps =>
    simp only
    split_ifs with hfree
    · exact .inr ⟨_, rfl, .registered claim newCaps hfree⟩
    · exact .inl rfl
  | rejected => exact .inl rfl
  | ended => exact .inl rfl

variable {e : RouteEvent} {i : Nat} {arm : Arm}

lemma arms_step_eq (s : RouteSystem) (hreceive : ∀ frame, e ≠ .receive frame)
    (harm : ∀ t reading, e ≠ .arm t reading) : (s.step blake3 V e).arms = s.arms := by
  cases e with
  | connect g now =>
    simp only [RouteSystem.step]
    split
    · rfl
    · rfl
  | register g now tie =>
    simp only [RouteSystem.step, RouteSystem.stepRegister]
    repeat' split
    all_goals rfl
  | registerNext now =>
    simp only [RouteSystem.step, RouteSystem.stepRegisterNext]
    split
    all_goals rfl
  | receive frame => exact absurd rfl (hreceive frame)
  | arm t reading => exact absurd rfl (harm t reading)
  | purge p =>
    simp only [RouteSystem.step]
    repeat' split
    all_goals rfl
  | orphan p origin =>
    simp only [RouteSystem.step, RouteSystem.stepOrphan]
    repeat' split
    all_goals rfl
  | maintain => rfl
  | upkeep u now =>
    simp only [RouteSystem.step, RouteSystem.stepUpkeep]
    repeat' split
    all_goals rfl
  | sweep u origin =>
    simp only [RouteSystem.step, RouteSystem.stepSweep]
    repeat' split
    all_goals rfl

lemma arms_step_cases (blake3 : List UInt8 → Digest) (V : Verify) (s : RouteSystem)
    (e : RouteEvent) :
    (s.step blake3 V e).arms = s.arms ∨
      (∃ frame, e = .receive frame ∧ (s.step blake3 V e).arms = s.arms ++ [⟨frame, .received⟩]) ∨
      ∃ t reading arm stage, e = .arm t reading ∧ s.arms[t]? = some arm ∧
        (s.step blake3 V e).arms = s.arms.set t ⟨arm.frame, stage⟩ ∧
        Next V s reading arm.frame arm.stage stage := by
  by_cases hreceive : ∃ frame, e = .receive frame
  · obtain ⟨frame, rfl⟩ := hreceive
    exact .inr (.inl ⟨frame, rfl, rfl⟩)
  by_cases harm : ∃ t reading, e = .arm t reading
  · obtain ⟨t, reading, rfl⟩ := harm
    simp only [RouteSystem.step]
    split
    · next arm harm =>
      rcases arms_stepArm blake3 V s t arm reading with hsame | ⟨stage, hset, hnext⟩
      · exact .inl hsame
      · exact .inr (.inr ⟨t, reading, arm, stage, rfl, harm, hset, hnext⟩)
    · exact .inl rfl
  · exact .inl (arms_step_eq s (not_exists.mp hreceive) fun t reading he => harm ⟨t, reading, he⟩)

lemma arms_step (blake3 : List UInt8 → Digest) (V : Verify)
    (h : s.arms[i]? = some arm) (e : RouteEvent) :
    (s.step blake3 V e).arms[i]? = some arm ∨
      ∃ reading stage, e = .arm i reading ∧
        (s.step blake3 V e).arms[i]? = some ⟨arm.frame, stage⟩ ∧
        Next V s reading arm.frame arm.stage stage := by
  rcases arms_step_cases blake3 V s e with
    hsame | ⟨frame, -, hnew⟩ | ⟨t, reading, arm', stage, rfl, harm', hset, hnext⟩
  · rw [hsame]
    exact .inl h
  · rw [hnew]
    exact .inl (getElem?_concat_of_some h)
  rw [hset]
  by_cases hi : i = t
  · subst hi
    cases h.symm.trans harm'
    exact .inr ⟨reading, stage, rfl, getElem?_set_of_some h, hnext⟩
  · rw [getElem?_set_ne (Ne.symm hi)]
    exact .inl h

lemma arms_of_step
    (h : (s.step blake3 V e).arms[i]? = some arm) :
    s.arms[i]? = some arm ∨ arm.stage = .received ∨
      ∃ reading stage, e = .arm i reading ∧ s.arms[i]? = some ⟨arm.frame, stage⟩ ∧
        Next V s reading arm.frame stage arm.stage := by
  rcases arms_step_cases blake3 V s e with
    hsame | ⟨frame, -, hnew⟩ | ⟨t, reading, arm', stage, rfl, harm', hset, hnext⟩
  · rw [hsame] at h
    exact .inl h
  · rw [hnew] at h
    rcases getElem?_concat_cases h with ⟨-, rfl⟩ | hold
    · exact .inr (.inl rfl)
    · exact .inl hold
  · rw [hset] at h
    rcases getElem?_set_cases h with ⟨rfl, rfl⟩ | ⟨-, hold⟩
    · exact .inr (.inr ⟨reading, arm'.stage, rfl, harm', hnext⟩)
    · exact .inl hold

lemma upkeeps_step_arm (s : RouteSystem) (t : Nat) (reading : Reading) :
    (s.step blake3 V (.arm t reading)).upkeeps = s.upkeeps := by
  simp only [RouteSystem.step, RouteSystem.stepArm]
  repeat' split
  all_goals rfl

lemma routerMove_step (blake3 : List UInt8 → Digest) (V : Verify) (s : RouteSystem)
    (e : RouteEvent) :
    RouterMove blake3 s e (s.step blake3 V e).router := by
  cases e with
  | connect g now =>
    simp only [RouteSystem.step]
    split
    · exact .same _
    · exact .same _
  | register g now tie =>
    simp only [RouteSystem.step, RouteSystem.stepRegister]
    repeat' split
    all_goals exact .same _
  | registerNext now =>
    simp only [RouteSystem.step, RouteSystem.stepRegisterNext]
    split
    all_goals exact .same _
  | receive frame => exact .same _
  | arm t reading =>
    simp only [RouteSystem.step]
    split
    · rename_i arm harm
      obtain ⟨frame, stage⟩ := arm
      unfold RouteSystem.stepArm
      cases stage with
      | gated =>
        simp only
        split
        · exact .same _
        · exact .same _
      | limited claim =>
        simp only
        split
        · exact .same _
        · exact .same _
      | registering claim newCaps =>
        simp only
        split_ifs with hfree
        · exact .replaced t reading frame claim newCaps harm hfree
        · exact .same _
      | received | checked | introduced | accepted | routing | rejected | ended => exact .same _
    · exact .same _
  | purge p =>
    simp only [RouteSystem.step]
    split
    · rename_i purge hpurge
      split_ifs with hskip
      · exact .same _
      · exact .purged p purge hpurge (Bool.eq_false_iff.mpr fun h => hskip (.inl h))
    · exact .same _
  | orphan p origin =>
    simp only [RouteSystem.step, RouteSystem.stepOrphan]
    split
    · split_ifs with hpending hroute
      · exact .same _
      · exact .orphaned p origin hroute
      · exact .same _
    · exact .same _
  | maintain => exact .same _
  | upkeep u now =>
    simp only [RouteSystem.step, RouteSystem.stepUpkeep]
    repeat' split
    all_goals exact .same _
  | sweep u looked =>
    simp only [RouteSystem.step, RouteSystem.stepSweep]
    split
    · rename_i stale unknown hupkeep
      split
      · split_ifs
        · exact .same _
        · exact .same _
        · exact .same _
      split_ifs with hroute
      · exact .same _
      · exact .swept u stale _ looked hupkeep hroute
    · exact .same _

end Step

/-! ## What an arm carries -/

/-- The claim that an arm carries from its checks on is the frame's, and the capabilities that the
manager returned are the claim's. -/
def Arm.Backed (V : Verify) (arm : Arm) : Prop :=
  match arm.stage with
  | .checked claim | .introduced claim | .limited claim => verifiedClaim V arm.frame = some claim
  | .accepted claim newCaps | .routing claim newCaps | .registering claim newCaps =>
    verifiedClaim V arm.frame = some claim ∧ newCaps = claim.capabilities
  | .received | .gated | .rejected | .ended => True

variable {V : Verify} {frame : Frame} {s : RouteSystem}

lemma processAnnouncement_eq_some {m : AnnouncementManager}
    {secs : Nat} {instants : Nat → Nat} {newCaps : List AnnouncedCapability}
    {forward : Option Frame} {claim : Claim} (hverified : verifiedClaim V frame = some claim)
    (h : (m.processAnnouncement V frame secs instants).1 = some (newCaps, forward)) :
    newCaps = claim.capabilities := by
  by_cases hadmits : ∃ claim', m.Admits V frame secs claim'
  · obtain ⟨claim', hadmits⟩ := hadmits
    cases hadmits.verified.symm.trans hverified
    obtain ⟨forward', clock, hprocess⟩ :=
      processAnnouncement_of_admits hadmits instants
    rw [hprocess] at h
    simp only at h
    split_ifs at h
    exact (Prod.mk.inj (Option.some.inj h)).1.symm
  · rw [processAnnouncement_of_not_admits (not_exists.mp hadmits)] at h
    cases h

lemma backed_next {reading : Reading}
    {stage stage' : ArmStage} (h : Arm.Backed V ⟨frame, stage⟩)
    (hnext : Next V s reading frame stage stage') : Arm.Backed V ⟨frame, stage'⟩ := by
  cases hnext with
  | checked claim hverified hfresh => exact hverified
  | introduced claim => exact h
  | limited claim => exact h
  | accepted claim newCaps forward hprocess => exact ⟨h, processAnnouncement_eq_some h hprocess⟩
  | direct claim newCaps => exact h
  | relayed claim newCaps => exact h
  | routed claim newCaps => exact h
  | gated | unknown | unchecked | refused | early | ignored | registered => trivial

def RouteSystem.Backed (V : Verify) (s : RouteSystem) : Prop :=
  ∀ (i : Nat) (arm : Arm), s.arms[i]? = some arm → arm.Backed V

lemma RouteSystem.Backed.step {blake3 : List UInt8 → Digest}
    (h : s.Backed V) (e : RouteEvent) : (s.step blake3 V e).Backed V := by
  intro i arm harm
  rcases arms_of_step harm with hold | hreceived | ⟨reading, stage, -, hold, hnext⟩
  · exact h i arm hold
  · unfold Arm.Backed
    rw [hreceived]
    trivial
  · exact backed_next (h i _ hold) hnext

/-! ## What stays registered -/

def RouteObs.About (node : NodeId) : RouteObs → Prop
  | .accepted _ claim => claim.origin = node
  | .evicted id => id = node

/-- The claim of arm `t` is the last one that was accepted from the node, and the node was not
evicted since. -/
def LatestAccepted (log : List RouteObs) (node : NodeId) (t : Nat) (claim : Claim) : Prop :=
  claim.origin = node ∧ ∃ before after, log = before ++ .accepted t claim :: after ∧
    ∀ obs ∈ after, ¬ obs.About node

/-- No spawned task unregisters the node, be it the evicted peer or an orphaned origin without a
route, and no arm registers another claim of it. -/
def RouteSystem.LeavesAlone (node : NodeId) (s : RouteSystem) : RouteEvent → Prop
  | .purge p =>
    match s.purges[p]? with
    | some purge => purge.started = false → purge.id ≠ node
    | none => True
  | .orphan _ origin => origin = node → node ∈ s.reachableVia
  | .arm t _ =>
    match s.arms[t]? with
    | some ⟨_, .registering claim _⟩ => claim.origin ≠ node
    | _ => True
  | _ => True

instance (node : NodeId) (s : RouteSystem) (e : RouteEvent) : Decidable (s.LeavesAlone node e) := by
  unfold RouteSystem.LeavesAlone
  rcases e with _ | _ | _ | _ | ⟨t, _⟩ | p | _ | _ | _ | _
  all_goals dsimp only
  case arm =>
    rcases s.arms[t]? with _ | ⟨_, _ | _ | _ | _ | _ | _ | _ | _ | _ | _⟩
    all_goals infer_instance
  case purge =>
    rcases s.purges[p]? with _ | _
    all_goals infer_instance
  all_goals infer_instance

/-- No pass of maintenance that is under way has found the node unknown. -/
def RouteSystem.NotMissed (node : NodeId) (s : RouteSystem) : Prop :=
  ∀ (u : Nat) (stale : List NodeId), s.upkeeps[u]? ≠ some (.sweeping stale (some node))

/-- The node is left alone by spawned tasks and other arms, and has been a known peer throughout, or
has at every moment had a route or been a known peer that no pass under way had found unknown. -/
def RouteSystem.Undisturbed (blake3 : List UInt8 → Digest) (V : Verify) (node : NodeId)
    (s : RouteSystem) (es : List RouteEvent) : Prop :=
  Guarded (RouteSystem.step blake3 V)
      (fun s e => s.LeavesAlone node e ∧ node ∈ s.net.knownPeers) s es ∨
    Guarded (RouteSystem.step blake3 V)
      (fun s e => s.LeavesAlone node e ∧
        (node ∈ s.reachableVia ∨ node ∈ s.net.knownPeers ∧ s.NotMissed node)) s es

section Stands

variable {blake3 : List UInt8 → Digest} {V : Verify} {s : RouteSystem} {node : NodeId}
  {hash : IntentHash}

lemma provides_step {e : RouteEvent} (halone : s.LeavesAlone node e)
    (hsweep : ∀ u looked stale, e = .sweep u looked →
      s.upkeeps[u]? = some (.sweeping stale (some node)) → node ∈ s.reachableVia) :
    (s.step blake3 V e).router.provides node hash ↔ s.router.provides node hash := by
  have hdrop : ∀ {other : NodeId}, other ≠ node →
      ((s.router.unregisterNode other).provides node hash ↔ s.router.provides node hash) := by
    intro other hother
    rw [SemanticRouter.provides_unregisterNode]
    exact and_iff_right (Ne.symm hother)
  have hmove := routerMove_step blake3 V s e
  generalize (s.step blake3 V e).router = router at hmove ⊢
  cases hmove with
  | same => exact Iff.rfl
  | replaced t reading frame claim newCaps harm hfree =>
    have hother : claim.origin ≠ node := by
      simpa [RouteSystem.LeavesAlone, harm] using halone
    rw [provides_replaceRegistrations s.router ⟨claim.origin, claim.clock, newCaps⟩]
    simp [Ne.symm hother]
  | purged p purge hpurge hfirst =>
    apply hdrop
    simpa [RouteSystem.LeavesAlone, hpurge, hfirst] using halone
  | orphaned p origin hroute =>
    apply hdrop
    rintro rfl
    exact hroute (halone rfl)
  | swept u stale origin looked hupkeep hroute =>
    apply hdrop
    rintro rfl
    exact hroute (hsweep u looked stale rfl hupkeep)

lemma unknown_of_step {e : RouteEvent} {u : Nat} {stale : List NodeId}
    (h : (s.step blake3 V e).upkeeps[u]? = some (.sweeping stale (some node))) :
    s.upkeeps[u]? = some (.sweeping stale (some node)) ∨ node ∉ s.net.knownPeers := by
  -- most steps leave the passes as they are
  have hsame : ∀ {upkeeps : List Upkeep}, upkeeps = s.upkeeps →
      upkeeps[u]? = some (.sweeping stale (some node)) →
      s.upkeeps[u]? = some (.sweeping stale (some node)) ∨ node ∉ s.net.knownPeers := by
    rintro _ rfl h
    exact .inl h
  -- and no other step of a pass finds anyone unknown
  have hset : ∀ {u' : Nat} {upkeep : Upkeep}, (∀ stale, upkeep ≠ .sweeping stale (some node)) →
      (s.upkeeps.set u' upkeep)[u]? = some (.sweeping stale (some node)) →
      s.upkeeps[u]? = some (.sweeping stale (some node)) ∨ node ∉ s.net.knownPeers := by
    intro u' upkeep hne h
    rcases getElem?_set_cases h with ⟨-, heq⟩ | ⟨-, hold⟩
    · exact absurd heq.symm (hne stale)
    · exact .inl hold
  revert h
  cases e with
  | connect g now =>
    simp only [RouteSystem.step]
    split
    all_goals exact hsame rfl
  | register g now tie =>
    simp only [RouteSystem.step, RouteSystem.stepRegister]
    repeat' split
    all_goals exact hsame rfl
  | registerNext now =>
    simp only [RouteSystem.step, RouteSystem.stepRegisterNext]
    split
    all_goals exact hsame rfl
  | receive frame => exact hsame rfl
  | arm t reading => exact hsame (upkeeps_step_arm s t reading)
  | purge p =>
    simp only [RouteSystem.step]
    repeat' split
    all_goals exact hsame rfl
  | orphan p origin =>
    simp only [RouteSystem.step, RouteSystem.stepOrphan]
    repeat' split
    all_goals exact hsame rfl
  | maintain =>
    intro h
    rcases getElem?_concat_cases h with ⟨-, heq⟩ | hold
    · cases heq
    · exact .inl hold
  | upkeep u' now =>
    simp only [RouteSystem.step, RouteSystem.stepUpkeep]
    repeat' split
    all_goals first
      | exact hsame rfl
      | exact hset (by simp)
  | sweep u' looked =>
    simp only [RouteSystem.step, RouteSystem.stepSweep]
    split
    · split
      · split_ifs with hstale hknown
        · exact hset (by simp)
        · -- the only step that finds someone unknown has just looked
          intro h
          by_cases hlooked : looked = node
          · exact .inr (hlooked ▸ hknown)
          · exact hset (by simp [hlooked]) h
        · exact hsame rfl
      · exact hset (by simp)
    · exact hsame rfl

lemma notMissed_of_routerFree (h : s.routerFree) : s.NotMissed node := by
  intro u stale hupkeep
  simp only [routerFree, Bool.and_eq_true, Bool.not_eq_true',
    any_eq_false] at h
  exact absurd (h.2 _ (mem_of_getElem? hupkeep)) (by simp [Upkeep.locks])

/-- **Whole runs.** What is registered for a node that is not disturbed stays. While it is a known
peer, maintenance does not find it unknown; while it has a route, maintenance finds the route. -/
theorem provides_run {es : List RouteEvent} (hmissed : s.NotMissed node)
    (h : RouteSystem.Undisturbed blake3 V node s es) :
    (run (RouteSystem.step blake3 V) s es).router.provides node hash ↔
      s.router.provides node hash := by
  rcases h with hknown | hrouted
  · have hinv := run_invariant_of_guarded
      (I := fun s' : RouteSystem => s'.NotMissed node ∧
        (s'.router.provides node hash ↔ s.router.provides node hash))
      (fun s' e hI hG => by
        refine ⟨fun u stale hnew => ?_, ?_⟩
        · rcases unknown_of_step hnew with hold | hunknown
          · exact hI.1 u stale hold
          · exact hunknown hG.2
        · rw [provides_step hG.1 fun u looked stale _ hold => absurd hold (hI.1 u stale)]
          exact hI.2)
      ⟨hmissed, Iff.rfl⟩ hknown
    exact hinv.2
  · exact run_invariant_of_guarded
      (I := fun s' : RouteSystem => s'.router.provides node hash ↔ s.router.provides node hash)
      (fun s' e hI hG => by
        rw [provides_step hG.1 fun u _ stale _ hfound =>
          hG.2.resolve_right fun hknown => hknown.2 u stale hfound]
        exact hI)
      Iff.rfl hrouted

end Stands

/-! ## From accepted to registered -/

/-- The arm carries the accepted claim. -/
def ArmStage.Carries (claim : Claim) : ArmStage → Prop
  | .accepted claim' _ | .routing claim' _ | .registering claim' _ => claim' = claim
  | _ => False

/-- With the event, arm `t` registers the claim. -/
def RouteSystem.Registers (s : RouteSystem) (t : Nat) (claim : Claim) : RouteEvent → Prop
  | .arm t' _ =>
    t' = t ∧ s.routerFree ∧
      match s.arms[t]? with
      | some ⟨_, .registering claim' _⟩ => claim' = claim
      | _ => False
  | _ => False

instance (s : RouteSystem) (t : Nat) (claim : Claim) (e : RouteEvent) :
    Decidable (s.Registers t claim e) := by
  unfold RouteSystem.Registers
  rcases e with _ | _ | _ | _ | _ | _ | _ | _ | _ | _
  all_goals dsimp only
  case arm =>
    rcases s.arms[t]? with _ | ⟨_, _ | _ | _ | _ | _ | _ | _ | _ | _ | _⟩
    all_goals infer_instance
  all_goals infer_instance

section Progress

variable {blake3 : List UInt8 → Digest} {V : Verify} {s : RouteSystem} {t : Nat} {claim : Claim}

variable {e : RouteEvent}

lemma registers_iff :
    s.Registers t claim e ↔ ∃ frame newCaps reading, e = .arm t reading ∧ s.routerFree ∧
      s.arms[t]? = some ⟨frame, .registering claim newCaps⟩ := by
  constructor
  · intro h
    unfold RouteSystem.Registers at h
    split at h
    · obtain ⟨rfl, hfree, hstage⟩ := h
      split at hstage
      · subst hstage
        exact ⟨_, _, _, rfl, hfree, ‹_›⟩
      · exact hstage.elim
    · exact h.elim
  · rintro ⟨frame, newCaps, reading, rfl, hfree, harm⟩
    simp [RouteSystem.Registers, hfree, harm]

lemma accepted_mem_log_step
    (h : RouteObs.accepted t claim ∈ (s.step blake3 V e).log) :
    RouteObs.accepted t claim ∈ s.log ∨
      ∃ frame newCaps, (s.step blake3 V e).arms[t]? = some ⟨frame, .accepted claim newCaps⟩ := by
  revert h
  cases e with
  | connect g now =>
    simp only [RouteSystem.step]
    split
    all_goals exact .inl
  | register g now tie =>
    simp only [RouteSystem.step, RouteSystem.stepRegister]
    repeat' split
    all_goals first
      | exact .inl
      | exact fun h => .inl (by simpa using h)
  | registerNext now =>
    simp only [RouteSystem.step, RouteSystem.stepRegisterNext]
    split
    all_goals exact .inl
  | receive frame => exact .inl
  | arm t' reading =>
    simp only [RouteSystem.step]
    split
    · rename_i arm harm
      obtain ⟨frame, stage⟩ := arm
      unfold RouteSystem.stepArm
      cases stage with
      | gated =>
        simp only
        split
        all_goals exact .inl
      | limited claim' =>
        simp only
        split
        · exact .inl
        intro h
        rcases mem_append.mp h with hold | hnew
        · exact .inl hold
        · obtain ⟨rfl, rfl⟩ := RouteObs.accepted.inj (mem_singleton.mp hnew)
          exact .inr ⟨frame, _, getElem?_set_of_some harm⟩
      | registering claim' newCaps =>
        simp only
        split_ifs
        all_goals exact .inl
      | received | checked | introduced | accepted | routing | rejected | ended => exact .inl
    · exact .inl
  | purge p =>
    simp only [RouteSystem.step]
    repeat' split
    all_goals exact .inl
  | orphan p origin =>
    simp only [RouteSystem.step, RouteSystem.stepOrphan]
    repeat' split
    all_goals exact .inl
  | maintain => exact .inl
  | upkeep u now =>
    simp only [RouteSystem.step, RouteSystem.stepUpkeep]
    repeat' split
    all_goals exact .inl
  | sweep u looked =>
    simp only [RouteSystem.step, RouteSystem.stepSweep]
    repeat' split
    all_goals exact .inl

lemma carries_step {arm : Arm} (harm : s.arms[t]? = some arm) (h : arm.stage.Carries claim)
    (e : RouteEvent) :
    (∃ arm', (s.step blake3 V e).arms[t]? = some arm' ∧ arm'.stage.Carries claim) ∨
      s.Registers t claim e := by
  obtain ⟨frame, stage⟩ := arm
  rcases arms_step blake3 V harm e with hsame | ⟨reading, stage', rfl, hnew, hnext⟩
  · exact .inl ⟨_, hsame, h⟩
  cases hnext with
  | direct claim' newCaps => exact .inl ⟨_, hnew, h⟩
  | relayed claim' newCaps => exact .inl ⟨_, hnew, h⟩
  | routed claim' newCaps => exact .inl ⟨_, hnew, h⟩
  | registered claim' newCaps hfree =>
    obtain rfl : claim' = claim := h
    exact .inr (registers_iff.mpr ⟨frame, newCaps, reading, rfl, hfree, harm⟩)
  | gated | unknown | checked | unchecked | introduced | refused | limited | early | accepted
  | ignored => exact absurd h not_false

lemma carried_or_registered {s₀ : RouteSystem} (hlog : s₀.log = []) (es : List RouteEvent)
    (h : RouteObs.accepted t claim ∈ (run (RouteSystem.step blake3 V) s₀ es).log) :
    (∃ arm, (run (RouteSystem.step blake3 V) s₀ es).arms[t]? = some arm ∧
        arm.stage.Carries claim) ∨
      ∃ es₁ e es₂, es = es₁ ++ e :: es₂ ∧
        (run (RouteSystem.step blake3 V) s₀ es₁).Registers t claim e := by
  revert h
  -- over the events, with the events so far
  refine run_induction (P := fun es (s : RouteSystem) => RouteObs.accepted t claim ∈ s.log →
    (∃ arm, s.arms[t]? = some arm ∧ arm.stage.Carries claim) ∨
      ∃ es₁ e es₂, es = es₁ ++ e :: es₂ ∧
        (run (RouteSystem.step blake3 V) s₀ es₁).Registers t claim e) ?_ ?_ es
  · intro h
    rw [hlog] at h
    cases h
  · intro es e ih h
    rcases accepted_mem_log_step h with hold | ⟨frame, newCaps, harm⟩
    · rcases ih hold with ⟨arm, harm, hcarries⟩ | ⟨es₁, e', es₂, rfl, hregisters⟩
      · rcases carries_step harm hcarries e with hstill | hregisters
        · exact .inl hstill
        · exact .inr ⟨es, e, [], rfl, hregisters⟩
      · exact .inr ⟨es₁, e', es₂ ++ [e], by simp, hregisters⟩
    · exact .inl ⟨_, harm, rfl⟩

lemma provides_step_of_registers {hash : IntentHash} (hbacked : s.Backed V)
    (h : s.Registers t claim e) :
    (s.step blake3 V e).router.provides claim.origin hash ↔ claim.Installs blake3 hash := by
  obtain ⟨frame, newCaps, reading, rfl, hfree, harm⟩ := registers_iff.mp h
  obtain rfl : newCaps = claim.capabilities := (hbacked t _ harm).2
  have hrouter : (s.step blake3 V (.arm t reading)).router =
      replaceRegistrations blake3 s.router claim.origin claim.capabilities := by
    simp only [RouteSystem.step, harm, RouteSystem.stepArm, hfree, if_true, RouteSystem.setArm]
  rw [hrouter, provides_replaceRegistrations s.router claim]
  simp

lemma notMissed_step_of_registers {node : NodeId} (h : s.Registers t claim e) :
    (s.step blake3 V e).NotMissed node := by
  obtain ⟨frame, newCaps, reading, rfl, hfree, -⟩ := registers_iff.mp h
  intro u stale hupkeep
  rw [upkeeps_step_arm] at hupkeep
  exact notMissed_of_routerFree hfree u stale hupkeep

lemma accept_in_a_row (blake3 : List UInt8 → Digest) {frame : Frame} {reading : Reading}
    (harm : s.arms[t]? = some ⟨frame, .limited claim⟩)
    (hadmits : s.manager.Admits V frame reading.secs.toNat claim)
    (hfresh : (touchCapabilities claim.origin claim.clock reading.instants
      claim.capabilities s.manager.seen).1)
    (hknown : claim.origin ∈ s.net.knownPeers) (hfree : s.routerFree) :
    ∃ manager, run (RouteSystem.step blake3 V) s (List.replicate 3 (.arm t reading)) =
      { s with
        manager := manager
        log := s.log ++ [RouteObs.accepted t claim]
        router := replaceRegistrations blake3 s.router claim.origin claim.capabilities
        arms := s.arms.set t ⟨frame, .ended⟩ } := by
  obtain ⟨forward, clock, hprocess⟩ :=
    processAnnouncement_of_admits hadmits reading.instants
  rw [if_pos hfresh] at hprocess
  obtain ⟨manager, hprocess⟩ : ∃ manager, s.manager.processAnnouncement V frame reading.secs.toNat
      reading.instants = (some (claim.capabilities, forward), manager) := ⟨_, hprocess⟩
  refine ⟨manager, ?_⟩
  have hget : ∀ stage : ArmStage,
      (s.arms.set t ⟨frame, stage⟩)[t]? = some ⟨frame, stage⟩ := fun _ => getElem?_set_of_some harm
  unfold routerFree at hfree
  simp only [List.replicate, run_cons, run_nil, RouteSystem.step, harm, RouteSystem.stepArm,
    hprocess, RouteSystem.setArm, hget, hknown, routerFree, hfree, if_true,
    set_set]

end Progress

lemma backed_run (blake3 : List UInt8 → Digest) (V : Verify) (identity : Keypair)
    (secs maxPeers : Nat) (relay : Relay) (es : List RouteEvent) :
    (run (RouteSystem.step blake3 V) (.start identity secs maxPeers relay) es).Backed V := by
  apply run_invariant fun s e h => h.step e
  intro i arm harm
  cases harm

/-- **What a node announced last stays registered.** Nothing is in flight; the claim is the last one
that was accepted from the node, after its last eviction. Then its arm has registered it, and if the
node was not disturbed since, what is registered for it is what the claim lists under known names.
Maintenance may run at any time. -/
theorem registration_outlasts_maintenance (blake3 : List UInt8 → Digest) (V : Verify)
    (identity : Keypair) (secs maxPeers : Nat) (relay : Relay) (es : List RouteEvent)
    (node : NodeId) (t : Nat) (claim : Claim)
    (hquiet : (run (RouteSystem.step blake3 V) (.start identity secs maxPeers relay) es).Quiet)
    (hlatest : LatestAccepted
      (run (RouteSystem.step blake3 V) (.start identity secs maxPeers relay) es).log node t claim) :
    (∃ es₁ e es₂, es = es₁ ++ e :: es₂ ∧
      (run (RouteSystem.step blake3 V) (.start identity secs maxPeers relay) es₁).Registers
        t claim e) ∧
    ∀ es₁ e es₂, es = es₁ ++ e :: es₂ →
      (run (RouteSystem.step blake3 V) (.start identity secs maxPeers relay) es₁).Registers
        t claim e →
      RouteSystem.Undisturbed blake3 V node
        (run (RouteSystem.step blake3 V) (.start identity secs maxPeers relay) (es₁ ++ [e])) es₂ →
      ∀ hash, (run (RouteSystem.step blake3 V) (.start identity secs maxPeers relay)
        es).router.provides node hash ↔ claim.Installs blake3 hash := by
  obtain ⟨rfl, before, after, hlog, -⟩ := hlatest
  constructor
  · have haccepted : RouteObs.accepted t claim ∈
        (run (RouteSystem.step blake3 V) (.start identity secs maxPeers relay) es).log := by
      rw [hlog]
      exact mem_append_right before mem_cons_self
    rcases carried_or_registered rfl es haccepted with ⟨arm, harm, hcarries⟩ | hregistered
    · -- an arm that still carries the claim is in flight
      rcases hquiet.2.1 arm (mem_of_getElem? harm) with hstage | hstage
      · rw [hstage] at hcarries
        exact hcarries.elim
      · rw [hstage] at hcarries
        exact hcarries.elim
    · exact hregistered
  · rintro es₁ e es₂ rfl hregisters hundisturbed hash
    rw [run_append] at hundisturbed
    rw [run_append, run_cons, provides_run (notMissed_step_of_registers hregisters) hundisturbed]
    exact provides_step_of_registers (backed_run blake3 V identity secs maxPeers relay es₁)
      hregisters

def roomyNode : RouteSystem := .start sampleReceiver 1700000000 2 receiverRelay

def ownFrame (claim : Claim) (signature : Signature) : Frame :=
  .new (.new .announce sampleOrigin) .raw (claim.payload signature 2).encode

def maintains (u offset : Nat) : List RouteEvent :=
  .maintain :: List.replicate 5 (.upkeep u (offset * 10 ^ 9))

/-- An origin greets while a relay's announcement of it is on its way, up to the registration. -/
def greetsMeanwhile : List RouteEvent :=
  greets sampleRelayId 2 0 ++ [.receive (sampleFrame earlyClaim earlyClaimSignature)] ++
    armSteps 0 6 1 ++ greets sampleOrigin 5 1 ++ armSteps 0 1 2

def routeAges : List RouteEvent := maintains 0 1900 ++ [.sweep 0 sampleOrigin]

theorem aged_route_leaves_registration :
    let s := run (RouteSystem.step sampleBlake3 sampleVerify) roomyNode
      (greetsMeanwhile ++ .arm 0 (readingAt 2) :: routeAges)
    s.reachableVia.lookup sampleOrigin = none ∧ s.router.provides sampleOrigin echoHash := by
  have hrun :
      let s := run (RouteSystem.step sampleBlake3 sampleVerify) roomyNode
        (greetsMeanwhile ++ .arm 0 (readingAt 2) :: routeAges)
      s.Quiet ∧ s.log = [RouteObs.accepted 0 earlyClaim] ∧
        (run (RouteSystem.step sampleBlake3 sampleVerify) roomyNode greetsMeanwhile).Registers
          0 earlyClaim (.arm 0 (readingAt 2)) ∧
        Guarded (RouteSystem.step sampleBlake3 sampleVerify)
          (fun s e => s.LeavesAlone sampleOrigin e ∧ sampleOrigin ∈ s.net.knownPeers)
          (run (RouteSystem.step sampleBlake3 sampleVerify) roomyNode
            (greetsMeanwhile ++ [.arm 0 (readingAt 2)])) routeAges := by
    decide +kernel
  have hinstalls : earlyClaim.Installs sampleBlake3 echoHash := by
    unfold Claim.Installs
    decide +kernel
  refine ⟨by decide +kernel, ?_⟩
  dsimp only at hrun
  unfold roomyNode at hrun ⊢
  generalize greetsMeanwhile = es₁ at hrun ⊢
  generalize routeAges = es₂ at hrun ⊢
  generalize readingAt 2 = reading at hrun ⊢
  obtain ⟨hquiet, hlog, hregisters, hundisturbed⟩ := hrun
  have hstays := (registration_outlasts_maintenance sampleBlake3 sampleVerify sampleReceiver
    1700000000 2 receiverRelay (es₁ ++ .arm 0 reading :: es₂) sampleOrigin 0 earlyClaim hquiet
    ⟨rfl, [], [], hlog, nofun⟩).2 es₁ _ es₂ rfl hregisters (.inl hundisturbed)
  exact (hstays echoHash).mpr hinstalls

/-- Nothing is in flight, the node is a known peer, its last claim was accepted after its last
eviction, and a capability of that claim is not registered. -/
def RouteSystem.Loses (blake3 : List UInt8 → Digest) (s : RouteSystem) (node : NodeId) (t : Nat)
    (claim : Claim) (hash : IntentHash) : Prop :=
  s.Quiet ∧ node ∈ s.net.knownPeers ∧ LatestAccepted s.log node t claim ∧
    claim.Installs blake3 hash ∧ ¬ s.router.provides node hash

/-- The origin is evicted; the newcomer relays its announcement, and the route ages; then the origin
is back. -/
def routeAgedOut : List RouteEvent :=
  greets sampleOrigin 5 0 ++ greets sampleRelayId 2 1 ++ [.purge 0] ++
    [.receive (sampleFrame earlyClaim earlyClaimSignature)] ++ armSteps 0 8 2 ++
    maintains 0 1900 ++ [.sweep 0 sampleOrigin, .sweep 0 sampleOrigin] ++
    greets sampleOrigin 5 1901 ++ [.purge 1]

/-- The origin is evicted, is back and announces; then the task runs that its eviction spawned. -/
def taskRunsLate : List RouteEvent :=
  greets sampleOrigin 5 0 ++ greets sampleRelayId 2 1 ++ greets sampleOrigin 5 2 ++
    [.receive (ownFrame earlyClaim earlyClaimSignature)] ++ armSteps 0 7 3 ++ [.purge 0, .purge 1]

/-- A relay's copy of an older announcement is accepted, and not yet registered when the manager is
about to take a newer one. -/
def armWaits : List RouteEvent :=
  greets sampleRelayId 2 0 ++ greets sampleOrigin 5 1 ++
    [.receive (sampleFrame earlyClaim earlyClaimSignature)] ++ armSteps 0 6 2 ++
    [.receive (ownFrame fullClaim fullClaimSignature)] ++ armSteps 1 4 62

def armRunsLate : List RouteEvent := armWaits ++ armSteps 1 3 62 ++ armSteps 0 1 63

lemma late_arm_replaces :
    (run (RouteSystem.step sampleBlake3 sampleVerify) roomyNode armRunsLate).Loses sampleBlake3
      sampleOrigin 1 fullClaim (capabilityHash sampleBlake3 "sysinfo") := by
  have hrun :
      let s := run (RouteSystem.step sampleBlake3 sampleVerify) roomyNode armWaits
      s.registrar = .idle ∧ s.purges.isEmpty ∧ s.upkeeps = [] ∧
        s.log = [RouteObs.accepted 0 earlyClaim] ∧ sampleOrigin ∈ s.net.knownPeers ∧
        s.arms.map Arm.stage =
          [.registering earlyClaim earlyClaim.capabilities, .limited fullClaim] ∧
        sampleOrigin ≠ s.manager.identity.nodeId ∧
        (touchCapabilities fullClaim.origin fullClaim.clock
          (readingAt 62).instants fullClaim.capabilities s.manager.seen).1 := by
    decide +kernel
  have hskew : withinSkew (readingAt 62).secs.toNat fullClaim.clock := by
    decide +kernel
  have hinstalls : fullClaim.Installs sampleBlake3 (capabilityHash sampleBlake3 "sysinfo") := by
    unfold Claim.Installs
    decide +kernel
  have hnot : ¬ earlyClaim.Installs sampleBlake3 (capabilityHash sampleBlake3 "sysinfo") := by
    unfold Claim.Installs
    decide +kernel
  unfold armRunsLate armSteps
  have hbacked := backed_run sampleBlake3 sampleVerify sampleReceiver 1700000000 2 receiverRelay
    armWaits
  change (run (RouteSystem.step sampleBlake3 sampleVerify) roomyNode armWaits).Backed _ at hbacked
  rw [run_append, run_append]
  -- from here on the events before do not matter, nor do the clocks
  generalize run (RouteSystem.step sampleBlake3 sampleVerify) roomyNode armWaits = s
    at hrun hbacked ⊢
  generalize readingAt 62 = reading at hrun hskew ⊢
  obtain ⟨hidle, hpurges, hupkeeps, hlog, hknown, hstages, hforeign, hfresh⟩ := hrun
  obtain ⟨⟨frame₀, _⟩, rest, hrest, rfl, hstages⟩ := map_eq_cons_iff.mp hstages
  obtain ⟨⟨frame₁, _⟩, _, rfl, rfl, hnil⟩ := map_eq_cons_iff.mp hstages
  obtain rfl := map_eq_nil_iff.mp hnil
  have hpurges : s.purges = [] := List.isEmpty_iff.mp hpurges
  have harm₁ : s.arms[1]? = some ⟨frame₁, .limited fullClaim⟩ := by rw [hrest]; rfl
  have hfree : s.routerFree := by simp [routerFree, hpurges, hupkeeps]
  obtain ⟨manager, hnewer⟩ := accept_in_a_row sampleBlake3 harm₁
    ⟨hbacked 1 _ harm₁, hskew, hforeign⟩ hfresh hknown hfree
  have holder : run (RouteSystem.step sampleBlake3 sampleVerify)
      (run (RouteSystem.step sampleBlake3 sampleVerify) s (List.replicate 3 (.arm 1 reading)))
      (List.replicate 1 (.arm 0 (readingAt 63))) =
      { s with
        manager := manager
        log := [RouteObs.accepted 0 earlyClaim, RouteObs.accepted 1 fullClaim]
        router := replaceRegistrations sampleBlake3 (replaceRegistrations sampleBlake3 s.router
          fullClaim.origin fullClaim.capabilities) earlyClaim.origin earlyClaim.capabilities
        arms := [⟨frame₀, .ended⟩, ⟨frame₁, .ended⟩] } := by
    unfold routerFree at hfree
    rw [hnewer]
    simp only [List.replicate, run_cons, run_nil, RouteSystem.step, hrest, RouteSystem.stepArm,
      RouteSystem.setArm, routerFree, hfree, if_true, hlog]
    rfl
  rw [holder]
  refine ⟨⟨hidle, by simp, by simp [hpurges], by simp [hupkeeps]⟩, hknown,
    ⟨rfl, [.accepted 0 earlyClaim], [], rfl, by simp⟩, hinstalls, ?_⟩
  rw [provides_replaceRegistrations _ earlyClaim]
  rintro (⟨-, h⟩ | ⟨h, -⟩)
  · exact hnot h
  · exact h rfl

/-- **Registrations are lost in three ways**: the route of an evicted node ages before the node is
back; a task that an eviction spawned runs after the node is back; an arm registers an older claim
after a newer one. -/
theorem registrations_lost :
    (run (RouteSystem.step sampleBlake3 sampleVerify) smallNode routeAgedOut).Loses sampleBlake3
        sampleOrigin 0 earlyClaim (capabilityHash sampleBlake3 "echo") ∧
      (run (RouteSystem.step sampleBlake3 sampleVerify) smallNode taskRunsLate).Loses sampleBlake3
        sampleOrigin 0 earlyClaim (capabilityHash sampleBlake3 "echo") ∧
      (run (RouteSystem.step sampleBlake3 sampleVerify) roomyNode armRunsLate).Loses sampleBlake3
        sampleOrigin 1 fullClaim (capabilityHash sampleBlake3 "sysinfo") := by
  -- the log shows that the claim is the last
  have hloses : ∀ (s : RouteSystem) (before after : List RouteObs),
      (∀ obs ∈ after, obs = .evicted sampleRelayId) →
      s.Quiet ∧ sampleOrigin ∈ s.net.knownPeers ∧
        s.log = before ++ RouteObs.accepted 0 earlyClaim :: after ∧
        (capabilityHash sampleBlake3 "echo" ∈ earlyClaim.hashes ∧ ∃ name ∈ knownCapabilityNames,
          capabilityHash sampleBlake3 name = capabilityHash sampleBlake3 "echo") ∧
        ¬ s.router.provides sampleOrigin (capabilityHash sampleBlake3 "echo") →
      s.Loses sampleBlake3 sampleOrigin 0 earlyClaim (capabilityHash sampleBlake3 "echo") := by
    rintro s before after hafter ⟨hquiet, hknown, hlog, hinstalls, hlost⟩
    refine ⟨hquiet, hknown, ⟨rfl, before, after, hlog, ?_⟩, hinstalls, hlost⟩
    intro obs hobs
    rw [hafter obs hobs]
    exact show sampleRelayId ≠ sampleOrigin by decide
  refine ⟨hloses _ [.evicted sampleOrigin] [.evicted sampleRelayId] (by simp) ?_,
    hloses _ [.evicted sampleOrigin, .evicted sampleRelayId] [] nofun ?_, late_arm_replaces⟩
  · decide +kernel
  · decide +kernel

end AxiomCore
