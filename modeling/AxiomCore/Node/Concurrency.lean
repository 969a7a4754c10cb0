import AxiomCore.Node.Dispatch

/-!
# The concurrency limit

Each capability has a semaphore with as many permits as its entry's `concurrency`. A request holds
one from the end of `check_and_acquire` until `dispatch_intent` returns. For a handler that acts
within the call this bounds the actions in flight. The action of `wg_peer_manage` outlives the call:
the permit is back as soon as the intent is proposed, and the intent is settled by a detached task.
-/

namespace AxiomCore

open Lib GateState List

/-! ## What is in flight -/

/-- The permit is held: from the gate until the call returns. Source: `forge-node/src/network.rs`,
`dispatch_intent`. -/
def Stage.holdsPermit : Stage → Bool
  | .admitted | .running | .answered _ => true
  | .gate _ | .returned _ => false

def Request.holds (capability : String) (q : Request) : Bool :=
  q.name = capability && q.stage.holdsPermit

/-- The request was admitted and its action is not finished. An action inside the call is finished
with the handler's answer, a proposed intent with a terminal status. -/
def Request.unfinished (records : Records) (q : Request) : Bool :=
  match q.stage with
  | .admitted | .running => true
  | .answered _ | .returned _ =>
    match q.intent with
    | some id => ((records.statusOf id).map (!·.terminal)).getD false
    | none => false
  | .gate _ => false

def Node.holders (n : Node) (capability : String) : Nat :=
  n.requests.countP (Request.holds capability)

/-- Requests for `capability` that were admitted and whose action is not finished. -/
def Node.inFlight (n : Node) (capability : String) : Nat :=
  n.requests.countP fun q => q.name = capability && q.unfinished n.flow.records

/-! ## What a step does to requests and permits -/

/-- One step, as far as permits go: nothing, a new request without one, or a request that goes on
and takes, keeps or returns its own. Only a `wg_peer_manage` request gets an intent. -/
inductive Move (n n' : Node) : Prop where
  | stays (hrequests : n'.requests = n.requests) (hpermits : n'.gate.permits = n.gate.permits)
  | arrives (q : Request) (hholds : q.stage.holdsPermit = false) (hintent : q.intent = none)
      (hrequests : n'.requests = n.requests ++ [q]) (hpermits : n'.gate.permits = n.gate.permits)
  | moves (r : Nat) (q q' : Request) (hq : n.requests[r]? = some q) (hname : q'.name = q.name)
      (hintent : q'.intent = q.intent ∨ q.name = "wg_peer_manage")
      (hrequests : n'.requests = n.requests.set r q')
      (hpermits : ∀ capability,
        n'.gate.permits capability + (if q'.holds capability then 1 else 0) =
          n.gate.permits capability + (if q.holds capability then 1 else 0))

variable {X : Externals} {ctx : DispatchContext} {n n' : Node}

lemma Move.refl (n : Node) : Move n n := .stays rfl rfl

variable {r : Nat} {q : Request}

lemma Move.keeps (q' : Request) (hq : n.requests[r]? = some q)
    (hname : q'.name = q.name) (hintent : q'.intent = q.intent ∨ q.name = "wg_peer_manage")
    (hholds : q'.stage.holdsPermit = q.stage.holdsPermit)
    (hrequests : n'.requests = n.requests.set r q')
    (hpermits : n'.gate.permits = n.gate.permits) : Move n n' := by
  refine .moves r q q' hq hname hintent hrequests fun capability => ?_
  rw [hpermits, Request.holds, Request.holds, hname, hholds]

lemma move_stepCheck {stage : GateStage} (hq : n.requests[r]? = some q)
    (hstage : q.stage = .gate stage) (nowSecs : Nat) :
    Move n (n.stepCheck ctx r q stage nowSecs) := by
  have hnone : q.stage.holdsPermit = false := by rw [hstage]; rfl
  -- all accesses but the last leave the semaphore alone
  have hgoes : ∀ (stage' : Stage) (gate : GateState), stage'.holdsPermit = false →
      gate.permits = n.gate.permits →
      Move n ({ n with gate := gate }.setRequest r { q with stage := stage' }) := by
    intro stage' gate hstage' hpermits
    exact .keeps { q with stage := stage' } hq rfl (.inl rfl) (hstage'.trans hnone.symm) rfl hpermits
  unfold Node.stepCheck gateStep
  rcases ctx.policy.entries q.name with _ | entry
  · exact hgoes _ _ rfl rfl
  cases stage with
  | entered =>
    simp only
    split_ifs
    · exact hgoes _ _ rfl rfl
    · exact hgoes _ _ rfl rfl
  | unsuspended =>
    simp only
    by_cases h : entry.tier ≠ .tier0 ∧ n.gate.killSwitch.frozen
    · simp only [if_pos h]
      exact hgoes _ _ rfl rfl
    · simp only [if_neg h]
      exact hgoes _ _ rfl rfl
  | unfrozen =>
    simp only
    split_ifs
    · exact hgoes _ _ rfl rfl
    · exact hgoes _ _ rfl rfl
  | listed =>
    simp only
    split_ifs
    · exact hgoes _ _ rfl rfl
    · exact hgoes _ _ rfl rfl
  | rated =>
    simp only
    by_cases hfree : n.gate.permits q.name = 0
    · simp only [if_pos hfree]
      exact hgoes _ _ rfl rfl
    simp only [if_neg hfree]
    refine .moves r q { q with stage := .admitted } hq rfl (.inl rfl) rfl fun capability => ?_
    by_cases hcap : q.name = capability
    · subst hcap
      simp [acquire, Node.setRequest, Request.holds, Stage.holdsPermit, hstage]
      omega
    · simp [acquire, Node.setRequest, Request.holds, hcap, Ne.symm hcap]

lemma move_stepPropose (hq : n.requests[r]? = some q)
    (hstage : q.stage = .admitted) (hname : q.name = "wg_peer_manage") (draw : IntentId)
    (parsed : Except String WgPeerManageTarget) (lookup : Except String (Option Bool)) :
    Move n (n.stepPropose X ctx r q draw parsed lookup) := by
  unfold Node.stepPropose
  rcases dispatchWgPeerManage X ctx n.flow.records draw n.flow.now q.sender parsed lookup with
    ⟨reply, intent, records⟩
  have hholds : (Stage.answered reply).holdsPermit = q.stage.holdsPermit := by rw [hstage]; rfl
  cases intent with
  | none =>
    exact .keeps { q with stage := .answered reply, intent := none } hq rfl (.inr hname) hholds
      rfl rfl
  | some id =>
    exact .keeps { q with stage := .answered reply, intent := some id } hq rfl (.inr hname) hholds
      rfl rfl

lemma move_arrive (hash : IntentHash) (sender : NodeId) :
    Move n (n.step X ctx (.arrive hash sender)) := by
  have hnew : (Request.arrive X ctx hash sender).stage.holdsPermit = false ∧
      (Request.arrive X ctx hash sender).intent = none := by
    unfold Request.arrive
    split
    · exact ⟨rfl, rfl⟩
    split_ifs
    · exact ⟨rfl, rfl⟩
    · exact ⟨rfl, rfl⟩
  exact .arrives _ hnew.1 hnew.2 rfl rfl

lemma move_reply (r : Nat) : Move n (n.step X ctx (.reply r)) := by
  simp only [Node.step]
  split
  · rename_i q hq
    split
    · rename_i reply hstage
      refine .moves r q { q with stage := .returned reply } hq rfl (.inl rfl) rfl fun capability => ?_
      by_cases hcap : q.name = capability
      · subst hcap
        simp [GateState.release, Node.setRequest, Request.holds, Stage.holdsPermit, hstage]
      · simp [GateState.release, Node.setRequest, Request.holds, hcap, Ne.symm hcap]
    · exact .refl n
  · exact .refl n

lemma move_step (e : NodeEvent) : Move n (n.step X ctx e) := by
  -- inside the handler the permit is held all along
  have hgoes : ∀ {r : Nat} {q : Request} (stage : Stage) (log : List Began),
      n.requests[r]? = some q → q.stage.holdsPermit → stage.holdsPermit →
      Move n ({ n with log := log }.setRequest r { q with stage := stage }) := by
    intro r q stage log hq hholds hholds'
    exact .keeps { q with stage := stage } hq rfl (.inl rfl) (hholds'.trans hholds.symm) rfl rfl
  cases e with
  | freeze => exact .stays rfl rfl
  | unfreeze => exact .stays rfl rfl
  | suspendPeer peer => exact .stays rfl rfl
  | unsuspendPeer peer => exact .stays rfl rfl
  | arrive hash sender => exact move_arrive hash sender
  | check r nowSecs =>
    simp only [Node.step]
    split
    · split
      · exact move_stepCheck ‹_› ‹_› nowSecs
      · exact .refl n
    · exact .refl n
  | start r =>
    simp only [Node.step]
    split
    · split
      · rename_i hstage
        split_ifs
        · exact hgoes .running _ ‹_› (by rw [hstage]; rfl) rfl
        · exact .refl n
      · exact .refl n
    · exact .refl n
  | decline r reply =>
    simp only [Node.step]
    split
    · split
      · rename_i hstage
        split_ifs
        · exact hgoes (.answered _) n.log ‹_› (by rw [hstage]; rfl) rfl
        · exact .refl n
        · exact hgoes (.answered _) n.log ‹_› (by rw [hstage]; rfl) rfl
      · exact .refl n
    · exact .refl n
  | complete r reply =>
    simp only [Node.step]
    split
    · split
      · rename_i hstage
        exact hgoes (.answered _) n.log ‹_› (by rw [hstage]; rfl) rfl
      · exact .refl n
    · exact .refl n
  | propose r draw parsed lookup =>
    simp only [Node.step]
    split
    · split
      · split_ifs with hname
        · exact move_stepPropose ‹_› ‹_› hname draw parsed lookup
        · exact .refl n
      · exact .refl n
    · exact .refl n
  | reply r => exact move_reply r
  | claim r => exact .stays rfl rfl
  | consult r => exact .stays rfl rfl
  | answer r answer => exact .stays rfl rfl
  | conclude r outcome => exact .stays rfl rfl
  | tick elapsed => exact .stays rfl rfl

/-! ## Runs -/

lemma Move.balance (h : Move n n') (capability : String) :
    n'.gate.permits capability + n'.holders capability =
      n.gate.permits capability + n.holders capability := by
  unfold Node.holders
  cases h with
  | stays hrequests hpermits => rw [hrequests, hpermits]
  | arrives q hholds hintent hrequests hpermits =>
    rw [hrequests, hpermits, countP_append]
    simp [Request.holds, hholds]
  | moves r q q' hq hname hintent hrequests hpermits =>
    have hcount := countP_set_add hq q' (Request.holds capability)
    simp only [Bool.toNat, Bool.cond_eq_ite] at hcount
    have hfree := hpermits capability
    rw [hrequests]
    omega

/-- What every run keeps: the permits of each capability add up to its limit, and intents belong to
`wg_peer_manage` requests. -/
structure PermitInv (policy : CapabilityPolicy) (n : Node) : Prop where
  balance : ∀ capability, n.gate.permits capability + n.holders capability =
    (loaded policy).permits capability
  /-- Only `wg_peer_manage` proposes. -/
  intents : ∀ q ∈ n.requests, q.name ≠ "wg_peer_manage" → q.intent = none

lemma permitInv_init (now : Nat) : PermitInv ctx.policy (.init ctx now) where
  balance _ := rfl
  intents _ hq := absurd hq not_mem_nil

lemma PermitInv.step (h : PermitInv ctx.policy n) (hmove : Move n n') :
    PermitInv ctx.policy n' where
  balance capability := (hmove.balance capability).trans (h.balance capability)
  intents q hq hne := by
    cases hmove with
    | stays hrequests hpermits =>
      rw [hrequests] at hq
      exact h.intents q hq hne
    | arrives q₀ hholds hintent hrequests hpermits =>
      rw [hrequests] at hq
      rcases mem_append.mp hq with hold | hnew
      · exact h.intents q hold hne
      · rw [mem_singleton.mp hnew]
        exact hintent
    | moves r q₀ q' hq₀ hname hintent hrequests hpermits =>
      rw [hrequests] at hq
      rcases mem_or_eq_of_mem_set hq with hold | rfl
      · exact h.intents q hold hne
      rw [hname] at hne
      rcases hintent with hsame | hwg
      · rw [hsame]
        exact h.intents q₀ (mem_of_getElem? hq₀) hne
      · exact absurd hwg hne

lemma PermitInv.inFlight_le_holders (h : PermitInv ctx.policy n) {capability : String}
    (hne : capability ≠ "wg_peer_manage") : n.inFlight capability ≤ n.holders capability := by
  apply countP_mono_left
  intro q hq hflight
  rw [Bool.and_eq_true, decide_eq_true_eq] at hflight
  obtain ⟨rfl, hunfinished⟩ := hflight
  rw [Request.unfinished, h.intents q hq hne] at hunfinished
  rw [Request.holds, decide_eq_true rfl, Bool.true_and]
  cases hstage : q.stage with
  | gate stage => simp [hstage] at hunfinished
  | admitted => rfl
  | running => rfl
  | answered reply => rfl
  | returned reply => simp [hstage] at hunfinished

/-- **The concurrency limit bounds the calls that have not returned.** In every run, at most as many
requests for a capability as its entry's `concurrency` have passed the gate and not returned from
`dispatch_intent`. For every capability but `wg_peer_manage`, whose handler acts within the call, at
most as many have been admitted and not finished their action. -/
theorem concurrency_bounds_open_calls (X : Externals) (ctx : DispatchContext) (now : Nat)
    (es : List NodeEvent) {capability : String} {entry : CapabilityEntry}
    (hentry : ctx.policy.entries capability = some entry) :
    (run (Node.step X ctx) (.init ctx now) es).holders capability ≤ entry.concurrency ∧
      (capability ≠ "wg_peer_manage" →
        (run (Node.step X ctx) (.init ctx now) es).inFlight capability ≤ entry.concurrency) := by
  have hinv : PermitInv ctx.policy (run (Node.step X ctx) (.init ctx now) es) :=
    run_invariant (I := PermitInv ctx.policy) (fun _ e h => h.step (move_step e))
      (permitInv_init now) es
  have hlimit : (loaded ctx.policy).permits capability = entry.concurrency := by
    simp [loaded, hentry]
  have hholders : (run (Node.step X ctx) (.init ctx now) es).holders capability ≤
      entry.concurrency := by
    have hbalance := hinv.balance capability
    omega
  exact ⟨hholders, fun hne => (hinv.inFlight_le_holders hne).trans hholders⟩

def echoExternals : Externals :=
  { wgExternals with
    blake3 := fun input =>
      if input = utf8 "echo" then echoDigest else wgExternals.blake3 input }

def echoContext : DispatchContext where
  localCapabilities := ["echo"]
  uaiConfigured := false
  tier2Configured := false
  policy :=
    { entries := fun name =>
        if name = "echo" then
          some ⟨fun peer => if peer = samplePeer then some none else none, 0, 1, .tier0, []⟩
        else none
      protectedResources := none }

/-- Request `r` for `echo`, up to the gate's verdict. -/
def echoRequest (r : Nat) : List NodeEvent :=
  [.arrive (capabilityHash echoExternals.blake3 "echo") samplePeer, .check r 0, .check r 0, .check r 0,
    .check r 0, .check r 0]

theorem second_echo_is_refused :
    (run (Node.step echoExternals echoContext) (.init echoContext 0)
      (echoRequest 0 ++ [.start 0] ++ echoRequest 1)).inFlight "echo" = 1 ∧
    (run (Node.step echoExternals echoContext) (.init echoContext 0)
      (echoRequest 0 ++ [.start 0] ++ echoRequest 1)).holders "echo" ≤ 1 ∧
    (run (Node.step echoExternals echoContext) (.init echoContext 0)
      (echoRequest 0 ++ [.start 0] ++ echoRequest 1)).inFlight "echo" ≤ 1 := by
  have hlimit := concurrency_bounds_open_calls echoExternals echoContext 0
    (echoRequest 0 ++ [.start 0] ++ echoRequest 1)
    (show echoContext.policy.entries "echo" = some _ from rfl)
  exact ⟨by decide, hlimit.1, hlimit.2 (by decide)⟩

/-- **Two intents in flight under a limit of one.** Each request has its reply, and with it has
returned its permit, while its intent is still pending. -/
theorem second_intent_in_flight :
    (wgContext.policy.entries "wg_peer_manage").map (·.concurrency) = some 1 ∧
      (run (Node.step wgExternals wgContext) (.init wgContext 0)
        (wgRequest 0 ⟨Vector.replicate 16 7⟩ ++ wgRequest 1 ⟨Vector.replicate 16 8⟩)).inFlight
          "wg_peer_manage" = 2 := by
  decide

end AxiomCore
