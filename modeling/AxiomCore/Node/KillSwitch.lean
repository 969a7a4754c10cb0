import AxiomCore.Gateway.GateRuns
import AxiomCore.Node.Dispatch

/-!
# The kill switch and executions that begin later

The kill switch is read once per request, inside `check_and_acquire`. What happens between that
reading and the moment the execution begins is not seen: a request may wait at the rate limit or the
semaphore for a moment, and a Tier 2 request waits in its detached task for up to 15 minutes.

Source: `axiom-gateway/src/policy.rs`.
-/

namespace AxiomCore

open Lib FlowSystem Stage List Function

/-! ## What is under way -/

def CapabilityPolicy.AboveTier0 (policy : CapabilityPolicy) (capability : String) : Prop :=
  ∃ entry, policy.entries capability = some entry ∧ entry.tier ≠ .tier0

/-- The freeze flag has been read for this request, and no execution has begun inside the call. -/
def Stage.pastFreezeCheck : Stage → Bool
  | .gate .unfrozen | .gate .listed | .gate .rated | .admitted => true
  | .gate .entered | .gate .unsuspended | .running | .answered _ | .returned _ => false

/-- The suspended set has been read for this request, and no execution has begun inside the call. -/
def Stage.pastSuspensionCheck : Stage → Bool
  | .gate .unsuspended | .gate .unfrozen | .gate .listed | .gate .rated | .admitted => true
  | .gate .entered | .running | .answered _ | .returned _ => false

/-- The intent a detached task still has to settle. Source: `axiom-gateway/src/approval.rs`,
`Tier2ApprovalFlow::decide_and_execute`. -/
def Phase.unsettled : Phase → Option IntentId
  | .called id | .claimed id _ | .asking id | .decided id _ => some id
  | .idle | .returned _ => none

/-- Request `r` has been read as unfrozen and its execution is still to come. -/
def Node.AwaitsUnfrozen (n : Node) (r : Nat) (q : Request) : Prop :=
  q.stage.pastFreezeCheck ∨ (n.flow.callers r).unsettled ≠ none

/-- Request `r` has been read as unsuspended and its execution is still to come. -/
def Node.AwaitsUnsuspended (n : Node) (r : Nat) (q : Request) : Prop :=
  q.stage.pastSuspensionCheck ∨ (n.flow.callers r).unsettled ≠ none

/-- The switch is thrown only when nothing it should stop is under way, and the ids that are drawn
are new. -/
def Quiet (policy : CapabilityPolicy) (n : Node) : NodeEvent → Prop
  | .freeze => ∀ r q, n.requests[r]? = some q → policy.AboveTier0 q.name → ¬ n.AwaitsUnfrozen r q
  | .suspendPeer peer => ∀ r q, n.requests[r]? = some q → q.sender = peer →
      policy.AboveTier0 q.name → ¬ n.AwaitsUnsuspended r q
  | .propose _ draw _ _ => n.flow.records draw = none
  | _ => True

def Began.Clean (policy : CapabilityPolicy) (o : Began) : Prop :=
  policy.AboveTier0 o.capability → o.frozen = false ∧ o.suspended = false

/-! ## The invariant -/

structure SwitchInv (policy : CapabilityPolicy) (n : Node) : Prop where
  unfrozen : ∀ r q, n.requests[r]? = some q → policy.AboveTier0 q.name → n.AwaitsUnfrozen r q →
    n.gate.killSwitch.frozen = false
  /-- Who was read as unsuspended is unsuspended. -/
  unsuspended : ∀ r q, n.requests[r]? = some q → policy.AboveTier0 q.name →
    n.AwaitsUnsuspended r q → q.sender ∉ n.gate.killSwitch.suspended
  /-- A detached task belongs to a request, and settles the intent proposed for it. -/
  tasks : ∀ r id, (n.flow.callers r).unsettled = some id →
    ∃ q record, n.requests[r]? = some q ∧ n.flow.records id = some record ∧
      record.intent.proposer = q.sender ∧ record.intent.capability = q.name
  /-- The executions so far began with the switch open. -/
  clean : ∀ o ∈ n.log, o.Clean policy

variable {X : Externals} {ctx : DispatchContext} {n n' : Node}

variable (policy : CapabilityPolicy) (records : Records) (now : Nat) (id : IntentId)

lemma switchInv_init : SwitchInv ctx.policy (.init ctx now) where
  unfrozen r q hq := by simp [Node.init] at hq
  unsuspended r q hq := by simp [Node.init] at hq
  tasks r id h := by simp [Node.init, FlowSystem.init, Phase.unsettled] at h
  clean o ho := by simp [Node.init] at ho

variable {r : Nat} {q : Request} {f : FlowSystem}

lemma Node.AwaitsUnfrozen.unsuspended (h : n.AwaitsUnfrozen r q) :
    n.AwaitsUnsuspended r q := by
  rcases h with h | h
  · left
    revert h
    cases q.stage with
    | gate stage => cases stage <;> simp [pastFreezeCheck, pastSuspensionCheck]
    | admitted => simp [pastSuspensionCheck]
    | running => simp [pastFreezeCheck]
    | answered reply => simp [pastFreezeCheck]
    | returned reply => simp [pastFreezeCheck]
  · exact .inr h

lemma SwitchInv.set (h : SwitchInv ctx.policy n) (q' : Request)
    (hq : n.requests[r]? = some q) (hname : q'.name = q.name) (hsender : q'.sender = q.sender)
    (hfrozen : ctx.policy.AboveTier0 q.name → q'.stage.pastFreezeCheck →
      n.gate.killSwitch.frozen = false)
    (hsusp : ctx.policy.AboveTier0 q.name → q'.stage.pastSuspensionCheck →
      q.sender ∉ n.gate.killSwitch.suspended)
    (hrequests : n'.requests = n.requests.set r q')
    (hswitch : n'.gate.killSwitch = n.gate.killSwitch) (hflow : n'.flow = n.flow)
    (hclean : ∀ o ∈ n'.log, o.Clean ctx.policy) : SwitchInv ctx.policy n' := by
  refine ⟨?_, ?_, ?_, hclean⟩
  · intro r' q'' hq'' habove hawaits
    rw [hswitch]
    rw [hrequests] at hq''
    rcases getElem?_set_cases hq'' with ⟨rfl, rfl⟩ | ⟨-, hold⟩
    · rw [hname] at habove
      rcases hawaits with hpast | htask
      · exact hfrozen habove hpast
      · rw [hflow] at htask
        exact h.unfrozen r' q hq habove (.inr htask)
    · apply h.unfrozen r' q'' hold habove
      simpa [Node.AwaitsUnfrozen, hflow] using hawaits
  · intro r' q'' hq'' habove hawaits
    rw [hswitch]
    rw [hrequests] at hq''
    rcases getElem?_set_cases hq'' with ⟨rfl, rfl⟩ | ⟨-, hold⟩
    · rw [hname] at habove
      rw [hsender]
      rcases hawaits with hpast | htask
      · exact hsusp habove hpast
      · rw [hflow] at htask
        exact h.unsuspended r' q hq habove (.inr htask)
    · apply h.unsuspended r' q'' hold habove
      simpa [Node.AwaitsUnsuspended, hflow] using hawaits
  · intro r' id htask
    rw [hflow] at htask
    obtain ⟨q₀, record, hq₀, hrecord, hproposer, hcapability⟩ := h.tasks r' id htask
    rw [hflow, hrequests]
    by_cases hr : r' = r
    · subst hr
      cases hq.symm.trans hq₀
      exact ⟨q', record, getElem?_set_of_some hq, hrecord, hproposer.trans hsender.symm,
        hcapability.trans hname.symm⟩
    · exact ⟨q₀, record, by rw [getElem?_set_ne (Ne.symm hr)]; exact hq₀, hrecord, hproposer,
        hcapability⟩

/-! ## Steps of a detached task -/

/-- Every intent stays as it is, whatever its status. -/
def KeepsIntents (records records' : Records) : Prop :=
  ∀ id record, records id = some record →
    ∃ record', records' id = some record' ∧ record'.intent = record.intent

lemma KeepsIntents.refl : KeepsIntents records records :=
  fun _ record h => ⟨record, h, rfl⟩

lemma keepsIntents_setStatus {records : Records} {id : IntentId} {r r' : LinkedRecord}
    (hr : records id = some r) (hi : r'.intent = r.intent) (st : IntentStatus) :
    KeepsIntents records (setStatus records id r' st) := by
  intro id' record hrecord
  by_cases hid : id' = id
  · subst hid
    rw [hr, Option.some.injEq] at hrecord
    subst hrecord
    exact ⟨{ r' with status := st }, by simp [setStatus], hi⟩
  · exact ⟨record, by simpa [setStatus, update_of_ne hid] using hrecord, rfl⟩

lemma keepsIntents_claim : KeepsIntents records (claim X records now id).2 := by
  unfold claim
  rcases hr : records id with _ | r
  · exact .refl records
  simp only
  split_ifs
  · exact .refl records
  · exact keepsIntents_setStatus hr rfl _
  · exact keepsIntents_setStatus hr rfl _
  · exact keepsIntents_setStatus hr rfl _

lemma keepsIntents_finish (decision : ApprovalDecision) (outcome : Except String String) :
    KeepsIntents records (finish X records now id decision outcome).records := by
  unfold finish
  rcases hr : records id with _ | r
  · exact .refl records
  simp only
  split_ifs
  all_goals
    apply keepsIntents_setStatus hr
    rfl

/-- What a step of a detached task leaves: tasks only end, intents stay. -/
structure FlowFrame (f f' : FlowSystem) : Prop where
  tasks : ∀ r id, (f'.callers r).unsettled = some id → (f.callers r).unsettled = some id
  records : KeepsIntents f.records f'.records

lemma flowFrame_move {f' : FlowSystem} (phase : Phase)
    (hphase : ∀ id, phase.unsettled = some id → (f.callers r).unsettled = some id)
    (hcallers : f'.callers = update f.callers r phase)
    (hrecords : KeepsIntents f.records f'.records) : FlowFrame f f' where
  tasks r' id htask := by
    rw [hcallers] at htask
    by_cases hr : r' = r
    · subst hr
      rw [update_self] at htask
      exact hphase id htask
    · rwa [update_of_ne hr] at htask
  records := hrecords

lemma flowFrame_refl (f : FlowSystem) : FlowFrame f f := ⟨fun _ _ h => h, .refl _⟩

lemma flowFrame_claim (f : FlowSystem) (r : Nat) : FlowFrame f (f.step X policy (.claim r)) := by
  simp only [FlowSystem.step]
  split
  · rename_i id hphase
    have hkeeps := keepsIntents_claim (X := X) f.records f.now id
    unfold stepClaim
    rcases hclaim : claim X f.records f.now id with ⟨outcome, records⟩
    rw [hclaim] at hkeeps
    cases outcome with
    | returned result =>
      exact flowFrame_move (.returned result) (by simp [Phase.unsettled]) rfl hkeeps
    | claimed intent request =>
      refine flowFrame_move (.claimed id request) ?_ rfl hkeeps
      rw [hphase]
      exact fun _ h => h
  · exact flowFrame_refl f

lemma flowFrame_consult (f : FlowSystem) (r : Nat) :
    FlowFrame f (f.step X policy (.consult r)) := by
  simp only [FlowSystem.step]
  split
  · rename_i id request hphase
    refine flowFrame_move (.asking id) ?_ rfl (.refl _)
    rw [hphase]
    exact fun _ h => h
  · exact flowFrame_refl f

lemma flowFrame_answer (f : FlowSystem) (r : Nat)
    (answer : Except ApprovalChannelError ApprovalDecision) :
    FlowFrame f (f.step X policy (.answer r answer)) := by
  simp only [FlowSystem.step]
  split
  · rename_i id hphase
    unfold stepAnswer
    rcases checkDecision id answer with e | decision
    · exact flowFrame_move (.returned (.error e)) (by simp [Phase.unsettled]) rfl (.refl _)
    refine flowFrame_move (.decided id decision) ?_ rfl (.refl _)
    rw [hphase]
    exact fun _ h => h
  · exact flowFrame_refl f

lemma flowFrame_finish (f : FlowSystem) (r : Nat) (outcome : Except String String) :
    FlowFrame f (f.step X policy (.finish r outcome)) := by
  simp only [FlowSystem.step]
  split
  · rename_i id decision hphase
    exact flowFrame_move (.returned _) (by simp [Phase.unsettled]) rfl
      (keepsIntents_finish _ _ _ _ _)
  · exact flowFrame_refl f

variable {outcome : Except String String} {intent : Intent} {draw : IntentId}

lemma decided_of_executedBy
    (h : Node.executedBy X f r outcome = some intent) :
    ∃ id decision record, f.callers r = .decided id decision ∧ decision.approved = true ∧
      f.records id = some record ∧ record.intent = intent := by
  unfold Node.executedBy at h
  split at h
  · rename_i id decision hphase
    unfold finish at h
    rcases hr : f.records id with _ | record
    · simp [hr] at h
    simp only [hr] at h
    split_ifs at h with happroved
    exact ⟨id, decision, record, hphase, happroved, hr, Option.some.inj h⟩
  · simp at h

lemma executedBy_eq_some
    (h : Node.executedBy X f r outcome = some intent) :
    ∃ id record, (f.callers r).unsettled = some id ∧ f.records id = some record ∧
      record.intent = intent := by
  obtain ⟨id, decision, record, hphase, -, hr, hintent⟩ := decided_of_executedBy h
  exact ⟨id, record, by rw [hphase]; rfl, hr, hintent⟩

lemma SwitchInv.flow (h : SwitchInv ctx.policy n) (hframe : FlowFrame n.flow f)
    {obs : List Began} (hobs : ∀ o ∈ obs, o.Clean ctx.policy) :
    SwitchInv ctx.policy { n with flow := f, log := n.log ++ obs } := by
  have hunsettled : ∀ r, (f.callers r).unsettled ≠ none → (n.flow.callers r).unsettled ≠ none := by
    intro r hne
    obtain ⟨id, hid⟩ := Option.ne_none_iff_exists'.mp hne
    rw [hframe.tasks r id hid]
    exact nofun
  refine ⟨?_, ?_, ?_, ?_⟩
  · intro r q hq habove hawaits
    exact h.unfrozen r q hq habove (hawaits.imp_right (hunsettled r))
  · intro r q hq habove hawaits
    exact h.unsuspended r q hq habove (hawaits.imp_right (hunsettled r))
  · intro r id htask
    obtain ⟨q, record, hq, hrecord, hproposer, hcapability⟩ :=
      h.tasks r id (hframe.tasks r id htask)
    obtain ⟨record', hrecord', hintent⟩ := hframe.records id record hrecord
    exact ⟨q, record', hq, hrecord', by rw [hintent, hproposer], by rw [hintent, hcapability]⟩
  · intro o ho
    rcases mem_append.mp ho with ho | ho
    · exact h.clean o ho
    · exact hobs o ho

lemma SwitchInv.task (h : SwitchInv ctx.policy n) (hframe : FlowFrame n.flow f) :
    SwitchInv ctx.policy { n with flow := f } := by
  have hnone : ∀ o ∈ ([] : List Began), o.Clean ctx.policy := by simp
  have hflow := h.flow hframe hnone
  rwa [append_nil] at hflow

/-! ## Steps of a request -/

lemma SwitchInv.advance (h : SwitchInv ctx.policy n)
    (hq : n.requests[r]? = some q) (stage : Stage) {gate : GateState}
    (hgate : gate.killSwitch = n.gate.killSwitch)
    (hfrozen : ctx.policy.AboveTier0 q.name → stage.pastFreezeCheck →
      q.stage.pastFreezeCheck ∨ n.gate.killSwitch.frozen = false)
    (hsusp : stage.pastSuspensionCheck →
      q.stage.pastSuspensionCheck ∨ q.sender ∉ n.gate.killSwitch.suspended) :
    SwitchInv ctx.policy ({ n with gate := gate }.setRequest r { q with stage := stage }) := by
  refine h.set { q with stage := stage } hq rfl rfl ?_ ?_ rfl hgate rfl h.clean
  · intro habove hpast
    rcases hfrozen habove hpast with hold | hopen
    · exact h.unfrozen r q hq habove (.inl hold)
    · exact hopen
  · intro habove hpast
    rcases hsusp hpast with hold | hopen
    · exact h.unsuspended r q hq habove (.inl hold)
    · exact hopen

lemma SwitchInv.stepCheck (h : SwitchInv ctx.policy n) {stage : GateStage}
    (hq : n.requests[r]? = some q) (hstage : q.stage = .gate stage) (nowSecs : Nat) :
    SwitchInv ctx.policy (n.stepCheck ctx r q stage nowSecs) := by
  -- a refusal ends the call, and nothing is awaited any more
  have hrefused : ∀ reply, SwitchInv ctx.policy
      ({ n with gate := n.gate }.setRequest r { q with stage := .returned reply }) := fun reply =>
    h.advance hq _ rfl (by simp [pastFreezeCheck]) (by simp [pastSuspensionCheck])
  unfold Node.stepCheck
  have haccess := access_gateStep ctx.policy n.gate q.name q.sender n.flow.now nowSecs stage
  generalize gateStep ctx.policy n.gate q.name q.sender n.flow.now nowSecs stage = out at haccess ⊢
  obtain ⟨progress, gate⟩ := out
  -- past the first check, a request stays past the checks it has passed
  have hgoes : ∀ {stage'} {gate : GateState}, gate.killSwitch = n.gate.killSwitch →
      q.stage.pastFreezeCheck → q.stage.pastSuspensionCheck →
      SwitchInv ctx.policy ({ n with gate := gate }.setRequest r { q with stage := stage' }) :=
    fun hgate hfreeze hsusp => h.advance hq _ hgate (fun _ _ => .inl hfreeze) fun _ => .inl hsusp
  cases haccess with
  | unregistered => exact hrefused _
  | refused _ outcome houtcome =>
    cases outcome with
    | allowed => exact absurd rfl houtcome
    | _ => exact hrefused _
  | unsuspended hnot => exact h.advance hq _ rfl (by simp [pastFreezeCheck]) fun _ => .inr hnot
  | unfrozen entry hentry hopen =>
    refine h.advance hq _ rfl ?_ fun _ => .inl (by rw [hstage]; rfl)
    rintro ⟨entry', hentry', htier⟩ -
    cases hentry.symm.trans hentry'
    exact .inr (hopen.resolve_left htier)
  | listed => exact hgoes rfl (by rw [hstage]; rfl) (by rw [hstage]; rfl)
  | rated => exact hgoes rfl (by rw [hstage]; rfl) (by rw [hstage]; rfl)
  | allowed => exact hgoes rfl (by rw [hstage]; rfl) (by rw [hstage]; rfl)

lemma dispatchWgPeerManage_cases (X : Externals) (ctx : DispatchContext) (records : Records)
    (draw : IntentId) (now : Nat) (sender : NodeId) (parsed : Except String WgPeerManageTarget)
    (lookup : Except String (Option Bool)) :
    (∃ reply, dispatchWgPeerManage X ctx records draw now sender parsed lookup =
        (reply, none, records)) ∨
      ∃ reply record, dispatchWgPeerManage X ctx records draw now sender parsed lookup =
        (reply, some draw, update records draw (some record)) ∧
        record.intent.proposer = sender ∧ record.intent.capability = "wg_peer_manage" ∧
        record.status = .pending := by
  unfold dispatchWgPeerManage
  rcases parsed with e | target
  · exact .inl ⟨_, rfl⟩
  simp only
  split
  · exact .inl ⟨_, rfl⟩
  by_cases huai : ¬ ctx.uaiConfigured
  · exact .inl ⟨_, if_pos huai⟩
  rw [if_neg huai]
  by_cases htier2 : ¬ ctx.tier2Configured
  · exact .inl ⟨_, if_pos htier2⟩
  rw [if_neg htier2]
  rcases priorEnabled target lookup with e | enabled
  · exact .inl ⟨_, rfl⟩
  rcases proposeWithExpiry_cases X ctx.policy records draw now sender
    (wgPeerManageCapability target enabled) (wgPeerManageParams target) defaultExpiry
    with ⟨e, h⟩ | h
  · exact .inl ⟨.proposeError e, by simp only [propose, h]⟩
  · exact .inr ⟨_, _, by simp only [propose, h]; rfl, rfl, rfl, rfl⟩

lemma SwitchInv.spawn (h : SwitchInv ctx.policy n)
    (hq : n.requests[r]? = some q) (hpast : n.AwaitsUnfrozen r q)
    (hfresh : n.flow.records draw = none) {record : LinkedRecord}
    (hproposer : record.intent.proposer = q.sender)
    (hcapability : record.intent.capability = q.name) :
    SwitchInv ctx.policy { n with
      flow := (n.flow.withRecords (update n.flow.records draw (some record))).moveTo r
        (.called draw) } := by
  refine ⟨?_, ?_, ?_, h.clean⟩
  · intro r' q' hq' habove hawaits
    by_cases hr : r' = r
    · subst hr
      cases hq.symm.trans hq'
      exact h.unfrozen r' q hq habove hpast
    · apply h.unfrozen r' q' hq' habove
      simpa [Node.AwaitsUnfrozen, moveTo, withRecords, hr] using hawaits
  · intro r' q' hq' habove hawaits
    by_cases hr : r' = r
    · subst hr
      cases hq.symm.trans hq'
      exact h.unsuspended r' q hq habove hpast.unsuspended
    · apply h.unsuspended r' q' hq' habove
      simpa [Node.AwaitsUnsuspended, moveTo, withRecords, hr] using hawaits
  · intro r' id htask
    by_cases hr : r' = r
    · subst hr
      obtain rfl : draw = id := by
        simpa [moveTo, Phase.unsettled] using htask
      exact ⟨q, record, hq, update_self .., hproposer, hcapability⟩
    have htask' : (n.flow.callers r').unsettled = some id := by
      simpa [moveTo, withRecords, hr] using htask
    obtain ⟨q', record', hq', hrecord', hproposer', hcapability'⟩ := h.tasks r' id htask'
    have hne : id ≠ draw := by
      rintro rfl
      rw [hfresh] at hrecord'
      exact absurd hrecord' (by simp)
    exact ⟨q', record', hq', (update_of_ne hne ..).trans hrecord', hproposer',
      hcapability'⟩

lemma SwitchInv.stepPropose (h : SwitchInv ctx.policy n)
    (hq : n.requests[r]? = some q) (hstage : q.stage = .admitted)
    (hname : q.name = "wg_peer_manage") (hfresh : n.flow.records draw = none)
    (parsed : Except String WgPeerManageTarget) (lookup : Except String (Option Bool)) :
    SwitchInv ctx.policy (n.stepPropose X ctx r q draw parsed lookup) := by
  have hpast : n.AwaitsUnfrozen r q := .inl (by rw [hstage]; rfl)
  unfold Node.stepPropose
  rcases dispatchWgPeerManage_cases X ctx n.flow.records draw n.flow.now q.sender parsed lookup with
    ⟨reply, hdispatch⟩ | ⟨reply, record, hdispatch, hproposer, hcapability, -⟩
  · rw [hdispatch]
    exact h.set { q with stage := .answered reply, intent := none } hq rfl rfl
      (by simp [pastFreezeCheck]) (by simp [pastSuspensionCheck]) rfl rfl rfl h.clean
  rw [hdispatch]
  have hspawned := h.spawn hq hpast hfresh hproposer (hcapability.trans hname.symm)
  exact hspawned.set { q with stage := .answered reply, intent := some draw } hq rfl rfl
    (by simp [pastFreezeCheck]) (by simp [pastSuspensionCheck]) rfl rfl rfl h.clean

/-! ## Runs -/

lemma SwitchInv.withSwitch (h : SwitchInv ctx.policy n) (f : KillSwitch → KillSwitch)
    (hfrozen : ∀ r q, n.requests[r]? = some q → ctx.policy.AboveTier0 q.name →
      n.AwaitsUnfrozen r q → n.gate.killSwitch.frozen = false →
        (f n.gate.killSwitch).frozen = false)
    (hsusp : ∀ r q, n.requests[r]? = some q → ctx.policy.AboveTier0 q.name →
      n.AwaitsUnsuspended r q → q.sender ∉ n.gate.killSwitch.suspended →
        q.sender ∉ (f n.gate.killSwitch).suspended) :
    SwitchInv ctx.policy (n.withSwitch f) where
  unfrozen r q hq habove hawaits :=
    hfrozen r q hq habove hawaits (h.unfrozen r q hq habove hawaits)
  unsuspended r q hq habove hawaits :=
    hsusp r q hq habove hawaits (h.unsuspended r q hq habove hawaits)
  tasks := h.tasks
  clean := h.clean

lemma stage_arrive (X : Externals) (ctx : DispatchContext) (hash : IntentHash) (sender : NodeId) :
    (Request.arrive X ctx hash sender).stage.pastFreezeCheck = false ∧
      (Request.arrive X ctx hash sender).stage.pastSuspensionCheck = false := by
  unfold Request.arrive
  split
  · exact ⟨rfl, rfl⟩
  split_ifs
  · exact ⟨rfl, rfl⟩
  · exact ⟨rfl, rfl⟩

lemma SwitchInv.arrive (h : SwitchInv ctx.policy n)
    (hfreeze : q.stage.pastFreezeCheck = false) (hsusp : q.stage.pastSuspensionCheck = false) :
    SwitchInv ctx.policy { n with requests := n.requests ++ [q] } := by
  -- the new request has no task yet: every task belongs to a request that was there
  have hnew : ∀ r q', (n.requests ++ [q])[r]? = some q' →
      n.requests[r]? = some q' ∨ (q' = q ∧ (n.flow.callers r).unsettled = none) := by
    intro r q' hq'
    rcases getElem?_concat_cases hq' with ⟨rfl, rfl⟩ | hold
    · refine .inr ⟨rfl, ?_⟩
      by_contra hne
      obtain ⟨id, hid⟩ := Option.ne_none_iff_exists'.mp hne
      obtain ⟨q₀, -, hq₀, -⟩ := h.tasks _ id hid
      exact absurd (List.getElem?_eq_some_iff.mp hq₀).1 (Nat.lt_irrefl _)
    · exact .inl hold
  refine ⟨?_, ?_, ?_, h.clean⟩
  · intro r q' hq' habove hawaits
    rcases hnew r q' hq' with hold | ⟨rfl, hnone⟩
    · exact h.unfrozen r q' hold habove hawaits
    rcases hawaits with hpast | htask
    · exact absurd hpast (by simp [hfreeze])
    · exact absurd hnone htask
  · intro r q' hq' habove hawaits
    rcases hnew r q' hq' with hold | ⟨rfl, hnone⟩
    · exact h.unsuspended r q' hold habove hawaits
    rcases hawaits with hpast | htask
    · exact absurd hpast (by simp [hsusp])
    · exact absurd hnone htask
  · intro r id htask
    obtain ⟨q', record, hq', hrest⟩ := h.tasks r id htask
    exact ⟨q', record, getElem?_concat_of_some hq', hrest⟩

lemma SwitchInv.start (h : SwitchInv ctx.policy n)
    (hq : n.requests[r]? = some q) (hstage : q.stage = .admitted) :
    SwitchInv ctx.policy ({ n with log := n.log ++ [n.began q.name q.sender] }.setRequest r
      { q with stage := .running }) := by
  refine h.set { q with stage := .running } hq rfl rfl (by simp [pastFreezeCheck])
    (by simp [pastSuspensionCheck]) rfl rfl rfl ?_
  intro o ho
  rcases mem_append.mp ho with ho | ho
  · exact h.clean o ho
  rw [mem_singleton.mp ho]
  intro habove
  have hawaits : n.AwaitsUnfrozen r q := .inl (by rw [hstage]; rfl)
  exact ⟨h.unfrozen r q hq habove hawaits,
    decide_eq_false (h.unsuspended r q hq habove hawaits.unsuspended)⟩

lemma SwitchInv.conclude (h : SwitchInv ctx.policy n) (r : Nat) (outcome : Except String String) :
    SwitchInv ctx.policy (n.step X ctx (.conclude r outcome)) := by
  apply h.flow (flowFrame_finish ctx.policy n.flow r outcome)
  intro o ho
  obtain ⟨intent, hintent, rfl⟩ := mem_map.mp ho
  rw [Option.mem_toList] at hintent
  obtain ⟨id, record, htask, hrecord, rfl⟩ := executedBy_eq_some hintent
  obtain ⟨q, record', hq, hrecord', hproposer, hcapability⟩ := h.tasks r id htask
  cases hrecord.symm.trans hrecord'
  intro habove
  have hawaits : n.AwaitsUnfrozen r q := .inr (by rw [htask]; exact nofun)
  rw [Node.began, hcapability] at habove
  refine ⟨h.unfrozen r q hq habove hawaits, ?_⟩
  show decide (record.intent.proposer ∈ n.gate.killSwitch.suspended) = false
  rw [hproposer]
  exact decide_eq_false (h.unsuspended r q hq habove hawaits.unsuspended)

lemma SwitchInv.step (h : SwitchInv ctx.policy n) {e : NodeEvent} (he : Quiet ctx.policy n e) :
    SwitchInv ctx.policy (n.step X ctx e) := by
  -- a request that ends its part of the call awaits nothing inside it any more
  have hdone : ∀ {r : Nat} {q : Request} (stage : Stage) (gate : GateState),
      n.requests[r]? = some q →
      gate.killSwitch = n.gate.killSwitch → stage.pastFreezeCheck = false →
      stage.pastSuspensionCheck = false →
      SwitchInv ctx.policy ({ n with gate := gate }.setRequest r { q with stage := stage }) := by
    intro r q stage gate hq hgate hfreeze hsusp
    exact h.advance hq stage hgate (by simp [hfreeze]) (by simp [hsusp])
  cases e with
  | freeze =>
    refine h.withSwitch _ (fun r q hq habove hawaits _ => ?_) fun _ _ _ _ _ hnot => hnot
    exact absurd hawaits (he r q hq habove)
  | unfreeze =>
    exact h.withSwitch KillSwitch.unfreeze (fun _ _ _ _ _ _ => rfl) fun _ _ _ _ _ hnot => hnot
  | suspendPeer peer =>
    refine h.withSwitch (·.suspendPeer peer) (fun _ _ _ _ _ hopen => hopen)
      fun r q hq habove hawaits hnot => ?_
    show q.sender ∉ insert peer n.gate.killSwitch.suspended
    rw [Finset.mem_insert, not_or]
    exact ⟨fun hpeer => he r q hq hpeer habove hawaits, hnot⟩
  | unsuspendPeer peer =>
    refine h.withSwitch (·.unsuspendPeer peer) (fun _ _ _ _ _ hopen => hopen)
      fun r q hq habove hawaits hnot => ?_
    exact fun hmem => hnot (Finset.mem_of_mem_erase hmem)
  | arrive hash sender =>
    obtain ⟨hfreeze, hsusp⟩ := stage_arrive X ctx hash sender
    exact h.arrive hfreeze hsusp
  | check r nowSecs =>
    simp only [Node.step]
    split
    · split
      · exact h.stepCheck ‹_› ‹_› nowSecs
      · exact h
    · exact h
  | start r =>
    simp only [Node.step]
    split
    · split
      · split_ifs
        · exact h.start ‹_› ‹_›
        · exact h
      · exact h
    · exact h
  | decline r reply =>
    simp only [Node.step]
    split
    · split
      · split_ifs
        · exact hdone _ n.gate ‹_› rfl (by rfl) (by rfl)
        · exact h
        · exact hdone _ n.gate ‹_› rfl (by rfl) (by rfl)
      · exact h
    · exact h
  | complete r reply =>
    simp only [Node.step]
    split
    · split
      · exact hdone _ n.gate ‹_› rfl (by rfl) (by rfl)
      · exact h
    · exact h
  | propose r draw parsed lookup =>
    simp only [Node.step]
    split
    · split
      · split_ifs with hname
        · exact h.stepPropose ‹_› ‹_› hname he parsed lookup
        · exact h
      · exact h
    · exact h
  | reply r =>
    simp only [Node.step]
    split
    · split
      · exact hdone _ _ ‹_› rfl (by rfl) (by rfl)
      · exact h
    · exact h
  | claim r => exact h.task (flowFrame_claim ctx.policy n.flow r)
  | consult r => exact h.task (flowFrame_consult ctx.policy n.flow r)
  | answer r answer => exact h.task (flowFrame_answer ctx.policy n.flow r answer)
  | conclude r outcome => exact h.conclude r outcome
  | tick elapsed => exact h.task ⟨fun _ _ htask => htask, .refl _⟩

/-- **The kill switch holds in every quiet run.** If FREEZE is issued only while no Tier 1 or Tier 2
request is between reading the freeze flag and the beginning of its execution, and SUSPEND of a peer
only while none of its requests is between reading the suspended set and that, then no Tier 1 or
Tier 2 execution begins while the policy is frozen or its proposer suspended. -/
theorem no_execution_under_kill_switch (X : Externals) (ctx : DispatchContext) (now : Nat)
    (es : List NodeEvent) (hes : Guarded (Node.step X ctx) (Quiet ctx.policy) (.init ctx now) es) :
    ∀ o ∈ (run (Node.step X ctx) (.init ctx now) es).log, o.Clean ctx.policy := by
  have hinv : SwitchInv ctx.policy (run (Node.step X ctx) (.init ctx now) es) :=
    run_invariant_of_guarded (I := SwitchInv ctx.policy) (fun _ _ h he => h.step he)
      (switchInv_init now) hes
  exact hinv.clean

theorem executed_before_freeze :
    (run (Node.step wgExternals wgContext) (.init wgContext 0)
      (wgRequest 0 ⟨Vector.replicate 16 7⟩ ++ wgApproval 0 ⟨Vector.replicate 16 7⟩ ++
        [.freeze])).log = [⟨"wg_peer_manage", samplePeer, false, false⟩] ∧
      ∀ o ∈ (run (Node.step wgExternals wgContext) (.init wgContext 0)
        (wgRequest 0 ⟨Vector.replicate 16 7⟩ ++ wgApproval 0 ⟨Vector.replicate 16 7⟩ ++
          [.freeze])).log, o.Clean wgContext.policy := by
  refine ⟨by decide, no_execution_under_kill_switch wgExternals wgContext 0 _ ?_⟩
  rw [guarded_append]
  constructor
  · simp only [wgRequest, wgApproval, cons_append, nil_append, Guarded, Quiet, true_and,
      and_true]
    rfl
  · refine ⟨?_, trivial⟩
    intro r q hq _ hawaits
    have hstages : (run (Node.step wgExternals wgContext) (.init wgContext 0)
        (wgRequest 0 ⟨Vector.replicate 16 7⟩ ++ wgApproval 0 ⟨Vector.replicate 16 7⟩)).requests.map
          (·.stage.pastFreezeCheck) = [false] := by decide
    have htask : ((run (Node.step wgExternals wgContext) (.init wgContext 0)
        (wgRequest 0 ⟨Vector.replicate 16 7⟩ ++
          wgApproval 0 ⟨Vector.replicate 16 7⟩)).flow.callers 0).unsettled = none := by decide
    have hat : ([false] : List Bool)[r]? = some q.stage.pastFreezeCheck := by
      rw [← hstages, getElem?_map, hq]
      rfl
    obtain rfl : r = 0 := by
      have := (List.getElem?_eq_some_iff.mp hat).1
      simpa using this
    rcases hawaits with hpast | hne
    · simp [hpast] at hat
    · exact hne htask

/-- **An execution that begins while the node is frozen**, and one that begins for a suspended peer.
The request passed the gate; FREEZE (or SUSPEND) is issued while its task waits for the human; the
human approves, and the task executes. -/
theorem frozen_node_executes :
    wgContext.policy.tier "wg_peer_manage" = some .tier2 ∧
      (run (Node.step wgExternals wgContext) (.init wgContext 0)
        (wgRequest 0 ⟨Vector.replicate 16 7⟩ ++ [.freeze] ++
          wgApproval 0 ⟨Vector.replicate 16 7⟩)).log =
        [⟨"wg_peer_manage", samplePeer, true, false⟩] ∧
      (run (Node.step wgExternals wgContext) (.init wgContext 0)
        (wgRequest 0 ⟨Vector.replicate 16 7⟩ ++ [.suspendPeer samplePeer] ++
          wgApproval 0 ⟨Vector.replicate 16 7⟩)).log =
        [⟨"wg_peer_manage", samplePeer, false, true⟩] := by
  decide

end AxiomCore
