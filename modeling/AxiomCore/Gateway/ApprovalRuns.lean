import AxiomCore.Gateway.Approval
import AxiomCore.Lib.Run

/-!
# Every interleaving of the approval flow

Any number of callers may be inside `decide_and_execute` at once. `FlowSystem` is the flow together
with its callers: the records, the clock, what each caller is doing, and a log of what happened.
One `FlowEvent` is one atomic step of one caller (a critical section, or the start or the end of a
channel consultation), an insertion by `propose`, the passing of time, or an alteration of a stored
intent. A run is any list of events (`Lib.run`), so a statement about all runs is a statement about
all interleavings, all channel answers and all timings.

The proofs follow one line. `Trans` says once what a step can do to records, callers and log
(`step_trans`); in `ApprovalSafety` the invariant `FlowInv` is shown to be preserved by each kind of
transition, hence by every step (`FlowInv.step`) and every run.

The ids drawn by `propose` are assumed distinct (`rand::random` over 128 bits). Nothing is assumed
about the channel: a caller whose channel never answers stays where it is.

Source: `axiom-gateway/src/approval.rs`.
-/

namespace AxiomCore

open Lib List Function

/-! ## The system -/

/-- What a caller of `decide_and_execute` is doing. -/
inductive Phase where
  | idle
  /-- Called, before the first critical section. -/
  | called (id : IntentId)
  /-- Behind the first critical section, with the intent claimed. -/
  | claimed (id : IntentId) (request : ApprovalRequest)
  /-- Inside `request_approval`. -/
  | asking (id : IntentId)
  /-- Behind a matching answer, before the second critical section. -/
  | decided (id : IntentId) (decision : ApprovalDecision)
  | returned (result : Except FlowError IntentStatus)

def Phase.holds : Phase → Option IntentId
  | .claimed id _ | .asking id | .decided id _ => some id
  | .idle | .called _ | .returned _ => none

/-- What is observed of a run. -/
inductive Obs where
  /-- Caller `t` claimed an intent, which looked like `intent` at instant `now`. -/
  | claimed (t : Nat) (intent : Intent) (now : Nat)
  | consulted (t : Nat) (request : ApprovalRequest)
  /-- The channel answered caller `t`, who asked about `id`. -/
  | answered (t : Nat) (id : IntentId) (answer : Except ApprovalChannelError ApprovalDecision)
  /-- Caller `t` invoked `execute` for an intent, which looked like `intent` at instant `now`. -/
  | executed (t : Nat) (intent : Intent) (now : Nat)

structure FlowSystem where
  records : Records
  now : Nat
  callers : Nat → Phase
  /-- What happened so far, oldest first. -/
  log : List Obs

def FlowSystem.init (now : Nat) : FlowSystem := ⟨fun _ => none, now, fun _ => .idle, []⟩

inductive FlowEvent where
  /-- `propose_with_expiry`, with the id that was drawn. -/
  | propose (draw : IntentId) (proposer : NodeId) (capability : Tier2Capability)
      (parameters : List Constraint) (expiry : Nat)
  /-- Caller `t` enters `decide_and_execute(id)`. -/
  | call (t : Nat) (id : IntentId)
  /-- Caller `t` runs the first critical section. -/
  | claim (t : Nat)
  | consult (t : Nat)
  /-- `request_approval` returns to caller `t`. -/
  | answer (t : Nat) (answer : Except ApprovalChannelError ApprovalDecision)
  /-- Caller `t` runs the second critical section; `outcome` is what `execute` would return. -/
  | finish (t : Nat) (outcome : Except String String)
  | tick (elapsed : Nat)
  /-- Something alters the stored parameters of an intent. -/
  | tamper (id : IntentId) (parameters : List Constraint)

namespace FlowSystem

variable (X : Externals) (policy : CapabilityPolicy)

def moveTo (s : FlowSystem) (t : Nat) (phase : Phase) : FlowSystem :=
  { s with callers := update s.callers t phase }

def observe (s : FlowSystem) (obs : List Obs) : FlowSystem := { s with log := s.log ++ obs }

@[simp] lemma observe_nil (s : FlowSystem) : s.observe [] = s := by
  simp [observe]

def withRecords (s : FlowSystem) (records : Records) : FlowSystem := { s with records := records }

def stepClaim (s : FlowSystem) (t : Nat) (id : IntentId) : FlowSystem :=
  let (outcome, records) := AxiomCore.claim X s.records s.now id
  match outcome with
  | .claimed intent request =>
    ((s.withRecords records).moveTo t (.claimed id request)).observe [.claimed t intent s.now]
  | .returned result => (s.withRecords records).moveTo t (.returned result)

def stepAnswer (s : FlowSystem) (t : Nat) (id : IntentId)
    (answer : Except ApprovalChannelError ApprovalDecision) : FlowSystem :=
  let s := s.observe [.answered t id answer]
  match checkDecision id answer with
  | .ok decision => s.moveTo t (.decided id decision)
  | .error e => s.moveTo t (.returned (.error e))

def stepFinish (s : FlowSystem) (t : Nat) (id : IntentId) (decision : ApprovalDecision)
    (outcome : Except String String) : FlowSystem :=
  let f := AxiomCore.finish X s.records s.now id decision outcome
  ((s.withRecords f.records).moveTo t (.returned f.result)).observe
    (f.executed.toList.map fun intent => .executed t intent s.now)

/-- One step. An event whose caller is not at the right place changes nothing. -/
def step (s : FlowSystem) : FlowEvent → FlowSystem
  | .propose draw proposer capability parameters expiry =>
    s.withRecords (proposeWithExpiry X policy s.records draw s.now proposer capability
      parameters expiry).2
  | .call t id =>
    match s.callers t with
    | .idle => s.moveTo t (.called id)
    | _ => s
  | .claim t =>
    match s.callers t with
    | .called id => s.stepClaim X t id
    | _ => s
  | .consult t =>
    match s.callers t with
    | .claimed id request => (s.moveTo t (.asking id)).observe [.consulted t request]
    | _ => s
  | .answer t answer =>
    match s.callers t with
    | .asking id => s.stepAnswer t id answer
    | _ => s
  | .finish t outcome =>
    match s.callers t with
    | .decided id decision => s.stepFinish X t id decision outcome
    | _ => s
  | .tick elapsed => { s with now := s.now + elapsed }
  | .tamper id parameters => s.withRecords (tamperParameters s.records id parameters)

end FlowSystem

open FlowSystem

def draws : List FlowEvent → List IntentId
  | [] => []
  | .propose draw _ _ _ _ :: es => draw :: draws es
  | _ :: es => draws es

/-! ## What a step can do -/

def Records.statusOf (records : Records) (id : IntentId) : Option IntentStatus :=
  (records id).map (·.status)

/-- Records that agree on which intents there are, on their ids and on their statuses. -/
def Records.Similar (records records' : Records) : Prop :=
  ∀ id, (records id = none ∧ records' id = none) ∨
    ∃ r r', records id = some r ∧ records' id = some r' ∧ r'.status = r.status ∧
      r'.intent.id = r.intent.id

/-- An intent passes the two checks made before a consultation and before an execution. -/
def Intent.Live (X : Externals) (i : Intent) (now : Nat) : Prop :=
  i.isExpired now = false ∧ i.verifyParameterHash X = true

/-- The kinds of step. Every invariant below is proved once per constructor. -/
inductive Trans (X : Externals) (s : FlowSystem) : FlowSystem → Prop where
  /-- Nothing changes but the time, parameters, or a caller that ends up holding nothing. -/
  | quiet (s' : FlowSystem) (hlog : s'.log = s.log ∨ ∃ t id a, s'.log = s.log ++ [.answered t id a])
      (hrec : s.records.Similar s'.records)
      (hcall : ∀ t, s'.callers t = s.callers t ∨
        ((s'.callers t).holds = none)) : Trans X s s'
  | inserted (id : IntentId) (r : LinkedRecord) (hnew : s.records id = none)
      (hid : r.intent.id = id) (hst : r.status = .pending) :
      Trans X s (s.withRecords (update s.records id (some r)))
  /-- A claim finds the intent expired or altered. -/
  | refused (t : Nat) (id : IntentId) (r : LinkedRecord) (st : IntentStatus)
      (res : Except FlowError IntentStatus) (hphase : s.callers t = .called id)
      (hr : s.records id = some r) (hpend : r.status = .pending)
      (hst : st = .expired ∨ st = .parameterHashMismatch) :
      Trans X s ((s.withRecords (setStatus s.records id r st)).moveTo t (.returned res))
  | claimed (t : Nat) (id : IntentId) (r : LinkedRecord) (hphase : s.callers t = .called id)
      (hr : s.records id = some r) (hpend : r.status = .pending) (hlive : r.intent.Live X s.now) :
      Trans X s (((s.withRecords (setStatus s.records id r .inProgress)).moveTo t
        (.claimed id (r.intent.asApprovalRequest s.now))).observe [.claimed t r.intent s.now])
  | consulted (t : Nat) (id : IntentId) (request : ApprovalRequest)
      (hphase : s.callers t = .claimed id request) :
      Trans X s ((s.moveTo t (.asking id)).observe [.consulted t request])
  /-- A consultation ends with an answer about the right intent. -/
  | answered (t : Nat) (id : IntentId) (decision : ApprovalDecision)
      (hphase : s.callers t = .asking id) (hid : decision.intentId = id) :
      Trans X s ((s.observe [.answered t id (.ok decision)]).moveTo t (.decided id decision))
  /-- A decided intent is settled without execution. -/
  | settled (t : Nat) (id : IntentId) (decision : ApprovalDecision) (r r' : LinkedRecord)
      (st : IntentStatus) (res : Except FlowError IntentStatus)
      (hphase : s.callers t = .decided id decision) (hr : s.records id = some r)
      (hi : r'.intent = r.intent)
      (hst : st = .denied ∨ st = .expired ∨ st = .parameterHashMismatch) :
      Trans X s ((s.withRecords (setStatus s.records id r' st)).moveTo t (.returned res))
  | executed (t : Nat) (id : IntentId) (decision : ApprovalDecision) (r r' : LinkedRecord)
      (st : IntentStatus) (res : Except FlowError IntentStatus)
      (hphase : s.callers t = .decided id decision) (hr : s.records id = some r)
      (hi : r'.intent = r.intent) (happ : decision.approved = true)
      (hlive : r.intent.Live X s.now) (hst : st = .executed ∨ st = .executionFailed) :
      Trans X s (((s.withRecords (setStatus s.records id r' st)).moveTo t (.returned res)).observe
        [.executed t r.intent s.now])

/-- A proposal draws an id that has no record yet. -/
def FreshDraw (s : FlowSystem) : FlowEvent → Prop
  | .propose draw _ _ _ _ => s.records draw = none
  | _ => True

section Step

variable {X : Externals} {policy : CapabilityPolicy} {s : FlowSystem}

lemma Records.Similar.refl (records : Records) : records.Similar records := by
  intro id
  rcases h : records id with _ | r
  · exact .inl ⟨rfl, rfl⟩
  · exact .inr ⟨r, r, rfl, rfl, rfl, rfl⟩

lemma tamperParameters_similar (records : Records) (id : IntentId) (ps : List Constraint) :
    records.Similar (tamperParameters records id ps) := by
  unfold tamperParameters
  rcases h : records id with _ | r
  · exact .refl records
  intro id'
  by_cases hid : id' = id
  · subst hid
    exact .inr ⟨r, _, h, update_self .., rfl, rfl⟩
  · simp only [update_of_ne hid]
    exact Records.Similar.refl records id'

lemma trans_moveTo (t : Nat) (phase : Phase) (h : phase.holds = none) :
    Trans X s (s.moveTo t phase) := by
  refine .quiet _ (.inl rfl) (.refl _) fun t' => ?_
  by_cases ht : t' = t
  · subst ht
    exact .inr (by simpa [moveTo] using h)
  · exact .inl (by simp [moveTo, ht])

lemma trans_refl : Trans X s s := .quiet _ (.inl rfl) (.refl _) fun _ => .inl rfl

variable {t : Nat} {id : IntentId}

lemma stepClaim_trans (hphase : s.callers t = .called id) :
    Trans X s (s.stepClaim X t id) := by
  unfold stepClaim claim
  rcases hr : s.records id with _ | r
  · exact trans_moveTo t _ rfl
  by_cases hpend : r.status = .pending
  · rcases hexp : r.intent.isExpired s.now with _ | _
    · rcases hver : r.intent.verifyParameterHash X with _ | _
      · simp only [hpend, ne_eq, not_true_eq_false, hexp, hver, if_false, if_true,
          Bool.false_eq_true, not_false_eq_true]
        exact .refused t id r _ _ hphase hr hpend (.inr rfl)
      · simp only [hpend, ne_eq, not_true_eq_false, hexp, hver, if_false, Bool.false_eq_true]
        exact .claimed t id r hphase hr hpend ⟨hexp, hver⟩
    · simp only [hpend, ne_eq, not_true_eq_false, hexp, if_false, if_true]
      exact .refused t id r _ _ hphase hr hpend (.inl rfl)
  · simp only [ne_eq, hpend, not_false_eq_true, if_true]
    exact trans_moveTo t _ rfl

lemma stepAnswer_trans
    {answer : Except ApprovalChannelError ApprovalDecision} (hphase : s.callers t = .asking id) :
    Trans X s (s.stepAnswer t id answer) := by
  -- a failed consultation logs the answer and leaves the call
  have hfail : ∀ e,
      Trans X s ((s.observe [.answered t id answer]).moveTo t (.returned (.error e))) := by
    intro e
    refine .quiet _ (.inr ⟨t, id, answer, rfl⟩) (.refl _) fun t' => ?_
    by_cases ht : t' = t
    · subst ht
      exact .inr (by simp [moveTo, Phase.holds])
    · exact .inl (by simp [moveTo, observe, ht])
  unfold stepAnswer checkDecision
  rcases answer with e | decision
  · exact hfail _
  by_cases hid : decision.intentId = id
  · simp only [ne_eq, hid, not_true_eq_false, if_false]
    exact .answered t id decision hphase hid
  · simp only [ne_eq, hid, not_false_eq_true, if_true]
    exact hfail _

lemma stepFinish_trans {decision : ApprovalDecision}
    {outcome : Except String String} (hphase : s.callers t = .decided id decision) :
    Trans X s (s.stepFinish X t id decision outcome) := by
  unfold stepFinish finish
  rcases hr : s.records id with _ | r
  · simp only [Option.toList_none, map_nil, observe_nil]
    exact trans_moveTo t _ rfl
  rcases happ : decision.approved with _ | _
  · simp only [Bool.false_eq_true, not_false_eq_true, if_true, Option.toList_none, map_nil,
      observe_nil]
    exact .settled t id decision r _ _ _ hphase hr rfl (.inl rfl)
  rcases hexp : r.intent.isExpired s.now with _ | _
  · rcases hver : r.intent.verifyParameterHash X with _ | _
    · simp only [not_true_eq_false, if_false, Bool.false_eq_true, not_false_eq_true, if_true,
        hexp, hver, Option.toList_none, map_nil, observe_nil]
      exact .settled t id decision r _ _ _ hphase hr rfl (.inr (.inr rfl))
    simp only [not_true_eq_false, if_false, Bool.false_eq_true, hexp, hver,
      Option.toList_some, map_cons, map_nil]
    refine .executed t id decision r _ _ _ hphase hr rfl happ ⟨hexp, hver⟩ ?_
    cases outcome
    · exact .inr rfl
    · exact .inl rfl
  · simp only [not_true_eq_false, if_false, if_true, hexp, Option.toList_none, map_nil,
      observe_nil]
    exact .settled t id decision r _ _ _ hphase hr rfl (.inr (.inl rfl))

lemma proposeWithExpiry_cases (X : Externals) (policy : CapabilityPolicy) (records : Records)
    (draw : IntentId) (now : Nat) (proposer : NodeId) (capability : Tier2Capability)
    (ps : List Constraint) (expiry : Nat) :
    (∃ e, proposeWithExpiry X policy records draw now proposer capability ps expiry =
        (.error e, records)) ∨
      proposeWithExpiry X policy records draw now proposer capability ps expiry =
        (.ok draw, update records draw
          (some ⟨Intent.propose X draw now proposer capability.capabilityName ps
            (capability.dryRun ps) expiry, none, none, .pending⟩)) := by
  unfold proposeWithExpiry
  by_cases hcfg : policy.protectedResourcesConfigured
  · rcases hmatch : policy.findProtectedMatch ps with _ | m
    · rcases hden : policy.checkDeniedParamSubstrings X capability.capabilityName ps with _ | m
      · exact .inr (by simp [hcfg])
      · exact .inl ⟨_, by simp [hcfg]; rfl⟩
    · exact .inl ⟨_, by simp [hcfg]; rfl⟩
  · exact .inl ⟨_, by simp [hcfg]; rfl⟩

lemma step_trans {e : FlowEvent} (hfresh : FreshDraw s e) : Trans X s (s.step X policy e) := by
  cases e with
  | propose draw proposer capability ps expiry =>
    have h := proposeWithExpiry_cases X policy s.records draw s.now proposer capability ps expiry
    simp only [FlowSystem.step]
    rcases h with ⟨e, h⟩ | h
    · rw [h]
      exact trans_refl
    · rw [h]
      exact .inserted draw _ hfresh rfl rfl
  | call t id =>
    simp only [FlowSystem.step]
    split
    · exact trans_moveTo t _ rfl
    · exact trans_refl
  | claim t =>
    simp only [FlowSystem.step]
    split
    · exact stepClaim_trans ‹_›
    · exact trans_refl
  | consult t =>
    simp only [FlowSystem.step]
    split
    · exact .consulted t _ _ ‹_›
    · exact trans_refl
  | answer t answer =>
    simp only [FlowSystem.step]
    split
    · exact stepAnswer_trans ‹_›
    · exact trans_refl
  | finish t outcome =>
    simp only [FlowSystem.step]
    split
    · exact stepFinish_trans ‹_›
    · exact trans_refl
  | tick elapsed => exact .quiet _ (.inl rfl) (.refl _) fun _ => .inl rfl
  | tamper id ps => exact .quiet _ (.inl rfl) (tamperParameters_similar _ _ _) fun _ => .inl rfl

end Step

/-! ## Who holds what -/

variable {records : Records} {id : IntentId} {r : LinkedRecord}

lemma Records.Similar.statusOf_eq {records' : Records} (h : records.Similar records')
    (id : IntentId) : records'.statusOf id = records.statusOf id := by
  unfold Records.statusOf
  rcases h id with ⟨h₁, h₂⟩ | ⟨r, r', h₁, h₂, hst, -⟩
  · rw [h₁, h₂]
  · rw [h₁, h₂, Option.map_some, Option.map_some, hst]

@[simp] lemma statusOf_setStatus_self (records : Records) (id : IntentId) (r : LinkedRecord)
    (st : IntentStatus) : (setStatus records id r st).statusOf id = some st := by
  simp [setStatus, Records.statusOf]

lemma statusOf_setStatus_of_ne {id' : IntentId}
    {st : IntentStatus} (h : id' ≠ id) :
    (setStatus records id r st).statusOf id' = records.statusOf id' := by
  simp [setStatus, Records.statusOf, update_of_ne h]

lemma statusOf_of_eq_some
    (h : records id = some r) : records.statusOf id = some r.status := by
  simp [Records.statusOf, h]

/-- The ownership invariant: a record is stored under its intent's id, a caller that holds an intent
finds it in progress, and no two callers hold one intent. -/
structure Ownership (records : Records) (callers : Nat → Phase) : Prop where
  keyed : ∀ id r, records id = some r → r.intent.id = id
  held : ∀ t id, (callers t).holds = some id → records.statusOf id = some .inProgress
  alone : ∀ t t' id, (callers t).holds = some id → (callers t').holds = some id → t = t'
  /-- A claimed request is about the claimed intent. -/
  requests : ∀ t id request, callers t = .claimed id request → request.intentId = id

namespace Ownership

variable {records : Records} {callers : Nat → Phase}

variable {id : IntentId} {r : LinkedRecord} {t : Nat}

lemma keyed_setStatus (h : Ownership records callers)
    (hid : r.intent.id = id) (st : IntentStatus) :
    ∀ id' r', setStatus records id r st id' = some r' → r'.intent.id = id' := by
  intro id' r' hr'
  by_cases hne : id' = id
  · subst hne
    simp only [setStatus, update_self, Option.some.injEq] at hr'
    rw [← hr']
    exact hid
  · simp only [setStatus, update_of_ne hne] at hr'
    exact h.keyed id' r' hr'

lemma quiet (h : Ownership records callers) {records' : Records} {callers' : Nat → Phase}
    (hrec : records.Similar records')
    (hcall : ∀ t, callers' t = callers t ∨ (callers' t).holds = none) :
    Ownership records' callers' := by
  have hold : ∀ t id, (callers' t).holds = some id → callers' t = callers t := by
    intro t id ht
    rcases hcall t with heq | hnone
    · exact heq
    · rw [hnone] at ht; cases ht
  refine ⟨?_, ?_, ?_, ?_⟩
  · intro id r hr
    rcases hrec id with ⟨-, hnone⟩ | ⟨r₀, r', h₀, h', -, hid⟩
    · rw [hnone] at hr; cases hr
    rw [h'] at hr
    cases hr
    rw [hid]
    exact h.keyed id r₀ h₀
  · intro t id ht
    rw [hrec.statusOf_eq]
    exact h.held t id (hold t id ht ▸ ht)
  · intro t t' id ht ht'
    exact h.alone t t' id (hold t id ht ▸ ht) (hold t' id ht' ▸ ht')
  · intro t id request ht
    have heq := hold t id (by rw [ht]; rfl)
    exact h.requests t id request (heq ▸ ht)

lemma insert (h : Ownership records callers)
    (hnew : records id = none) (hid : r.intent.id = id) :
    Ownership (update records id (some r)) callers := by
  refine ⟨?_, ?_, h.alone, h.requests⟩
  · intro id' r' hr'
    by_cases hne : id' = id
    · subst hne
      rw [update_self] at hr'
      cases hr'
      exact hid
    · rw [update_of_ne hne] at hr'
      exact h.keyed id' r' hr'
  · intro t id' ht
    have hst := h.held t id' ht
    have hne : id' ≠ id := by
      rintro rfl
      simp [Records.statusOf, hnew] at hst
    simpa [Records.statusOf, update_of_ne hne] using hst

lemma not_holds_of_pending (h : Ownership records callers)
    (hr : records id = some r) (hpend : r.status = .pending) (t : Nat) :
    (callers t).holds ≠ some id := by
  intro ht
  have hst := h.held t id ht
  rw [statusOf_of_eq_some hr, hpend] at hst
  cases hst

lemma refuse (h : Ownership records callers)
    (hr : records id = some r) (hpend : r.status = .pending) (st : IntentStatus)
    (res : Except FlowError IntentStatus) :
    Ownership (setStatus records id r st) (update callers t (.returned res)) := by
  have hsim : Ownership records (update callers t (.returned res)) := by
    refine h.quiet (.refl _) fun t' => ?_
    by_cases ht : t' = t
    · subst ht
      exact .inr (by rw [update_self]; rfl)
    · exact .inl (update_of_ne ht ..)
  refine ⟨h.keyed_setStatus (h.keyed id r hr) st, ?_, hsim.alone, hsim.requests⟩
  intro t' id' ht'
  have hne : id' ≠ id := by
    rintro rfl
    exact hsim.not_holds_of_pending hr hpend t' ht'
  rw [statusOf_setStatus_of_ne hne]
  exact hsim.held t' id' ht'

lemma claim (h : Ownership records callers)
    {request : ApprovalRequest} (hr : records id = some r) (hpend : r.status = .pending)
    (hreq : request.intentId = id) :
    Ownership (setStatus records id r .inProgress)
      (update callers t (.claimed id request)) := by
  -- who holds an intent now held it before, or is the new owner
  have hold : ∀ t' id', (update callers t (.claimed id request) t').holds = some id' →
      (t' = t ∧ id' = id) ∨ (t' ≠ t ∧ id' ≠ id ∧ (callers t').holds = some id') := by
    intro t' id' ht'
    by_cases hne : t' = t
    · subst hne
      rw [update_self] at ht'
      exact .inl ⟨rfl, (Option.some.inj ht').symm⟩
    rw [update_of_ne hne] at ht'
    refine .inr ⟨hne, ?_, ht'⟩
    rintro rfl
    exact h.not_holds_of_pending hr hpend t' ht'
  refine ⟨h.keyed_setStatus (h.keyed id r hr) _, ?_, ?_, ?_⟩
  · intro t' id' ht'
    rcases hold t' id' ht' with ⟨-, rfl⟩ | ⟨-, hne, ht''⟩
    · exact statusOf_setStatus_self ..
    · rw [statusOf_setStatus_of_ne hne]
      exact h.held t' id' ht''
  · intro t₁ t₂ id' h₁ h₂
    rcases hold t₁ id' h₁ with ⟨rfl, rfl⟩ | ⟨-, hne, h₁'⟩
    · rcases hold t₂ _ h₂ with ⟨rfl, -⟩ | ⟨-, hne, -⟩
      · rfl
      · exact absurd rfl hne
    rcases hold t₂ id' h₂ with ⟨-, rfl⟩ | ⟨-, -, h₂'⟩
    · exact absurd rfl hne
    · exact h.alone t₁ t₂ id' h₁' h₂'
  · intro t' id' request' ht'
    by_cases hne : t' = t
    · subst hne
      rw [update_self] at ht'
      cases ht'
      exact hreq
    · rw [update_of_ne hne] at ht'
      exact h.requests t' id' request' ht'

lemma advance (h : Ownership records callers) {phase : Phase}
    (hheld : (callers t).holds = some id) (hphase : phase.holds = some id)
    (hreq : ∀ request, phase ≠ .claimed id request) :
    Ownership records (update callers t phase) := by
  have hold : ∀ t', (update callers t phase t').holds = (callers t').holds := by
    intro t'
    by_cases hne : t' = t
    · subst hne
      rw [update_self, hheld, hphase]
    · rw [update_of_ne hne]
  refine ⟨h.keyed, ?_, ?_, ?_⟩
  · intro t' id' ht'
    exact h.held t' id' (hold t' ▸ ht')
  · intro t₁ t₂ id' h₁ h₂
    exact h.alone t₁ t₂ id' (hold t₁ ▸ h₁) (hold t₂ ▸ h₂)
  · intro t' id' request ht'
    by_cases hne : t' = t
    · subst hne
      rw [update_self] at ht'
      rw [ht'] at hphase
      cases hphase
      exact absurd ht' (hreq request)
    · rw [update_of_ne hne] at ht'
      exact h.requests t' id' request ht'

lemma release (h : Ownership records callers) {r' : LinkedRecord}
    (hheld : (callers t).holds = some id) (hr : records id = some r) (hi : r'.intent = r.intent)
    (st : IntentStatus) (res : Except FlowError IntentStatus) :
    Ownership (setStatus records id r' st) (update callers t (.returned res)) := by
  have hold : ∀ t' id', (update callers t (.returned res) t').holds = some id' →
      t' ≠ t ∧ (callers t').holds = some id' := by
    intro t' id' ht'
    by_cases hne : t' = t
    · subst hne
      rw [update_self] at ht'
      cases ht'
    · rw [update_of_ne hne] at ht'
      exact ⟨hne, ht'⟩
  refine ⟨h.keyed_setStatus (by rw [hi]; exact h.keyed id r hr) st, ?_, ?_, ?_⟩
  · intro t' id' ht'
    obtain ⟨hne, ht''⟩ := hold t' id' ht'
    have hid : id' ≠ id := by
      rintro rfl
      exact hne (h.alone t' t _ ht'' hheld)
    rw [statusOf_setStatus_of_ne hid]
    exact h.held t' id' ht''
  · intro t₁ t₂ id' h₁ h₂
    exact h.alone t₁ t₂ id' (hold t₁ id' h₁).2 (hold t₂ id' h₂).2
  · intro t' id' request ht'
    have hne := (hold t' id' (by rw [ht']; rfl)).1
    rw [update_of_ne hne] at ht'
    exact h.requests t' id' request ht'

lemma trans {X : Externals} {s s' : FlowSystem} (h : Ownership s.records s.callers)
    (ht : Trans X s s') : Ownership s'.records s'.callers := by
  cases ht with
  | quiet s' hlog hrec hcall => exact h.quiet hrec hcall
  | inserted id r hnew hid hst => exact h.insert hnew hid
  | refused t id r st res hphase hr hpend hst => exact h.refuse hr hpend st res
  | claimed t id r hphase hr hpend hlive => exact h.claim hr hpend (h.keyed id r hr)
  | consulted t id request hphase =>
    exact h.advance (by rw [hphase]; rfl) rfl (by intro request'; exact nofun)
  | answered t id decision hphase hid =>
    exact h.advance (by rw [hphase]; rfl) rfl (by intro request'; exact nofun)
  | settled t id decision r r' st res hphase hr hi hst =>
    exact h.release (by rw [hphase]; rfl) hr hi st res
  | executed t id decision r r' st res hphase hr hi happ hlive hst =>
    exact h.release (by rw [hphase]; rfl) hr hi st res

end Ownership

end AxiomCore
