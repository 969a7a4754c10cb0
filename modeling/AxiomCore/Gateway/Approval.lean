import AxiomCore.Gateway.Policy

/-!
# The Tier 2 approval flow, one critical section at a time

A Tier 2 action is proposed, shown to a human on an approval channel, and executed only if the
human approved that very intent. `Tier2ApprovalFlow::decide_and_execute` takes the record lock
twice and talks to the channel in between, without the lock. Accordingly it is modelled as three
functions:

- `claim`: the first critical section, from the lookup to the `InProgress` mark;
- `checkDecision`: the channel's answer, examined outside the lock;
- `finish`: the second critical section, with the final re-checks and the execution.

`proposeWithExpiry` is the insertion of a new record. Randomness (the intent id), the clock and
the outcome of `execute` are arguments. What any interleaving of these steps can do is the subject
of `ApprovalRuns`.

Source: `axiom-gateway/src/approval.rs`.
-/

namespace AxiomCore

open Lib Function

/-! ## Intents -/

/-- `IntentId`: 16 random bytes. -/
structure IntentId where
  bytes : Vector UInt8 16
  deriving DecidableEq

structure DryRunDiffEntry where
  key : String
  current : String
  proposed : String

structure Intent where
  id : IntentId
  proposer : NodeId
  capability : String
  /-- Its parameters, in the caller's order. -/
  parameters : List Constraint
  dryRunDiff : Option (List DryRunDiffEntry)
  /-- Hash of capability and parameters, taken at proposal. -/
  parameterHash : IntentHash
  submittedAt : Nat
  /-- Instant from which the intent may no longer be approved. -/
  expiresAt : Nat

/-- The descriptor `compute_parameter_hash` hashes: the default one, with these constraints. -/
def parameterDescriptor (capability : String) (parameters : List Constraint) : IntentDescriptor :=
  { IntentDescriptor.new capability with constraints := parameters }

def computeParameterHash (X : Externals) (capability : String) (parameters : List Constraint) :
    IntentHash :=
  hashIntent X.blake3 (parameterDescriptor capability parameters)

namespace Intent

def propose (X : Externals) (draw : IntentId) (now : Nat) (proposer : NodeId) (capability : String)
    (parameters : List Constraint) (dryRunDiff : Option (List DryRunDiffEntry)) (expiry : Nat) :
    Intent where
  id := draw
  proposer := proposer
  capability := capability
  parameters := parameters
  dryRunDiff := dryRunDiff
  parameterHash := computeParameterHash X capability parameters
  submittedAt := now
  expiresAt := now + expiry

def isExpired (i : Intent) (now : Nat) : Bool := decide (i.expiresAt ≤ now)

def remaining (i : Intent) (now : Nat) : Nat := i.expiresAt - now

def verifyParameterHash (X : Externals) (i : Intent) : Bool :=
  decide (computeParameterHash X i.capability i.parameters = i.parameterHash)

end Intent

structure ApprovalRequest where
  intentId : IntentId
  proposer : NodeId
  capability : String
  /-- The parameters shown to the human. -/
  parameters : List Constraint
  dryRunDiff : Option (List DryRunDiffEntry)
  /-- The hash the approval is bound to. -/
  parameterHash : IntentHash
  remaining : Nat

def Intent.asApprovalRequest (i : Intent) (now : Nat) : ApprovalRequest where
  intentId := i.id
  proposer := i.proposer
  capability := i.capability
  parameters := i.parameters
  dryRunDiff := i.dryRunDiff
  parameterHash := i.parameterHash
  remaining := i.remaining now

structure ApprovalDecision where
  intentId : IntentId
  approved : Bool
  channelName : String
  deriving DecidableEq

inductive ApprovalChannelError where
  | io (msg : String)
  deriving DecidableEq

/-- A Tier 2 capability as far as proposing goes; what `execute` returns is an argument of `finish`. -/
structure Tier2Capability where
  capabilityName : String
  dryRun : List Constraint → Option (List DryRunDiffEntry)

/-! ## Records -/

inductive IntentStatus where
  | pending
  /-- Claimed by one call, which is consulting the channel. -/
  | inProgress
  | denied
  | expired
  /-- The parameters changed since the proposal. -/
  | parameterHashMismatch
  | executed
  /-- Executed, and the execution reported an error. -/
  | executionFailed
  deriving DecidableEq

/-- The statuses a record never leaves. -/
def IntentStatus.terminal : IntentStatus → Bool
  | .pending | .inProgress => false
  | .denied | .expired | .parameterHashMismatch | .executed | .executionFailed => true

structure ExecutionResult where
  intentId : IntentId
  outcome : Except String String
  executedAt : Nat

structure LinkedRecord where
  intent : Intent
  decision : Option ApprovalDecision
  execution : Option ExecutionResult
  status : IntentStatus

/-- `HashMap<IntentId, LinkedRecord>`. -/
abbrev Records := IntentId → Option LinkedRecord

inductive FlowError where
  | unknownIntent
  | expired
  /-- The parameters no longer match the hash. -/
  | parameterHashMismatch
  | channel (e : ApprovalChannelError)
  /-- The channel answered about another intent. -/
  | mismatchedDecision

inductive ProposeError where
  /-- The policy file has no protected-resource section. -/
  | protectedResourceSectionMissing
  /-- A parameter refers to a protected device. -/
  | targetsProtectedResource (m : ProtectedMatch)
  /-- A parameter contains a denied pattern. -/
  | argumentConstraintViolation (reason : String)

/-- `DEFAULT_EXPIRY`: 15 minutes, in nanoseconds. -/
def defaultExpiry : Nat := 15 * 60 * 10 ^ 9

/-! ## The operations -/

def proposeWithExpiry (X : Externals) (policy : CapabilityPolicy) (records : Records)
    (draw : IntentId) (now : Nat) (proposer : NodeId) (capability : Tier2Capability)
    (parameters : List Constraint) (expiry : Nat) : Except ProposeError IntentId × Records :=
  if ¬ policy.protectedResourcesConfigured then
    (.error .protectedResourceSectionMissing, records)
  else
    match policy.findProtectedMatch parameters with
    | some m => (.error (.targetsProtectedResource m), records)
    | none =>
      match policy.checkDeniedParamSubstrings X capability.capabilityName parameters with
      | some reason => (.error (.argumentConstraintViolation reason), records)
      | none =>
        let intent := Intent.propose X draw now proposer capability.capabilityName parameters
          (capability.dryRun parameters) expiry
        (.ok draw, update records draw (some ⟨intent, none, none, .pending⟩))

def propose (X : Externals) (policy : CapabilityPolicy) (records : Records) (draw : IntentId)
    (now : Nat) (proposer : NodeId) (capability : Tier2Capability)
    (parameters : List Constraint) (flowExpiry : Nat) : Except ProposeError IntentId × Records :=
  proposeWithExpiry X policy records draw now proposer capability parameters flowExpiry

inductive ClaimOutcome where
  | returned (r : Except FlowError IntentStatus)
  /-- The intent is claimed as it stands; the channel is consulted next. -/
  | claimed (intent : Intent) (request : ApprovalRequest)

def setStatus (records : Records) (id : IntentId) (record : LinkedRecord) (status : IntentStatus) :
    Records :=
  update records id (some { record with status := status })

/-- First critical section of `decide_and_execute`: look up, refuse what is not pending, expired or
altered, and mark the intent as in progress. -/
def claim (X : Externals) (records : Records) (now : Nat) (id : IntentId) :
    ClaimOutcome × Records :=
  match records id with
  | none => (.returned (.error .unknownIntent), records)
  | some record =>
    if record.status ≠ .pending then (.returned (.ok record.status), records)
    else if record.intent.isExpired now then
      (.returned (.error .expired), setStatus records id record .expired)
    else if ¬ record.intent.verifyParameterHash X then
      (.returned (.error .parameterHashMismatch),
        setStatus records id record .parameterHashMismatch)
    else
      (.claimed record.intent (record.intent.asApprovalRequest now),
        setStatus records id record .inProgress)

/-- Between the critical sections: a channel error and an answer about another intent both end the
call, with the record left in progress. -/
def checkDecision (id : IntentId) (answer : Except ApprovalChannelError ApprovalDecision) :
    Except FlowError ApprovalDecision :=
  match answer with
  | .error e => .error (.channel e)
  | .ok decision => if decision.intentId ≠ id then .error .mismatchedDecision else .ok decision

structure FinishOutcome where
  result : Except FlowError IntentStatus
  /-- The intent `execute` was invoked for, if it was invoked. -/
  executed : Option Intent
  records : Records

/-- Second critical section of `decide_and_execute`: record the decision, re-check expiry and hash,
execute. `outcome` is what `capability.execute` returns if it is invoked. -/
def finish (X : Externals) (records : Records) (now : Nat) (id : IntentId)
    (decision : ApprovalDecision) (outcome : Except String String) : FinishOutcome :=
  match records id with
  | none => ⟨.error .unknownIntent, none, records⟩
  | some record =>
    let record := { record with decision := some decision }
    if ¬ decision.approved then
      ⟨.ok .denied, none, setStatus records id record .denied⟩
    else if record.intent.isExpired now then
      ⟨.error .expired, none, setStatus records id record .expired⟩
    else if ¬ record.intent.verifyParameterHash X then
      ⟨.error .parameterHashMismatch, none, setStatus records id record .parameterHashMismatch⟩
    else
      let status : IntentStatus :=
        match outcome with
        | .ok _ => .executed
        | .error _ => .executionFailed
      let record := { record with execution := some ⟨id, outcome, now⟩ }
      ⟨.ok status, some record.intent, setStatus records id record status⟩

/-- `tamper_parameters_for_test`: overwrite the parameters of a stored intent and nothing else. It
stands for whatever might alter a stored intent between proposal and execution. -/
def tamperParameters (records : Records) (id : IntentId) (parameters : List Constraint) : Records :=
  match records id with
  | none => records
  | some record =>
    update records id
      (some { record with intent := { record.intent with parameters := parameters } })

/-! ## Sample data -/

/-- The parameters the source's own tests propose. -/
def sampleParameters : List Constraint :=
  [⟨"target", .string "test-device"⟩, ⟨"enable", .bool true⟩]

/-- BLAKE3 on the pre-image of `mock_destructive_action` with `sampleParameters`, and ASCII
lower-casing. -/
def sampleExternals : Externals where
  blake3 input :=
    if input = hashInput (parameterDescriptor "mock_destructive_action" sampleParameters) then
      hex 32 0xed80da47720ca34948320e9cb16e8283cf691da526f3aa62343875d236747aeb
    else Vector.replicate 32 0
  toLowercase s := String.ofList (s.toList.map Char.toLower)

end AxiomCore
