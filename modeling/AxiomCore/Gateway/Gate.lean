import AxiomCore.Gateway.Policy

/-!
# The gate of the capability policy

`check_and_acquire` is the one check every capability call passes: kill switch, allowlist, rate
limit and concurrency. It is not one critical section: it takes the lock of the suspended set, reads
the freeze flag, reads the wall clock, takes the lock of the rate-limit table, and asks the
semaphore, one after the other, and anything may happen in between.

The tokio semaphore of an entry is the number of its free permits. Instants and durations are
natural numbers of nanoseconds, wall-clock readings are unix seconds.

Source: `axiom-gateway/src/policy.rs`.
-/

namespace AxiomCore

open Function

/-! ## State -/

structure KillSwitch where
  /-- No Tier 1 or Tier 2 call passes. -/
  frozen : Bool
  suspended : Finset NodeId

namespace KillSwitch

def freeze (k : KillSwitch) : KillSwitch := { k with frozen := true }

def unfreeze (k : KillSwitch) : KillSwitch := { k with frozen := false }

def suspendPeer (k : KillSwitch) (peer : NodeId) : KillSwitch :=
  { k with suspended := insert peer k.suspended }

def unsuspendPeer (k : KillSwitch) (peer : NodeId) : KillSwitch :=
  { k with suspended := k.suspended.erase peer }

end KillSwitch

/-- The mutable part of a policy. -/
structure GateState where
  killSwitch : KillSwitch
  /-- When each peer was last served by each capability. -/
  rateLimitState : String × NodeId → Option Nat
  /-- Free permits of each capability's semaphore. -/
  permits : String → Nat

def GateState.loaded (policy : CapabilityPolicy) : GateState where
  killSwitch := ⟨false, ∅⟩
  rateLimitState := fun _ => none
  permits := fun capability => ((policy.entries capability).map (·.concurrency)).getD 0

inductive PolicyOutcome where
  | allowed
  /-- No entry, or the peer is not on its list. -/
  | notAuthorized
  | rateLimited
  | atConcurrencyLimit
  | suspended
  | frozen
  deriving DecidableEq

/-! ## The checks -/

def peerCurrentlyAllowed (allowedPeers : NodeId → Option (Option Nat)) (sender : NodeId)
    (nowSecs : Nat) : Bool :=
  match allowedPeers sender with
  | none => false
  | some none => true
  | some (some expiresAt) => nowSecs < expiresAt

def GateState.rateLimits (g : GateState) (entry : CapabilityEntry) (capability : String)
    (sender : NodeId) (now : Nat) : Bool :=
  match g.rateLimitState (capability, sender) with
  | none => false
  | some last => now - last < entry.rateLimit

def GateState.served (g : GateState) (capability : String) (sender : NodeId) (now : Nat) :
    GateState :=
  { g with rateLimitState := update g.rateLimitState (capability, sender) (some now) }

/-- A permit is taken. Source: crate `tokio`, `Semaphore::try_acquire_owned`. -/
def GateState.acquire (g : GateState) (capability : String) : GateState :=
  { g with permits := update g.permits capability (g.permits capability - 1) }

/-- A permit is dropped. Source: crate `tokio`, `OwnedSemaphorePermit::drop`. -/
def GateState.release (g : GateState) (capability : String) : GateState :=
  { g with permits := update g.permits capability (g.permits capability + 1) }

/-- `check_and_acquire`, run alone. -/
def checkAndAcquire (policy : CapabilityPolicy) (g : GateState) (capability : String)
    (sender : NodeId) (now nowSecs : Nat) : PolicyOutcome × GateState :=
  match policy.entries capability with
  | none => (.notAuthorized, g)
  | some entry =>
    if sender ∈ g.killSwitch.suspended then (.suspended, g)
    else if entry.tier ≠ .tier0 ∧ g.killSwitch.frozen then (.frozen, g)
    else if ¬ peerCurrentlyAllowed entry.allowedPeers sender nowSecs then (.notAuthorized, g)
    else if g.rateLimits entry capability sender now then (.rateLimited, g)
    else
      let g := g.served capability sender now
      if g.permits capability = 0 then (.atConcurrencyLimit, g)
      else (.allowed, g.acquire capability)

/-- Where a call stands between two accesses. -/
inductive GateStage where
  | entered
  | unsuspended
  /-- The policy was not frozen, or the capability is Tier 0. -/
  | unfrozen
  | listed
  | rated
  deriving DecidableEq

def gateStep (policy : CapabilityPolicy) (g : GateState) (capability : String) (sender : NodeId)
    (now nowSecs : Nat) (stage : GateStage) : (PolicyOutcome ⊕ GateStage) × GateState :=
  match policy.entries capability with
  | none => (.inl .notAuthorized, g)
  | some entry =>
    match stage with
    | .entered =>
      if sender ∈ g.killSwitch.suspended then (.inl .suspended, g) else (.inr .unsuspended, g)
    | .unsuspended =>
      if entry.tier ≠ .tier0 ∧ g.killSwitch.frozen then (.inl .frozen, g)
      else (.inr .unfrozen, g)
    | .unfrozen =>
      if ¬ peerCurrentlyAllowed entry.allowedPeers sender nowSecs then (.inl .notAuthorized, g)
      else (.inr .listed, g)
    | .listed =>
      if g.rateLimits entry capability sender now then (.inl .rateLimited, g)
      else (.inr .rated, g.served capability sender now)
    | .rated =>
      if g.permits capability = 0 then (.inl .atConcurrencyLimit, g)
      else (.inl .allowed, g.acquire capability)

/-- Go on with a call that has not ended. -/
def resume (policy : CapabilityPolicy) (capability : String) (sender : NodeId) (now nowSecs : Nat) :
    (PolicyOutcome ⊕ GateStage) × GateState → (PolicyOutcome ⊕ GateStage) × GateState
  | (.inl outcome, g) => (.inl outcome, g)
  | (.inr stage, g) => gateStep policy g capability sender now nowSecs stage

/-- **The accesses in a row are the function.** -/
theorem resume_gate (policy : CapabilityPolicy) (g : GateState) (capability : String)
    (sender : NodeId) (now nowSecs : Nat) :
    (resume policy capability sender now nowSecs)^[5] (.inr .entered, g) =
      (.inl (checkAndAcquire policy g capability sender now nowSecs).1,
        (checkAndAcquire policy g capability sender now nowSecs).2) := by
  simp only [iterate_succ, iterate_zero, comp_apply, id_eq]
  unfold checkAndAcquire
  rcases hentry : policy.entries capability with _ | entry
  · simp only [resume, gateStep, hentry]
  by_cases h₁ : sender ∈ g.killSwitch.suspended
  · simp only [resume, gateStep, hentry, if_pos h₁]
  by_cases h₂ : entry.tier ≠ .tier0 ∧ g.killSwitch.frozen
  · simp only [resume, gateStep, hentry, if_neg h₁, if_pos h₂]
  by_cases h₃ : ¬ peerCurrentlyAllowed entry.allowedPeers sender nowSecs
  · simp only [resume, gateStep, hentry, if_neg h₁, if_neg h₂, if_pos h₃]
  by_cases h₄ : g.rateLimits entry capability sender now
  · simp only [resume, gateStep, hentry, if_neg h₁, if_neg h₂, if_neg h₃, if_pos h₄]
  · simp only [resume, gateStep, hentry, if_neg h₁, if_neg h₂, if_neg h₃, if_neg h₄]
    split_ifs <;> rfl

/-! ## Refused calls -/

def TurnedAway (policy : CapabilityPolicy) (g : GateState) (capability : String)
    (sender : NodeId) (now nowSecs : Nat) : Prop :=
  g.permits capability = 0 ∧ ∃ entry, policy.entries capability = some entry ∧
    sender ∉ g.killSwitch.suspended ∧ ¬ (entry.tier ≠ .tier0 ∧ g.killSwitch.frozen) ∧
    peerCurrentlyAllowed entry.allowedPeers sender nowSecs ∧
    ¬ g.rateLimits entry capability sender now

lemma checkAndAcquire_refused {policy : CapabilityPolicy} {g : GateState} {capability : String}
    {sender : NodeId} {now nowSecs : Nat}
    (h : (checkAndAcquire policy g capability sender now nowSecs).1 ≠ .allowed) :
    (¬ TurnedAway policy g capability sender now nowSecs ∧
        (checkAndAcquire policy g capability sender now nowSecs).2 = g) ∨
      (TurnedAway policy g capability sender now nowSecs ∧
        (checkAndAcquire policy g capability sender now nowSecs).2 =
          g.served capability sender now) := by
  unfold checkAndAcquire at h ⊢
  rcases hentry : policy.entries capability with _ | entry
  · exact .inl ⟨fun hturned => by simp [TurnedAway, hentry] at hturned, rfl⟩
  simp only [hentry] at h ⊢
  split_ifs at h ⊢ with h₁ h₂ h₃ h₄ h₅
  · exact .inl ⟨fun hturned => by simp [TurnedAway, hentry, h₁] at hturned, rfl⟩
  · exact .inl ⟨fun hturned => by simp [TurnedAway, hentry, h₂] at hturned, rfl⟩
  · exact .inl ⟨fun hturned => by simp [TurnedAway, hentry, h₄] at hturned, rfl⟩
  · exact .inr ⟨⟨h₅, entry, hentry, h₁, h₂, h₃, h₄⟩, rfl⟩
  · exact absurd rfl h
  · exact .inl ⟨fun hturned => by simp [TurnedAway, hentry, h₃] at hturned, rfl⟩

/-- **A refused call costs nothing**, so that later calls are limited as if it had not been made:
exactly if it is not turned away at the semaphore, or the table already has its time. -/
theorem refused_call_free_iff (policy : CapabilityPolicy) (g : GateState) (capability : String)
    (sender : NodeId) (now nowSecs : Nat) :
    ((checkAndAcquire policy g capability sender now nowSecs).1 ≠ .allowed →
      let g' := (checkAndAcquire policy g capability sender now nowSecs).2
      g'.rateLimitState = g.rateLimitState ∧ g'.permits = g.permits ∧
        ∀ entry capability' sender' later,
          g'.rateLimits entry capability' sender' later =
            g.rateLimits entry capability' sender' later) ↔
      (TurnedAway policy g capability sender now nowSecs →
        g.rateLimitState (capability, sender) = some now) := by
  constructor
  · intro h hturned
    have hrefused : (checkAndAcquire policy g capability sender now nowSecs).1 ≠ .allowed := by
      obtain ⟨hpermits, entry, hentry, h₁, h₂, h₃, h₄⟩ := hturned
      simp [checkAndAcquire, hentry, h₁, h₂, h₃, h₄, GateState.served, hpermits]
    rcases checkAndAcquire_refused hrefused with ⟨hnot, -⟩ | ⟨-, hserved⟩
    · exact absurd hturned hnot
    have hsame := congrFun (h hrefused).1 (capability, sender)
    rw [hserved] at hsame
    rw [← hsame]
    exact update_self ..
  · intro h hrefused
    rcases checkAndAcquire_refused hrefused with ⟨-, heq⟩ | ⟨hturned, heq⟩
    · rw [heq]
      exact ⟨rfl, rfl, fun _ _ _ _ => rfl⟩
    have hsame : g.served capability sender now = g := by
      unfold GateState.served
      rw [← h hturned, update_eq_self]
    rw [heq, hsame]
    exact ⟨rfl, rfl, fun _ _ _ _ => rfl⟩

/-- One capability for one call at a time, and ten seconds between two calls of a peer. -/
def narrowPolicy : CapabilityPolicy where
  entries capability :=
    if capability = "sysinfo" then some ⟨fun _ => some none, 10 * 10 ^ 9, 1, .tier0, []⟩ else none
  protectedResources := none

/-- **Limited without having been served.** While a call of the first peer is executed, the second
peer is turned away; a second later the permit is back, and the second peer is limited. -/
theorem turned_away_and_limited :
    let first : NodeId := ⟨.replicate 32 1⟩
    let second : NodeId := ⟨.replicate 32 2⟩
    let taken := checkAndAcquire narrowPolicy (.loaded narrowPolicy) "sysinfo" first 0 1700000000
    let turned := checkAndAcquire narrowPolicy taken.2 "sysinfo" second (10 ^ 9) 1700000001
    let retried := checkAndAcquire narrowPolicy (turned.2.release "sysinfo") "sysinfo" second
      (2 * 10 ^ 9) 1700000002
    taken.1 = .allowed ∧ turned.1 = .atConcurrencyLimit ∧
      turned.2.rateLimitState ("sysinfo", second) ≠ taken.2.rateLimitState ("sysinfo", second) ∧
      retried.1 = .rateLimited := by
  decide

end AxiomCore
