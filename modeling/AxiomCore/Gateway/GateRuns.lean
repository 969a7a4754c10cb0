import AxiomCore.Gateway.Gate
import AxiomCore.Lib.Run

/-!
# Concurrent calls of the gate

Calls of `check_and_acquire` run in parallel, from any peers, and the operator freezes, suspends,
and takes it back at any time. `GateSystem` is the gate with all calls that were started. One
`GateEvent` is the start of a call, one of its five accesses, a command of the operator or the end
of an execution, so that any list of events is an interleaving. An access has the clock readings it
makes; nothing is assumed of them.

- `Access`, `access_gateStep`: what an access can do.

Source: `axiom-gateway/src/policy.rs`.
-/

namespace AxiomCore

open Lib List Function

/-! ## The system -/

structure GateCall where
  capability : String
  sender : NodeId
  /-- The result, or where the call stands. -/
  progress : PolicyOutcome ⊕ GateStage
  /-- The wall clock, when the allowlist was read. -/
  listedAt : Option Nat
  /-- The monotonic clock, when the rate limit was passed. -/
  servedAt : Option Nat

structure GateSystem where
  gate : GateState
  /-- The calls, in the order they started in. -/
  calls : List GateCall

inductive GateEvent where
  | enter (capability : String) (sender : NodeId)
  | access (call now nowSecs : Nat)
  | freeze
  | unfreeze
  | suspendPeer (peer : NodeId)
  | unsuspendPeer (peer : NodeId)
  /-- The permit of an execution is dropped. -/
  | release (capability : String)

def GateCall.start (capability : String) (sender : NodeId) : GateCall :=
  ⟨capability, sender, .inr .entered, none, none⟩

def GateCall.after (call : GateCall) (stage : GateStage) (progress : PolicyOutcome ⊕ GateStage)
    (now nowSecs : Nat) : GateCall :=
  { call with
    progress := progress
    listedAt := if stage = .unfrozen then some nowSecs else call.listedAt
    servedAt := if progress = .inr .rated then some now else call.servedAt }

namespace GateSystem

def start (policy : CapabilityPolicy) : GateSystem := ⟨.loaded policy, []⟩

def withSwitch (s : GateSystem) (f : KillSwitch → KillSwitch) : GateSystem :=
  { s with gate := { s.gate with killSwitch := f s.gate.killSwitch } }

def step (policy : CapabilityPolicy) (s : GateSystem) : GateEvent → GateSystem
  | .enter capability sender => { s with calls := s.calls ++ [.start capability sender] }
  | .access i now nowSecs =>
    match s.calls[i]? with
    | none => s
    | some call =>
      match call.progress with
      | .inl _ => s
      | .inr stage =>
        let (progress, gate) :=
          gateStep policy s.gate call.capability call.sender now nowSecs stage
        ⟨gate, s.calls.set i (call.after stage progress now nowSecs)⟩
  | .freeze => s.withSwitch .freeze
  | .unfreeze => s.withSwitch .unfreeze
  | .suspendPeer peer => s.withSwitch (·.suspendPeer peer)
  | .unsuspendPeer peer => s.withSwitch (·.unsuspendPeer peer)
  | .release capability => { s with gate := s.gate.release capability }

end GateSystem

/-! ## What an access can do -/

/-- What an access finds, and what it does to the call and to the gate. -/
inductive Access (policy : CapabilityPolicy) (g : GateState) (capability : String)
    (sender : NodeId) (now nowSecs : Nat) :
    GateStage → PolicyOutcome ⊕ GateStage → GateState → Prop where
  | unregistered (stage : GateStage) (h : policy.entries capability = none) :
      Access policy g capability sender now nowSecs stage (.inl .notAuthorized) g
  /-- The call is refused, and nothing changes. -/
  | refused (stage : GateStage) (outcome : PolicyOutcome) (h : outcome ≠ .allowed) :
      Access policy g capability sender now nowSecs stage (.inl outcome) g
  | unsuspended (h : sender ∉ g.killSwitch.suspended) :
      Access policy g capability sender now nowSecs .entered (.inr .unsuspended) g
  /-- The policy is not frozen, or the capability is Tier 0. -/
  | unfrozen (entry : CapabilityEntry) (hentry : policy.entries capability = some entry)
      (h : entry.tier = .tier0 ∨ g.killSwitch.frozen = false) :
      Access policy g capability sender now nowSecs .unsuspended (.inr .unfrozen) g
  | listed (entry : CapabilityEntry) (hentry : policy.entries capability = some entry)
      (h : peerCurrentlyAllowed entry.allowedPeers sender nowSecs) :
      Access policy g capability sender now nowSecs .unfrozen (.inr .listed) g
  | rated (entry : CapabilityEntry) (hentry : policy.entries capability = some entry)
      (h : ∀ last, g.rateLimitState (capability, sender) = some last →
        entry.rateLimit ≤ now - last) :
      Access policy g capability sender now nowSecs .listed (.inr .rated)
        (g.served capability sender now)
  | allowed : Access policy g capability sender now nowSecs .rated (.inl .allowed)
      (g.acquire capability)

lemma access_gateStep (policy : CapabilityPolicy) (g : GateState) (capability : String)
    (sender : NodeId) (now nowSecs : Nat) (stage : GateStage) :
    Access policy g capability sender now nowSecs stage
      (gateStep policy g capability sender now nowSecs stage).1
      (gateStep policy g capability sender now nowSecs stage).2 := by
  unfold gateStep
  rcases hentry : policy.entries capability with _ | entry
  · exact .unregistered stage hentry
  cases stage with
  | entered =>
    by_cases h : sender ∈ g.killSwitch.suspended
    · simp only [if_pos h]
      exact .refused _ _ (by decide)
    · simp only [if_neg h]
      exact .unsuspended h
  | unsuspended =>
    by_cases h : entry.tier ≠ .tier0 ∧ g.killSwitch.frozen
    · simp only [if_pos h]
      exact .refused _ _ (by decide)
    simp only [if_neg h]
    refine .unfrozen entry hentry ?_
    rw [not_and_or, not_not, Bool.not_eq_true] at h
    exact h
  | unfrozen =>
    by_cases h : ¬ peerCurrentlyAllowed entry.allowedPeers sender nowSecs
    · simp only [if_pos h]
      exact .refused _ _ (by decide)
    · simp only [if_neg h]
      exact .listed entry hentry (not_not.mp h)
  | listed =>
    by_cases h : g.rateLimits entry capability sender now
    · simp only [if_pos h]
      exact .refused _ _ (by decide)
    simp only [if_neg h]
    refine .rated entry hentry ?_
    intro last hlast
    simpa [GateState.rateLimits, hlast] using h
  | rated =>
    by_cases h : g.permits capability = 0
    · simp only [if_pos h]
      exact .refused _ _ (by decide)
    · simp only [if_neg h]
      exact .allowed

namespace GateSystem

variable {policy : CapabilityPolicy} {s : GateSystem}

/-- What a step does to the calls and to the gate. -/
inductive Change (policy : CapabilityPolicy) (s s' : GateSystem) : Prop where
  /-- Nothing happens to a call; the rate limits are as they were. -/
  | idle (hcalls : s'.calls = s.calls)
      (hrates : s'.gate.rateLimitState = s.gate.rateLimitState)
  | entered (capability : String) (sender : NodeId)
      (hcalls : s'.calls = s.calls ++ [.start capability sender]) (hgate : s'.gate = s.gate)
  | accessed (i now nowSecs : Nat) (call : GateCall) (stage : GateStage)
      (progress : PolicyOutcome ⊕ GateStage) (hcall : s.calls[i]? = some call)
      (hstage : call.progress = .inr stage)
      (haccess : Access policy s.gate call.capability call.sender now nowSecs stage progress s'.gate)
      (hcalls : s'.calls = s.calls.set i (call.after stage progress now nowSecs))

lemma change_step (policy : CapabilityPolicy) (s : GateSystem) (e : GateEvent) :
    Change policy s (s.step policy e) := by
  cases e with
  | enter capability sender => exact .entered capability sender rfl rfl
  | access i now nowSecs =>
    simp only [step]
    rcases hcall : s.calls[i]? with _ | call
    · exact .idle rfl rfl
    rcases hstage : call.progress with outcome | stage
    · simp only [hstage]
      exact .idle rfl rfl
    · simp only [hstage]
      exact .accessed i now nowSecs call stage _ hcall hstage (access_gateStep ..) rfl
  | freeze => exact .idle rfl rfl
  | unfreeze => exact .idle rfl rfl
  | suspendPeer peer => exact .idle rfl rfl
  | unsuspendPeer peer => exact .idle rfl rfl
  | release capability => exact .idle rfl rfl

variable {e : GateEvent} {capability : String} {call : GateCall} {now nowSecs i first : Nat}
  {g' : GateState} {stage : GateStage} {progress : PolicyOutcome ⊕ GateStage}
  {thrown : KillSwitch → Prop}

variable {j u : Nat} {g : GateState} {sender peer : NodeId} {concerns : String → NodeId → Prop}
  {waits : GateStage → Prop} {window : List GateEvent}

lemma call_step {call' : GateCall}
    (h : (s.step policy e).calls[j]? = some call') :
    s.calls[j]? = some call' ∨
      (s.calls[j]? = none ∧ ∃ capability sender, call' = .start capability sender) ∨
      ∃ call now nowSecs stage progress, s.calls[j]? = some call ∧ call.progress = .inr stage ∧
        Access policy s.gate call.capability call.sender now nowSecs stage progress
          (s.step policy e).gate ∧
        call' = call.after stage progress now nowSecs := by
  rcases change_step policy s e with ⟨hcalls, -⟩ | ⟨capability, sender, hcalls, -⟩ |
    ⟨i, now, nowSecs, call, stage, progress, hcall, hstage, haccess, hcalls⟩
  · rw [hcalls] at h
    exact .inl h
  · rw [hcalls] at h
    rcases getElem?_concat_cases h with ⟨rfl, rfl⟩ | hold
    · exact .inr (.inl ⟨getElem?_eq_none le_rfl, capability, sender, rfl⟩)
    · exact .inl hold
  · rw [hcalls] at h
    rcases getElem?_set_cases h with ⟨rfl, rfl⟩ | ⟨-, hold⟩
    · exact .inr (.inr ⟨call, now, nowSecs, stage, progress, hcall, hstage, haccess, rfl⟩)
    · exact .inl hold

/-! ## What was read -/

/-- The allowlist of the capability had the sender, at the time of the reading. -/
def ListedWhenRead (policy : CapabilityPolicy) (call : GateCall) : Prop :=
  ∃ entry secs, policy.entries call.capability = some entry ∧ call.listedAt = some secs ∧
    peerCurrentlyAllowed entry.allowedPeers call.sender secs

def FarApart (policy : CapabilityPolicy) (capability : String) (t u : Nat) : Prop :=
  ∃ entry, policy.entries capability = some entry ∧
    (t + entry.rateLimit ≤ u ∨ u + entry.rateLimit ≤ t)

/-- What a call has read, by where it stands. -/
structure HasRead (policy : CapabilityPolicy) (call : GateCall) : Prop where
  listed : call.progress = .inr .listed ∨ call.progress = .inr .rated ∨
    call.progress = .inl .allowed → ListedWhenRead policy call
  /-- A call past the rate limit has a reading. -/
  served : call.progress = .inr .rated ∨ call.progress = .inl .allowed →
    ∃ t, call.servedAt = some t

structure GateInv (policy : CapabilityPolicy) (s : GateSystem) : Prop where
  hasRead : ∀ call ∈ s.calls, HasRead policy call
  /-- The table has a reading that is at least as late, if there is a limit. -/
  recorded : ∀ (i : Nat) (call : GateCall) (t : Nat), s.calls[i]? = some call →
    call.servedAt = some t → ∃ entry last, policy.entries call.capability = some entry ∧
      s.gate.rateLimitState (call.capability, call.sender) = some last ∧
      (entry.rateLimit = 0 ∨ t ≤ last)
  /-- The readings for one capability and sender are far apart. -/
  spaced : ∀ (i j : Nat) (call call' : GateCall) (t u : Nat), i ≠ j → s.calls[i]? = some call →
    s.calls[j]? = some call' → call'.capability = call.capability → call'.sender = call.sender →
      call.servedAt = some t → call'.servedAt = some u → FarApart policy call.capability t u

lemma FarApart.symm {t : Nat} (h : FarApart policy capability t u) :
    FarApart policy capability u t := by
  obtain ⟨entry, hentry, hapart⟩ := h
  exact ⟨entry, hentry, hapart.symm⟩

lemma GateInv.farApart_of_rated (h : GateInv policy s)
    {entry : CapabilityEntry} (hentry : policy.entries call.capability = some entry)
    (hrated : ∀ last, s.gate.rateLimitState (call.capability, call.sender) = some last →
      entry.rateLimit ≤ now - last)
    {other : GateCall} (hother : s.calls[j]? = some other)
    (hcapability : other.capability = call.capability) (hsender : other.sender = call.sender)
    (hserved : other.servedAt = some u) :
    FarApart policy call.capability u now ∧ (entry.rateLimit = 0 ∨ u ≤ now) := by
  obtain ⟨entry', last, hentry', hlast, hle⟩ := h.recorded j other u hother hserved
  rw [hcapability] at hentry' hlast
  rw [hsender] at hlast
  cases hentry'.symm.trans hentry
  have hgap := hrated last hlast
  rcases hle with hzero | hle
  · refine ⟨⟨entry, hentry, ?_⟩, .inl hzero⟩
    rw [hzero]
    exact le_total u now
  by_cases hzero : entry.rateLimit = 0
  · refine ⟨⟨entry, hentry, ?_⟩, .inl hzero⟩
    rw [hzero]
    exact le_total u now
  · exact ⟨⟨entry, hentry, .inl (by omega)⟩, .inr (by omega)⟩

lemma gateInv_start (policy : CapabilityPolicy) : GateInv policy (start policy) where
  hasRead := nofun
  recorded i call t hcall := by simp [start] at hcall
  spaced i j call call' t u _ hcall := by simp [start] at hcall

lemma rateLimitState_access
    (h : Access policy g capability sender now nowSecs stage progress g') :
    (progress ≠ .inr .rated ∧ g'.rateLimitState = g.rateLimitState) ∨
      (progress = .inr .rated ∧ g' = g.served capability sender now ∧
        ∃ entry, policy.entries capability = some entry ∧
          ∀ last, g.rateLimitState (capability, sender) = some last →
            entry.rateLimit ≤ now - last) := by
  cases h with
  | refused stage outcome h => exact .inl ⟨by simp, rfl⟩
  | rated entry hentry h => exact .inr ⟨rfl, rfl, entry, hentry, h⟩
  | unregistered => exact .inl ⟨by simp, rfl⟩
  | unsuspended => exact .inl ⟨by simp, rfl⟩
  | unfrozen => exact .inl ⟨by simp, rfl⟩
  | listed => exact .inl ⟨by simp, rfl⟩
  | allowed => exact .inl ⟨by simp, rfl⟩

lemma GateInv.keepsReadings (h : GateInv policy s) {s' : GateSystem}
    (hrates : s'.gate.rateLimitState = s.gate.rateLimitState)
    (hcalls : ∀ (i : Nat) (call' : GateCall) (t : Nat), s'.calls[i]? = some call' →
      call'.servedAt = some t → ∃ call, s.calls[i]? = some call ∧
        call.capability = call'.capability ∧ call.sender = call'.sender ∧ call.servedAt = some t)
    (hread : ∀ call ∈ s'.calls, HasRead policy call) : GateInv policy s' where
  hasRead := hread
  recorded i call' t hcall' ht := by
    obtain ⟨call, hcall, hcapability, hsender, hservedAt⟩ := hcalls i call' t hcall' ht
    rw [hrates, ← hcapability, ← hsender]
    exact h.recorded i call t hcall hservedAt
  spaced i j call' other' t u hne hcall' hother' hcapability hsender ht hu := by
    obtain ⟨call, hcall, hcap, hsend, hservedAt⟩ := hcalls i call' t hcall' ht
    obtain ⟨other, hother, hcap', hsend', hservedAt'⟩ := hcalls j other' u hother' hu
    rw [← hcap]
    refine h.spaced i j call other t u hne hcall hother ?_ ?_ hservedAt hservedAt'
    · rw [hcap', hcapability, hcap]
    · rw [hsend', hsender, hsend]

lemma HasRead.after (h : HasRead policy call) (hstage : call.progress = .inr stage)
    (haccess : Access policy g call.capability call.sender now nowSecs stage progress g') :
    HasRead policy (call.after stage progress now nowSecs) := by
  cases haccess with
  | unregistered => exact ⟨by simp [GateCall.after], by simp [GateCall.after]⟩
  | refused stage outcome houtcome =>
    exact ⟨by simp [GateCall.after, houtcome], by simp [GateCall.after, houtcome]⟩
  | unsuspended => exact ⟨by simp [GateCall.after], by simp [GateCall.after]⟩
  | unfrozen => exact ⟨by simp [GateCall.after], by simp [GateCall.after]⟩
  | listed entry hentry hallowed =>
    exact ⟨fun _ => ⟨entry, nowSecs, hentry, rfl, hallowed⟩, by simp [GateCall.after]⟩
  | rated entry hentry hrate => exact ⟨fun _ => h.listed (.inl hstage), fun _ => ⟨now, rfl⟩⟩
  | allowed =>
    exact ⟨fun _ => h.listed (.inr (.inl hstage)), fun _ => h.served (.inl hstage)⟩

lemma gateInv_step (s : GateSystem) (e : GateEvent) (h : GateInv policy s) :
    GateInv policy (s.step policy e) := by
  rcases change_step policy s e with ⟨hcalls, hrates⟩ | ⟨capability, sender, hcalls, hgate⟩ |
    ⟨i, now, nowSecs, call, stage, progress, hcall, hstage, haccess, hcalls⟩
  · refine h.keepsReadings hrates ?_ (hcalls ▸ h.hasRead)
    intro j other t hother ht
    rw [hcalls] at hother
    exact ⟨other, hother, rfl, rfl, ht⟩
  · -- the new call has not read anything
    refine h.keepsReadings (by rw [hgate]) ?_ ?_
    · intro j other t hother ht
      rw [hcalls] at hother
      rcases getElem?_concat_cases hother with ⟨-, rfl⟩ | hold
      · simp [GateCall.start] at ht
      · exact ⟨other, hold, rfl, rfl, ht⟩
    · rw [hcalls]
      intro other hother
      rcases mem_append.mp hother with hold | hnew
      · exact h.hasRead other hold
      · rw [mem_singleton.mp hnew]
        exact ⟨by simp [GateCall.start], by simp [GateCall.start]⟩
  · have hread : ∀ other ∈ (s.step policy e).calls, HasRead policy other := by
      rw [hcalls]
      intro other hother
      rcases mem_or_eq_of_mem_set hother with hold | rfl
      · exact h.hasRead other hold
      · exact (h.hasRead call (mem_of_getElem? hcall)).after hstage haccess
    rcases rateLimitState_access haccess with ⟨hnot, hrates⟩ | ⟨rfl, hgate, entry, hentry, hrate⟩
    · refine h.keepsReadings hrates ?_ hread
      intro j other t hother ht
      rw [hcalls] at hother
      rcases getElem?_set_cases hother with ⟨rfl, rfl⟩ | ⟨-, hold⟩
      · refine ⟨call, hcall, rfl, rfl, ?_⟩
        rw [← ht]
        exact (if_neg hnot).symm
      · exact ⟨other, hold, rfl, rfl, ht⟩
    · -- the call gets past the rate limit
      have hfar : ∀ {j : Nat} {other : GateCall} {u : Nat}, s.calls[j]? = some other →
          other.capability = call.capability → other.sender = call.sender →
            other.servedAt = some u →
              FarApart policy call.capability u now ∧ (entry.rateLimit = 0 ∨ u ≤ now) :=
        fun hother hcap hsend hu => h.farApart_of_rated hentry hrate hother hcap hsend hu
      refine ⟨hread, ?_, ?_⟩
      · intro j other t hother ht
        rw [hcalls] at hother
        rw [hgate, GateState.served]
        rcases getElem?_set_cases hother with ⟨rfl, rfl⟩ | ⟨-, hold⟩
        · cases ht
          exact ⟨entry, now, hentry, update_self .., .inr le_rfl⟩
        by_cases hkey : (other.capability, other.sender) = (call.capability, call.sender)
        · obtain ⟨hcap, hsend⟩ := Prod.mk.inj hkey
          refine ⟨entry, now, hcap ▸ hentry, ?_, (hfar hold hcap hsend ht).2⟩
          rw [hkey]
          exact update_self ..
        · obtain ⟨entry', last, hentry', hlast, hle⟩ := h.recorded j other t hold ht
          exact ⟨entry', last, hentry', (update_of_ne hkey ..).trans hlast, hle⟩
      · intro j k first second t u hne hfirst hsecond hcap hsend ht hu
        rw [hcalls] at hfirst hsecond
        rcases getElem?_set_cases hfirst with ⟨rfl, rfl⟩ | ⟨-, hold⟩
        · rcases getElem?_set_cases hsecond with ⟨rfl, -⟩ | ⟨-, hold'⟩
          · exact absurd rfl hne
          · cases ht
            exact (hfar hold' hcap hsend hu).1.symm
        rcases getElem?_set_cases hsecond with ⟨rfl, rfl⟩ | ⟨-, hold'⟩
        · cases hu
          rw [← show call.capability = first.capability from hcap]
          exact (hfar hold hcap.symm hsend.symm ht).1
        · exact h.spaced j k first second t u hne hold hold' hcap hsend ht hu

/-! ## Lockout -/

/-- While the switch is thrown, the calls from the `first` on that it concerns wait to read it or
were denied. -/
structure Locked (thrown : KillSwitch → Prop) (concerns : String → NodeId → Prop)
    (waits : GateStage → Prop) (first : Nat) (s : GateSystem) : Prop where
  thrown : thrown s.gate.killSwitch
  calls : ∀ (i : Nat) (call : GateCall), first ≤ i → s.calls[i]? = some call →
    concerns call.capability call.sender →
      (∃ stage, call.progress = .inr stage ∧ waits stage) ∨
        ∃ outcome, call.progress = .inl outcome ∧ outcome ≠ .allowed

lemma locked_step
    (h : Locked thrown concerns waits first s)
    (hentered : waits .entered)
    (hdenies : ∀ {capability sender now nowSecs stage progress g'}, thrown s.gate.killSwitch →
      concerns capability sender → waits stage →
        Access policy s.gate capability sender now nowSecs stage progress g' →
          (∃ next, progress = .inr next ∧ waits next) ∨
            ∃ outcome, progress = .inl outcome ∧ outcome ≠ .allowed)
    (he : thrown (s.step policy e).gate.killSwitch) :
    Locked thrown concerns waits first (s.step policy e) := by
  refine ⟨he, ?_⟩
  intro j call' hfirst hcall' hconcerns
  rcases call_step hcall' with hold | ⟨-, capability, sender, rfl⟩ |
    ⟨call, now, nowSecs, stage, progress, hcall, hstage, haccess, rfl⟩
  · exact h.calls j call' hfirst hold hconcerns
  · exact .inl ⟨.entered, rfl, hentered⟩
  rcases h.calls j call hfirst hcall hconcerns with ⟨stage', hstage', hwaits⟩ | ⟨outcome, hend, -⟩
  · obtain rfl := Sum.inr.inj (hstage'.symm.trans hstage)
    exact hdenies h.thrown hconcerns hwaits haccess
  · rw [hend] at hstage
    cases hstage

lemma killSwitch_access
    (h : Access policy g capability sender now nowSecs stage progress g') :
    g'.killSwitch = g.killSwitch := by
  cases h <;> rfl

lemma killSwitch_step_access (s : GateSystem) (i now nowSecs : Nat) :
    (s.step policy (.access i now nowSecs)).gate.killSwitch = s.gate.killSwitch := by
  simp only [step]
  split
  · rfl
  split
  · rfl
  · exact killSwitch_access (access_gateStep ..)

/-- The capability is of a higher tier, or the policy does not list it. -/
def NotTier0 (policy : CapabilityPolicy) (capability : String) : Prop :=
  (policy.entries capability).map (·.tier) ≠ some .tier0

def LockedByFreeze (policy : CapabilityPolicy) (first : Nat) (s : GateSystem) : Prop :=
  Locked (fun switch => switch.frozen = true) (fun capability _ => NotTier0 policy capability)
    (fun stage => stage = .entered ∨ stage = .unsuspended) first s

lemma lockedByFreeze_step (h : LockedByFreeze policy first s)
    (he : e ≠ .unfreeze) : LockedByFreeze policy first (s.step policy e) := by
  refine locked_step h (.inl rfl) ?_ ?_
  · intro capability sender now nowSecs stage progress g' hfrozen habove hwaits haccess
    cases haccess with
    | unregistered => exact .inr ⟨_, rfl, by decide⟩
    | refused stage outcome houtcome => exact .inr ⟨_, rfl, houtcome⟩
    | unsuspended => exact .inl ⟨_, rfl, .inr rfl⟩
    | unfrozen entry hentry hopen =>
      rcases hopen with htier | hopen
      · exact absurd (by rw [hentry]; exact congrArg some htier) habove
      · rw [hfrozen] at hopen
        cases hopen
    | listed => simp at hwaits
    | rated => simp at hwaits
    | allowed => simp at hwaits
  · cases e with
    | access i now nowSecs => exact (congrArg _ (killSwitch_step_access s i now nowSecs)).trans h.thrown
    | unfreeze => exact absurd rfl he
    | freeze => rfl
    | enter => exact h.thrown
    | suspendPeer => exact h.thrown
    | unsuspendPeer => exact h.thrown
    | release => exact h.thrown

def LockedBySuspension (peer : NodeId) (first : Nat) (s : GateSystem) : Prop :=
  Locked (fun switch => peer ∈ switch.suspended) (fun _ sender => sender = peer)
    (fun stage => stage = .entered) first s

lemma lockedBySuspension_step
    (h : LockedBySuspension peer first s) (he : e ≠ .unsuspendPeer peer) :
    LockedBySuspension peer first (s.step policy e) := by
  refine locked_step h rfl ?_ ?_
  · intro capability sender now nowSecs stage progress g' hsuspended hsender hwaits haccess
    cases haccess with
    | unregistered => exact .inr ⟨_, rfl, by decide⟩
    | refused stage outcome houtcome => exact .inr ⟨_, rfl, houtcome⟩
    | unsuspended hopen => exact absurd (hsender ▸ hsuspended) hopen
    | unfrozen => cases hwaits
    | listed => cases hwaits
    | rated => cases hwaits
    | allowed => cases hwaits
  · have hthrown : peer ∈ s.gate.killSwitch.suspended := h.thrown
    cases e with
    | access i now nowSecs =>
      show peer ∈ (s.step policy (.access i now nowSecs)).gate.killSwitch.suspended
      rw [killSwitch_step_access]
      exact hthrown
    | suspendPeer other => exact Finset.mem_insert_of_mem hthrown
    | unsuspendPeer other =>
      have hne : peer ≠ other := by
        rintro rfl
        exact he rfl
      exact Finset.mem_erase.mpr ⟨hne, hthrown⟩
    | freeze => exact hthrown
    | unfreeze => exact hthrown
    | enter => exact hthrown
    | release => exact hthrown

lemma ended_step {outcome : PolicyOutcome}
    (hcall : s.calls[i]? = some call) (hend : call.progress = .inl outcome) (e : GateEvent) :
    (s.step policy e).calls[i]? = some call := by
  rcases change_step policy s e with ⟨hcalls, -⟩ | ⟨capability, sender, hcalls, -⟩ |
    ⟨j, now, nowSecs, other, stage, progress, hother, hstage, -, hcalls⟩
  · rw [hcalls, hcall]
  · rw [hcalls, getElem?_concat_of_some hcall]
  have hne : j ≠ i := by
    rintro rfl
    cases hother.symm.trans hcall
    rw [hend] at hstage
    cases hstage
  rw [hcalls, getElem?_set_ne hne, hcall]

/-- Whatever happens from here on, the call is denied. -/
def DeniedForGood (policy : CapabilityPolicy) (s : GateSystem) (i : Nat) : Prop :=
  ∃ outcome, outcome ≠ .allowed ∧ ∀ after : List GateEvent,
    ∃ final, (run (step policy) s after).calls[i]? = some final ∧ final.progress = .inl outcome

lemma locked_of_thrown (concerns : String → NodeId → Prop)
    (waits : GateStage → Prop) (h : thrown s.gate.killSwitch) :
    Locked thrown concerns waits s.calls.length s := by
  refine ⟨h, ?_⟩
  intro j call hj hcall
  rw [getElem?_eq_none hj] at hcall
  cases hcall

lemma Locked.deniedForGood
    (h : Locked thrown concerns waits first s)
    (hfirst : first ≤ i) (hcall : s.calls[i]? = some call)
    (hconcerns : concerns call.capability call.sender)
    (hread : ∀ stage, call.progress = .inr stage → ¬ waits stage) : DeniedForGood policy s i := by
  rcases h.calls i call hfirst hcall hconcerns with ⟨stage, hstage, hwaits⟩ |
    ⟨outcome, hend, houtcome⟩
  · exact absurd hwaits (hread stage hstage)
  refine ⟨outcome, houtcome, ?_⟩
  intro after
  have hstays : ∀ (s : GateSystem) (e : GateEvent), s.calls[i]? = some call →
      (s.step policy e).calls[i]? = some call := fun s e hs => ended_step hs hend e
  exact ⟨call, run_invariant hstays hcall after, hend⟩

lemma deniedForGood_of_freeze (s : GateSystem)
    (hwindow : .unfreeze ∉ window) (hfirst : s.calls.length ≤ i)
    (hcall : (run (step policy) (s.step policy .freeze) window).calls[i]? = some call)
    (habove : NotTier0 policy call.capability) (hentered : call.progress ≠ .inr .entered)
    (hunsuspended : call.progress ≠ .inr .unsuspended) :
    DeniedForGood policy (run (step policy) (s.step policy .freeze) window) i := by
  have hfrozen : LockedByFreeze policy s.calls.length (s.step policy .freeze) :=
    locked_of_thrown (s := s.step policy .freeze) _ _ rfl
  have hguarded : Guarded (step policy) (fun _ e => e ≠ .unfreeze) (s.step policy .freeze) window :=
    guarded_of_forall fun e he _ heq => hwindow (heq ▸ he)
  have hlocked := run_invariant_of_guarded (fun _ _ hs he => lockedByFreeze_step hs he) hfrozen
    hguarded
  apply hlocked.deniedForGood hfirst hcall habove
  rintro stage hstage (rfl | rfl)
  · exact hentered hstage
  · exact hunsuspended hstage

lemma deniedForGood_of_suspendPeer (s : GateSystem)
    (hwindow : .unsuspendPeer peer ∉ window)
    (hfirst : s.calls.length ≤ i)
    (hcall : (run (step policy) (s.step policy (.suspendPeer peer)) window).calls[i]? = some call)
    (hsender : call.sender = peer) (hentered : call.progress ≠ .inr .entered) :
    DeniedForGood policy (run (step policy) (s.step policy (.suspendPeer peer)) window) i := by
  have hsuspended : LockedBySuspension peer s.calls.length (s.step policy (.suspendPeer peer)) :=
    locked_of_thrown (s := s.step policy (.suspendPeer peer)) _ _ (Finset.mem_insert_self peer _)
  have hguarded : Guarded (step policy) (fun _ e => e ≠ .unsuspendPeer peer)
      (s.step policy (.suspendPeer peer)) window :=
    guarded_of_forall fun e he _ heq => hwindow (heq ▸ he)
  have hlocked := run_invariant_of_guarded (fun _ _ hs he => lockedBySuspension_step hs he)
    hsuspended hguarded
  apply hlocked.deniedForGood hfirst hcall hsender
  rintro stage hstage rfl
  exact hentered hstage

end GateSystem

/-! ## The gate -/

/-- **The gate admits what it should.** In every run of concurrent calls and commands of the
operator: a call that is allowed is of a registered capability, whose allowlist had the caller when
it was read; two allowed calls of one peer to one capability read the clock at least the rate limit
apart; and a call above Tier 0 that starts after a freeze, or one of a suspended peer, is denied for
good if it has read the flag, or the suspended set, before this is taken back. -/
theorem admission_gate (policy : CapabilityPolicy) (es : List GateEvent) :
    let s := run (GateSystem.step policy) (.start policy) es
    (∀ (i : Nat) (call : GateCall), s.calls[i]? = some call → call.progress = .inl .allowed →
      ∃ entry secs, policy.entries call.capability = some entry ∧ call.listedAt = some secs ∧
        peerCurrentlyAllowed entry.allowedPeers call.sender secs) ∧
    (∀ (i j : Nat) (call call' : GateCall), i ≠ j → s.calls[i]? = some call →
      s.calls[j]? = some call' → call'.capability = call.capability →
        call'.sender = call.sender → call.progress = .inl .allowed →
          call'.progress = .inl .allowed →
            ∃ entry t u, policy.entries call.capability = some entry ∧ call.servedAt = some t ∧
              call'.servedAt = some u ∧
                (t + entry.rateLimit ≤ u ∨ u + entry.rateLimit ≤ t)) ∧
    (∀ (window : List GateEvent) (i : Nat) (call : GateCall),
      let s' := run (GateSystem.step policy) (s.step policy .freeze) window
      .unfreeze ∉ window → s.calls.length ≤ i → s'.calls[i]? = some call →
        GateSystem.NotTier0 policy call.capability → call.progress ≠ .inr .entered →
          call.progress ≠ .inr .unsuspended → GateSystem.DeniedForGood policy s' i) ∧
    ∀ (peer : NodeId) (window : List GateEvent) (i : Nat) (call : GateCall),
      let s' := run (GateSystem.step policy) (s.step policy (.suspendPeer peer)) window
      .unsuspendPeer peer ∉ window → s.calls.length ≤ i → s'.calls[i]? = some call →
        call.sender = peer → call.progress ≠ .inr .entered →
          GateSystem.DeniedForGood policy s' i := by
  intro s
  have hinv : GateSystem.GateInv policy s :=
    run_invariant GateSystem.gateInv_step (GateSystem.gateInv_start policy) es
  refine ⟨?_, ?_, ?_, ?_⟩
  · intro i call hcall hallowed
    exact (hinv.hasRead call (mem_of_getElem? hcall)).listed (.inr (.inr hallowed))
  · intro i j call call' hne hcall hcall' hcapability hsender hallowed hallowed'
    obtain ⟨t, ht⟩ := (hinv.hasRead call (mem_of_getElem? hcall)).served (.inr hallowed)
    obtain ⟨u, hu⟩ := (hinv.hasRead call' (mem_of_getElem? hcall')).served (.inr hallowed')
    obtain ⟨entry, hentry, hapart⟩ :=
      hinv.spaced i j call call' t u hne hcall hcall' hcapability hsender ht hu
    exact ⟨entry, t, u, hentry, ht, hu, hapart⟩
  · intro window i call s' hwindow hfirst hcall habove hentered hunsuspended
    exact s.deniedForGood_of_freeze hwindow hfirst hcall habove hentered hunsuspended
  · intro peer window i call s' hwindow hfirst hcall hsender hentered
    exact s.deniedForGood_of_suspendPeer hwindow hfirst hcall hsender hentered

def notifyPolicy : CapabilityPolicy where
  entries name :=
    if name = "notify_send" then
      some ⟨fun peer => if peer = ⟨Vector.replicate 32 1⟩ then some none else none, 0, 1, .tier1, []⟩
    else none
  protectedResources := some []

/-- **A call can outlast the freeze.** It starts under the freeze and is past the suspended set when
the freeze ends; and a call can start while its caller is suspended and look at the suspended set
when this was taken back. Both are allowed. -/
theorem allowed_after_unfreeze :
    ((run (GateSystem.step notifyPolicy) (.start notifyPolicy)
        [.freeze, .enter "notify_send" ⟨Vector.replicate 32 1⟩, .access 0 0 0, .unfreeze,
          .access 0 0 0, .access 0 0 0, .access 0 0 0, .access 0 0 0]).calls.map (·.progress) =
      [.inl .allowed]) ∧
    (run (GateSystem.step notifyPolicy) (.start notifyPolicy)
        [.suspendPeer ⟨Vector.replicate 32 1⟩, .enter "notify_send" ⟨Vector.replicate 32 1⟩,
          .unsuspendPeer ⟨Vector.replicate 32 1⟩, .access 0 0 0, .access 0 0 0, .access 0 0 0,
          .access 0 0 0, .access 0 0 0]).calls.map (·.progress) =
      [.inl .allowed] := by
  constructor
  · decide
  · decide

end AxiomCore
