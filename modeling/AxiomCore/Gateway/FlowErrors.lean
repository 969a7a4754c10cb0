import AxiomCore.Gateway.ApprovalSafety
import AxiomCore.Gateway.Audit

/-!
# What an error leaves behind

Every error of `decide_and_execute` is documented to leave its status in the record. Two of its
exits are taken between the critical sections, when the intent is claimed and the channel fails or
answers about another intent. They leave the record in progress, and nobody takes it up again.
-/

namespace AxiomCore

open Lib FlowSystem Function

variable {X : Externals} {policy : CapabilityPolicy} {s : FlowSystem} {e : FlowEvent} {t : Nat}
  {id : IntentId} {records : Records} {err : FlowError}

def Phase.intentId : Phase → Option IntentId
  | .called id | .claimed id _ | .asking id | .decided id _ => some id
  | .idle | .returned _ => none

structure FailsWith (X : Externals) (policy : CapabilityPolicy) (s : FlowSystem) (e : FlowEvent)
    (t : Nat) (id : IntentId) (err : FlowError) : Prop where
  inside : (s.callers t).intentId = some id
  returned : (s.step X policy e).callers t = .returned (.error err)
  known : err ≠ .unknownIntent

/-- The record of the intent is settled, and `log_tier2_linked_record` appends an entry for it. -/
def Auditable (records : Records) (id : IntentId) : Prop :=
  ∃ r, records id = some r ∧ r.status.terminal = true ∧
    ∀ (A : AuditExternals) (w : WriterState) (file : List UInt8) (now : Nat) (nowMs : UInt64),
      ∃ entry, logCall A w file (.tier2 r now) nowMs .done =
        ⟨.ok (), file ++ entry.line, w.advance A entry⟩

/-! ## Returns -/

variable {res : Except FlowError IntentStatus} {now : Nat}

lemma update_eq_returned {callers : Nat → Phase} {t' : Nat} {phase : Phase}
    (hinside : (callers t).intentId = some id)
    (h : update callers t' phase t = .returned res) : t = t' ∧ phase = .returned res := by
  by_cases ht : t = t'
  · subst ht
    exact ⟨rfl, by rwa [update_self] at h⟩
  rw [update_of_ne ht] at h
  rw [h] at hinside
  cases hinside

lemma returned_cases
    (hinside : (s.callers t).intentId = some id)
    (h : (s.step X policy e).callers t = .returned res) :
    (e = .claim t ∧ claim X s.records s.now id = (.returned res, (s.step X policy e).records)) ∨
    (∃ answer err, e = .answer t answer ∧ s.callers t = .asking id ∧
      checkDecision id answer = .error err ∧ (s.step X policy e).records = s.records) ∨
    ∃ decision outcome, e = .finish t outcome ∧
      (finish X s.records s.now id decision outcome).result = res ∧
      (s.step X policy e).records = (finish X s.records s.now id decision outcome).records := by
  -- a caller that is inside has not returned yet
  have hstill : s.callers t ≠ .returned res := by
    intro hreturned
    rw [hreturned] at hinside
    cases hinside
  cases e with
  | propose draw proposer capability ps expiry => exact absurd h hstill
  | tick elapsed => exact absurd h hstill
  | tamper id' ps => exact absurd h hstill
  | call t' id' =>
    simp only [FlowSystem.step] at h
    split at h
    · cases (update_eq_returned hinside h).2
    · exact absurd h hstill
  | consult t' =>
    simp only [FlowSystem.step] at h
    split at h
    · cases (update_eq_returned hinside h).2
    · exact absurd h hstill
  | claim t' =>
    simp only [FlowSystem.step] at h ⊢
    split at h
    next id' hphase =>
      rcases hclaim : claim X s.records s.now id' with ⟨⟨res'⟩ | ⟨intent, request⟩, records⟩
      · simp only [stepClaim, hclaim] at h ⊢
        obtain ⟨rfl, hres⟩ := update_eq_returned hinside h
        obtain rfl := Phase.returned.inj hres
        rw [hphase] at hinside
        cases hinside
        exact .inl ⟨rfl, hclaim⟩
      · simp only [stepClaim, hclaim] at h
        cases (update_eq_returned hinside h).2
    · exact absurd h hstill
  | answer t' answer =>
    simp only [FlowSystem.step] at h ⊢
    split at h
    next id' hphase =>
      rcases hcheck : checkDecision id' answer with err | decision
      · simp only [stepAnswer, hcheck] at h ⊢
        obtain ⟨rfl, -⟩ := update_eq_returned hinside h
        rw [hphase] at hinside ⊢
        cases hinside
        exact .inr (.inl ⟨answer, err, rfl, rfl, hcheck, rfl⟩)
      · simp only [stepAnswer, hcheck] at h
        cases (update_eq_returned hinside h).2
    · exact absurd h hstill
  | finish t' outcome =>
    simp only [FlowSystem.step] at h ⊢
    split at h
    next id' decision hphase =>
      obtain ⟨rfl, hres⟩ := update_eq_returned hinside h
      rw [hphase] at hinside ⊢
      cases hinside
      exact .inr (.inr ⟨decision, outcome, rfl, Phase.returned.inj hres, rfl⟩)
    · exact absurd h hstill

/-! ## Errors -/

lemma auditable_setStatus {r : LinkedRecord} {st : IntentStatus}
    (hst : st = .expired ∨ st = .parameterHashMismatch) :
    Auditable (setStatus records id r st) id := by
  refine ⟨{ r with status := st }, update_self .., ?_, fun A w file now nowMs => ?_⟩
  · rcases hst with rfl | rfl <;> rfl
  · rcases hst with rfl | rfl <;> exact ⟨_, rfl⟩

lemma auditable_claim {records' : Records} (hknown : err ≠ .unknownIntent)
    (h : claim X records now id = (.returned (.error err), records')) : Auditable records' id := by
  unfold claim at h
  rcases hr : records id with _ | r
  · rw [hr] at h
    cases h
    exact absurd rfl hknown
  simp only [hr] at h
  split_ifs at h
  · cases h
  · cases h
    exact auditable_setStatus (.inl rfl)
  · cases h
  · cases h
    exact auditable_setStatus (.inr rfl)

lemma auditable_finish {decision : ApprovalDecision} {outcome : Except String String}
    (hknown : err ≠ .unknownIntent)
    (h : (finish X records now id decision outcome).result = .error err) :
    Auditable (finish X records now id decision outcome).records id := by
  unfold finish at h ⊢
  rcases hr : records id with _ | r
  · rw [hr] at h
    cases h
    exact absurd rfl hknown
  simp only [hr] at h ⊢
  split_ifs at h ⊢
  · exact auditable_setStatus (.inl rfl)
  · exact auditable_setStatus (.inr rfl)

/-- **Errors that can be audited.** In every run of the flow, a call that returns an error other
than `UnknownIntent` leaves a settled record, which the audit log accepts: exactly if it is not that
the channel failed, or answered about another intent. The drawn ids are assumed distinct. -/
theorem flow_error_auditable_iff (X : Externals) (policy : CapabilityPolicy) (now₀ : Nat)
    (es : List FlowEvent) (hdraws : (draws es).Nodup) (e : FlowEvent) (t : Nat) (id : IntentId)
    (err : FlowError)
    (hfails : FailsWith X policy (run (FlowSystem.step X policy) (.init now₀) es) e t id err) :
    Auditable ((run (FlowSystem.step X policy) (.init now₀) es).step X policy e).records id ↔
      ∀ answer, e = .answer t answer →
        ∃ decision, answer = .ok decision ∧ decision.intentId = id := by
  have hinv : FlowInv X (run (FlowSystem.step X policy) (.init now₀) es) :=
    run_invariant_of_guarded (fun _ _ h hfresh => h.step hfresh) (flowInv_init now₀)
      (guarded_of_nodup (fun _ _ => rfl) hdraws)
  rcases returned_cases hfails.inside hfails.returned with
    ⟨rfl, hclaim⟩ | ⟨answer, err, rfl, hphase, hcheck, hrecords⟩ |
      ⟨decision, outcome, rfl, hres, hrec⟩
  · exact iff_of_true (auditable_claim hfails.known hclaim) nofun
  · -- the intent is still claimed
    have hheld := hinv.ownership.held t id (by rw [hphase]; rfl)
    apply iff_of_false
    · rintro ⟨r, hr, hterminal, -⟩
      rw [hrecords] at hr
      rw [statusOf_of_eq_some hr, Option.some.injEq] at hheld
      rw [hheld] at hterminal
      cases hterminal
    · intro h
      obtain ⟨decision, rfl, hid⟩ := h answer rfl
      simp [checkDecision, hid] at hcheck
  · rw [hrec]
    exact iff_of_true (auditable_finish hfails.known hres) nofun

theorem expired_error_auditable :
    Auditable ((run (FlowSystem.step sampleExternals samplePolicy) (.init 0)
      (sampleRun.take 2 ++ [.tick defaultExpiry])).step sampleExternals samplePolicy
        (.claim 0)).records sampleIntentId := by
  apply (flow_error_auditable_iff sampleExternals samplePolicy 0
    (sampleRun.take 2 ++ [.tick defaultExpiry]) (by decide) (.claim 0) 0 sampleIntentId .expired
    ⟨rfl, ?_, nofun⟩).mpr nofun
  rfl

/-- **An error that leaves the record in progress.** The channel fails: the call returns an error,
the record is in progress, and the audit log refuses it. -/
theorem channel_error_not_auditable :
    let flow := run (FlowSystem.step sampleExternals samplePolicy) (.init 0)
      (sampleRun.take 7 ++ [.answer 0 (.error (.io "end of input"))])
    flow.callers 0 = .returned (.error (.channel (.io "end of input"))) ∧
      ∃ r, flow.records sampleIntentId = some r ∧ r.status = .inProgress ∧
        ∀ now, tier2Args r now = .error .notTerminal := by
  refine ⟨rfl, _, rfl, rfl, fun now => rfl⟩

end AxiomCore
