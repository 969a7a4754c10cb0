import AxiomCore.Gateway.ApprovalRuns

/-!
# At most one execution, and only with approval

The safety property of the approval flow over all its runs. On top of `Ownership` it needs two more
invariants:

- `Counts`: an intent is consulted and executed at most once, and not at all before its status says
  so;
- `Stories`: what a caller did so far is in the log, in order, and every execution in the log is
  the end of such a story.

The main result is `execute_at_most_once_and_only_approved`.

Source: `axiom-gateway/src/approval.rs`.
-/

namespace AxiomCore

open Lib FlowSystem Obs Records List Function

/-! ## Counting consultations and executions -/

def Obs.isConsultationOf (id : IntentId) : Obs → Bool
  | .consulted _ request => decide (request.intentId = id)
  | _ => false

def Obs.isExecutionOf (id : IntentId) : Obs → Bool
  | .executed _ intent _ => decide (intent.id = id)
  | _ => false

def consultations (log : List Obs) (id : IntentId) : Nat := log.countP (isConsultationOf id)

def executions (log : List Obs) (id : IntentId) : Nat := log.countP (isExecutionOf id)

/-- The intent's consultation, if it ever comes, is still ahead: there is no record, or it is
pending, or its claimant has not called the channel yet. -/
def Unconsulted (s : FlowSystem) (id : IntentId) : Prop :=
  s.records.statusOf id = none ∨ s.records.statusOf id = some .pending ∨
    ∃ t request, s.callers t = .claimed id request

/-- The status says that `execute` was invoked. -/
def WasExecuted (s : FlowSystem) (id : IntentId) : Prop :=
  s.records.statusOf id = some .executed ∨ s.records.statusOf id = some .executionFailed

structure Counts (s : FlowSystem) : Prop where
  consulted_le : ∀ id, consultations s.log id ≤ 1
  /-- None before its time. -/
  unconsulted : ∀ id, Unconsulted s id → consultations s.log id = 0
  executed_le : ∀ id, executions s.log id ≤ 1
  /-- None that the status does not tell of. -/
  unexecuted : ∀ id, ¬ WasExecuted s id → executions s.log id = 0

section Counting

variable {X : Externals} {s s' : FlowSystem}

lemma Counts.of_uncounted (h : Counts s) (obs : List Obs) (hlog : s'.log = s.log ++ obs)
    (hcon : ∀ id, obs.countP (isConsultationOf id) = 0)
    (hexe : ∀ id, obs.countP (isExecutionOf id) = 0)
    (hback : ∀ id, Unconsulted s' id → Unconsulted s id)
    (hdone : ∀ id, ¬ WasExecuted s' id → ¬ WasExecuted s id) : Counts s' := by
  have hc : ∀ id, consultations s'.log id = consultations s.log id := by
    intro id
    simp [consultations, hlog, countP_append, hcon id]
  have he : ∀ id, executions s'.log id = executions s.log id := by
    intro id
    simp [executions, hlog, countP_append, hexe id]
  refine ⟨?_, ?_, ?_, ?_⟩
  · intro id
    rw [hc]
    exact h.consulted_le id
  · intro id hid
    rw [hc]
    exact h.unconsulted id (hback id hid)
  · intro id
    rw [he]
    exact h.executed_le id
  · intro id hid
    rw [he]
    exact h.unexecuted id (hdone id hid)

variable {t : Nat} {id : IntentId} {r : LinkedRecord} {st : IntentStatus}

variable {request : ApprovalRequest}

lemma claimed_of_update {callers : Nat → Phase} {t' : Nat} {phase : Phase}
    (hphase : ∀ req, phase ≠ .claimed id req)
    (h : update callers t phase t' = .claimed id request) :
    t' ≠ t ∧ callers t' = .claimed id request := by
  by_cases hne : t' = t
  · subst hne
    rw [update_self] at h
    exact absurd h (hphase request)
  · rw [update_of_ne hne] at h
    exact ⟨hne, h⟩

lemma unconsulted_of_setStatus (t : Nat) (st : IntentStatus)
    (phase : Phase) (hst : st ≠ .pending) (hphase : ∀ id' req, phase = .claimed id' req → id' = id)
    (hid : Unconsulted s id ∨ ((∀ req, phase ≠ .claimed id req) ∧
      ∀ t' req, t' ≠ t → s.callers t' ≠ .claimed id req))
    (hrec : s'.records = setStatus s.records id r st)
    (hcall : s'.callers = update s.callers t phase) (id' : IntentId)
    (h : Unconsulted s' id') : Unconsulted s id' := by
  unfold Unconsulted at h
  rw [hrec, hcall] at h
  by_cases hne : id' = id
  · subst hne
    rcases hid with hid | ⟨hleft, hothers⟩
    · exact hid
    rcases h with h | h | ⟨t', request, h⟩
    · simp at h
    · rw [statusOf_setStatus_self] at h
      exact absurd (Option.some.inj h) hst
    · obtain ⟨ht, h⟩ := claimed_of_update hleft h
      exact absurd h (hothers t' request ht)
  · rw [statusOf_setStatus_of_ne hne] at h
    rcases h with h | h | ⟨t', request, h⟩
    · exact .inl h
    · exact .inr (.inl h)
    · exact .inr (.inr ⟨t', request,
        (claimed_of_update (fun req hreq => hne (hphase id' req hreq)) h).2⟩)

lemma wasExecuted_setStatus
    (hid : ¬ WasExecuted s id) (hrec : s'.records = setStatus s.records id r st) (id' : IntentId)
    (h : ¬ WasExecuted s' id') : ¬ WasExecuted s id' := by
  by_cases hne : id' = id
  · exact hne ▸ hid
  · unfold WasExecuted at h ⊢
    rwa [hrec, statusOf_setStatus_of_ne hne] at h

lemma not_wasExecuted_of_statusOf
    (h : s.records.statusOf id = some st) (hst : st = .pending ∨ st = .inProgress) :
    ¬ WasExecuted s id := by
  rintro (h' | h') <;> rw [h] at h' <;> rcases hst with rfl | rfl <;> cases h'

lemma Ownership.no_other_claimed (h : Ownership s.records s.callers)
    (hheld : (s.callers t).holds = some id) (t' : Nat) (request : ApprovalRequest) (hne : t' ≠ t) :
    s.callers t' ≠ .claimed id request := by
  intro ht'
  exact hne (h.alone t' t id (by rw [ht']; rfl) hheld)

lemma Counts.consult (h : Counts s) (ho : Ownership s.records s.callers)
    (hphase : s.callers t = .claimed id request) :
    Counts ((s.moveTo t (.asking id)).observe [.consulted t request]) := by
  have hheld : (s.callers t).holds = some id := by rw [hphase]; rfl
  have hreq : request.intentId = id := ho.requests t id request hphase
  have hzero : consultations s.log id = 0 := h.unconsulted id (.inr (.inr ⟨t, request, hphase⟩))
  have hc (id' : IntentId) :
      consultations ((s.moveTo t (.asking id)).observe [.consulted t request]).log id' =
        consultations s.log id' + if id = id' then 1 else 0 := by
    simp [observe, moveTo, consultations, countP_append,
      countP_singleton, isConsultationOf, hreq]
  have he (id' : IntentId) :
      executions ((s.moveTo t (.asking id)).observe [.consulted t request]).log id' =
        executions s.log id' := by
    simp [observe, moveTo, executions, countP_append,
      isExecutionOf]
  refine ⟨?_, ?_, ?_, ?_⟩
  · intro id'
    have hle := h.consulted_le id'
    rw [hc]
    split_ifs with hid
    · subst hid
      omega
    · omega
  · intro id' hdue
    have hne : id ≠ id' := by
      -- the intent is in progress and its only owner has just called the channel
      rintro rfl
      have hst := ho.held t id hheld
      rcases hdue with hdue | hdue | ⟨t', request', hdue⟩
      · exact absurd (hst.symm.trans hdue) (by simp)
      · exact absurd (hst.symm.trans hdue) (by simp)
      · obtain ⟨hne, hdue⟩ := claimed_of_update (by simp) hdue
        exact ho.no_other_claimed hheld t' request' hne hdue
    rw [hc, if_neg hne]
    apply h.unconsulted
    rcases hdue with hdue | hdue | ⟨t', request', hdue⟩
    · exact .inl hdue
    · exact .inr (.inl hdue)
    · exact .inr (.inr ⟨t', request', (claimed_of_update (by simp) hdue).2⟩)
  · intro id'
    rw [he]
    exact h.executed_le id'
  · intro id' hid'
    rw [he]
    exact h.unexecuted id' hid'

lemma Counts.execute (h : Counts s) (ho : Ownership s.records s.callers)
    {decision : ApprovalDecision} {r' : LinkedRecord}
    {res : Except FlowError IntentStatus} (hphase : s.callers t = .decided id decision)
    (hr : s.records id = some r) (hst : st = .executed ∨ st = .executionFailed) :
    Counts (((s.withRecords (setStatus s.records id r' st)).moveTo t (.returned res)).observe
      [.executed t r.intent s.now]) := by
  have hheld : (s.callers t).holds = some id := by rw [hphase]; rfl
  have hid : r.intent.id = id := ho.keyed id r hr
  have hnot : ¬ WasExecuted s id :=
    not_wasExecuted_of_statusOf (ho.held t id hheld) (.inr rfl)
  have hzero := h.unexecuted id hnot
  have hc (id' : IntentId) :
      consultations (((s.withRecords (setStatus s.records id r' st)).moveTo t
        (.returned res)).observe [.executed t r.intent s.now]).log id' =
          consultations s.log id' := by
    simp [observe, moveTo, withRecords, consultations,
      countP_append, isConsultationOf]
  have he (id' : IntentId) :
      executions (((s.withRecords (setStatus s.records id r' st)).moveTo t
        (.returned res)).observe [.executed t r.intent s.now]).log id' =
          executions s.log id' + if id = id' then 1 else 0 := by
    simp [observe, moveTo, withRecords, executions,
      countP_append, countP_singleton, isExecutionOf, hid]
  have hback : ∀ id', Unconsulted (((s.withRecords (setStatus s.records id r' st)).moveTo t
      (.returned res)).observe [.executed t r.intent s.now]) id' → Unconsulted s id' :=
    unconsulted_of_setStatus t st (.returned res) (by rintro rfl; simp at hst)
      (by simp)
      (.inr ⟨by simp, ho.no_other_claimed hheld⟩) rfl rfl
  refine ⟨?_, ?_, ?_, ?_⟩
  · intro id'
    rw [hc]
    exact h.consulted_le id'
  · intro id' hdue
    rw [hc]
    exact h.unconsulted id' (hback id' hdue)
  · intro id'
    have hle := h.executed_le id'
    rw [he]
    split_ifs with heq
    · subst heq
      omega
    · omega
  · intro id' hid'
    have hne : id ≠ id' := by
      rintro rfl
      apply hid'
      show (setStatus s.records id r' st).statusOf id = _ ∨ _ = _
      rcases hst with rfl | rfl
      · exact .inl (statusOf_setStatus_self ..)
      · exact .inr (statusOf_setStatus_self ..)
    rw [he, if_neg hne]
    exact h.unexecuted id' (wasExecuted_setStatus hnot rfl id' hid')

lemma Counts.trans (h : Counts s) (ho : Ownership s.records s.callers) (ht : Trans X s s') :
    Counts s' := by
  cases ht with
  | quiet s' hlog hrec hcall =>
    have hback : ∀ id, Unconsulted s' id → Unconsulted s id := by
      intro id hdue
      unfold Unconsulted at hdue
      rw [hrec.statusOf_eq] at hdue
      rcases hdue with hdue | hdue | ⟨t, request, hdue⟩
      · exact .inl hdue
      · exact .inr (.inl hdue)
      rcases hcall t with heq | hnone
      · exact .inr (.inr ⟨t, request, heq ▸ hdue⟩)
      · rw [hdue] at hnone
        cases hnone
    have hdone : ∀ id, ¬ WasExecuted s' id → ¬ WasExecuted s id := by
      intro id hid
      unfold WasExecuted at hid
      rwa [hrec.statusOf_eq] at hid
    rcases hlog with hlog | ⟨t, id, a, hlog⟩
    · exact h.of_uncounted [] (by rw [hlog, append_nil]) (by simp) (by simp)
        hback hdone
    · exact h.of_uncounted _ hlog (by simp [isConsultationOf]) (by simp [isExecutionOf])
        hback hdone
  | inserted id r hnew hid hst =>
    have hother : ∀ id', id' ≠ id →
        (s.withRecords (update s.records id (some r))).records.statusOf id' =
          s.records.statusOf id' := by
      intro id' hne
      simp [withRecords, statusOf, update_of_ne hne]
    have hnone : s.records.statusOf id = none := by simp [statusOf, hnew]
    refine h.of_uncounted [] (append_nil _).symm (by simp) (by simp) ?_ ?_
    · intro id' hdue
      by_cases hne : id' = id
      · exact .inl (hne ▸ hnone)
      · unfold Unconsulted at hdue
        rwa [hother id' hne] at hdue
    · intro id' hid'
      by_cases hne : id' = id
      · rintro (h' | h') <;> rw [hne, hnone] at h' <;> cases h'
      · unfold WasExecuted at hid'
        rwa [hother id' hne] at hid'
  | refused t id r st res hphase hr hpend hst =>
    have hstat : s.records.statusOf id = some .pending := by
      rw [statusOf_of_eq_some hr, hpend]
    refine h.of_uncounted [] (append_nil _).symm (by simp) (by simp)
      (unconsulted_of_setStatus t st (.returned res) ?_ (by simp)
        (.inl (.inr (.inl hstat))) rfl rfl)
      (wasExecuted_setStatus (not_wasExecuted_of_statusOf hstat (.inl rfl)) rfl)
    rintro rfl
    simp at hst
  | claimed t id r hphase hr hpend hlive =>
    have hstat : s.records.statusOf id = some .pending := by
      rw [statusOf_of_eq_some hr, hpend]
    refine h.of_uncounted _ rfl (by simp [isConsultationOf]) (by simp [isExecutionOf])
      (unconsulted_of_setStatus t .inProgress _ (by simp) ?_ (.inl (.inr (.inl hstat))) rfl rfl)
      (wasExecuted_setStatus (not_wasExecuted_of_statusOf hstat (.inl rfl)) rfl)
    intro id' req heq
    cases heq
    rfl
  | consulted t id request hphase => exact h.consult ho hphase
  | answered t id decision hphase hid =>
    refine h.of_uncounted _ rfl (by simp [isConsultationOf]) (by simp [isExecutionOf]) ?_
      fun _ hid' => hid'
    intro id' hdue
    rcases hdue with hdue | hdue | ⟨t', request, hdue⟩
    · exact .inl hdue
    · exact .inr (.inl hdue)
    · exact .inr (.inr ⟨t', request, (claimed_of_update (by simp) hdue).2⟩)
  | settled t id decision r r' st res hphase hr hi hst =>
    have hheld : (s.callers t).holds = some id := by rw [hphase]; rfl
    refine h.of_uncounted [] (append_nil _).symm (by simp) (by simp)
      (unconsulted_of_setStatus t st (.returned res) ?_ (by simp)
        (.inr ⟨by simp, ho.no_other_claimed hheld⟩) rfl rfl)
      (wasExecuted_setStatus
        (not_wasExecuted_of_statusOf (ho.held t id hheld) (.inr rfl)) rfl)
    rintro rfl
    simp at hst
  | executed t id decision r r' st res hphase hr hi happ hlive hst =>
    exact h.execute ho hphase hr hst

end Counting

/-! ## Stories -/

def ClaimedLive (X : Externals) (i : Intent) (now : Nat) (id : IntentId) : Prop :=
  i.id = id ∧ i.Live X now

/-- What the log tells about a caller in a given phase. -/
def StorySoFar (X : Externals) (log : List Obs) (t : Nat) : Phase → Prop
  | .claimed id _ => ∃ i now, [.claimed t i now].Sublist log ∧ ClaimedLive X i now id
  | .asking id => ∃ i now request, [.claimed t i now, .consulted t request].Sublist log ∧
      ClaimedLive X i now id ∧ request.intentId = id
  | .decided id decision => ∃ i now request,
      [.claimed t i now, .consulted t request, .answered t id (.ok decision)].Sublist log ∧
        ClaimedLive X i now id ∧ request.intentId = id ∧ decision.intentId = id
  | .idle | .called _ | .returned _ => True

/-- **A justified execution.** The log holds, in this order, the claim of the intent by the same
caller while it was unexpired and unaltered, the consultation about it, an approving answer about
it, and the execution, made while the intent was still unexpired and unaltered. -/
def Justified (X : Externals) (log : List Obs) (t : Nat) (i : Intent) (now : Nat) : Prop :=
  ∃ i₀ now₀ request decision,
    [.claimed t i₀ now₀, .consulted t request, .answered t i.id (.ok decision),
      .executed t i now].Sublist log ∧
    i₀.id = i.id ∧ i₀.Live X now₀ ∧ request.intentId = i.id ∧ decision.intentId = i.id ∧
    decision.approved = true ∧ i.Live X now

structure Stories (X : Externals) (s : FlowSystem) : Prop where
  callers : ∀ t, StorySoFar X s.log t (s.callers t)
  executed : ∀ t i now, .executed t i now ∈ s.log → Justified X s.log t i now

section Telling

variable {X : Externals} {s s' : FlowSystem} {log obs : List Obs} {t : Nat}

variable {phase : Phase}

lemma StorySoFar.append (h : StorySoFar X log t phase) :
    StorySoFar X (log ++ obs) t phase := by
  have hsub : log.Sublist (log ++ obs) := sublist_append_left ..
  cases phase with
  | claimed id request =>
    obtain ⟨i, now, hl, hi⟩ := h
    exact ⟨i, now, hl.trans hsub, hi⟩
  | asking id =>
    obtain ⟨i, now, request, hl, hi⟩ := h
    exact ⟨i, now, request, hl.trans hsub, hi⟩
  | decided id decision =>
    obtain ⟨i, now, request, hl, hi⟩ := h
    exact ⟨i, now, request, hl.trans hsub, hi⟩
  | idle => trivial
  | called id => trivial
  | returned result => trivial

lemma Justified.append {i : Intent} {now : Nat} (h : Justified X log t i now) :
    Justified X (log ++ obs) t i now := by
  obtain ⟨i₀, now₀, request, decision, hl, hi⟩ := h
  exact ⟨i₀, now₀, request, decision, hl.trans (sublist_append_left ..), hi⟩

lemma storySoFar_of_holds_none (h : phase.holds = none) :
    StorySoFar X log t phase := by
  cases phase with
  | claimed id request => cases h
  | asking id => cases h
  | decided id decision => cases h
  | idle => trivial
  | called id => trivial
  | returned result => trivial

lemma storySoFar_update (h : Stories X s)
    (hphase : StorySoFar X (s.log ++ obs) t phase) (t' : Nat) :
    StorySoFar X (s.log ++ obs) t' (update s.callers t phase t') := by
  by_cases hne : t' = t
  · subst hne
    rw [update_self]
    exact hphase
  · rw [update_of_ne hne]
    exact (h.callers t').append

lemma Stories.of_append (h : Stories X s) (obs : List Obs) (hlog : s'.log = s.log ++ obs)
    (hcall : ∀ t, StorySoFar X (s.log ++ obs) t (s'.callers t))
    (hobs : ∀ t i now, .executed t i now ∈ obs → Justified X (s.log ++ obs) t i now) :
    Stories X s' := by
  refine ⟨by rw [hlog]; exact hcall, ?_⟩
  rw [hlog]
  intro t i now hmem
  rcases mem_append.mp hmem with hold | hnew
  · exact (h.executed t i now hold).append
  · exact hobs t i now hnew

lemma Stories.trans (h : Stories X s) (ho : Ownership s.records s.callers)
    (ht : Trans X s s') : Stories X s' := by
  cases ht with
  | quiet s' hlog hrec hcall =>
    have htell : ∀ obs t, StorySoFar X (s.log ++ obs) t (s'.callers t) := by
      intro obs t
      rcases hcall t with heq | hnone
      · rw [heq]
        exact (h.callers t).append
      · exact storySoFar_of_holds_none hnone
    rcases hlog with hlog | ⟨t, id, a, hlog⟩
    · exact h.of_append [] (by rw [hlog, append_nil]) (htell []) (by simp)
    · exact h.of_append _ hlog (htell _) (by simp)
  | inserted id r hnew hid hst => exact ⟨h.callers, h.executed⟩
  | refused t id r st res hphase hr hpend hst =>
    exact h.of_append [] (append_nil _).symm (storySoFar_update h trivial) (by simp)
  | claimed t id r hphase hr hpend hlive =>
    refine h.of_append _ rfl (storySoFar_update h ?_) (by simp)
    exact ⟨r.intent, s.now, sublist_append_right .., ho.keyed id r hr, hlive⟩
  | consulted t id request hphase =>
    refine h.of_append _ rfl (storySoFar_update h ?_) (by simp)
    have hpast := h.callers t
    rw [hphase] at hpast
    obtain ⟨i, now, hl, hi⟩ := hpast
    exact ⟨i, now, request, hl.append (.refl [Obs.consulted t request]), hi,
      ho.requests t id request hphase⟩
  | answered t id decision hphase hid =>
    refine h.of_append _ rfl (storySoFar_update h ?_) (by simp)
    have hpast := h.callers t
    rw [hphase] at hpast
    obtain ⟨i, now, request, hl, hi, hreq⟩ := hpast
    exact ⟨i, now, request, hl.append (.refl [Obs.answered t id (.ok decision)]), hi, hreq, hid⟩
  | settled t id decision r r' st res hphase hr hi hst =>
    exact h.of_append [] (append_nil _).symm (storySoFar_update h trivial) (by simp)
  | executed t id decision r r' st res hphase hr hi happ hlive hst =>
    refine h.of_append _ rfl (storySoFar_update h trivial) ?_
    -- the new execution ends the story of its caller
    intro t' i now hnew
    simp only [mem_singleton, Obs.executed.injEq] at hnew
    obtain ⟨rfl, rfl, rfl⟩ := hnew
    have hpast := h.callers t'
    rw [hphase] at hpast
    obtain ⟨i₀, now₀, request, hl, ⟨hi₀, hlive₀⟩, hreq, hdec⟩ := hpast
    have hid : r.intent.id = id := ho.keyed id r hr
    refine ⟨i₀, now₀, request, decision, ?_, by rw [hi₀, hid], hlive₀, by rw [hreq, hid],
      by rw [hdec, hid], happ, hlive⟩
    rw [hid]
    exact hl.append (.refl [Obs.executed t' r.intent s.now])

end Telling

/-! ## Terminal statuses -/

lemma terminal_trans {X : Externals} {s s' : FlowSystem} (ho : Ownership s.records s.callers)
    (ht : Trans X s s') {id : IntentId} {st : IntentStatus} (hterm : st.terminal = true)
    (hst : s.records.statusOf id = some st) : s'.records.statusOf id = some st := by
  -- an intent whose status a step sets was pending or in progress
  have hset : ∀ {id' : IntentId} {st' st'' : IntentStatus} {r : LinkedRecord},
      s.records.statusOf id' = some st' → st'.terminal = false →
      (setStatus s.records id' r st'').statusOf id = some st := by
    intro id' st' st'' r h' hst'
    have hne : id ≠ id' := by
      rintro rfl
      rw [hst] at h'
      cases h'
      rw [hterm] at hst'
      cases hst'
    rw [statusOf_setStatus_of_ne hne]
    exact hst
  cases ht with
  | quiet s' hlog hrec hcall =>
    rw [hrec.statusOf_eq]
    exact hst
  | inserted id' r hnew hid hpend =>
    have hne : id ≠ id' := by
      rintro rfl
      simp [statusOf, hnew] at hst
    show statusOf (update s.records id' (some r)) id = some st
    simpa [statusOf, update_of_ne hne] using hst
  | refused t id' r st' res hphase hr hpend hst' =>
    exact hset (statusOf_of_eq_some hr) (by rw [hpend]; rfl)
  | claimed t id' r hphase hr hpend hlive =>
    exact hset (statusOf_of_eq_some hr) (by rw [hpend]; rfl)
  | consulted t id' request hphase => exact hst
  | answered t id' decision hphase hid => exact hst
  | settled t id' decision r r' st' res hphase hr hi hst' =>
    exact hset (ho.held t id' (by rw [hphase]; rfl)) rfl
  | executed t id' decision r r' st' res hphase hr hi happ hlive hst' =>
    exact hset (ho.held t id' (by rw [hphase]; rfl)) rfl

/-! ## Runs -/

structure FlowInv (X : Externals) (s : FlowSystem) : Prop where
  ownership : Ownership s.records s.callers
  counts : Counts s
  stories : Stories X s

section Runs

variable {X : Externals} {policy : CapabilityPolicy}

variable (records : Records) (now : Nat) (id : IntentId)

lemma flowInv_init : FlowInv X (.init now) := by
  refine ⟨⟨?_, ?_, ?_, ?_⟩, ⟨?_, ?_, ?_, ?_⟩, ⟨?_, ?_⟩⟩
  · intro id r hr
    cases hr
  · intro t id ht
    cases ht
  · intro t t' id ht
    cases ht
  · intro t id request ht
    cases ht
  · intro id
    exact Nat.zero_le 1
  · intro id _
    rfl
  · intro id
    exact Nat.zero_le 1
  · intro id _
    rfl
  · intro t
    trivial
  · intro t i now' hmem
    cases hmem

variable {s : FlowSystem} {e : FlowEvent}

lemma FlowInv.step (h : FlowInv X s) (hfresh : FreshDraw s e) :
    FlowInv X (s.step X policy e) := by
  have ht : Trans X s (s.step X policy e) := step_trans hfresh
  exact ⟨h.ownership.trans ht, h.counts.trans h.ownership ht, h.stories.trans h.ownership ht⟩

lemma claim_records :
    (claim X records now id).2 = records ∨
      ∃ r st, records id = some r ∧ (claim X records now id).2 = setStatus records id r st := by
  unfold claim
  rcases hr : records id with _ | r
  · exact .inl rfl
  simp only
  split_ifs
  · exact .inl rfl
  · exact .inr ⟨r, _, rfl, rfl⟩
  · exact .inr ⟨r, _, rfl, rfl⟩
  · exact .inr ⟨r, _, rfl, rfl⟩

lemma finish_records (decision : ApprovalDecision) (outcome : Except String String) :
    (finish X records now id decision outcome).records = records ∨
      ∃ r r' st, records id = some r ∧
        (finish X records now id decision outcome).records = setStatus records id r' st := by
  unfold finish
  rcases hr : records id with _ | r
  · exact .inl rfl
  simp only
  split_ifs
  · exact .inr ⟨r, _, _, rfl, rfl⟩
  · exact .inr ⟨r, _, _, rfl, rfl⟩
  · exact .inr ⟨r, _, _, rfl, rfl⟩
  · exact .inr ⟨r, _, _, rfl, rfl⟩

lemma step_records_eq_none {id : IntentId}
    (hnone : s.records id = none) (hdraw : id ∉ draws [e]) :
    (s.step X policy e).records id = none := by
  -- setting a status touches a record that is there
  have hset : ∀ {id' : IntentId} {r r' : LinkedRecord} {st : IntentStatus},
      s.records id' = some r → setStatus s.records id' r' st id = none := by
    intro id' r r' st hr
    have hne : id ≠ id' := by
      rintro rfl
      rw [hnone] at hr
      cases hr
    simpa [setStatus, update_of_ne hne] using hnone
  cases e with
  | propose draw proposer capability ps expiry =>
    have hne : id ≠ draw := by simpa [draws] using hdraw
    have h := proposeWithExpiry_cases X policy s.records draw s.now proposer capability ps expiry
    show (proposeWithExpiry X policy s.records draw s.now proposer capability ps expiry).2 id =
      none
    rcases h with ⟨e, h⟩ | h
    · rw [h]
      exact hnone
    · rw [h]
      exact (update_of_ne hne _ _).trans hnone
  | call t id' =>
    simp only [FlowSystem.step]
    split <;> exact hnone
  | claim t =>
    simp only [FlowSystem.step]
    split
    · next id' hphase =>
        have hrec : (s.stepClaim X t id').records = (claim X s.records s.now id').2 := by
          unfold stepClaim
          rcases claim X s.records s.now id' with ⟨outcome, records⟩
          cases outcome <;> rfl
        rw [hrec]
        rcases claim_records (X := X) s.records s.now id' with h | ⟨r, st, hr, h⟩
        · rw [h]
          exact hnone
        · rw [h]
          exact hset hr
    · exact hnone
  | consult t =>
    simp only [FlowSystem.step]
    split <;> exact hnone
  | answer t answer =>
    simp only [FlowSystem.step]
    split
    · unfold stepAnswer
      split <;> exact hnone
    · exact hnone
  | finish t outcome =>
    simp only [FlowSystem.step]
    split
    · next id' decision hphase =>
        show (finish X s.records s.now id' decision outcome).records id = none
        rcases finish_records (X := X) s.records s.now id' decision outcome with
          h | ⟨r, r', st, hr, h⟩
        · rw [h]
          exact hnone
        · rw [h]
          exact hset hr
    · exact hnone
  | tick elapsed => exact hnone
  | tamper id' ps =>
    show tamperParameters s.records id' ps id = none
    rcases tamperParameters_similar s.records id' ps id with ⟨-, h⟩ | ⟨r, r', h, -⟩
    · exact h
    · rw [hnone] at h
      cases h

lemma draws_cons (e : FlowEvent) (es : List FlowEvent) :
    draws (e :: es) = draws [e] ++ draws es := by
  cases e <;> rfl

lemma guarded_of_nodup {es : List FlowEvent}
    (hnone : ∀ id ∈ draws es, s.records id = none) (hnodup : (draws es).Nodup) :
    Guarded (FlowSystem.step X policy) FreshDraw s es := by
  induction es generalizing s with
  | nil => trivial
  | cons e es ih =>
    rw [draws_cons] at hnone hnodup
    obtain ⟨-, hrest, hdisj⟩ := nodup_append.mp hnodup
    refine ⟨?_, ih ?_ hrest⟩
    · cases e with
      | propose draw proposer capability ps expiry => exact hnone draw (by simp [draws])
      | _ => trivial
    · intro id hid
      apply step_records_eq_none (hnone id (mem_append_right _ hid))
      intro hmem
      exact hdisj id hmem id hid rfl

/-- **Tier 2 actions execute at most once, and only with approval.** In every run of the flow,
whatever the interleaving at the locks, the answers of the channel, the passage of time and the
alteration of stored parameters: per intent, `execute` and the channel are invoked at most once;
every execution follows an approval of that very intent, with expiry and parameter hash in order
when it was claimed and when it was executed; and a terminal status is never left. The drawn ids are
assumed distinct. -/
theorem execute_at_most_once_and_only_approved (X : Externals) (policy : CapabilityPolicy)
    (now₀ : Nat) (es : List FlowEvent) (hdraws : (draws es).Nodup) :
    let flow := run (FlowSystem.step X policy) (.init now₀)
    (∀ id, executions (flow es).log id ≤ 1) ∧
    (∀ id, consultations (flow es).log id ≤ 1) ∧
    (∀ t i now, .executed t i now ∈ (flow es).log → Justified X (flow es).log t i now) ∧
    (∀ es₁ es₂ id r, es = es₁ ++ es₂ → (flow es₁).records id = some r → r.status.terminal = true →
      ∃ r', (flow es).records id = some r' ∧ r'.status = r.status) := by
  intro flow
  have hguard : Guarded (FlowSystem.step X policy) FreshDraw (.init now₀) es :=
    guarded_of_nodup (fun _ _ => rfl) hdraws
  have hinv : FlowInv X (flow es) :=
    run_invariant_of_guarded (fun _ _ h hfresh => h.step hfresh) (flowInv_init now₀) hguard
  refine ⟨hinv.counts.executed_le, hinv.counts.consulted_le, hinv.stories.executed, ?_⟩
  intro es₁ es₂ id r hsplit hr hterm
  subst hsplit
  obtain ⟨hguard₁, hguard₂⟩ := guarded_append.mp hguard
  have hinv₁ : FlowInv X (flow es₁) :=
    run_invariant_of_guarded (fun _ _ h hfresh => h.step hfresh) (flowInv_init now₀) hguard₁
  -- the status is carried along the rest of the run, together with the invariant
  have hrest := run_invariant_of_guarded
    (I := fun s => FlowInv X s ∧ s.records.statusOf id = some r.status)
    (fun s e h hfresh => ⟨h.1.step hfresh,
      terminal_trans h.1.ownership (step_trans hfresh) hterm h.2⟩)
    ⟨hinv₁, statusOf_of_eq_some hr⟩ hguard₂
  rw [← run_append] at hrest
  obtain ⟨r', hr', hst⟩ := Option.map_eq_some_iff.mp hrest.2
  exact ⟨r', hr', hst⟩

/-! A run with one intent, approved and executed. -/

/-- A policy with an empty protected-resource section. -/
def samplePolicy : CapabilityPolicy := ⟨fun _ => none, some []⟩

def sampleIntentId : IntentId := ⟨Vector.replicate 16 7⟩

/-- Propose, and have two callers decide: one approves and executes, the other comes too late. -/
def sampleRun : List FlowEvent :=
  [.propose sampleIntentId ⟨Vector.replicate 32 1⟩ ⟨"mock_destructive_action", fun _ => none⟩
      sampleParameters defaultExpiry,
    .call 0 sampleIntentId, .call 1 sampleIntentId, .claim 0, .claim 1, .consult 0, .tick 1000,
    .answer 0 (.ok ⟨sampleIntentId, true, "cli-prompt"⟩),
    .finish 0 (.ok "mock_destructive_action: flag flipped true")]

theorem sampleRun_executes_once :
    (draws sampleRun).Nodup ∧
      executions (run (FlowSystem.step sampleExternals samplePolicy) (.init 0) sampleRun).log
        sampleIntentId = 1 := by
  have hdraws : (draws sampleRun).Nodup := by decide
  refine ⟨hdraws, Nat.le_antisymm ?_ ?_⟩
  · exact (execute_at_most_once_and_only_approved sampleExternals samplePolicy 0 sampleRun
      hdraws).1 sampleIntentId
  · decide

end Runs

end AxiomCore
