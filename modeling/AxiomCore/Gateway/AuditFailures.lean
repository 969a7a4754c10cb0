import AxiomCore.Gateway.AuditRuns

/-!
# Failed appends

`record` writes the line, syncs, and only then advances the writer's memory; when the write or the
sync fails it returns, and what has reached the file stays there. The next call writes the same
sequence number again, behind whatever is there.
-/

namespace AxiomCore

open Lib LogEvent List

variable {A : AuditExternals} {l : LogSession} {w : WriterState} {c : LogCall} {args : RecordArgs}
  {nowMs : UInt64} {io : IoOutcome} {file : List UInt8}

/-! ## Pieces of a line -/

variable {e : AuditEntry} {k : Nat} {es : List LogEvent} {last : LogEvent}

lemma take_line (hk : k < e.line.length) :
    e.line.take k = (utf8 e.toText).take k := by
  rw [AuditEntry.line, length_append, length_singleton] at hk
  rw [AuditEntry.line, take_append_of_le_length (by omega)]

lemma newline_not_mem_take (hk : k < e.line.length) :
    10 ∉ e.line.take k := by
  rw [take_line hk]
  exact fun h => newline_not_mem_toText e (mem_of_mem_take h)

lemma spoilt_of_part (hfile : Terminated file) (hpos : 0 < k)
    (hk : k < e.line.length) : Spoilt A w (file ++ e.line.take k) := by
  refine .unfinished file _ rfl hfile (newline_not_mem_take hk) ?_
  obtain ⟨tail, htail⟩ := exists_utf8_toText e
  obtain ⟨k, rfl⟩ : ∃ j, k = j + 1 := ⟨k - 1, by omega⟩
  rw [take_line hk, htail, take_succ_cons, run_cons]
  apply run_ne_start
  exact nofun

lemma Spoilt.append_part (h : Spoilt A w file)
    (hk : k < e.line.length) : Spoilt A w (file ++ e.line.take k) := by
  cases h with
  | unfinished g rest hfile hg hrest hshape =>
    refine .unfinished g (rest ++ e.line.take k) (by rw [hfile, append_assoc]) hg ?_ ?_
    · rw [mem_append]
      exact fun h => h.elim hrest (newline_not_mem_take hk)
    · rw [run_append]
      exact run_ne_start hshape _
  | astray hfile hchain =>
    rcases Nat.eq_zero_or_pos k with rfl | hpos
    · rw [take_zero, append_nil]
      exact .astray hfile hchain
    · exact spoilt_of_part hfile hpos hk

lemma Spoilt.append_line (hA : LawfulFromStr A.fromStr) (h : Spoilt A w file)
    (he : e.sequence = w.nextSequence) (w' : WriterState) : Spoilt A w' (file ++ e.line) :=
  .astray (terminated_append_line _ _)
    fun s hs => absurd hs (h.verifyChain_append_line hA he s)

lemma Healthy.spoilt_of_unrecorded (hA : LawfulFromStr A.fromStr) (h : Healthy A w file)
    (args : RecordArgs) (nowMs : UInt64) :
    Spoilt A w (file ++ (args.entry A w nowMs).line) := by
  refine .astray (terminated_append_line _ _) fun s hs => ?_
  have hok := (h.append_line hA args nowMs).verified
  rw [hok, Except.ok.injEq] at hs
  subst hs
  show w.nextSequence + 1 ≠ w.nextSequence
  simp

/-! ## One call -/

/-- The handle is open and in step with the file. -/
def InStep (A : AuditExternals) (l : LogSession) : Prop :=
  ∃ w, l.handle = some w ∧ Healthy A w l.file

/-- The handle is open and out of step with the file. -/
def OutOfStep (A : AuditExternals) (l : LogSession) : Prop :=
  ∃ w, l.handle = some w ∧ Spoilt A w l.file

lemma InStep.step (hA : LawfulFromStr A.fromStr) (h : InStep A l) (c : LogCall) (nowMs : UInt64)
    (io : IoOutcome) :
    if (LogEvent.call c nowMs io).leavesBytes then OutOfStep A (l.step A (.call c nowMs io))
    else InStep A (l.step A (.call c nowMs io)) := by
  obtain ⟨w, hw, hhealthy⟩ := h
  rcases hargs : c.args with err | args
  · rw [step_call_of_error hw hargs, if_neg]
    · exact ⟨w, hw, hhealthy⟩
    · simp [leavesBytes, hargs, Except.isOk, Except.toBool]
  rw [step_call hw hargs]
  have hok : c.args.isOk = true := by
    rw [hargs]
    rfl
  cases io with
  | done =>
    rw [if_neg (by simp [leavesBytes])]
    exact ⟨_, rfl, hhealthy.append_line hA args nowMs⟩
  | syncFails =>
    rw [if_pos (by simp [leavesBytes, hok])]
    exact ⟨w, rfl, hhealthy.spoilt_of_unrecorded hA args nowMs⟩
  | writeFails k =>
    rcases Nat.eq_zero_or_pos k with rfl | hpos
    · rw [if_neg (by simp [leavesBytes])]
      refine ⟨w, rfl, ?_⟩
      show Healthy A w (l.file ++ _)
      rwa [take_zero, append_nil]
    rw [if_pos (by simp [leavesBytes, hok, hpos.ne'])]
    refine ⟨w, rfl, ?_⟩
    show Spoilt A w (l.file ++ (args.entry A w nowMs).line.take k)
    by_cases hk : k < (args.entry A w nowMs).line.length
    · exact spoilt_of_part hhealthy.terminated hpos hk
    · rw [take_of_length_le (by omega)]
      exact hhealthy.spoilt_of_unrecorded hA args nowMs

lemma OutOfStep.step (hA : LawfulFromStr A.fromStr) (h : OutOfStep A l) (c : LogCall)
    (nowMs : UInt64) (io : IoOutcome) : OutOfStep A (l.step A (.call c nowMs io)) := by
  obtain ⟨w, hw, hspoilt⟩ := h
  rcases hargs : c.args with err | args
  · rw [step_call_of_error hw hargs]
    exact ⟨w, hw, hspoilt⟩
  rw [step_call hw hargs]
  cases io with
  | done => exact ⟨_, rfl, hspoilt.append_line hA rfl _⟩
  | syncFails => exact ⟨w, rfl, hspoilt.append_line hA rfl w⟩
  | writeFails k =>
    refine ⟨w, rfl, ?_⟩
    show Spoilt A w (l.file ++ (args.entry A w nowMs).line.take k)
    by_cases hk : k < (args.entry A w nowMs).line.length
    · exact hspoilt.append_part hk
    · rw [take_of_length_le (by omega)]
      exact hspoilt.append_line hA rfl w

/-! ## Runs -/

lemma OutOfStep.run (hA : LawfulFromStr A.fromStr) (h : OutOfStep A l)
    (hes : ∀ e ∈ es, e ≠ .reopen) : OutOfStep A (Lib.run (LogSession.step A) l es) := by
  induction es generalizing l with
  | nil => exact h
  | cons e es ih =>
    have hrest : ∀ e' ∈ es, e' ≠ .reopen := fun e' he' => hes e' (mem_cons_of_mem _ he')
    cases e with
    | reopen => exact absurd rfl (hes _ mem_cons_self)
    | call c nowMs io => exact ih (h.step hA c nowMs io) hrest

lemma InStep.run (hA : LawfulFromStr A.fromStr) (h : InStep A l)
    (hes : ∀ e ∈ es, e ≠ .reopen) :
    ((∀ e ∈ es, ¬ e.leavesBytes) ∧ InStep A (Lib.run (LogSession.step A) l es)) ∨
      ((∃ e ∈ es, e.leavesBytes) ∧ OutOfStep A (Lib.run (LogSession.step A) l es)) := by
  induction es generalizing l with
  | nil => exact .inl ⟨by simp, h⟩
  | cons e es ih =>
    have hrest : ∀ e' ∈ es, e' ≠ .reopen := fun e' he' => hes e' (mem_cons_of_mem _ he')
    cases e with
    | reopen => exact absurd rfl (hes _ mem_cons_self)
    | call c nowMs io =>
      have hstep := h.step hA c nowMs io
      rw [run_cons]
      split_ifs at hstep with hbytes
      · exact .inr ⟨⟨_, mem_cons_self, hbytes⟩, hstep.run hA hrest⟩
      rcases ih hstep hrest with ⟨hnone, hin⟩ | ⟨⟨e', he', hbad⟩, hout⟩
      · exact .inl ⟨forall_mem_cons.mpr ⟨hbytes, hnone⟩, hin⟩
      · exact .inr ⟨⟨e', mem_cons_of_mem _ he', hbad⟩, hout⟩

lemma InStep.verifyChain_of_appends (hA : LawfulFromStr A.fromStr) (h : InStep A l)
    (hlast : last.appends) :
    ∃ s', verifyChain A (l.step A last).file = .ok s' := by
  obtain ⟨c, nowMs, args, rfl, hargs⟩ := appends_iff.mp hlast
  obtain ⟨w, hw, hhealthy⟩ := h
  rw [step_call hw hargs]
  exact ⟨_, (hhealthy.append_line hA args nowMs).verified⟩

lemma OutOfStep.verifyChain_of_appends (hA : LawfulFromStr A.fromStr) (h : OutOfStep A l)
    (hlast : last.appends) (s' : ChainState) :
    verifyChain A (l.step A last).file ≠ .ok s' := by
  obtain ⟨c, nowMs, args, rfl, hargs⟩ := appends_iff.mp hlast
  obtain ⟨w, hw, hspoilt⟩ := h
  rw [step_call hw hargs]
  exact hspoilt.verifyChain_append_line hA rfl s'

/-- **A failed append poisons the log exactly if it left bytes.** For every file that verifies,
opened, and every run of logging calls on that handle, with any I/O failures: the next append that
succeeds leaves a file that verifies if and only if the file ended with a newline when it was opened
and every append that failed did so before its first byte was written. -/
theorem verifies_after_failures_iff (hA : LawfulFromStr A.fromStr) {s : ChainState}
    (hf : verifyChain A file = .ok s) (es : List LogEvent) (hes : ∀ e ∈ es, e ≠ .reopen)
    (last : LogEvent) (hlast : last.appends) :
    (∃ s', verifyChain A (run (LogSession.step A) (.opened A file) (es ++ [last])).file = .ok s') ↔
      Terminated file ∧ ∀ e ∈ es, ¬ e.leavesBytes := by
  obtain ⟨w, rfl⟩ : ∃ w : WriterState, w.chain = s := ⟨⟨s.lastHash, s.entries⟩, rfl⟩
  have hw := opened_handle hf
  rw [run_append, run_cons, run_nil]
  by_cases hterm : Terminated file
  · have hstart : InStep A (.opened A file) := ⟨w, hw, hterm, hf⟩
    rcases hstart.run hA hes with ⟨hnone, hin⟩ | ⟨⟨e, he, hbad⟩, hout⟩
    · exact iff_of_true (hin.verifyChain_of_appends hA hlast) ⟨hterm, hnone⟩
    apply iff_of_false
    · rintro ⟨s', hs'⟩
      exact hout.verifyChain_of_appends hA hlast s' hs'
    · exact fun h => h.2 e he hbad
  · have hstart : OutOfStep A (.opened A file) := ⟨w, hw, spoilt_of_not_terminated hA hf hterm w⟩
    apply iff_of_false
    · rintro ⟨s', hs'⟩
      exact (hstart.run hA hes).verifyChain_of_appends hA hlast s' hs'
    · exact fun h => hterm h.1

theorem refused_write_is_harmless :
    ∃ s', verifyChain sampleAudit (run (LogSession.step sampleAudit) (.opened sampleAudit [])
      ([.call sampleCall 1700000000000 (.writeFails 0)] ++
        [.call sampleCall 1700000000000 .done])).file = .ok s' := by
  have hempty : verifyChain sampleAudit [] = .ok .initial := rfl
  refine (verifies_after_failures_iff (A := sampleAudit) lawful_readEntry hempty
    [.call sampleCall 1700000000000 (.writeFails 0)] ?_ (.call sampleCall 1700000000000 .done)
    ?_).mpr ⟨.inl rfl, ?_⟩
  · simp
  · exact appends_iff.mpr ⟨_, _, sampleArgs, rfl, rfl⟩
  · simp [leavesBytes]

/-- **A failed sync breaks the log.** The file is empty and verifies. The first call's line reaches
the file, its sync fails and it returns an error; the second call succeeds. The file then holds two
entries with sequence number 0. -/
theorem failed_sync_breaks_the_log :
    verifyChain sampleAudit [] = .ok .initial ∧
      (run (LogSession.step sampleAudit) (.opened sampleAudit [])
        [.call sampleCall 1700000000000 .syncFails]).succeeded = 0 ∧
      (run (LogSession.step sampleAudit) (.opened sampleAudit [])
        [.call sampleCall 1700000000000 .syncFails,
          .call sampleCall 1700000000000 .done]).succeeded = 1 ∧
      ∀ s', verifyChain sampleAudit (run (LogSession.step sampleAudit) (.opened sampleAudit [])
        [.call sampleCall 1700000000000 .syncFails,
          .call sampleCall 1700000000000 .done]).file ≠ .ok s' := by
  refine ⟨rfl, rfl, rfl, ?_⟩
  intro s'
  have hstart : InStep sampleAudit (.opened sampleAudit []) :=
    ⟨⟨genesisHash, 0⟩, rfl, .inl rfl, rfl⟩
  have hout := hstart.step lawful_readEntry sampleCall 1700000000000 .syncFails
  rw [if_pos (by rfl)] at hout
  exact hout.verifyChain_of_appends lawful_readEntry
    (appends_iff.mpr ⟨_, _, sampleArgs, rfl, rfl⟩) s'

end AxiomCore
