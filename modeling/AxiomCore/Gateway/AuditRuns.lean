import AxiomCore.Gateway.AuditChain
import AxiomCore.Gateway.AuditReader

/-!
# Runs of the audit log

A log in use is its file and, while it is open, the writer's memory. A run is any list of logging
calls and reopenings; what the operating system does to each append is part of the call's event.

The two can disagree in one way only that matters: the next line lands behind something it must not
follow. `Healthy` says that it does not, `Spoilt` that it does, and each event leads from one to one
of them.

Source: `axiom-gateway/src/audit.rs`.
-/

namespace AxiomCore

open Lib List

/-! ## The system -/

structure LogSession where
  file : List UInt8
  /-- The open handle's memory; `none` when opening was refused. -/
  handle : Option WriterState
  /-- How many logging calls have returned `Ok`. -/
  succeeded : Nat

inductive LogEvent where
  /-- The handle is dropped and the file opened again. -/
  | reopen
  /-- A logging call at wall time `nowMs`. -/
  | call (c : LogCall) (nowMs : UInt64) (io : IoOutcome)

def LogSession.opened (A : AuditExternals) (file : List UInt8) : LogSession :=
  ⟨file, (openLog A file).toOption, 0⟩

def LogSession.step (A : AuditExternals) (l : LogSession) : LogEvent → LogSession
  | .reopen => { l with handle := (openLog A l.file).toOption }
  | .call c nowMs io =>
    match l.handle with
    | none => l
    | some w =>
      let r := logCall A w l.file c nowMs io
      ⟨r.file, some r.writer, l.succeeded + if r.result.isOk then 1 else 0⟩

/-- The operating system does not fail. -/
def LogEvent.undisturbed : LogEvent → Bool
  | .reopen => true
  | .call _ _ io => io = .done

def LogEvent.appends : LogEvent → Bool
  | .reopen => false
  | .call c _ io => c.args.isOk && io = .done

def LogEvent.leavesBytes : LogEvent → Bool
  | .reopen => false
  | .call c _ io => c.args.isOk && io ≠ .done && io ≠ .writeFails 0

variable {A : AuditExternals} {l : LogSession} {w : WriterState} {c : LogCall} {args : RecordArgs}
  {nowMs : UInt64} {io : IoOutcome} {file : List UInt8}

lemma step_call (hw : l.handle = some w) (hargs : c.args = .ok args) :
    l.step A (.call c nowMs io) =
      ⟨(record A w l.file args nowMs io).file, some (record A w l.file args nowMs io).writer,
        l.succeeded + if (record A w l.file args nowMs io).result.isOk then 1 else 0⟩ := by
  simp only [LogSession.step, hw, logCall, hargs]

lemma step_call_of_error {err : AuditLogError} (hw : l.handle = some w)
    (hargs : c.args = .error err) : l.step A (.call c nowMs io) = l := by
  obtain ⟨file, handle, succeeded⟩ := l
  obtain rfl : handle = some w := hw
  simp [LogSession.step, logCall, hargs, Except.isOk, Except.toBool]

lemma openLog_of_verifyChain (h : verifyChain A file = .ok w.chain) : openLog A file = .ok w := by
  rw [openLog, h]
  rfl

lemma opened_handle (h : verifyChain A file = .ok w.chain) :
    (LogSession.opened A file).handle = some w := by
  rw [LogSession.opened, openLog_of_verifyChain h]
  rfl

lemma verifyChain_append_line (hfile : Terminated file) (e : AuditEntry) {s' : ChainState} :
    verifyChain A (file ++ e.line) = .ok s' ↔
      ∃ s, verifyChain A file = .ok s ∧ verifyLine A s (utf8 e.toText) = .ok s' := by
  rw [verifyChain, lines_append_line_of_terminated hfile, walk_append_ok_iff]
  simp only [walk_singleton_ok_iff, verifyChain]

/-! ## A handle in step with its file -/

structure Healthy (A : AuditExternals) (w : WriterState) (file : List UInt8) : Prop where
  terminated : Terminated file
  verified : verifyChain A file = .ok w.chain

lemma Healthy.append_line (hA : LawfulFromStr A.fromStr) (h : Healthy A w file)
    (args : RecordArgs) (nowMs : UInt64) :
    Healthy A (w.advance A (args.entry A w nowMs)) (file ++ (args.entry A w nowMs).line) where
  terminated := terminated_append_line _ _
  verified := (verifyChain_append_line h.terminated _).mpr
    ⟨w.chain, h.verified, verifyLine_written hA args w nowMs⟩

lemma healthy_first_line (hA : LawfulFromStr A.fromStr) (e : AuditEntry)
    (he : e = args.entry A ⟨genesisHash, 0⟩ nowMs) :
    Healthy A (.advance A ⟨genesisHash, 0⟩ e) e.line := by
  subst he
  have hempty : Healthy A ⟨genesisHash, 0⟩ [] := ⟨.inl rfl, rfl⟩
  exact hempty.append_line hA args nowMs

lemma entriesOf_append_line (hA : LawfulFromStr A.fromStr) (hfile : Terminated file)
    (e : AuditEntry) : entriesOf A (file ++ e.line) = entriesOf A file ++ [e] := by
  have hparse : (parseLine A 0 (utf8 e.toText)).toOption = some e := by
    rw [parseLine_toText hA]
    rfl
  simp [entriesOf, lines_append_line_of_terminated hfile, filterMap_append, hparse]

/-- What a run without failures keeps, after `n` appends: the old entries, `n` new ones, and a
handle in step with the file. -/
structure Kept (A : AuditExternals) (file : List UInt8) (s : ChainState) (n : Nat)
    (l : LogSession) : Prop where
  inStep : ∃ w, l.handle = some w ∧ Healthy A w l.file ∧
    w.nextSequence = s.entries + UInt64.ofNat n
  succeeded : l.succeeded = n
  /-- The entries are the old ones and new ones. -/
  entries : ∃ new, entriesOf A l.file = entriesOf A file ++ new ∧ new.length = n

variable {s : ChainState} {n : Nat} {e : LogEvent} {es : List LogEvent}

lemma Kept.step (hA : LawfulFromStr A.fromStr)
    (h : Kept A file s n l) (he : e.undisturbed) :
    Kept A file s (if e.appends then n + 1 else n) (l.step A e) := by
  obtain ⟨w, hw, hhealthy, hnext⟩ := h.inStep
  obtain ⟨new, hnew, hlen⟩ := h.entries
  cases e with
  | reopen =>
    refine ⟨⟨w, ?_, hhealthy, hnext⟩, h.succeeded, h.entries⟩
    show (openLog A l.file).toOption = some w
    rw [openLog_of_verifyChain hhealthy.verified]
    rfl
  | call c nowMs io =>
    obtain rfl : io = .done := by simpa [LogEvent.undisturbed] using he
    rcases hargs : c.args with err | args
    · rw [step_call_of_error hw hargs]
      simpa [LogEvent.appends, hargs, Except.isOk, Except.toBool] using h
    rw [step_call hw hargs]
    have happ : (LogEvent.call c nowMs .done).appends = true := by
      simp [LogEvent.appends, hargs, Except.isOk, Except.toBool]
    rw [if_pos happ]
    refine ⟨⟨_, rfl, hhealthy.append_line hA args nowMs, ?_⟩, ?_, ?_⟩
    · show w.nextSequence + 1 = s.entries + UInt64.ofNat (n + 1)
      rw [hnext, UInt64.ofNat_add, UInt64.add_assoc]
      rfl
    · show l.succeeded + 1 = n + 1
      rw [h.succeeded]
    · refine ⟨new ++ [args.entry A w nowMs], ?_, by simp [hlen]⟩
      show entriesOf A (l.file ++ (args.entry A w nowMs).line) = _
      rw [entriesOf_append_line hA hhealthy.terminated, hnew, append_assoc]

lemma Kept.run (hA : LawfulFromStr A.fromStr)
    (h : Kept A file s n l) (hes : ∀ e ∈ es, e.undisturbed) :
    Kept A file s (n + es.countP LogEvent.appends) (Lib.run (LogSession.step A) l es) := by
  induction es generalizing l n with
  | nil => exact h
  | cons e es ih =>
    have hstep := h.step hA (hes e mem_cons_self)
    have hrun := ih hstep fun e' he' => hes e' (mem_cons_of_mem _ he')
    rw [run_cons, countP_cons]
    split_ifs at hrun ⊢
    · rwa [Nat.add_assoc, Nat.add_comm 1] at hrun
    · exact hrun

/-! ## A handle out of step -/

/-- The next line will be refused: it lands behind an unfinished line, or the file already has more
complete lines than the handle knows of. -/
inductive Spoilt (A : AuditExternals) (w : WriterState) (file : List UInt8) : Prop where
  /-- Behind the last newline there is something. -/
  | unfinished (g rest : List UInt8) (hfile : file = g ++ rest) (hg : Terminated g)
      (hrest : 10 ∉ rest) (hshape : run Shape.step .start rest ≠ .start)
  /-- The chain in the file, if it is one, does not end where the handle thinks. -/
  | astray (hfile : Terminated file)
      (hchain : ∀ s, verifyChain A file = .ok s → s.entries ≠ w.nextSequence)

lemma Spoilt.verifyChain_append_line (hA : LawfulFromStr A.fromStr) (h : Spoilt A w file)
    {e : AuditEntry} (he : e.sequence = w.nextSequence) (s' : ChainState) :
    verifyChain A (file ++ e.line) ≠ .ok s' := by
  intro hok
  cases h with
  | unfinished g rest hfile hg hrest hshape =>
    rw [hfile, verifyChain, lines_append_line hg hrest, walk_append_ok_iff] at hok
    obtain ⟨s, -, hlast⟩ := hok
    rw [walk_singleton_ok_iff] at hlast
    exact verifyLine_of_nonblank_front hA hshape e s s' hlast
  | astray hfile hchain =>
    obtain ⟨s, hs, hlast⟩ := (AxiomCore.verifyChain_append_line hfile e).mp hok
    apply verifyLine_written_of_ne hA _ hlast
    rw [he]
    exact hchain s hs

lemma spoilt_of_not_terminated (hA : LawfulFromStr A.fromStr)
    (hf : verifyChain A file = .ok s) (hterm : ¬ Terminated file) (w : WriterState) :
    Spoilt A w file := by
  obtain ⟨g, rest, rfl, hg, hrest⟩ := exists_terminated_append file
  have hne : rest ≠ [] := by
    rintro rfl
    exact hterm (by rwa [append_nil])
  refine .unfinished g rest rfl hg hrest ?_
  rw [verifyChain, lines_append_of_terminated hg, lines_of_no_newline hrest, if_neg hne,
    walk_append_ok_iff] at hf
  obtain ⟨t, -, hlast⟩ := hf
  rw [walk_singleton_ok_iff, verifyLine_ok_iff] at hlast
  obtain ⟨e, hparse, -⟩ := hlast
  rw [run_shape_of_parseLine hA hparse]
  exact nofun

/-! ## The file only grows -/

lemma file_prefix_step (l : LogSession) (e : LogEvent) : l.file <+: (l.step A e).file := by
  cases e with
  | reopen => exact prefix_rfl
  | call c nowMs io =>
    rcases hw : l.handle with _ | w
    · simp [LogSession.step, hw]
    rcases hargs : c.args with err | args
    · rw [step_call_of_error hw hargs]
    rw [step_call hw hargs]
    cases io with
    | done => exact prefix_append _ _
    | writeFails k => exact prefix_append _ _
    | syncFails => exact prefix_append _ _

lemma file_prefix_run (l : LogSession) (es : List LogEvent) :
    l.file <+: (run (LogSession.step A) l es).file :=
  run_invariant (I := fun l' => l.file <+: l'.file)
    (fun l' e h => h.trans (file_prefix_step l' e)) prefix_rfl es

lemma verifyChain_prefix {f g : List UInt8} (hf : Terminated f) (hgrown : f <+: g)
    (hg : verifyChain A g = .ok s) : ∃ t, verifyChain A f = .ok t := by
  obtain ⟨more, rfl⟩ := hgrown
  rw [verifyChain, lines_append_of_terminated hf, walk_append_ok_iff] at hg
  obtain ⟨t, ht, -⟩ := hg
  exact ⟨t, ht⟩

/-! ## Runs without failures -/

lemma LogEvent.appends_iff :
    e.appends ↔ ∃ c nowMs args, e = .call c nowMs .done ∧ c.args = .ok args := by
  cases e with
  | reopen => simp [LogEvent.appends]
  | call c nowMs io =>
    rcases hargs : c.args with err | args
    · simp [LogEvent.appends, hargs, Except.isOk, Except.toBool]
    · simp [LogEvent.appends, hargs, Except.isOk, Except.toBool]

lemma step_of_not_appends (hf : verifyChain A l.file = .ok w.chain)
    (hw : l.handle = some w) (he : e.undisturbed)
    (happ : ¬ e.appends) : l.step A e = l := by
  cases e with
  | reopen =>
    obtain ⟨file, handle, succeeded⟩ := l
    simp only at hw hf
    simp [LogSession.step, openLog_of_verifyChain hf, hw, Except.toOption]
  | call c nowMs io =>
    obtain rfl : io = .done := by simpa [LogEvent.undisturbed] using he
    rcases hargs : c.args with err | args
    · exact step_call_of_error hw hargs
    · exact absurd (LogEvent.appends_iff.mpr ⟨c, nowMs, args, rfl, hargs⟩) happ

lemma not_verified_of_append (hA : LawfulFromStr A.fromStr)
    (hf : verifyChain A l.file = .ok w.chain) (hterm : ¬ Terminated l.file)
    (hw : l.handle = some w)
    (hes : ∀ e ∈ es, e.undisturbed) (happ : ∃ e ∈ es, e.appends) (s' : ChainState) :
    verifyChain A (run (LogSession.step A) l es).file ≠ .ok s' := by
  -- by induction up to the first append; everything before it leaves the log as it is
  induction es with
  | nil => simp at happ
  | cons e es ih =>
    by_cases he : e.appends
    · obtain ⟨c, nowMs, args, rfl, hargs⟩ := LogEvent.appends_iff.mp he
      intro hok
      have hstep : (l.step A (.call c nowMs .done)).file =
          l.file ++ (args.entry A w nowMs).line := by
        rw [step_call hw hargs]
        rfl
      have hgrown := file_prefix_run (A := A) (l.step A (.call c nowMs .done)) es
      rw [hstep] at hgrown
      obtain ⟨t, ht⟩ := verifyChain_prefix (terminated_append_line _ _) hgrown hok
      have hspoilt := spoilt_of_not_terminated hA hf hterm w
      exact hspoilt.verifyChain_append_line hA rfl t ht
    · rw [run_cons, step_of_not_appends hf hw (hes e mem_cons_self) he]
      apply ih fun e' he' => hes e' (mem_cons_of_mem _ he')
      simpa [he] using happ

lemma run_of_no_appends (hf : verifyChain A l.file = .ok w.chain)
    (hw : l.handle = some w)
    (hes : ∀ e ∈ es, e.undisturbed) (happ : ∀ e ∈ es, ¬ e.appends) :
    run (LogSession.step A) l es = l := by
  induction es with
  | nil => rfl
  | cons e es ih =>
    rw [run_cons,
      step_of_not_appends hf hw (hes e mem_cons_self) (happ e mem_cons_self)]
    exact ih (fun e' he' => hes e' (mem_cons_of_mem _ he'))
      fun e' he' => happ e' (mem_cons_of_mem _ he')

/-- **The chain stays verifiable exactly if the file that was opened ends with a newline.** For
every file that verifies and every run without I/O failure, of `k` calls that log something and any
reopenings: all calls succeed and the file verifies with the old entries and `k` more, if and only
if it was empty or ended with a newline (or nothing was appended). Otherwise the first line written
is glued to the last one. -/
theorem stays_verifiable_iff_terminated (hA : LawfulFromStr A.fromStr) {s : ChainState}
    (hf : verifyChain A file = .ok s) (es : List LogEvent) (hes : ∀ e ∈ es, e.undisturbed) :
    ((run (LogSession.step A) (.opened A file) es).succeeded = es.countP LogEvent.appends ∧
      (∃ s', verifyChain A (run (LogSession.step A) (.opened A file) es).file = .ok s' ∧
        s'.entries = s.entries + UInt64.ofNat (es.countP LogEvent.appends)) ∧
      ∃ new, entriesOf A (run (LogSession.step A) (.opened A file) es).file =
        entriesOf A file ++ new ∧ new.length = es.countP LogEvent.appends) ↔
      (Terminated file ∨ ∀ e ∈ es, ¬ e.appends) := by
  obtain ⟨w, rfl⟩ : ∃ w : WriterState, w.chain = s := ⟨⟨s.lastHash, s.entries⟩, rfl⟩
  have hw := opened_handle hf
  constructor
  · rintro ⟨-, ⟨s', hs', -⟩, -⟩
    by_contra hnot
    push Not at hnot
    exact not_verified_of_append hA hf hnot.1 hw hes hnot.2 s' hs'
  · rintro (hterm | hnone)
    · have hstart : Kept A file w.chain 0 (.opened A file) := by
        refine ⟨⟨_, hw, ⟨hterm, hf⟩, ?_⟩, rfl, [], by simp [LogSession.opened], rfl⟩
        simp [WriterState.chain]
      have hkept := hstart.run hA hes
      rw [Nat.zero_add] at hkept
      obtain ⟨w', -, hhealthy, hnext⟩ := hkept.inStep
      exact ⟨hkept.succeeded, ⟨w'.chain, hhealthy.verified, hnext⟩, hkept.entries⟩
    · have hcount : es.countP LogEvent.appends = 0 := by
        rw [countP_eq_zero]
        exact hnone
      rw [run_of_no_appends hf hw hes hnone, hcount]
      exact ⟨rfl, ⟨w.chain, hf, by simp⟩, [], by simp [LogSession.opened], rfl⟩

theorem terminated_log_stays_verifiable :
    ∃ s', verifyChain sampleAudit (run (LogSession.step sampleAudit)
        (.opened sampleAudit sampleEntry.line) [.call sampleCall 1700000000000 .done, .reopen,
          .call sampleCall 1700000000000 .done]).file = .ok s' ∧ s'.entries = 3 := by
  have hhealthy := healthy_first_line (A := sampleAudit) lawful_readEntry sampleEntry rfl
  obtain ⟨-, ⟨s', hs', hcount⟩, -⟩ :=
    (stays_verifiable_iff_terminated (A := sampleAudit) lawful_readEntry hhealthy.verified
      [.call sampleCall 1700000000000 .done, .reopen, .call sampleCall 1700000000000 .done]
      (by simp [LogEvent.undisturbed])).mpr (.inl hhealthy.terminated)
  refine ⟨s', hs', hcount.trans ?_⟩
  show (0 + 1 : UInt64) + UInt64.ofNat 2 = 3
  rfl

lemma append_behind_unterminated_entry (hA : LawfulFromStr A.fromStr) (hargs : c.args = .ok args)
    (e : AuditEntry) (he : e = args.entry A ⟨genesisHash, 0⟩ nowMs) :
    (∃ s, verifyChain A (utf8 e.toText) = .ok s ∧ s.entries = 1) ∧
      (run (LogSession.step A) (.opened A (utf8 e.toText)) [.call c nowMs .done]).succeeded = 1 ∧
      ∀ s', verifyChain A (run (LogSession.step A) (.opened A (utf8 e.toText))
        [.call c nowMs .done]).file ≠ .ok s' := by
  have hne : utf8 e.toText ≠ [] := by
    obtain ⟨tail, htail⟩ := exists_utf8_toText e
    rw [htail]
    exact cons_ne_nil _ _
  have hok : verifyChain A (utf8 e.toText) =
      .ok (WriterState.advance A ⟨genesisHash, 0⟩ e).chain := by
    rw [verifyChain, lines_of_no_newline (newline_not_mem_toText _), if_neg hne,
      walk_singleton_ok_iff, he]
    exact verifyLine_written hA args ⟨genesisHash, 0⟩ nowMs
  have hterm : ¬ Terminated (utf8 e.toText) := by
    rintro (h | h)
    · exact hne h
    · exact newline_not_mem_toText _ (mem_of_getLast? h)
  have hw := opened_handle hok
  refine ⟨⟨_, hok, rfl⟩, ?_, ?_⟩
  · rw [run_cons, run_nil, step_call hw hargs]
    rfl
  · apply not_verified_of_append hA hok hterm hw
    · simp [LogEvent.undisturbed]
    · exact ⟨_, mem_singleton_self _, LogEvent.appends_iff.mpr ⟨c, nowMs, args, rfl, hargs⟩⟩

/-- **A verifiable log that one call breaks.** The last newline is missing, as after a crash between
the two writes of a line, or an edit. The log opens with one entry, the next call succeeds, and the
file does not verify any more. -/
theorem unterminated_log_breaks :
    (∃ s, verifyChain sampleAudit (utf8 sampleEntry.toText) = .ok s ∧ s.entries = 1) ∧
      (run (LogSession.step sampleAudit) (.opened sampleAudit (utf8 sampleEntry.toText))
        [.call sampleCall 1700000000000 .done]).succeeded = 1 ∧
      ∀ s', verifyChain sampleAudit (run (LogSession.step sampleAudit)
        (.opened sampleAudit (utf8 sampleEntry.toText))
        [.call sampleCall 1700000000000 .done]).file ≠ .ok s' :=
  append_behind_unterminated_entry lawful_readEntry
    (show sampleCall.args = .ok sampleArgs from rfl) sampleEntry rfl

end AxiomCore
