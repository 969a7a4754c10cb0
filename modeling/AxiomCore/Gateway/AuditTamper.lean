import AxiomCore.Gateway.AuditRuns

/-!
# Tamper evidence

Two log files that verify with the same end hold the same entries: the last hash determines the
last entry's content, which holds the hash of the entry before. BLAKE3 is assumed not to collide on
the contents of the two files at hand; that serialisation is injective is proved (`toVec_inj`).
-/

namespace AxiomCore

open Lib

/-- A file, with fewer lines than a `u64` can count. -/
structure LogFile where
  bytes : List UInt8
  /-- Fewer than `2 ^ 64` lines. -/
  short : (lines bytes).length < 2 ^ 64

/-- BLAKE3 does not collide on the contents of two lists of entries. Source: crate `blake3`
(documentation). -/
def CollisionFree (A : AuditExternals) (es es' : List AuditEntry) : Prop :=
  ∀ e ∈ es, ∀ e' ∈ es', A.blake3 e.toVec = A.blake3 e'.toVec → e.toVec = e'.toVec

structure SameButCase (e e' : AuditEntry) : Prop where
  content : e.toHashableContent = e'.toHashableContent
  entryHash : (utf8 e.entryHash).map asciiLower = (utf8 e'.entryHash).map asciiLower

variable {A : AuditExternals}

lemma hexDecode_of_decodeHash {s : String} {d : Digest} (h : decodeHash s = some d) :
    hexDecode s = some d.toList := by
  unfold decodeHash at h
  split at h
  · exact absurd h (by simp)
  rename_i bs hbs
  split_ifs at h with hlen
  rw [hbs, ← Option.some.inj h]
  simp [Vector.toList]

variable {file line f g : List UInt8} {s s' : ChainState}

lemma mem_entriesOf {i : UInt64} {e : AuditEntry} (hline : line ∈ lines file)
    (hparse : parseLine A i line = .ok e) : e ∈ entriesOf A file := by
  have hparse' : parseLine A 0 line = .ok e := parseLine_ok_iff.mpr (parseLine_ok_iff.mp hparse)
  rw [entriesOf, List.mem_filterMap]
  exact ⟨line, hline, by rw [hparse']; rfl⟩

def SameLine (A : AuditExternals) (line line' : List UInt8) : Prop :=
  ∃ e e', (parseLine A 0 line).toOption = some e ∧ (parseLine A 0 line').toOption = some e' ∧
    SameButCase e e'

lemma verifyLine_backward {line' : List UInt8}
    (hfree : CollisionFree A (entriesOf A f) (entriesOf A g)) {t t' v v' : ChainState}
    (h : verifyLine A t line = .ok v) (h' : verifyLine A t' line' = .ok v')
    (hlast : v.lastHash = v'.lastHash) (hline : line ∈ lines f) (hline' : line' ∈ lines g) :
    t = t' ∧ v = v' ∧ SameLine A line line' := by
  obtain ⟨e, hparse, hcheck⟩ := verifyLine_ok_iff.mp h
  obtain ⟨e', hparse', hcheck'⟩ := verifyLine_ok_iff.mp h'
  obtain ⟨hentry, hhash, hprev, hseq, hnext⟩ := checkEntry_ok_iff.mp hcheck
  obtain ⟨hentry', hhash', hprev', hseq', hnext'⟩ := checkEntry_ok_iff.mp hcheck'
  have hcontent : e.toHashableContent = e'.toHashableContent := by
    apply toVec_inj
    apply hfree e (mem_entriesOf hline hparse) e' (mem_entriesOf hline' hparse')
    exact hhash.trans (hlast.trans hhash'.symm)
  have hcase : (utf8 e.entryHash).map asciiLower = (utf8 e'.entryHash).map asciiLower := by
    rw [hlast] at hentry
    exact hexDecodeBytes_eq_lower (hexDecode_of_decodeHash hentry) (hexDecode_of_decodeHash hentry')
  have hentries : t.entries = t'.entries := by
    rw [← hseq, ← hseq', hcontent]
  have hlast' : t.lastHash = t'.lastHash := by
    rw [hcontent, hprev'] at hprev
    exact (Option.some.inj hprev).symm
  refine ⟨?_, ?_, e, e', ?_, ?_, hcontent, hcase⟩
  · cases t
    cases t'
    exact congrArg₂ ChainState.mk hentries hlast'
  · rw [hentries, ← hnext'] at hnext
    cases v
    cases v'
    exact congrArg₂ ChainState.mk hnext hlast
  · rw [parseLine_ok_iff.mpr (parseLine_ok_iff.mp hparse)]
    rfl
  · rw [parseLine_ok_iff.mpr (parseLine_ok_iff.mp hparse')]
    rfl

lemma forall₂_entries {ls ls' : List (List UInt8)} (h : List.Forall₂ (SameLine A) ls ls') :
    List.Forall₂ SameButCase (ls.filterMap fun line => (parseLine A 0 line).toOption)
      (ls'.filterMap fun line => (parseLine A 0 line).toOption) := by
  induction h with
  | nil => exact .nil
  | cons hhead htail ih =>
    obtain ⟨e, e', he, he', hsame⟩ := hhead
    simp only [List.filterMap_cons, he, he']
    exact .cons hsame ih

open scoped UInt64.CommRing in
lemma verifyChain_entries (h : verifyChain A file = .ok s) :
    s.entries = UInt64.ofNat (lines file).length := by
  have hstep : ∀ {s : ChainState} {line : List UInt8} {t : ChainState},
      verifyLine A s line = .ok t → t.entries = s.entries + 1 := by
    intro s line t hstep
    obtain ⟨e, -, hcheck⟩ := verifyLine_ok_iff.mp hstep
    exact (checkEntry_ok_iff.mp hcheck).2.2.2.2
  rw [walk_count hstep h]
  exact UInt64.zero_add _

lemma length_lines_eq {f g : LogFile} (hf : verifyChain A f.bytes = .ok s)
    (hg : verifyChain A g.bytes = .ok s') (hcount : s.entries = s'.entries) :
    (lines f.bytes).length = (lines g.bytes).length := by
  rw [verifyChain_entries hf, verifyChain_entries hg] at hcount
  have hmod := congrArg UInt64.toNat hcount
  rwa [UInt64.toNat_ofNat_of_lt' f.short, UInt64.toNat_ofNat_of_lt' g.short] at hmod

lemma chainState_eq_of_lastHash
    (hfree : CollisionFree A (entriesOf A f) (entriesOf A g)) (hf : verifyChain A f = .ok s)
    (hg : verifyChain A g = .ok s') (hlast : s.lastHash = s'.lastHash) (hne : entriesOf A f ≠ [])
    (hne' : entriesOf A g ≠ []) : s = s' := by
  have hconcat : ∀ file : List UInt8, entriesOf A file ≠ [] →
      ∃ ls line, lines file = ls ++ [line] := by
    intro file hfile
    rcases List.eq_nil_or_concat (lines file) with hnil | ⟨ls, line, hls⟩
    · exact absurd (by rw [entriesOf, hnil]; rfl) hfile
    · exact ⟨ls, line, by rw [hls, List.concat_eq_append]⟩
  obtain ⟨ls, line, hls⟩ := hconcat f hne
  obtain ⟨ls', line', hls'⟩ := hconcat g hne'
  rw [verifyChain, hls, walk_append_ok_iff] at hf
  rw [verifyChain, hls', walk_append_ok_iff] at hg
  obtain ⟨t, -, hline⟩ := hf
  obtain ⟨t', -, hline'⟩ := hg
  rw [walk_singleton_ok_iff] at hline hline'
  exact (verifyLine_backward hfree hline hline' hlast (by simp [hls]) (by simp [hls'])).2.1

/-- **Two log files that verify with the same end hold the same entries.** If the last hash is the
same, and the count too or both files have entries, then the reported states are equal and the files
parse to the same entries, field by field, up to the letter case of the hexadecimal digits in
`entry_hash`. So no edit, insertion, deletion or reordering goes unnoticed as long as the last hash
is known. -/
theorem same_end_same_entries {f g : LogFile} {s s' : ChainState}
    (hfree : CollisionFree A (entriesOf A f.bytes) (entriesOf A g.bytes))
    (hf : verifyChain A f.bytes = .ok s) (hg : verifyChain A g.bytes = .ok s')
    (hlast : s.lastHash = s'.lastHash)
    (hcount : s.entries = s'.entries ∨ (entriesOf A f.bytes ≠ [] ∧ entriesOf A g.bytes ≠ [])) :
    s = s' ∧ List.Forall₂ SameButCase (entriesOf A f.bytes) (entriesOf A g.bytes) := by
  obtain rfl : s = s' := by
    rcases hcount with hcount | ⟨hne, hne'⟩
    · cases s
      cases s'
      exact congrArg₂ ChainState.mk hcount hlast
    · exact chainState_eq_of_lastHash hfree hf hg hlast hne hne'
  refine ⟨rfl, forall₂_entries ?_⟩
  apply (walk_backward ?_ (length_lines_eq hf hg rfl) hf hg).2
  intro t t' v line line' h h' hline hline'
  obtain ⟨ht, -, hsame⟩ := verifyLine_backward hfree h h' rfl hline hline'
  exact ⟨ht, hsame⟩

/-! ### Two entries in two letter cases -/

/-- A sample entry, its hash spelled `entryHash`. -/
def spelledEntry (sequence : UInt64) (prev : Digest) (entryHash : String) : AuditEntry :=
  ⟨sampleContent sequence prev, entryHash⟩

lemma verifyChain_append_spelled {file : List UInt8} {sequence : UInt64} {prev digest : Digest}
    {entryHash : String} (hfile : Terminated file)
    (hverified : verifyChain sampleAudit file = .ok ⟨sequence, prev⟩)
    (hspelled : decodeHash entryHash = some digest)
    (hdigest : sampleAudit.blake3 (sampleContent sequence prev).toVec = digest) :
    verifyChain sampleAudit (file ++ (spelledEntry sequence prev entryHash).line) =
      .ok ⟨sequence + 1, digest⟩ := by
  rw [verifyChain_append_line hfile]
  refine ⟨_, hverified, ?_⟩
  rw [verifyLine_ok_iff]
  refine ⟨spelledEntry sequence prev entryHash, parseLine_toText lawful_readEntry _ _, ?_⟩
  rw [checkEntry_ok_iff]
  exact ⟨hspelled, hdigest, decodeHash_hexEncode prev, rfl, rfl⟩

/-- Two entries, whose hashes are spelled as given. -/
def spelledFile (first second : String) : List UInt8 :=
  (spelledEntry 0 genesisHash first).line ++ (spelledEntry 1 (sampleDigest 0) second).line

section SpelledFile

variable (first second : String)

lemma terminated_first : Terminated (spelledEntry 0 genesisHash first).line :=
  terminated_append_line [] _

lemma lines_spelledFile : (lines (spelledFile first second)).length = 2 := by
  have hfirst := lines_append_line_of_terminated (.inl rfl) (spelledEntry 0 genesisHash first)
  rw [List.nil_append] at hfirst
  rw [spelledFile, lines_append_line_of_terminated (terminated_first first), hfirst]
  rfl

lemma entriesOf_spelledFile : entriesOf sampleAudit (spelledFile first second) =
    [spelledEntry 0 genesisHash first, spelledEntry 1 (sampleDigest 0) second] := by
  have hfirst := entriesOf_append_line lawful_readEntry (A := sampleAudit) (.inl rfl)
    (spelledEntry 0 genesisHash first)
  rw [List.nil_append] at hfirst
  rw [spelledFile, entriesOf_append_line lawful_readEntry (terminated_first first), hfirst]
  rfl

lemma sampleContent_one_ne : (sampleContent 1 (sampleDigest 0)).toVec ≠
    (sampleContent 0 genesisHash).toVec :=
  fun h => absurd (congrArg HashableContent.sequence (toVec_inj h)) (by decide)

variable {first second}

lemma verifyChain_spelledFile (hfirst : decodeHash first = some (sampleDigest 0))
    (hsecond : decodeHash second = some (sampleDigest 1)) :
    verifyChain sampleAudit (spelledFile first second) = .ok ⟨2, sampleDigest 1⟩ := by
  have h := verifyChain_append_spelled (.inl rfl) rfl hfirst (by simp only [sampleAudit, if_true])
  refine verifyChain_append_spelled (terminated_first first) h hsecond ?_
  simp only [sampleAudit, if_neg sampleContent_one_ne, if_true]

end SpelledFile

theorem capital_hash_is_the_same_entry :
    List.Forall₂ SameButCase
      (entriesOf sampleAudit (spelledFile
        "85bced796783287f6e828e4cf5d3c557a594f182dd59042d254700ebb74dc1b6"
        "7a2ace6e42309c4eddce5744f6d9b6248a4387f71db799956016d2744d3ba16b"))
      (entriesOf sampleAudit (spelledFile
        "85BCED796783287F6E828E4CF5D3C557A594F182DD59042D254700EBB74DC1B6"
        "7A2ACE6E42309C4EDDCE5744F6D9B6248A4387F71DB799956016D2744D3BA16B")) := by
  have hfree : ∀ a b a' b', CollisionFree sampleAudit (entriesOf sampleAudit (spelledFile a b))
      (entriesOf sampleAudit (spelledFile a' b')) := by
    intro a b a' b'
    have hdiffer : sampleDigest 0 ≠ sampleDigest 1 := by decide
    rw [entriesOf_spelledFile, entriesOf_spelledFile]
    intro e he e' he' hhash
    simp only [List.mem_cons, List.not_mem_nil, or_false] at he he'
    rcases he with rfl | rfl <;> rcases he' with rfl | rfl
    · rfl
    · simp [spelledEntry, sampleAudit, sampleContent_one_ne, hdiffer] at hhash
    · simp [spelledEntry, sampleAudit, sampleContent_one_ne, hdiffer.symm] at hhash
    · rfl
  have hshort : ∀ a b, (lines (spelledFile a b)).length < 2 ^ 64 := by
    intro a b
    rw [lines_spelledFile]
    decide
  exact (same_end_same_entries (f := ⟨spelledFile _ _, hshort _ _⟩)
    (g := ⟨spelledFile _ _, hshort _ _⟩) (hfree _ _ _ _)
    (verifyChain_spelledFile (by decide) (by decide))
    (verifyChain_spelledFile (by decide) (by decide)) rfl (.inl rfl)).2

end AxiomCore
