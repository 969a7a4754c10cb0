import AxiomCore.Gateway.Audit

/-!
# What `verify_chain` accepts

One line at a time: when a line parses, when its entry follows, and what an appended line does to a
file that verifies or does not.

- `verifyLine_ok_iff`: the checks on a line, as one statement.
- `verifyLine_written`: the line `record` writes is accepted exactly where the writer's memory says
  the chain ends, sequence number first of all.
- `verifyLine_of_nonblank_front`: with anything but blanks in front of it, a written line is
  refused.
-/

namespace AxiomCore

open Lib

variable {A : AuditExternals}

/-! ## Written entries as bytes -/

lemma utf8_toText (e : AuditEntry) : utf8 e.toText = charBytes e.toJson.render := by
  rw [AuditEntry.toText, utf8_eq_flatMap, String.toList_ofList, charBytes]

variable {e : AuditEntry} {line : List UInt8} {s s' : ChainState}

lemma le_of_mem_utf8_toText {b : UInt8} (hb : b ∈ utf8 e.toText) :
    32 ≤ b.toNat := by
  rw [utf8_toText, charBytes, List.mem_flatMap] at hb
  obtain ⟨c, hc, hb⟩ := hb
  have hge := printable_render _ c hc
  by_cases hascii : c.toNat < 128
  · rw [utf8EncodeChar_of_lt hascii, List.mem_singleton] at hb
    rw [hb, UInt8.toNat_ofNat']
    omega
  · exact le_trans (by norm_num) (le_of_mem_utf8EncodeChar (by omega) hb)

lemma newline_not_mem_toText (e : AuditEntry) : 10 ∉ utf8 e.toText := by
  intro h
  simpa using le_of_mem_utf8_toText h

lemma exists_utf8_toText (e : AuditEntry) : ∃ tail, utf8 e.toText = 123 :: tail := by
  rw [utf8_toText, AuditEntry.toJson, Json.render]
  exact ⟨_, rfl⟩

lemma stripCr_append_toText (front : List UInt8) (e : AuditEntry) :
    stripCr (front ++ utf8 e.toText) = front ++ utf8 e.toText := by
  rw [stripCr, if_neg]
  intro hlast
  obtain ⟨tail, htail⟩ := exists_utf8_toText e
  have hne : utf8 e.toText ≠ [] := by
    rw [htail]
    exact List.cons_ne_nil _ _
  rw [List.getLast?_append_of_ne_nil _ hne] at hlast
  simpa using le_of_mem_utf8_toText (List.mem_of_getLast? hlast)

lemma lines_append_line {g rest : List UInt8} (hg : Terminated g) (hrest : 10 ∉ rest)
    (e : AuditEntry) :
    lines (g ++ rest ++ e.line) = lines g ++ [rest ++ utf8 e.toText] := by
  have hnone : 10 ∉ rest ++ utf8 e.toText := by
    rw [List.mem_append]
    exact fun h => h.elim hrest (newline_not_mem_toText e)
  rw [List.append_assoc, AuditEntry.line, ← List.append_assoc rest,
    lines_append_of_terminated hg, lines_singleton hnone, stripCr_append_toText]

lemma terminated_append_line (file : List UInt8) (e : AuditEntry) :
    Terminated (file ++ e.line) := by
  rw [AuditEntry.line, ← List.append_assoc]
  exact terminated_line _

lemma lines_append_line_of_terminated {file : List UInt8} (hfile : Terminated file)
    (e : AuditEntry) : lines (file ++ e.line) = lines file ++ [utf8 e.toText] := by
  have h := lines_append_line hfile List.not_mem_nil e
  rwa [List.append_nil, List.nil_append] at h

/-! ## Parsing -/

lemma parseLine_ok_iff {i : UInt64} :
    parseLine A i line = .ok e ↔ ∃ text, utf8 text = line ∧ A.fromStr text = .ok e := by
  unfold parseLine
  rcases h : ofUtf8 line with _ | text
  · simp only [reduceCtorEq, false_iff, not_exists, not_and]
    intro text htext
    rw [ofUtf8_eq_some_iff.mpr htext] at h
    exact absurd h (by simp)
  rw [ofUtf8_eq_some_iff] at h
  have honly : (∃ text', utf8 text' = line ∧ A.fromStr text' = .ok e) ↔ A.fromStr text = .ok e := by
    refine ⟨?_, fun hok => ⟨text, h, hok⟩⟩
    rintro ⟨text', htext', hok⟩
    rwa [utf8_inj (htext'.trans h.symm)] at hok
  rw [honly]
  dsimp only
  rcases A.fromStr text with err | e'
  · simp
  · simp

lemma parseLine_toText (hA : LawfulFromStr A.fromStr) (i : UInt64) (e : AuditEntry) :
    parseLine A i (utf8 e.toText) = .ok e :=
  parseLine_ok_iff.mpr ⟨e.toText, rfl, hA.read_written e⟩

lemma run_shape_of_parseLine (hA : LawfulFromStr A.fromStr) {i : UInt64}
    (h : parseLine A i line = .ok e) : run Shape.step .start line = .done := by
  obtain ⟨text, rfl, hok⟩ := parseLine_ok_iff.mp h
  rw [utf8_eq_flatMap]
  exact hA.container text e hok

/-! ## Checking -/

@[simp] lemma decodeHash_hexEncode (d : Digest) : decodeHash (hexEncode d.toList) = some d := by
  have hlen : d.toList.length = 32 := by simp
  simp only [decodeHash, hexDecode_hexEncode, hlen, dif_pos, Option.some.injEq]
  exact Vector.toArray_inj.mp (by simp [Vector.toList])

lemma checkEntry_ok_iff :
    checkEntry A s e = .ok s' ↔
      decodeHash e.entryHash = some s'.lastHash ∧
      recomputeEntryHash A e.toHashableContent = s'.lastHash ∧
      decodeHash e.prevHash = some s.lastHash ∧ e.sequence = s.entries ∧
      s'.entries = s.entries + 1 := by
  unfold checkEntry
  rcases decodeHash e.entryHash with _ | recorded
  · simp
  simp only [ne_eq, ite_not]
  rcases decodeHash e.prevHash with _ | found
  · simp only [reduceCtorEq, false_and, and_false, iff_false]
    split_ifs <;> exact nofun
  obtain ⟨entries', lastHash'⟩ := s'
  simp only [Option.some.injEq]
  constructor
  · intro h
    split_ifs at h with h₁ h₂ h₃
    simp only [Except.ok.injEq, ChainState.mk.injEq] at h
    obtain ⟨rfl, rfl⟩ := h
    exact ⟨rfl, h₁, h₂, h₃, rfl⟩
  · rintro ⟨rfl, h₁, h₂, h₃, rfl⟩
    simp [h₁, h₂, h₃]

lemma verifyLine_ok_iff :
    verifyLine A s line = .ok s' ↔
      ∃ e, parseLine A s.entries line = .ok e ∧ checkEntry A s e = .ok s' := by
  unfold verifyLine
  rcases parseLine A s.entries line with err | e
  · simp
  · simp

def WriterState.chain (w : WriterState) : ChainState := ⟨w.nextSequence, w.lastHash⟩

lemma verifyLine_written (hA : LawfulFromStr A.fromStr) (args : RecordArgs) (w : WriterState)
    (nowMs : UInt64) :
    verifyLine A w.chain (utf8 (args.entry A w nowMs).toText) =
      .ok (w.advance A (args.entry A w nowMs)).chain := by
  rw [verifyLine_ok_iff]
  refine ⟨args.entry A w nowMs, parseLine_toText hA _ _, ?_⟩
  rw [checkEntry_ok_iff]
  refine ⟨?_, rfl, ?_, rfl, rfl⟩
  · exact decodeHash_hexEncode _
  · exact decodeHash_hexEncode _

lemma verifyLine_written_of_ne (hA : LawfulFromStr A.fromStr)
    (hne : s.entries ≠ e.sequence) : verifyLine A s (utf8 e.toText) ≠ .ok s' := by
  intro hok
  obtain ⟨e', hparse, hcheck⟩ := verifyLine_ok_iff.mp hok
  rw [parseLine_toText hA, Except.ok.injEq] at hparse
  subst hparse
  exact hne (checkEntry_ok_iff.mp hcheck).2.2.2.1.symm

lemma verifyLine_of_nonblank_front (hA : LawfulFromStr A.fromStr) {front : List UInt8}
    (hfront : run Shape.step .start front ≠ .start) (e : AuditEntry) (s s' : ChainState) :
    verifyLine A s (front ++ utf8 e.toText) ≠ .ok s' := by
  intro hok
  obtain ⟨e', hparse, -⟩ := verifyLine_ok_iff.mp hok
  have hshape := run_shape_of_parseLine hA hparse
  rw [run_append, utf8_toText] at hshape
  exact shape_second_record hfront "sequence" _ _ ⟨_, rfl⟩ hshape

end AxiomCore
