import Mathlib

/-!
# Texts of untrusted origin

`sanitize_str` removes terminal escape sequences, then control and invisible characters, and cuts
what is left at 256 characters.

Source: `axiom-gateway/src/sanitize.rs`.
-/

namespace AxiomCore

open List

/-! ## Escape sequences -/

def esc : Char := '\x1b'

/-- What follows the final byte of a CSI sequence. -/
def afterCsi (cs : List Char) : List Char :=
  (cs.dropWhile fun c => ¬ (0x40 ≤ c.toNat ∧ c.toNat ≤ 0x7e)).tail

/-- What follows the terminator of an OSC sequence. -/
def afterOsc : List Char → List Char
  | [] => []
  | c :: cs =>
    if c = '\x07' then cs
    else if c = esc ∧ cs.head? = some '\\' then cs.tail
    else afterOsc cs

variable (cs : List Char)

lemma afterCsi_sublist : (afterCsi cs).Sublist cs :=
  (tail_sublist _).trans (dropWhile_sublist _)

lemma afterOsc_sublist : (afterOsc cs).Sublist cs := by
  induction cs with
  | nil => exact .slnil
  | cons c cs ih =>
    rw [afterOsc]
    split_ifs
    · exact sublist_cons_self c cs
    · exact (tail_sublist cs).cons c
    · exact ih.cons c

def stripAnsiEscapes : List Char → List Char × Bool
  | [] => ([], false)
  | c :: cs =>
    if c ≠ esc then (c :: (stripAnsiEscapes cs).1, (stripAnsiEscapes cs).2)
    else if cs.head? = some '[' then ((stripAnsiEscapes (afterCsi cs.tail)).1, true)
    else if cs.head? = some ']' then ((stripAnsiEscapes (afterOsc cs.tail)).1, true)
    else ((stripAnsiEscapes cs).1, true)
termination_by cs => cs.length
decreasing_by
  · exact Nat.lt_succ_self _
  · exact Nat.lt_succ_of_le ((afterCsi_sublist _).trans (tail_sublist cs)).length_le
  · exact Nat.lt_succ_of_le ((afterOsc_sublist _).trans (tail_sublist cs)).length_le
  · exact Nat.lt_succ_self _

lemma stripAnsiEscapes_sublist : (stripAnsiEscapes cs).1.Sublist cs := by
  fun_induction stripAnsiEscapes cs with
  | case1 => exact .slnil
  | case2 c cs hc ih => exact ih.cons_cons c
  | case3 c cs _ _ ih => exact ((ih.trans (afterCsi_sublist _)).trans (tail_sublist cs)).cons c
  | case4 c cs _ _ _ ih =>
    exact ((ih.trans (afterOsc_sublist _)).trans (tail_sublist cs)).cons c
  | case5 c cs _ _ _ ih => exact ih.cons c

lemma stripAnsiEscapes_snd : (stripAnsiEscapes cs).2 = true ↔ esc ∈ cs := by
  fun_induction stripAnsiEscapes cs with
  | case1 => simp
  | case2 c cs hc ih => simp [ih, hc.symm]
  | case3 c cs hc _ ih => simp [not_ne_iff.mp hc]
  | case4 c cs hc _ _ ih => simp [not_ne_iff.mp hc]
  | case5 c cs hc _ _ ih => simp [not_ne_iff.mp hc]

lemma stripAnsiEscapes_of_not_mem {cs : List Char} (h : esc ∉ cs) :
    stripAnsiEscapes cs = (cs, false) := by
  induction cs with
  | nil => rw [stripAnsiEscapes]
  | cons c cs ih =>
    rw [mem_cons, not_or] at h
    rw [stripAnsiEscapes, if_pos (Ne.symm h.1), ih h.2]

/-! ## Sanitising -/

def isAsciiControl (c : Char) : Bool := c.toNat < 0x20 || c.toNat == 0x7f

def isStrippedUnicodeFormatChar (c : Char) : Bool :=
  let n := c.toNat
  (0x202a ≤ n && n ≤ 0x202e) || (0x2066 ≤ n && n ≤ 0x2069) || n == 0x200b || n == 0xfeff

def isRemoved (c : Char) : Bool := isAsciiControl c || isStrippedUnicodeFormatChar c

def maxUntrustedStringChars : Nat := 256

structure SanitizedString where
  value : List Char
  truncated : Bool
  controlCharsStripped : Bool

/-- The text that the cap is applied to. -/
def cleaned (raw : List Char) : List Char :=
  (stripAnsiEscapes raw).1.filter fun c => !isRemoved c

def sanitizeStr (raw : List Char) : SanitizedString :=
  let controlCharsStripped :=
    (stripAnsiEscapes raw).2 || (stripAnsiEscapes raw).1.any isRemoved
  if maxUntrustedStringChars < (cleaned raw).length then
    ⟨(cleaned raw).take maxUntrustedStringChars, true, controlCharsStripped⟩
  else ⟨cleaned raw, false, controlCharsStripped⟩

/-- No C0 control (ESC is one), not DEL, and not one of the invisible characters. -/
def Clean (c : Char) : Prop :=
  0x20 ≤ c.toNat ∧ c.toNat ≠ 0x7f ∧ c.toNat ∉
    [0x202a, 0x202b, 0x202c, 0x202d, 0x202e, 0x2066, 0x2067, 0x2068, 0x2069, 0x200b, 0xfeff]

variable {c : Char}

lemma isRemoved_eq_false_iff : isRemoved c = false ↔ Clean c := by
  simp only [isRemoved, isAsciiControl, isStrippedUnicodeFormatChar, Clean, Bool.or_eq_false_iff,
    Bool.and_eq_false_iff, decide_eq_false_iff_not, beq_eq_false_iff_ne, mem_cons,
    not_mem_nil, or_false]
  omega

variable {raw : List Char}

lemma value_eq_take (raw : List Char) :
    (sanitizeStr raw).value = (cleaned raw).take maxUntrustedStringChars := by
  unfold sanitizeStr
  split_ifs with h
  · rfl
  · exact (take_of_length_le (Nat.not_lt.mp h)).symm

lemma truncated_iff :
    (sanitizeStr raw).truncated = true ↔ maxUntrustedStringChars < (cleaned raw).length := by
  unfold sanitizeStr
  split_ifs with h
  · exact iff_of_true rfl h
  · exact iff_of_false (by simp) h

lemma cleaned_sublist (raw : List Char) : (cleaned raw).Sublist raw :=
  filter_sublist.trans (stripAnsiEscapes_sublist raw)

lemma clean_of_mem_cleaned (h : c ∈ cleaned raw) : Clean c := by
  apply isRemoved_eq_false_iff.mp
  simpa using (mem_filter.mp h).2

lemma value_sublist_cleaned (raw : List Char) :
    (sanitizeStr raw).value.Sublist (cleaned raw) := by
  rw [value_eq_take]
  exact take_sublist _ _

lemma clean_ne_esc (h : Clean c) : c ≠ esc ∧ Clean c := by
  refine ⟨?_, h⟩
  rintro rfl
  exact absurd h.1 (by decide)

lemma value_clean : ∀ c ∈ (sanitizeStr raw).value, c ≠ esc ∧ Clean c :=
  fun _ hc => clean_ne_esc (clean_of_mem_cleaned ((value_sublist_cleaned raw).subset hc))

lemma length_value_le (raw : List Char) :
    (sanitizeStr raw).value.length ≤ maxUntrustedStringChars := by
  rw [value_eq_take]
  exact length_take_le _ _

lemma cleaned_of_clean (h : ∀ c ∈ raw, Clean c) : stripAnsiEscapes raw = (raw, false) ∧
    raw.any isRemoved = false ∧ cleaned raw = raw := by
  have hesc : esc ∉ raw := fun hmem => (clean_ne_esc (h esc hmem)).1 rfl
  have hkeep : ∀ c ∈ raw, isRemoved c = false := fun c hc => isRemoved_eq_false_iff.mpr (h c hc)
  refine ⟨stripAnsiEscapes_of_not_mem hesc, any_eq_false.mpr fun c hc => ?_, ?_⟩
  · rw [hkeep c hc]
    exact Bool.false_ne_true
  · rw [cleaned, stripAnsiEscapes_of_not_mem hesc, filter_eq_self]
    exact fun c hc => by rw [hkeep c hc, Bool.not_false]

lemma sanitizeStr_of_clean (h : ∀ c ∈ raw, Clean c)
    (hlength : raw.length ≤ maxUntrustedStringChars) :
    sanitizeStr raw = ⟨raw, false, false⟩ := by
  obtain ⟨hstrip, hany, hsame⟩ := cleaned_of_clean h
  simp only [sanitizeStr, hsame, if_neg (Nat.not_lt.mpr hlength), hstrip, hany, Bool.or_false]

lemma controlCharsStripped_eq_false_iff :
    (sanitizeStr raw).controlCharsStripped = false ↔ cleaned raw = raw := by
  have hflag : (sanitizeStr raw).controlCharsStripped =
      ((stripAnsiEscapes raw).2 || (stripAnsiEscapes raw).1.any isRemoved) := by
    unfold sanitizeStr
    split_ifs <;> rfl
  rw [hflag]
  constructor
  · intro h
    obtain ⟨hansi, hany⟩ := Bool.or_eq_false_iff.mp h
    have hesc : esc ∉ raw := by rw [← stripAnsiEscapes_snd, hansi]; exact Bool.false_ne_true
    rw [cleaned, filter_eq_self.mpr, stripAnsiEscapes_of_not_mem hesc]
    exact fun c hc => by simpa using any_eq_false.mp hany c hc
  · intro h
    obtain ⟨hstrip, hany, -⟩ := cleaned_of_clean fun c hc =>
      clean_of_mem_cleaned (by rwa [h])
    rw [hstrip, hany, Bool.or_false]

/-- **Sanitising.** The value is short, clean and a subsequence of the text; each flag says whether
something was deleted or cut; and a value is sanitised to itself. -/
theorem sanitizeStr_clean (raw : List Char) :
    (sanitizeStr raw).value.length ≤ 256 ∧
    (∀ c ∈ (sanitizeStr raw).value, c ≠ esc ∧ Clean c) ∧
    (sanitizeStr raw).value.Sublist raw ∧
    ((sanitizeStr raw).controlCharsStripped = true ↔
      (stripAnsiEscapes raw).1 ≠ raw ∨ cleaned raw ≠ (stripAnsiEscapes raw).1) ∧
    ((sanitizeStr raw).truncated = true ↔ 256 < (cleaned raw).length) ∧
    ((sanitizeStr raw).value = raw ↔
      (sanitizeStr raw).truncated = false ∧ (sanitizeStr raw).controlCharsStripped = false) ∧
    sanitizeStr (sanitizeStr raw).value = ⟨(sanitizeStr raw).value, false, false⟩ := by
  refine ⟨length_value_le raw, value_clean,
    (value_sublist_cleaned raw).trans (cleaned_sublist raw), ?_, truncated_iff, ?_, ?_⟩
  · rw [← Bool.not_eq_false, controlCharsStripped_eq_false_iff, ← not_and_or, not_iff_not]
    constructor
    · intro h
      have hback : (cleaned raw).Sublist (stripAnsiEscapes raw).1 := filter_sublist
      have hstrip : (stripAnsiEscapes raw).1 = raw :=
        (stripAnsiEscapes_sublist raw).antisymm (by rwa [h] at hback)
      exact ⟨hstrip, h.trans hstrip.symm⟩
    · exact fun h => h.2.trans h.1
  · constructor
    · intro h
      -- nothing can be missing in between
      have hback := value_sublist_cleaned raw
      rw [h] at hback
      have hall : cleaned raw = raw := (cleaned_sublist raw).antisymm hback
      refine ⟨?_, controlCharsStripped_eq_false_iff.mpr hall⟩
      rw [← Bool.not_eq_true, truncated_iff, hall, ← h, Nat.not_lt]
      exact length_value_le raw
    · rintro ⟨htruncated, hflag⟩
      rw [← Bool.not_eq_true, truncated_iff, Nat.not_lt] at htruncated
      rw [value_eq_take, take_of_length_le htruncated]
      exact controlCharsStripped_eq_false_iff.mp hflag
  · exact sanitizeStr_of_clean (fun c hc => (value_clean c hc).2) (length_value_le raw)

end AxiomCore
