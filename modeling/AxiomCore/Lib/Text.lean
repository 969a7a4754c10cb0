import Mathlib

/-!
# Splitting and trimming texts

Texts are lists of characters.
-/

namespace Lib

open List

def splitOnce (sep : Char) : List Char → Option (List Char × List Char)
  | [] => none
  | c :: cs => if c = sep then some ([], cs) else (splitOnce sep cs).map fun p => (c :: p.1, p.2)

def splitN (sep : Char) : Nat → List Char → List (List Char)
  | 0, _ => []
  | 1, cs => [cs]
  | n + 2, cs =>
    match splitOnce sep cs with
    | some (part, rest) => part :: splitN sep (n + 1) rest
    | none => [cs]

/-- `char::is_whitespace`: the Unicode `White_Space` property. -/
def isWhitespace (c : Char) : Bool :=
  let n := c.toNat
  (9 ≤ n ∧ n ≤ 13) ∨ n = 0x20 ∨ n = 0x85 ∨ n = 0xA0 ∨ n = 0x1680 ∨ (0x2000 ≤ n ∧ n ≤ 0x200A) ∨
    n = 0x2028 ∨ n = 0x2029 ∨ n = 0x202F ∨ n = 0x205F ∨ n = 0x3000

def trim (cs : List Char) : List Char := (cs.dropWhile isWhitespace).rdropWhile isWhitespace

variable {sep : Char}

variable {part cs : List Char}

lemma splitOnce_append (hpart : sep ∉ part) (rest : List Char) :
    splitOnce sep (part ++ sep :: rest) = some (part, rest) := by
  induction part with
  | nil => simp [splitOnce]
  | cons c part ih =>
    have hc : c ≠ sep := fun h => hpart (h ▸ mem_cons_self)
    have hrest : sep ∉ part := fun h => hpart (mem_cons_of_mem c h)
    simp [splitOnce, hc, ih hrest]

lemma splitOnce_eq_some_iff {rest : List Char} :
    splitOnce sep cs = some (part, rest) ↔ cs = part ++ sep :: rest ∧ sep ∉ part := by
  constructor
  · intro h
    induction cs generalizing part with
    | nil => cases h
    | cons c cs ih =>
      rw [splitOnce] at h
      split_ifs at h with hc
      · cases h
        exact ⟨by rw [hc, nil_append], not_mem_nil⟩
      obtain ⟨⟨part', rest'⟩, hsplit, hparts⟩ := Option.map_eq_some_iff.mp h
      cases hparts
      obtain ⟨rfl, hnot⟩ := ih hsplit
      refine ⟨rfl, fun hmem => ?_⟩
      rcases mem_cons.mp hmem with heq | hmem
      · exact hc heq.symm
      · exact hnot hmem
  · rintro ⟨rfl, hnot⟩
    exact splitOnce_append hnot rest

lemma splitN_three_eq_iff {a b c : List Char} :
    splitN sep 3 cs = [a, b, c] ↔
      cs = a ++ sep :: (b ++ sep :: c) ∧ sep ∉ a ∧ sep ∉ b := by
  constructor
  · intro h
    rcases hfirst : splitOnce sep cs with _ | ⟨part, rest⟩
    · simp [splitN, hfirst] at h
    rcases hsecond : splitOnce sep rest with _ | ⟨part', rest'⟩
    · simp [splitN, hfirst, hsecond] at h
    simp only [splitN, hfirst, hsecond, List.cons.injEq, and_true] at h
    obtain ⟨rfl, rfl, rfl⟩ := h
    obtain ⟨rfl, ha⟩ := splitOnce_eq_some_iff.mp hfirst
    obtain ⟨rfl, hb⟩ := splitOnce_eq_some_iff.mp hsecond
    exact ⟨rfl, ha, hb⟩
  · rintro ⟨rfl, ha, hb⟩
    simp [splitN, splitOnce_append ha, splitOnce_append hb]

lemma notMem_of_mem_splitOn (h : part ∈ cs.splitOn sep) : sep ∉ part := by
  induction cs generalizing part with
  | nil =>
    obtain rfl : part = [] := by simpa using h
    exact not_mem_nil
  | cons c cs ih =>
    rw [splitOn_cons_eq_if_modifyHead] at h
    split_ifs at h with hc
    · rcases mem_cons.mp h with rfl | hmem
      · exact not_mem_nil
      · exact ih hmem
    rcases hsplit : cs.splitOn sep with _ | ⟨first, rest⟩
    · simp [hsplit] at h
    rw [hsplit, modifyHead_cons, mem_cons] at h
    rcases h with rfl | hmem
    · have hfirst : sep ∉ first := ih (by simp [hsplit])
      rw [mem_cons, not_or]
      refine ⟨fun heq => hc ?_, hfirst⟩
      rw [heq, beq_self_eq_true]
    · exact ih (by simp [hsplit, hmem])

end Lib
