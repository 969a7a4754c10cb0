import Mathlib

/-!
# Lines of a byte file

How a buffered reader cuts a file into lines: at each newline byte, with one carriage return before
it dropped; a last line without newline counts if it is not empty.

- `lines_append_of_terminated`: behind a newline a new line starts.
- `exists_terminated_append`: every file is complete lines and an unterminated rest.
-/

namespace Lib

open List

/-- Drop one carriage return at the end. -/
def stripCr (l : List UInt8) : List UInt8 := if l.getLast? = some 13 then l.dropLast else l

/-- Cut the rest of a file into lines; `acc` is what the current line holds so far. -/
def linesFrom : List UInt8 → List UInt8 → List (List UInt8)
  | acc, [] => if acc = [] then [] else [acc]
  | acc, b :: bs => if b = 10 then stripCr acc :: linesFrom [] bs else linesFrom (acc ++ [b]) bs

def lines (file : List UInt8) : List (List UInt8) := linesFrom [] file

/-- The file is empty or ends with a newline. -/
def Terminated (file : List UInt8) : Prop := file = [] ∨ file.getLast? = some 10

instance (file : List UInt8) : Decidable (Terminated file) :=
  inferInstanceAs (Decidable (_ ∨ _))

lemma linesFrom_append_newline (acc f g : List UInt8) :
    linesFrom acc (f ++ 10 :: g) = linesFrom acc (f ++ [10]) ++ lines g := by
  induction f generalizing acc with
  | nil => simp [linesFrom, lines]
  | cons b f ih =>
    simp only [cons_append, linesFrom]
    split_ifs
    · rw [ih, cons_append]
    · exact ih _

lemma lines_append_of_terminated {f : List UInt8} (h : Terminated f) (g : List UInt8) :
    lines (f ++ g) = lines f ++ lines g := by
  rcases h with rfl | h
  · simp [lines, linesFrom]
  obtain ⟨f', rfl⟩ := getLast?_eq_some_iff.mp h
  rw [append_assoc, singleton_append]
  exact linesFrom_append_newline [] f' g

lemma linesFrom_of_no_newline {acc l : List UInt8} (h : 10 ∉ l) :
    linesFrom acc l = linesFrom (acc ++ l) [] := by
  induction l generalizing acc with
  | nil => simp
  | cons b l ih =>
    obtain ⟨hb, hl⟩ : b ≠ 10 ∧ 10 ∉ l := by
      simpa [eq_comm] using h
    have hstep : linesFrom acc (b :: l) = linesFrom (acc ++ [b]) l := by
      simp [linesFrom, hb]
    rw [hstep, ih hl, append_assoc, singleton_append]

lemma lines_of_no_newline {l : List UInt8} (h : 10 ∉ l) :
    lines l = if l = [] then [] else [l] := by
  unfold lines
  rw [linesFrom_of_no_newline h, nil_append, linesFrom]

lemma lines_singleton {l : List UInt8} (h : 10 ∉ l) : lines (l ++ [10]) = [stripCr l] := by
  have key : ∀ (acc l : List UInt8), 10 ∉ l → linesFrom acc (l ++ [10]) = [stripCr (acc ++ l)] := by
    intro acc l
    induction l generalizing acc with
    | nil => simp [linesFrom]
    | cons b l ih =>
      intro hb
      obtain ⟨hb, hl⟩ : b ≠ 10 ∧ 10 ∉ l := by
        simpa [eq_comm] using hb
      rw [cons_append, linesFrom, if_neg hb, ih _ hl, append_assoc,
        singleton_append]
  exact key [] l h

lemma terminated_line (l : List UInt8) : Terminated (l ++ [10]) := .inr (by simp)

lemma exists_terminated_append (f : List UInt8) :
    ∃ g rest, f = g ++ rest ∧ Terminated g ∧ 10 ∉ rest := by
  induction f using List.reverseRecOn with
  | nil => exact ⟨[], [], rfl, .inl rfl, by simp⟩
  | append_singleton f b ih =>
    obtain ⟨g, rest, rfl, hg, hrest⟩ := ih
    by_cases hb : b = 10
    · subst hb
      exact ⟨g ++ rest ++ [10], [], by simp, terminated_line _, by simp⟩
    · refine ⟨g, rest ++ [b], by simp, hg, ?_⟩
      simp [hrest, Ne.symm hb]

end Lib
