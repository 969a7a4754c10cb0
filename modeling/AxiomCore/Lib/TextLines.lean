import Mathlib

/-!
# The lines of a text and offsets in bytes

Texts are lists of characters, offsets count the bytes of their UTF-8 form.

- `rawLines`, `lineOf`, `textLines`: cut after every newline, with and without the line's end.
- `dropBytes`: a slice from an offset; `dropBytes_eq_some_iff` says when there is one, and which.
-/

namespace Lib

open List

/-! ## Lines -/

def rawLines : List Char → List (List Char)
  | [] => []
  | c :: cs =>
    if c = '\n' then [c] :: rawLines cs
    else
      match rawLines cs with
      | [] => [[c]]
      | raw :: raws => (c :: raw) :: raws

def lineOf (raw : List Char) : List Char :=
  if raw.getLast? = some '\n' then
    if raw.dropLast.getLast? = some '\r' then raw.dropLast.dropLast else raw.dropLast
  else raw

def textLines (t : List Char) : List (List Char) := (rawLines t).map lineOf

def endsInCrlf (raw : List Char) : Bool :=
  raw.getLast? = some '\n' ∧ raw.dropLast.getLast? = some '\r'

@[simp] lemma flatten_rawLines (t : List Char) : (rawLines t).flatten = t := by
  induction t with
  | nil => rfl
  | cons c cs ih =>
    rw [rawLines]
    split_ifs
    · simp [ih]
    rcases hraws : rawLines cs with _ | ⟨raw, raws⟩
    · simpa [hraws] using ih
    · simpa [hraws] using ih

/-- Behind a newline, or at the start, a text is cut as it is by itself. -/
lemma rawLines_append {s : List Char} (h : s = [] ∨ s.getLast? = some '\n') (t : List Char) :
    rawLines (s ++ t) = rawLines s ++ rawLines t := by
  induction s with
  | nil => rfl
  | cons c s ih =>
    have hlast : (c :: s).getLast? = some '\n' := h.resolve_left (cons_ne_nil c s)
    rcases s with _ | ⟨d, s⟩
    · obtain rfl : c = '\n' := Option.some.inj hlast
      rfl
    rw [getLast?_cons_cons] at hlast
    rw [cons_append, rawLines, rawLines, ih (.inr hlast)]
    split_ifs
    · rfl
    rcases hraws : rawLines (d :: s) with _ | ⟨raw, raws⟩
    · have hempty := congrArg flatten hraws
      simp at hempty
    · rfl

/-- The lines from one on are those of the text from there on, and all before end in a newline. -/
lemma rawLines_split {t : List Char} {hs bs : List (List Char)} (h : rawLines t = hs ++ bs) :
    rawLines bs.flatten = bs ∧ (bs ≠ [] → ∀ raw ∈ hs, raw.getLast? = some '\n') := by
  induction t generalizing hs with
  | nil =>
    obtain ⟨rfl, rfl⟩ := append_eq_nil_iff.mp h.symm
    exact ⟨rfl, nofun⟩
  | cons c cs ih =>
    rcases hs with _ | ⟨first, hs⟩
    · rw [nil_append] at h
      exact ⟨by rw [← h, flatten_rawLines], fun _ => forall_mem_nil _⟩
    rw [rawLines, cons_append] at h
    split_ifs at h with hc
    · obtain ⟨rfl, hrest⟩ := List.cons.inj h
      obtain ⟨hlines, hended⟩ := ih hrest
      exact ⟨hlines, fun hbs => forall_mem_cons.mpr ⟨by rw [hc]; rfl, hended hbs⟩⟩
    rcases hraws : rawLines cs with _ | ⟨raw, raws⟩
    · rw [hraws] at h
      obtain ⟨rfl, rfl⟩ := append_eq_nil_iff.mp (List.cons.inj h).2.symm
      exact ⟨rfl, nofun⟩
    · rw [hraws] at h
      obtain ⟨rfl, hrest⟩ := List.cons.inj h
      have hsplit : rawLines cs = raw :: hs ++ bs := by rw [hraws, hrest, cons_append]
      obtain ⟨hlines, hended⟩ := ih hsplit
      refine ⟨hlines, fun hbs => ?_⟩
      have hall := hended hbs
      rw [forall_mem_cons] at hall ⊢
      refine ⟨?_, hall.2⟩
      rw [getLast?_cons, hall.1]
      rfl

lemma getLast?_of_suffix_flatten {raws : List (List Char)} {s : List Char} {c : Char}
    (h : s <:+ raws.flatten) (hraws : ∀ raw ∈ raws, raw.getLast? = some c) :
    s = [] ∨ s.getLast? = some c := by
  have hflatten : raws.flatten = [] ∨ raws.flatten.getLast? = some c := by
    induction raws using List.reverseRecOn with
    | nil => exact .inl rfl
    | append_singleton raws raw _ =>
      right
      rw [flatten_append, flatten_singleton, getLast?_append, hraws raw (by simp)]
      rfl
  by_cases hs : s = []
  · exact .inl hs
  obtain ⟨front, hfront⟩ := h
  rcases hflatten with hnil | hlast
  · exact .inl (append_eq_nil_iff.mp (hfront.trans hnil)).2
  · rw [← hfront, getLast?_append_of_ne_nil _ hs] at hlast
    exact .inr hlast

/-! ## Offsets in bytes -/

def utf8Len (t : List Char) : Nat := (t.map Char.utf8Size).sum

@[simp] lemma utf8Len_append (s t : List Char) : utf8Len (s ++ t) = utf8Len s + utf8Len t := by
  simp [utf8Len]

@[simp] lemma utf8Len_cons (c : Char) (t : List Char) :
    utf8Len (c :: t) = c.utf8Size + utf8Len t := by
  simp [utf8Len]

@[simp] lemma utf8Len_nil : utf8Len [] = 0 := rfl

lemma utf8Len_eq_zero {t : List Char} (h : utf8Len t = 0) : t = [] := by
  cases t with
  | nil => rfl
  | cons c t =>
    have := c.utf8Size_pos
    rw [utf8Len_cons] at h
    omega

/-- The bytes of a line's end. -/
lemma utf8Len_lineOf_add (raw : List Char) :
    utf8Len (lineOf raw) + 1 + (if endsInCrlf raw then 1 else 0) =
      utf8Len raw + if raw.getLast? = some '\n' then 0 else 1 := by
  unfold lineOf endsInCrlf
  by_cases hlast : raw.getLast? = some '\n'
  · have hraw := congrArg utf8Len (dropLast_append_getLast? '\n' hlast)
    have hnewline : utf8Len ['\n'] = 1 := rfl
    rw [utf8Len_append, hnewline] at hraw
    by_cases hcr : raw.dropLast.getLast? = some '\r'
    · have hline := congrArg utf8Len (dropLast_append_getLast? '\r' hcr)
      have hreturn : utf8Len ['\r'] = 1 := rfl
      rw [utf8Len_append, hreturn] at hline
      simp only [hlast, hcr, if_true, and_self, decide_true]
      omega
    · simp only [hlast, hcr, if_true, if_false, and_false, decide_false, Bool.false_eq_true]
      omega
  · simp [hlast]

/-- What is left after `n` bytes: nothing beyond the end, no result inside a character. -/
def dropBytes : Nat → List Char → Option (List Char)
  | 0, t => some t
  | _ + 1, [] => some []
  | n + 1, c :: t => if c.utf8Size ≤ n + 1 then dropBytes (n + 1 - c.utf8Size) t else none

@[simp] lemma dropBytes_zero (t : List Char) : dropBytes 0 t = some t := by
  cases t <;> rfl

@[simp] lemma dropBytes_nil (n : Nat) : dropBytes n [] = some [] := by
  cases n <;> rfl

lemma dropBytes_cons (n : Nat) (c : Char) (t : List Char) :
    dropBytes n (c :: t) =
      if c.utf8Size ≤ n then dropBytes (n - c.utf8Size) t
      else if n = 0 then some (c :: t) else none := by
  have := c.utf8Size_pos
  cases n with
  | zero => rw [dropBytes_zero, if_neg (by omega), if_pos rfl]
  | succ n => rw [dropBytes, if_neg (Nat.succ_ne_zero n)]

lemma dropBytes_append (n : Nat) (s t : List Char) :
    dropBytes n (s ++ t) =
      if utf8Len s ≤ n then dropBytes (n - utf8Len s) t else (dropBytes n s).map (· ++ t) := by
  induction s generalizing n with
  | nil => simp
  | cons c s ih =>
    have := c.utf8Size_pos
    rw [cons_append, dropBytes_cons, dropBytes_cons, ih, utf8Len_cons]
    by_cases hc : c.utf8Size ≤ n
    · rw [if_pos hc, if_pos hc, Nat.sub_sub]
      by_cases hs : utf8Len s ≤ n - c.utf8Size
      · rw [if_pos hs, if_pos (by omega)]
      · rw [if_neg hs, if_neg (by omega)]
    have hlen : ¬ c.utf8Size + utf8Len s ≤ n := by omega
    rw [if_neg hc, if_neg hc, if_neg hlen]
    by_cases hn : n = 0
    · rw [if_pos hn, if_pos hn, Option.map_some, cons_append]
    · rw [if_neg hn, if_neg hn, Option.map_none]

/-- A slice is what has as many bytes as are left. -/
lemma dropBytes_eq_some_iff {n : Nat} {t p : List Char} :
    dropBytes n t = some p ↔ p <:+ t ∧ utf8Len p = utf8Len t - n := by
  constructor
  · induction t generalizing n with
    | nil =>
      intro h
      rw [dropBytes_nil] at h
      obtain rfl := Option.some.inj h
      simp
    | cons c t ih =>
      intro h
      rw [dropBytes_cons] at h
      split_ifs at h with hc hn
      · obtain ⟨hsuffix, hlength⟩ := ih h
        exact ⟨hsuffix.trans (suffix_cons c t), by rw [utf8Len_cons]; omega⟩
      · obtain rfl := Option.some.inj h
        exact ⟨suffix_refl _, by rw [hn, Nat.sub_zero]⟩
  · rintro ⟨⟨front, rfl⟩, hlength⟩
    rw [utf8Len_append] at hlength
    rw [dropBytes_append]
    split_ifs with hfront
    · by_cases hp : p = []
      · rw [hp, dropBytes_nil]
      have hpos : utf8Len p ≠ 0 := fun hzero => hp (utf8Len_eq_zero hzero)
      rw [show n - utf8Len front = 0 by omega, dropBytes_zero]
    · omega

/-! ## Readers -/

/-- What follows a keyword at the start. -/
def stripKey (key : String) (t : List Char) : Option (List Char) := t.dropPrefix? key.toList

def splitOnceAt (pat : List Char) : List Char → Option (List Char × List Char)
  | [] => none
  | c :: cs =>
    match (c :: cs).dropPrefix? pat with
    | some rest => some ([], rest)
    | none => (splitOnceAt pat cs).map fun p => (c :: p.1, p.2)

/-- The value of a digit up to `radix`, of either case. -/
def digitOf (radix : Nat) (c : Char) : Option Nat :=
  let n := c.toNat
  let d := if 48 ≤ n ∧ n ≤ 57 then n - 48
    else if 97 ≤ n ∧ n ≤ 122 then n - 87
    else if 65 ≤ n ∧ n ≤ 90 then n - 55
    else radix
  if d < radix then some d else none

/-- An unsigned number of 64 bits: an optional plus sign and at least one digit. -/
def parseRadix (radix : Nat) (t : List Char) : Option UInt64 := do
  let digits := match t with
    | '+' :: ds => ds
    | ds => ds
  if digits = [] then none
  let n ← digits.foldlM (fun n c => (digitOf radix c).map (n * radix + ·)) 0
  if n < 2 ^ 64 then some (UInt64.ofNat n) else none

end Lib
