import Mathlib

/-!
# What a stable sort leaves of the order

A list is sorted by a total preorder and each element is written out. Elements that are equal in the
preorder stay in the order they came in, so the result can depend on it.

- `flatMap_eq_of_sorted`: two sorted permutations are written alike if equal elements commute.
- `flatMap_insertionSort_perm_iff`: all permutations of a list are sorted and written alike exactly
  if its equal elements commute.
-/

namespace Lib

open List

variable {α β : Type*} {r : α → α → Prop} {f : α → List β}

/-- Elements that are equal in the preorder may be written in either order. -/
def TiesCommute (r : α → α → Prop) (f : α → List β) (l : List α) : Prop :=
  ∀ a ∈ l, ∀ b ∈ l, r a b → r b a → f a ++ f b = f b ++ f a

lemma flatMap_append_comm {a : α} {u : List α} (h : ∀ b ∈ u, f a ++ f b = f b ++ f a) :
    u.flatMap f ++ f a = f a ++ u.flatMap f := by
  induction u with
  | nil => simp
  | cons b u ih =>
    obtain ⟨hb, hu⟩ := forall_mem_cons.mp h
    rw [flatMap_cons, append_assoc, ih hu, ← append_assoc, ← hb,
      append_assoc]

lemma flatMap_eq_of_sorted {l l' : List α} (hperm : l.Perm l') (hl : l.Pairwise r)
    (hl' : l'.Pairwise r) (hcomm : TiesCommute r f l) : l.flatMap f = l'.flatMap f := by
  induction l generalizing l' with
  | nil => rw [nil_perm.mp hperm]
  | cons a l ih =>
    obtain ⟨u, v, rfl⟩ := append_of_mem (hperm.subset mem_cons_self)
    obtain ⟨ha, hl⟩ := pairwise_cons.mp hl
    have hrest : l.Perm (u ++ v) := (hperm.trans perm_middle).cons_inv
    have htail : TiesCommute r f l := fun b hb c hc =>
      hcomm b (mem_cons_of_mem a hb) c (mem_cons_of_mem a hc)
    have hfront : ∀ b ∈ u, f a ++ f b = f b ++ f a := by
      intro b hb
      have hmem : b ∈ l := hrest.symm.subset (mem_append_left v hb)
      have hba : r b a := (pairwise_append.mp hl').2.2 b hb a mem_cons_self
      exact hcomm a mem_cons_self b (mem_cons_of_mem a hmem) (ha b hmem) hba
    have hsorted : (u ++ v).Pairwise r :=
      hl'.sublist ((List.Sublist.refl u).append (sublist_cons_self a v))
    rw [flatMap_cons, ih hrest hl hsorted htail, flatMap_append, flatMap_append,
      flatMap_cons, ← append_assoc, ← append_assoc, flatMap_append_comm hfront]

variable [DecidableRel r] [IsTrans α r]

lemma orderedInsert_orderedInsert {a b : α} (hab : r a b) (hba : r b a) (s : List α) :
    (s.orderedInsert r b).orderedInsert r a =
      (s.takeWhile fun c => ¬ r a c) ++ a :: b :: s.dropWhile fun c => ¬ r a c := by
  induction s with
  | nil => simp [hab]
  | cons c s ih =>
    by_cases hbc : r b c
    · have hac : r a c := IsTrans.trans a b c hab hbc
      simp [hbc, hac, hab]
    · have hac : ¬ r a c := fun hac => hbc (IsTrans.trans b a c hba hac)
      simp [hbc, hac, ih]

lemma flatMap_insertionSort_perm_iff [Std.Total r] {l : List α} :
    (∀ l' : List α, l'.Perm l → (l'.insertionSort r).flatMap f = (l.insertionSort r).flatMap f) ↔
      TiesCommute r f l := by
  classical
  constructor
  · intro h a ha b hb hab hba
    by_cases heq : a = b
    · rw [heq]
    obtain ⟨l₁, hl₁⟩ : ∃ l₁, (a :: b :: l₁).Perm l := by
      refine ⟨(l.erase a).erase b, ?_⟩
      have hmem : b ∈ l.erase a := (mem_erase_of_ne (Ne.symm heq)).mpr hb
      exact ((perm_cons_erase hmem).cons a).symm.trans (perm_cons_erase ha).symm
    have hsame : (fun c => decide ¬ r b c) = fun c => decide ¬ r a c := by
      funext c
      simp only [decide_eq_decide, not_iff_not]
      exact ⟨IsTrans.trans a b c hab, IsTrans.trans b a c hba⟩
    have hswap := (h _ hl₁).trans (h _ ((List.Perm.swap a b l₁).trans hl₁)).symm
    rw [insertionSort_cons, insertionSort_cons, insertionSort_cons,
      insertionSort_cons, orderedInsert_orderedInsert hab hba,
      orderedInsert_orderedInsert hba hab, hsame] at hswap
    simp only [flatMap_append, flatMap_cons, append_cancel_left_eq] at hswap
    rw [← append_assoc, ← append_assoc] at hswap
    exact append_cancel_right hswap
  · intro h l' hperm
    have hsorted := pairwise_insertionSort r
    apply flatMap_eq_of_sorted ?_ (hsorted l') (hsorted l)
    · intro a ha b hb
      exact h a (hperm.subset ((mem_insertionSort r).mp ha)) b
        (hperm.subset ((mem_insertionSort r).mp hb))
    · exact (perm_insertionSort r l').trans (hperm.trans (perm_insertionSort r l).symm)

end Lib
