import Mathlib

/-!
# Walks of a checked step

A reader that goes through a list of items with a state and stops at the first item its check
refuses.

- `walk_count`: a measure that every accepted item raises by one counts the items.
- `walk_backward`: if what an accepted item leads to determines where it was accepted and, up to
  `R`, the item itself, then two accepted lists of one length with the same end are related item by
  item. This is how a hash chain is read: from its last link back.
-/

namespace Lib

open List

section Walk

variable {σ ε β : Type*} (check : σ → ε → Except β σ)

def walk : σ → List ε → Except β σ
  | s, [] => .ok s
  | s, e :: es =>
    match check s e with
    | .error b => .error b
    | .ok s' => walk s' es

variable {check} {s t u : σ} {e : ε} {es fs : List ε}

@[simp] lemma walk_nil_ok_iff : walk check s [] = .ok u ↔ s = u := by
  simp [walk]

lemma walk_cons_ok_iff :
    walk check s (e :: es) = .ok u ↔ ∃ t, check s e = .ok t ∧ walk check t es = .ok u := by
  rw [walk]
  rcases check s e with b | t
  · simp
  · simp

lemma walk_singleton_ok_iff : walk check s [e] = .ok u ↔ check s e = .ok u := by
  simp [walk_cons_ok_iff]

lemma walk_append_ok_iff :
    walk check s (es ++ fs) = .ok u ↔ ∃ t, walk check s es = .ok t ∧ walk check t fs = .ok u := by
  induction es generalizing s with
  | nil => simp
  | cons e es ih =>
    rw [cons_append, walk_cons_ok_iff]
    constructor
    · rintro ⟨v, hv, hrest⟩
      obtain ⟨t, ht, hu⟩ := ih.mp hrest
      exact ⟨t, walk_cons_ok_iff.mpr ⟨v, hv, ht⟩, hu⟩
    · rintro ⟨t, ht, hu⟩
      obtain ⟨v, hv, hrest⟩ := walk_cons_ok_iff.mp ht
      exact ⟨v, hv, ih.mpr ⟨t, hrest, hu⟩⟩

lemma walk_count {M : Type*} [AddCommMonoidWithOne M] {count : σ → M}
    (hcheck : ∀ {s e t}, check s e = .ok t → count t = count s + 1) (h : walk check s es = .ok u) :
    count u = count s + es.length := by
  induction es generalizing s with
  | nil =>
    rw [walk_nil_ok_iff] at h
    simp [h]
  | cons e es ih =>
    obtain ⟨t, ht, hrest⟩ := walk_cons_ok_iff.mp h
    rw [ih hrest, hcheck ht, length_cons, Nat.cast_succ, add_assoc, add_comm 1]

lemma walk_backward {R : ε → ε → Prop} {s s' : σ} {es es' : List ε}
    (hcheck : ∀ {t t' v e e'}, check t e = .ok v → check t' e' = .ok v → e ∈ es → e' ∈ es' →
      t = t' ∧ R e e')
    (hlen : es.length = es'.length) (h : walk check s es = .ok u) (h' : walk check s' es' = .ok u) :
    s = s' ∧ List.Forall₂ R es es' := by
  induction es using List.reverseRecOn generalizing es' u with
  | nil =>
    obtain rfl : es' = [] := eq_nil_of_length_eq_zero (by simpa using hlen.symm)
    rw [walk_nil_ok_iff] at h h'
    exact ⟨h.trans h'.symm, .nil⟩
  | append_singleton es e ih =>
    obtain ⟨es', e', rfl⟩ : ∃ fs f, es' = fs ++ [f] := by
      rcases eq_nil_or_concat es' with rfl | h
      · simp at hlen
      · simpa using h
    obtain ⟨t, ht, hlast⟩ := walk_append_ok_iff.mp h
    obtain ⟨t', ht', hlast'⟩ := walk_append_ok_iff.mp h'
    rw [walk_singleton_ok_iff] at hlast hlast'
    obtain ⟨rfl, hR⟩ := hcheck hlast hlast' (by simp) (by simp)
    have hlen' : es.length = es'.length := by simpa using hlen
    obtain ⟨hs, hall⟩ := ih (fun hc hc' he he' => hcheck hc hc' (mem_append_left _ he)
      (mem_append_left _ he')) hlen' ht ht'
    exact ⟨hs, rel_append hall (.cons hR .nil)⟩

end Walk

end Lib
