import Mathlib.Data.Finset.Card
import Mathlib.Data.List.Nodup

/-!
# Sets and maps that forget their oldest element

A set of bounded size. It is kept twice, as a set to look elements up in and as the queue of the
same elements in the order they came; when the queue is too long, its first element leaves both.

- `eq_or_mem_of_mem_insert`: inserting adds the element and nothing else.
- `Recent s a n`: at most `n` elements came after `a`. A new element has none after it
  (`recent_insert_self`), each insertion adds at most one (`Recent.insert`), and an element only
  leaves after as many insertions as the set has places.
- `capacity_le_newly`: an element leaves only after as many others came as the set has places.
- `order_foldl_insert`: of new elements that come in a row, the last ones are there.

A `FifoMap` is such a set with a value for each of its elements.
-/

namespace Lib

open List Function

/-- A set of at most `capacity` elements, with the order they came in. -/
structure FifoSet (α : Type*) [DecidableEq α] (capacity : Nat) where
  seen : Finset α
  /-- The elements, oldest first. -/
  order : List α
  seen_eq : seen = order.toFinset
  nodup : order.Nodup
  bounded : order.length ≤ capacity

namespace FifoSet

variable {α : Type*} [DecidableEq α] {capacity : Nat}

instance : Membership α (FifoSet α capacity) := ⟨fun s a => a ∈ s.seen⟩

instance (a : α) (s : FifoSet α capacity) : Decidable (a ∈ s) :=
  inferInstanceAs (Decidable (a ∈ s.seen))

def empty : FifoSet α capacity := ⟨∅, [], rfl, nodup_nil, Nat.zero_le _⟩

/-- Add an element at the end; if that is one too many, the oldest leaves. -/
def insert (s : FifoSet α capacity) (a : α) : FifoSet α capacity :=
  if h : a ∈ s.seen then s
  else
    have hnew : a ∉ s.order := by rwa [s.seen_eq, mem_toFinset] at h
    have hnodup : (s.order ++ [a]).Nodup := by simpa using List.Nodup.concat hnew s.nodup
    have hseen : Insert.insert a s.seen = (s.order ++ [a]).toFinset := by
      ext b
      rw [Finset.mem_insert, s.seen_eq, mem_toFinset, mem_toFinset, mem_append,
        mem_singleton, or_comm]
    if hfull : capacity < (s.order ++ [a]).length then
      { seen := (Insert.insert a s.seen).erase ((s.order ++ [a]).head (by simp))
        order := (s.order ++ [a]).tail
        seen_eq := by
          rw [hseen]
          obtain ⟨oldest, rest, hcons⟩ := exists_cons_of_ne_nil (l := s.order ++ [a]) (by simp)
          simp only [hcons] at hnodup ⊢
          have hout : oldest ∉ rest.toFinset := by simpa using (nodup_cons.mp hnodup).1
          simp [toFinset_cons, Finset.erase_insert hout]
        nodup := hnodup.tail
        bounded := by simpa using s.bounded }
    else
      { seen := Insert.insert a s.seen
        order := s.order ++ [a]
        seen_eq := hseen
        nodup := hnodup
        bounded := Nat.le_of_not_lt hfull }

variable {a : α} {s : FifoSet α capacity} {n : Nat}

lemma mem_iff_mem_order : a ∈ s ↔ a ∈ s.order := by
  show a ∈ s.seen ↔ a ∈ s.order
  rw [s.seen_eq, mem_toFinset]

lemma insert_of_mem (h : a ∈ s) : s.insert a = s := dif_pos h

lemma order_insert (s : FifoSet α capacity) (a : α) :
    (a ∈ s ∧ s.insert a = s) ∨
      (a ∉ s ∧ s.order.length = capacity ∧ (s.insert a).order = (s.order ++ [a]).tail) ∨
      (a ∉ s ∧ s.order.length < capacity ∧ (s.insert a).order = s.order ++ [a]) := by
  have hbounded := s.bounded
  by_cases h : a ∈ s.seen
  · exact .inl ⟨h, insert_of_mem h⟩
  by_cases hfull : capacity < (s.order ++ [a]).length
  · refine .inr (.inl ⟨h, ?_, ?_⟩)
    · rw [length_append, length_singleton] at hfull
      omega
    · rw [insert, dif_neg h, dif_pos hfull]
  refine .inr (.inr ⟨h, ?_, ?_⟩)
  · rw [length_append, length_singleton] at hfull
    omega
  · rw [insert, dif_neg h, dif_neg hfull]

lemma eq_or_mem_of_mem_insert {b : α} (h : b ∈ s.insert a) :
    b = a ∨ b ∈ s := by
  rcases order_insert s a with ⟨-, hsame⟩ | ⟨-, -, horder⟩ | ⟨-, -, horder⟩
  · exact .inr (hsame ▸ h)
  · rw [mem_iff_mem_order, horder] at h
    have hmem := mem_of_mem_tail h
    rw [mem_append, mem_singleton] at hmem
    exact hmem.symm.imp_right mem_iff_mem_order.mpr
  · rw [mem_iff_mem_order, horder, mem_append, mem_singleton] at h
    exact h.symm.imp_right mem_iff_mem_order.mpr

/-! ## Age -/

def Recent (s : FifoSet α capacity) (a : α) (n : Nat) : Prop :=
  ∃ front back, s.order = front ++ a :: back ∧ back.length ≤ n

lemma Recent.mem (h : s.Recent a n) : a ∈ s := by
  obtain ⟨front, back, horder, -⟩ := h
  rw [mem_iff_mem_order, horder]
  exact mem_append_right front mem_cons_self

lemma recent_insert_self (hnew : a ∉ s) (hpos : 0 < capacity) :
    (s.insert a).Recent a 0 := by
  rcases order_insert s a with ⟨hmem, -⟩ | ⟨-, hfull, horder⟩ | ⟨-, -, horder⟩
  · exact absurd hmem hnew
  · obtain ⟨oldest, rest, hcons⟩ := exists_cons_of_length_pos (hfull ▸ hpos)
    exact ⟨rest, [], by rw [horder, hcons]; rfl, le_refl 0⟩
  · exact ⟨s.order, [], horder, le_refl 0⟩

lemma Recent.insert (h : s.Recent a n)
    (hn : n + 1 < capacity) (b : α) : (s.insert b).Recent a (n + 1) := by
  obtain ⟨front, back, ha, hback⟩ := h
  rcases order_insert s b with ⟨-, hsame⟩ | ⟨-, hfull, horder⟩ | ⟨-, -, horder⟩
  · exact ⟨front, back, by rw [hsame, ha], by omega⟩
  · -- the queue is full, so something is older than the element
    cases front with
    | nil =>
      rw [ha] at hfull
      simp at hfull
      omega
    | cons oldest front =>
      exact ⟨front, back ++ [b], by rw [horder, ha]; simp, by simpa using hback⟩
  · exact ⟨front, back ++ [b], by rw [horder, ha]; simp, by simpa using hback⟩

lemma Recent.mono {m : Nat} (h : s.Recent a m) (hmn : m ≤ n) :
    s.Recent a n := by
  obtain ⟨front, back, horder, hback⟩ := h
  exact ⟨front, back, horder, hback.trans hmn⟩

lemma order_foldl_insert (l : List α) (s : FifoSet α capacity) (hnew : (s.order ++ l).Nodup) :
    (l.foldl FifoSet.insert s).order =
      (s.order ++ l).drop ((s.order ++ l).length - capacity) := by
  induction l generalizing s with
  | nil =>
    have hbounded := s.bounded
    rw [append_nil, Nat.sub_eq_zero_of_le hbounded, foldl_nil, drop_zero]
  | cons a l ih =>
    have hout : a ∉ s := by
      rw [mem_iff_mem_order]
      intro hmem
      exact disjoint_of_nodup_append hnew hmem mem_cons_self
    rw [foldl_cons]
    rcases order_insert s a with ⟨hmem, -⟩ | ⟨-, hfull, horder⟩ | ⟨-, -, horder⟩
    · exact absurd hmem hout
    · have hrest : (s.insert a).order ++ l = (s.order ++ a :: l).drop 1 := by
        rw [horder, append_cons]
        cases s.order <;> simp
      rw [ih _ (hrest ▸ hnew.sublist (drop_sublist ..)), hrest, drop_drop,
        length_drop]
      congr 1
      simp only [length_append, length_cons]
      omega
    · have hrest : (s.insert a).order ++ l = s.order ++ a :: l := by
        rw [horder, ← append_cons]
      rw [ih _ (hrest ▸ hnew), hrest]

/-- Of the elements that are inserted one after the other, those that were not there. -/
def newly (s : FifoSet α capacity) : List α → List α
  | [] => []
  | a :: l => if a ∈ s then newly s l else a :: newly (s.insert a) l

lemma capacity_le_newly {front back : List α} (l : List α) (horder : s.order = front ++ a :: back)
    (hleft : a ∉ l.foldl FifoSet.insert s) :
    capacity ≤ ((back ++ s.newly l).toFinset.erase a).card := by
  -- what came after the element is behind it in the queue, as long as it is there
  induction l generalizing s front back with
  | nil =>
    rw [foldl_nil, mem_iff_mem_order, horder] at hleft
    exact absurd (mem_append_right front mem_cons_self) hleft
  | cons b l ih =>
    rw [foldl_cons] at hleft
    rcases order_insert s b with ⟨hmem, hsame⟩ | ⟨hnew, hfull, hqueue⟩ | ⟨hnew, -, hqueue⟩
    · rw [newly, if_pos hmem]
      rw [hsame] at hleft
      exact ih horder hleft
    · rw [newly, if_neg hnew, append_cons]
      rw [horder] at hqueue
      cases front with
      | cons oldest front => exact ih (by simpa using hqueue) hleft
      | nil =>
        -- it is the oldest, and leaves
        have hnodup := (s.insert b).nodup
        rw [hqueue, nil_append, cons_append, tail_cons] at hnodup
        have hother : a ∉ back ++ [b] := by
          have hold := s.nodup
          rw [horder, nil_append, nodup_cons] at hold
          rw [mem_iff_mem_order, horder] at hnew
          simp only [mem_append, mem_singleton, not_or]
          exact ⟨hold.1, fun h => hnew (by simp [h])⟩
        have hcard : (back ++ [b]).toFinset.card = capacity := by
          rw [toFinset_card_of_nodup hnodup, ← hfull, horder]
          simp
        refine hcard.ge.trans (Finset.card_le_card fun c hc => Finset.mem_erase.mpr ⟨?_, ?_⟩)
        · rintro rfl
          exact hother (mem_toFinset.mp hc)
        · rw [toFinset_append]
          exact Finset.mem_union_left _ hc
    · rw [newly, if_neg hnew, append_cons]
      have hback : (s.insert b).order = front ++ a :: (back ++ [b]) := by
        rw [hqueue, horder, append_assoc, cons_append]
      exact ih hback hleft

/-! ## Dropping elements -/

def retain (s : FifoSet α capacity) (p : α → Bool) : FifoSet α capacity where
  seen := s.seen.filter (p · = true)
  order := s.order.filter p
  seen_eq := by
    rw [s.seen_eq]
    ext a
    simp
  nodup := s.nodup.filter p
  bounded := (length_filter_le p s.order).trans s.bounded

lemma mem_retain {p : α → Bool} :
    a ∈ s.retain p ↔ a ∈ s ∧ p a := by
  rw [mem_iff_mem_order, mem_iff_mem_order]
  exact mem_filter

lemma Recent.retain {p : α → Bool}
    (h : s.Recent a n) (hp : p a) : (s.retain p).Recent a n := by
  obtain ⟨front, back, horder, hback⟩ := h
  refine ⟨front.filter p, back.filter p, ?_, (length_filter_le p back).trans hback⟩
  show s.order.filter p = _
  rw [horder, filter_append, filter_cons_of_pos hp]

end FifoSet

/-! ## Maps -/

/-- A map with at most `capacity` keys, with the order they came in. -/
structure FifoMap (α β : Type*) [DecidableEq α] (capacity : Nat) where
  keys : FifoSet α capacity
  entries : α → Option β
  isSome_entries : ∀ a, (entries a).isSome ↔ a ∈ keys

namespace FifoMap

variable {α β : Type*} [DecidableEq α] {capacity : Nat}

def empty : FifoMap α β capacity where
  keys := .empty
  entries := fun _ => none
  isSome_entries := by simp [FifoSet.mem_iff_mem_order, FifoSet.empty]

/-- Add a key with its value; if that is one too many, the oldest key leaves. -/
def insert (m : FifoMap α β capacity) (a : α) (b : β) : FifoMap α β capacity where
  keys := m.keys.insert a
  entries := fun c => if c ∈ m.keys.insert a then update m.entries a (some b) c else none
  isSome_entries := by
    intro c
    by_cases hc : c ∈ m.keys.insert a
    · rw [if_pos hc]
      rcases FifoSet.eq_or_mem_of_mem_insert hc with rfl | hold
      · simpa using hc
      by_cases hca : c = a
      · subst hca
        simpa using hc
      · rw [update_of_ne hca]
        exact iff_of_true ((m.isSome_entries c).mpr hold) hc
    · simp [hc]

def retain (m : FifoMap α β capacity) (p : β → Bool) : FifoMap α β capacity where
  keys := m.keys.retain fun a => (m.entries a).any p
  entries := fun a => (m.entries a).filter p
  isSome_entries := by
    intro a
    rw [FifoSet.mem_retain, ← m.isSome_entries]
    cases m.entries a <;> simp [Option.filter]

variable {m : FifoMap α β capacity} {a : α}

lemma entries_insert_of_mem {c : α} (b : β) (hne : c ≠ a)
    (hmem : c ∈ m.keys.insert a) : (m.insert a b).entries c = m.entries c := by
  show (if c ∈ m.keys.insert a then update m.entries a (some b) c else none) = _
  rw [if_pos hmem, update_of_ne hne]

lemma entries_insert_self (b : β)
    (hmem : a ∈ m.keys.insert a) : (m.insert a b).entries a = some b := by
  show (if a ∈ m.keys.insert a then update m.entries a (some b) a else none) = _
  rw [if_pos hmem, update_self]

end FifoMap

end Lib
