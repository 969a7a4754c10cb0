import Mathlib

/-!
# Pieces of a list, in any order

- `piece k l i`: the `i`th piece of length `k`; `flatMap_piece`: the first pieces put together.
- `exists_order_of_perm`: a list that is numbered by a function, in another order.
- `coe_flatMap_fibers`: a set that is stored by the values of a function, collected again;
  `coe_filter_eq_val`.
-/

namespace Lib

section Pieces

variable {α : Type*}

/-- The elements from `i * k` on, at most `k`. -/
def piece (k : Nat) (l : List α) (i : Nat) : List α := (l.drop (i * k)).take k

lemma flatMap_piece (k : Nat) (l : List α) (n : Nat) :
    (List.range n).flatMap (piece k l) = l.take (n * k) := by
  induction n with
  | zero => simp
  | succ n ih =>
    rw [List.range_succ, List.flatMap_append, ih, List.flatMap_singleton, piece,
      ← List.take_add, Nat.succ_mul]

lemma take_min_sub_eq_piece (k : Nat) (l : List α) (i : Nat) :
    (l.drop (i * k)).take (min ((i + 1) * k) l.length - i * k) = piece k l i := by
  rw [piece, Nat.succ_mul]
  rcases Nat.le_total (i * k + k) l.length with hle | hle
  · rw [Nat.min_eq_left hle, Nat.add_sub_cancel_left]
  rw [Nat.min_eq_right hle, ← List.length_drop, List.take_length, List.take_of_length_le]
  rw [List.length_drop]
  omega

lemma le_ceilDiv_mul {k : Nat} (hk : 0 < k) (n : Nat) : n ≤ (n + k - 1) / k * k := by
  have hmod := Nat.mod_lt (n + k - 1) hk
  have hdiv := Nat.div_add_mod' (n + k - 1) k
  omega

end Pieces

section Orders

variable {α β : Type*} {ofNumber : β → α} {l : List α} {numbers : List β}

lemma exists_order_of_perm (number : α → β)
    (hinverse : ∀ b ∈ numbers, number (ofNumber b) = b) (h : l.Perm (numbers.map ofNumber)) :
    ∃ order : List β, order.Perm numbers ∧ l = order.map ofNumber := by
  refine ⟨l.map number, ?_, ?_⟩
  · have hmap := h.map number
    rw [List.map_map] at hmap
    have hid : numbers.map (number ∘ ofNumber) = numbers := by
      conv_rhs => rw [← List.map_id numbers]
      exact List.map_congr_left hinverse
    rwa [hid] at hmap
  · rw [List.map_map]
    conv_lhs => rw [← List.map_id l]
    refine List.map_congr_left ?_
    intro a ha
    obtain ⟨b, hb, rfl⟩ := List.mem_map.mp (h.subset ha)
    exact congrArg ofNumber (hinverse b hb).symm

end Orders

section Fibers

variable {α κ : Type*} [DecidableEq κ]

lemma coe_filter_eq_val {l : List α} {S : Finset α} (h : (l : Multiset α) = S.val)
    (p : α → Bool) : (l.filter p : Multiset α) = (S.filter fun x => p x).val := by
  rw [Finset.filter_val, ← h, Multiset.filter_coe]
  simp

lemma coe_flatMap_fibers {f : α → κ} {S : Finset α} {stored : κ → List α}
    (hstored : ∀ k, (stored k : Multiset α) = (S.filter fun x => f x = k).val) {keys : List κ}
    (hkeys : keys.Nodup) :
    (keys.flatMap stored : Multiset α) = (S.filter fun x => f x ∈ keys).val := by
  induction keys with
  | nil => simp
  | cons k keys ih =>
    obtain ⟨hk, hnodup⟩ := List.nodup_cons.mp hkeys
    have hdisjoint : Disjoint (S.filter fun x => f x = k) (S.filter fun x => f x ∈ keys) := by
      rw [Finset.disjoint_filter]
      rintro x - rfl
      exact hk
    have hsplit : (S.filter fun x => f x ∈ k :: keys) =
        (S.filter fun x => f x = k).disjUnion (S.filter fun x => f x ∈ keys) hdisjoint := by
      ext x
      simp only [Finset.mem_filter, List.mem_cons, Finset.mem_disjUnion]
      tauto
    rw [List.flatMap_cons, ← Multiset.coe_add, hstored, ih hnodup, hsplit]
    rfl

end Fibers

section Tables

variable {α : Type*} {β : α → Type*} [DecidableEq α]

def retainEntries (table : AList β) (p : Sigma β → Bool) : AList β :=
  ⟨table.entries.filter p, table.nodupKeys.sublist List.filter_sublist⟩

lemma lookup_retainEntries (table : AList β) (p : Sigma β → Bool) (a : α) :
    (retainEntries table p).lookup a = (table.lookup a).filter fun b => p ⟨a, b⟩ := by
  ext b
  rw [Option.filter_eq_some_iff, ← Option.mem_def, ← Option.mem_def, AList.mem_lookup_iff,
    AList.mem_lookup_iff]
  exact List.mem_filter

lemma perm_insert_of_lookup {table : AList β} {a : α} {b : β a} (h : table.lookup a = some b) :
    (table.insert a b).entries.Perm table.entries := by
  refine List.lookup_ext (table.insert a b).nodupKeys table.nodupKeys fun a' b' => ?_
  change b' ∈ (table.insert a b).lookup a' ↔ b' ∈ table.lookup a'
  by_cases ha : a' = a
  · subst ha
    rw [AList.lookup_insert, h]
  · rw [AList.lookup_insert_ne ha]

end Tables

end Lib
