import Mathlib

/-!
# Tables that remember the newest stamp per key

A receiver that wants to act on each message once, and never on one older than what it has seen,
keeps a table: for each key the newest stamp, and when the key was last touched. A message touches
its keys, and is *fresh* if one of them is missing or has an older stamp. Old rows are evicted.

- `Covers T k t since`: the table has `k` with a stamp of at least `t`, touched at `since` or later.
  Touching makes it so (`covers_touchAll`) and keeps it so (`Covers.touchAll`); evicting keeps it
  for as long as the rows evicted are older (`Covers.evict`).
- `touchAll_fresh_iff`: a message is fresh exactly if one of its keys is not covered at its stamp.
-/

namespace Lib

open List Function

section Freshness

variable {K τ : Type*} [DecidableEq K] [LinearOrder τ]

/-- For each key, when it was last touched and its newest stamp. -/
abbrev FreshTable (K τ : Type*) := K → Option (Nat × τ)

/-- Touch a key: is the stamp new for it? -/
def touch (T : FreshTable K τ) (k : K) (t : τ) (now : Nat) : Bool × FreshTable K τ :=
  match T k with
  | none => (true, update T k (some (now, t)))
  | some (_, s) => (decide (s < t), update T k (some (now, max s t)))

/-- Touch keys in order, the `i`-th at time `clock i`: is the stamp new for one of them? -/
def touchAll (t : τ) : (clock : Nat → Nat) → List K → FreshTable K τ → Bool × FreshTable K τ
  | _, [], T => (false, T)
  | clock, k :: ks, T =>
    let (fresh, T) := touch T k t (clock 0)
    let (freshLater, T) := touchAll t (fun i => clock (i + 1)) ks T
    (fresh || freshLater, T)

/-- Drop what has not been touched for `maxAge`. -/
def evict (T : FreshTable K τ) (now maxAge : Nat) : FreshTable K τ :=
  fun k => (T k).filter fun row => now - row.1 < maxAge

/-- The table has `k`, with a stamp of at least `t`, touched at `since` or later. -/
def Covers (T : FreshTable K τ) (k : K) (t : τ) (since : Nat) : Prop :=
  ∃ at' s, T k = some (at', s) ∧ t ≤ s ∧ since ≤ at'

variable {T : FreshTable K τ} {k : K} {t : τ} {since : Nat}

lemma touch_self (T : FreshTable K τ) (k : K) (t : τ) (now : Nat) :
    ∃ s, (touch T k t now).2 k = some (now, s) ∧ t ≤ s := by
  unfold touch
  rcases T k with _ | ⟨-, s⟩
  · exact ⟨t, update_self .., le_rfl⟩
  · exact ⟨max s t, update_self .., le_max_right s t⟩

variable {k' : K} {now maxAge at' : Nat} {clock : Nat → Nat} {ks : List K} {s : τ}

lemma touch_of_ne (T : FreshTable K τ) {k : K} (h : k ≠ k') (t : τ) (now : Nat) :
    (touch T k' t now).2 k = T k := by
  unfold touch
  rcases T k' with _ | ⟨-, s⟩
  · exact update_of_ne h ..
  · exact update_of_ne h ..

lemma covers_touch (T : FreshTable K τ) (k : K) (t : τ) (hnow : since ≤ now) :
    Covers (touch T k t now).2 k t since := by
  obtain ⟨s, hrow, hs⟩ := touch_self T k t now
  exact ⟨now, s, hrow, hs, hnow⟩

lemma Covers.touch (h : Covers T k t since) (k' : K) (t' : τ) (hnow : since ≤ now) :
    Covers (touch T k' t' now).2 k t since := by
  obtain ⟨at', s, hk, hs, hat⟩ := h
  by_cases hkk : k = k'
  · subst hkk
    rw [Lib.touch, hk]
    exact ⟨now, max s t', update_self .., hs.trans (le_max_left s t'), hnow⟩
  · exact ⟨at', s, (touch_of_ne T hkk t' now).trans hk, hs, hat⟩

lemma Covers.touchAll (h : Covers T k t since) (t' : τ)
    (hclock : ∀ i, since ≤ clock i) (ks : List K) :
    Covers (touchAll t' clock ks T).2 k t since := by
  induction ks generalizing T clock with
  | nil => exact h
  | cons k' ks ih => exact ih (h.touch k' t' (hclock 0)) fun i => hclock (i + 1)

lemma covers_touchAll (T : FreshTable K τ) (t : τ)
    (hclock : ∀ i, since ≤ clock i) (hk : k ∈ ks) :
    Covers (touchAll t clock ks T).2 k t since := by
  induction ks generalizing T clock with
  | nil => exact absurd hk not_mem_nil
  | cons k' ks ih =>
    have hlater : ∀ i, since ≤ clock (i + 1) := fun i => hclock (i + 1)
    rcases mem_cons.mp hk with rfl | hmem
    · exact (covers_touch T k t (hclock 0)).touchAll t hlater ks
    · exact ih _ hlater hmem

omit [DecidableEq K] in
lemma Covers.evict (h : Covers T k t since) (hsince : since ≤ now)
    (hage : now < since + maxAge) :
    Covers (evict T now maxAge) k t since := by
  obtain ⟨at', s, hk, hs, hat⟩ := h
  refine ⟨at', s, ?_, hs, hat⟩
  have hyoung : now - at' < maxAge := by omega
  simp [Lib.evict, hk, hyoung]

omit [DecidableEq K] [LinearOrder τ] in
lemma evict_eq_none (hold : ∀ at' s, T k = some (at', s) → at' + maxAge ≤ now) :
    Lib.evict T now maxAge k = none := by
  unfold Lib.evict
  rcases hk : T k with _ | ⟨at', s⟩
  · rfl
  · have := hold at' s hk
    rw [Option.filter_some, if_neg (by simp; omega)]

lemma touch_fresh_iff (T : FreshTable K τ) (k : K) (t : τ) (now : Nat) :
    (touch T k t now).1 ↔ ¬ Covers T k t 0 := by
  unfold touch Covers
  rcases hk : T k with _ | ⟨at', s⟩
  · simp
  · simp

lemma covers_touch_iff (T : FreshTable K τ) (k k' : K) (t : τ) (now : Nat) :
    Covers (touch T k' t now).2 k t 0 ↔ k = k' ∨ Covers T k t 0 := by
  constructor
  · rintro ⟨at', s, hk, hs, -⟩
    by_cases hkk : k = k'
    · exact .inl hkk
    · rw [touch_of_ne T hkk] at hk
      exact .inr ⟨at', s, hk, hs, Nat.zero_le _⟩
  · rintro (rfl | h)
    · exact covers_touch T k t (Nat.zero_le _)
    · exact h.touch k' t (Nat.zero_le _)

lemma touchAll_fresh_iff (T : FreshTable K τ) (t : τ) (clock : Nat → Nat) (ks : List K) :
    (touchAll t clock ks T).1 ↔ ∃ k ∈ ks, ¬ Covers T k t 0 := by
  induction ks generalizing T clock with
  | nil => simp [touchAll]
  | cons k ks ih =>
    have hsplit : (touchAll t clock (k :: ks) T).1 ↔
        ¬ Covers T k t 0 ∨ ∃ k' ∈ ks, ¬ Covers (touch T k t (clock 0)).2 k' t 0 := by
      rw [← touch_fresh_iff T k t (clock 0), ← ih, ← Bool.or_eq_true]
      rfl
    rw [hsplit]
    constructor
    · rintro (h | ⟨k', hk', h⟩)
      · exact ⟨k, mem_cons_self, h⟩
      · refine ⟨k', mem_cons_of_mem k hk', fun hcovers => h ?_⟩
        exact hcovers.touch k t (Nat.zero_le _)
    · rintro ⟨k', hk', h⟩
      by_cases hk : Covers T k t 0
      · right
        rcases mem_cons.mp hk' with rfl | hmem
        · exact absurd hk h
        refine ⟨k', hmem, fun hcovers => ?_⟩
        rcases (covers_touch_iff T k' k t (clock 0)).mp hcovers with rfl | hold
        · exact h hk
        · exact h hold
      · exact .inl hk

lemma touchAll_of_not_mem (t : τ) (clock : Nat → Nat) (hk : k ∉ ks)
    (T : FreshTable K τ) : (touchAll t clock ks T).2 k = T k := by
  induction ks generalizing T clock with
  | nil => rfl
  | cons k' ks ih =>
    rw [mem_cons, not_or] at hk
    exact (ih (fun i => clock (i + 1)) hk.2 _).trans (touch_of_ne T hk.1 t (clock 0))

lemma touchAll_row (t : τ) (clock : Nat → Nat) (ks : List K)
    (h : (touchAll t clock ks T).2 k = some (at', s)) :
    T k = some (at', s) ∨ ∃ i, at' = clock i := by
  induction ks generalizing T clock with
  | nil => exact .inl h
  | cons k' ks ih =>
    have hstep := ih (T := (touch T k' t (clock 0)).2) (fun i => clock (i + 1)) h
    rcases hstep with hrow | ⟨i, hi⟩
    · by_cases hkk : k = k'
      · subst hkk
        obtain ⟨s', hs', -⟩ := touch_self T k t (clock 0)
        rw [hs', Option.some.injEq, Prod.mk.injEq] at hrow
        exact .inr ⟨0, hrow.1.symm⟩
      · rw [touch_of_ne T hkk] at hrow
        exact .inl hrow
    · exact .inr ⟨i + 1, hi⟩

end Freshness

end Lib
