import Mathlib

/-!
# Left-to-right scans with a fixed-width window

A scanner slides a window of width `w` over a sequence. Where the window parses, the scanner
reports the value and continues *behind* the window; elsewhere it moves on by one. Such a scan
does not report every parsing window: one that overlaps an earlier reported window is passed over.

- `Taken t i`: the declarative reading. The window at `i` parses and overlaps no taken window
  before it.
- `mem_scanSkip_iff_taken`: what the scanner reports is exactly what the taken windows spell.
-/

namespace Lib

open List

section Scan

variable {α β : Type*} (w : Nat) (hit : List α → Option β)

/-- The value spelled by the first `w` elements, if there are that many and they parse. -/
def windowAt (t : List α) : Option β := if t.length < w then none else hit (t.take w)

/-- Scan a sequence, `skip` elements of which still belong to the last reported window. -/
def scanSkip : Nat → List α → List β
  | _, [] => []
  | skip + 1, _ :: t => scanSkip skip t
  | 0, x :: t =>
    match windowAt w hit (x :: t) with
    | some b => b :: scanSkip (w - 1) t
    | none => scanSkip 0 t

/-- The window at `i` parses, and no taken window before it reaches past `i`. -/
def Taken (t : List α) (i : Nat) : Prop :=
  (windowAt w hit (t.drop i)).isSome ∧ ∀ j, j < i → i < j + w → ¬ Taken t j
termination_by i

variable {w hit}

lemma windowAt_nil (hw : 0 < w) : windowAt w hit ([] : List α) = none := by
  simp [windowAt, hw]

lemma Taken.lt_length (hw : 0 < w) {t : List α} {i : Nat} (h : Taken w hit t i) :
    i < t.length := by
  rw [Taken] at h
  by_contra hlen
  have hnil : t.drop i = [] := drop_eq_nil_of_le (by omega)
  rw [hnil, windowAt_nil hw] at h
  simp at h

/-- The scan's loop invariant: at position `p` with `skip` elements to pass over, the covered
positions from `p` on are those a taken window before `p` reaches. -/
def Covered (w : Nat) (hit : List α → Option β) (t : List α) (p skip : Nat) : Prop :=
  ∀ q, p ≤ q → (q < p + skip ↔ ∃ j, j < p ∧ Taken w hit t j ∧ q < j + w)

lemma Covered.skip {t : List α} {p skip : Nat} (h : Covered w hit t p (skip + 1)) :
    ¬ Taken w hit t p ∧ Covered w hit t (p + 1) skip := by
  obtain ⟨j, hjp, hj, hpj⟩ := (h p le_rfl).mp (by omega)
  have hp : ¬ Taken w hit t p := by
    intro hp
    rw [Taken] at hp
    exact hp.2 j hjp hpj hj
  refine ⟨hp, fun q hq => ?_⟩
  constructor
  · intro hlt
    obtain ⟨j, hjp, hj, hqj⟩ := (h q (by omega)).mp (by omega)
    exact ⟨j, by omega, hj, hqj⟩
  · rintro ⟨j, hjp, hj, hqj⟩
    have hne : j ≠ p := fun he => hp (he ▸ hj)
    have := (h q (by omega)).mpr ⟨j, by omega, hj, hqj⟩
    omega

lemma Covered.taken_iff {t : List α} {p : Nat} (h : Covered w hit t p 0) :
    Taken w hit t p ↔ (windowAt w hit (t.drop p)).isSome := by
  rw [Taken]
  refine ⟨fun hp => hp.1, fun hp => ⟨hp, fun j hjp hpj hj => ?_⟩⟩
  have := (h p le_rfl).mpr ⟨j, hjp, hj, hpj⟩
  omega

lemma Covered.advance {t : List α} {p skip : Nat} (h : Covered w hit t p 0)
    (hs : ∀ q, p < q → (q < p + 1 + skip ↔ Taken w hit t p ∧ q < p + w)) :
    Covered w hit t (p + 1) skip := by
  intro q hq
  rw [hs q (by omega)]
  constructor
  · rintro ⟨hp, hqp⟩
    exact ⟨p, by omega, hp, hqp⟩
  · rintro ⟨j, hjp, hj, hqj⟩
    rcases Nat.lt_or_ge j p with hlt | hge
    · have := (h q (by omega)).mpr ⟨j, hlt, hj, hqj⟩
      omega
    · obtain rfl : j = p := by omega
      exact ⟨hj, hqj⟩

lemma mem_scanSkip_of_covered (hw : 0 < w) {t : List α} {b : β} :
    ∀ (u : List α) (p skip : Nat), t.drop p = u → Covered w hit t p skip →
      (b ∈ scanSkip w hit skip u ↔
        ∃ i, p ≤ i ∧ Taken w hit t i ∧ windowAt w hit (t.drop i) = some b)
  | [], p, skip, hu, _ => by
    have hlen : t.length ≤ p := drop_eq_nil_iff.mp hu
    simp only [scanSkip, not_mem_nil, false_iff, not_exists, not_and]
    intro i hpi hi
    have := hi.lt_length hw
    omega
  | x :: u, p, skip + 1, hu, hcov => by
    obtain ⟨hp, hcov'⟩ := hcov.skip
    have hu' : t.drop (p + 1) = u := by rw [← tail_drop, hu]; rfl
    rw [scanSkip, mem_scanSkip_of_covered hw u (p + 1) skip hu' hcov']
    constructor
    · rintro ⟨i, hpi, hi, hb⟩
      exact ⟨i, by omega, hi, hb⟩
    · rintro ⟨i, hpi, hi, hb⟩
      have hne : i ≠ p := fun he => hp (he ▸ hi)
      exact ⟨i, by omega, hi, hb⟩
  | x :: u, p, 0, hu, hcov => by
    have hu' : t.drop (p + 1) = u := by rw [← tail_drop, hu]; rfl
    have htaken := hcov.taken_iff
    rw [hu] at htaken
    rw [scanSkip]
    rcases hwin : windowAt w hit (x :: u) with _ | b'
    · -- no window here: `p` is not taken and covers nothing
      have hp : ¬ Taken w hit t p := by simp [htaken, hwin]
      have hcov' : Covered w hit t (p + 1) 0 :=
        hcov.advance fun q hq => ⟨fun h => by omega, fun h => absurd h.1 hp⟩
      simp only
      rw [mem_scanSkip_of_covered hw u (p + 1) 0 hu' hcov']
      constructor
      · rintro ⟨i, hpi, hi, hb⟩
        exact ⟨i, by omega, hi, hb⟩
      · rintro ⟨i, hpi, hi, hb⟩
        have hne : i ≠ p := fun he => hp (he ▸ hi)
        exact ⟨i, by omega, hi, hb⟩
    · -- a taken window: report it and pass over its remaining elements
      have hp : Taken w hit t p := by simp [htaken, hwin]
      have hcov' : Covered w hit t (p + 1) (w - 1) :=
        hcov.advance fun q hq => ⟨fun h => ⟨hp, by omega⟩, fun h => by omega⟩
      simp only [mem_cons]
      rw [mem_scanSkip_of_covered hw u (p + 1) (w - 1) hu' hcov']
      constructor
      · rintro (rfl | ⟨i, hpi, hi, hb⟩)
        · exact ⟨p, le_rfl, hp, by rw [hu, hwin]⟩
        · exact ⟨i, by omega, hi, hb⟩
      · rintro ⟨i, hpi, hi, hb⟩
        rcases Nat.eq_or_lt_of_le hpi with rfl | hlt
        · left
          rw [hu, hwin] at hb
          exact (Option.some.inj hb).symm
        · right
          exact ⟨i, by omega, hi, hb⟩

lemma mem_scanSkip_iff_taken (hw : 0 < w) {t : List α} {b : β} :
    b ∈ scanSkip w hit 0 t ↔ ∃ i, Taken w hit t i ∧ windowAt w hit (t.drop i) = some b := by
  have hcov : Covered w hit t 0 0 := by
    intro q _
    constructor
    · intro h; omega
    · rintro ⟨j, hj, -⟩; omega
  rw [mem_scanSkip_of_covered hw t 0 0 (by simp) hcov]
  simp

end Scan

end Lib
