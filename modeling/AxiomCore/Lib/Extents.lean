import Mathlib

/-!
# Lists of extents

An extent is an interval of natural numbers. A list of extents in increasing order with a gap
between any two is the canonical form of the set it covers, as free lists keep it.

- `exists_extent_of_covered`: an interval that is covered lies in one extent. So the first fit fails
  only if no interval of that length is covered, and a list that covers an interval is that interval
  (`eq_singleton_of_covered`).
-/

namespace Lib

open List (forall_mem_cons mem_cons mem_cons_of_mem mem_cons_self pairwise_cons)

@[ext] structure Extent where
  lo : Nat
  hi : Nat
  le : lo ≤ hi
  deriving DecidableEq

namespace Extent

def points (s : Extent) : Set Nat := Set.Ico s.lo s.hi

def length (s : Extent) : Nat := s.hi - s.lo

def Before (s t : Extent) : Prop := s.hi < t.lo

def join (s t : Extent) (h : s.hi = t.lo) : Extent := ⟨s.lo, t.hi, s.le.trans (h ▸ t.le)⟩

lemma points_join {s t : Extent} (h : s.hi = t.lo) : (join s t h).points = s.points ∪ t.points := by
  have ht : s.hi ≤ t.hi := h ▸ t.le
  rw [points, points, points, join, ← h, Set.Ico_union_Ico_eq_Ico s.le ht]

lemma before_trans {s t u : Extent} (hst : s.Before t) (htu : t.Before u) : s.Before u :=
  Nat.lt_trans hst (Nat.lt_of_le_of_lt t.le htu)

lemma lo_lt_of_before {s t : Extent} (h : s.Before t) : s.lo < t.lo := Nat.lt_of_le_of_lt s.le h

end Extent

open Extent

def covered (l : List Extent) : Set Nat := {x | ∃ s ∈ l, x ∈ s.points}

variable {l : List Extent} {s new : Extent} {n : Nat}

lemma mem_covered {x : Nat} : x ∈ covered l ↔ ∃ s ∈ l, s.lo ≤ x ∧ x < s.hi :=
  Iff.rfl

@[simp] lemma covered_nil : covered [] = ∅ := by
  simp [covered]

@[simp] lemma covered_cons (s : Extent) (l : List Extent) :
    covered (s :: l) = s.points ∪ covered l := by
  ext x
  simp [covered]

lemma points_subset_covered (h : s ∈ l) : s.points ⊆ covered l :=
  fun _ hx => ⟨s, h, hx⟩

/-- In increasing order, with gaps. -/
abbrev Separated (l : List Extent) : Prop := l.Pairwise Before

def AllPos (l : List Extent) : Prop := ∀ s ∈ l, s.lo < s.hi

/-! ## What a separated list covers -/

lemma Separated.before_or (h : Separated l) {t : Extent} (hs : s ∈ l) (ht : t ∈ l)
    (hne : s ≠ t) : s.Before t ∨ t.Before s := by
  rcases List.mem_iff_getElem.mp hs with ⟨i, hi, rfl⟩
  rcases List.mem_iff_getElem.mp ht with ⟨j, hj, rfl⟩
  rcases Nat.lt_trichotomy i j with hlt | rfl | hgt
  · exact .inl (List.pairwise_iff_getElem.mp h i j hi hj hlt)
  · exact absurd rfl hne
  · exact .inr (List.pairwise_iff_getElem.mp h j i hj hi hgt)

lemma exists_extent_of_covered (h : Separated l) {a : Nat} (hn : 0 < n)
    (hcovered : Set.Ico a (a + n) ⊆ covered l) : ∃ s ∈ l, s.lo ≤ a ∧ a + n ≤ s.hi := by
  induction n with
  | zero => cases hn
  | succ n ih =>
    have hlast : a + n ∈ covered l := hcovered ⟨by omega, by omega⟩
    obtain ⟨t, ht, hlo, hhi⟩ := mem_covered.mp hlast
    rcases Nat.eq_zero_or_pos n with rfl | hpos
    · exact ⟨t, ht, hlo, hhi⟩
    obtain ⟨s, hs, hslo, hshi⟩ := ih hpos fun x hx => hcovered ⟨hx.1, by have := hx.2; omega⟩
    -- The next point is in the same extent: there is a gap between two extents.
    by_cases hst : s = t
    · subst hst
      exact ⟨s, hs, hslo, hhi⟩
    rcases h.before_or hs ht hst with hbefore | hafter
    · have hgap : s.hi < t.lo := hbefore
      omega
    · have hgap : t.hi < s.lo := hafter
      omega

lemma eq_singleton_of_covered (h : Separated l) (hpos : AllPos l)
    (hn : 0 < n) (hcovered : covered l = Set.Ico 0 n) : l = [⟨0, n, Nat.zero_le n⟩] := by
  have hwhole : Set.Ico 0 (0 + n) ⊆ covered l := by
    rw [Nat.zero_add, hcovered]
  obtain ⟨s, hs, hlo, hhi⟩ := exists_extent_of_covered h hn hwhole
  have hlt : ∀ t ∈ l, t.hi ≤ n := by
    intro t ht
    have hlast : t.hi - 1 ∈ covered l :=
      points_subset_covered ht ⟨by have := hpos t ht; omega, by have := hpos t ht; omega⟩
    rw [hcovered] at hlast
    have hbound := hlast.2
    omega
  have hself : s = ⟨0, n, Nat.zero_le n⟩ := by
    have hbound := hlt s hs
    ext
    · exact Nat.le_zero.mp hlo
    · change s.hi = n
      omega
  have hall : ∀ t ∈ l, t = ⟨0, n, Nat.zero_le n⟩ := by
    intro t ht
    by_contra hne
    rcases h.before_or hs ht (fun heq => hne (heq.symm.trans hself)) with hbefore | hafter
    · have hgap : s.hi < t.lo := hbefore
      have hbound := hlt t ht
      have hle := t.le
      omega
    · have hgap : t.hi < s.lo := hafter
      omega
  obtain _ | ⟨t, _ | ⟨u, l⟩⟩ := l
  · cases hs
  · rw [hall t mem_cons_self]
  -- Two equal extents have no gap between them.
  have hgap : t.hi < u.lo := (pairwise_cons.mp h).1 u mem_cons_self
  rw [hall t mem_cons_self, hall u (mem_cons_of_mem _ mem_cons_self)] at hgap
  exact absurd hgap (Nat.not_lt_zero _)

/-! ## First fit -/

/-- The first `n` numbers of the first extent that has so many, and what is left. -/
def takeFirst (n : Nat) : List Extent → Option (Nat × List Extent)
  | [] => none
  | s :: l =>
    if h : n ≤ s.length then
      some (s.lo, if s.length = n then l else
        ⟨s.lo + n, s.hi, by have := s.le; unfold Extent.length at h; omega⟩ :: l)
    else (takeFirst n l).map fun (lo, l) => (lo, s :: l)

lemma takeFirst_eq_none :
    takeFirst n l = none ↔ ∀ s ∈ l, s.length < n := by
  induction l with
  | nil => simp [takeFirst]
  | cons s l ih =>
    unfold takeFirst
    by_cases h : n ≤ s.length
    · simp only [h, dite_true, reduceCtorEq, forall_mem_cons, false_iff, not_and]
      omega
    · simp only [h, dite_false, Option.map_eq_none_iff, ih, forall_mem_cons]
      exact ⟨fun hl => ⟨by omega, hl⟩, And.right⟩

lemma lt_of_mem_covered (h : Separated (s :: l)) {x : Nat}
    (hx : x ∈ covered l) : s.hi < x := by
  obtain ⟨t, ht, hlo, -⟩ := mem_covered.mp hx
  exact Nat.lt_of_lt_of_le ((pairwise_cons.mp h).1 t ht) hlo

lemma takeFirst_spec {lo : Nat} {l' : List Extent} (hl : Separated l)
    (h : takeFirst n l = some (lo, l')) :
    (∃ s ∈ l, s.lo = lo) ∧ (∀ s ∈ l', s ∈ l ∨ s.lo = lo + n ∧ s.lo < s.hi) ∧ Separated l' ∧
      Set.Ico lo (lo + n) ⊆ covered l ∧ covered l' = covered l \ Set.Ico lo (lo + n) := by
  induction l generalizing l' with
  | nil => cases h
  | cons s l ih =>
    obtain ⟨hhead, htail⟩ := pairwise_cons.mp hl
    have hle := s.le
    unfold takeFirst at h
    by_cases hfit : n ≤ s.length
    · rw [dif_pos hfit] at h
      cases h
      have hends : s.lo + n ≤ s.hi := by
        unfold Extent.length at hfit
        omega
      have hsubset : Set.Ico s.lo (s.lo + n) ⊆ covered (s :: l) := fun x hx =>
        ⟨s, mem_cons_self, hx.1, Nat.lt_of_lt_of_le hx.2 hends⟩
      by_cases hexact : s.length = n
      · rw [if_pos hexact]
        refine ⟨⟨s, mem_cons_self, rfl⟩, fun t ht => .inl (mem_cons_of_mem _ ht), htail,
          hsubset, ?_⟩
        ext x
        rw [covered_cons, Set.mem_sdiff, Set.mem_union, points, Set.mem_Ico, Set.mem_Ico]
        constructor
        · intro hx
          have hlt := lt_of_mem_covered hl hx
          exact ⟨.inr hx, by omega⟩
        · rintro ⟨hx | hx, hout⟩
          · unfold Extent.length at hexact
            omega
          · exact hx
      · rw [if_neg hexact]
        have hpos : s.lo + n < s.hi := by
          unfold Extent.length at hexact
          omega
        refine ⟨⟨s, mem_cons_self, rfl⟩, ?_, htail.cons hhead, hsubset, ?_⟩
        · intro t ht
          rcases mem_cons.mp ht with rfl | ht
          · exact .inr ⟨rfl, hpos⟩
          · exact .inl (mem_cons_of_mem _ ht)
        · ext x
          rw [covered_cons, covered_cons, Set.mem_sdiff, Set.mem_union, Set.mem_union, points,
            points, Set.mem_Ico, Set.mem_Ico, Set.mem_Ico]
          dsimp only
          constructor
          · rintro (hx | hx)
            · exact ⟨.inl (by omega), by omega⟩
            · have hlt := lt_of_mem_covered hl hx
              exact ⟨.inr hx, by omega⟩
          · rintro ⟨hx | hx, hout⟩
            · exact .inl (by omega)
            · exact .inr hx
    · rw [dif_neg hfit] at h
      obtain ⟨⟨lo', rest⟩, hrest, heq⟩ := Option.map_eq_some_iff.mp h
      obtain ⟨rfl, rfl⟩ := Prod.mk.inj heq
      obtain ⟨⟨t, ht, hlo⟩, hmem, hseparated, hsubset, hcovered⟩ := ih htail hrest
      have hafter : s.hi < lo' := hlo ▸ hhead t ht
      refine ⟨⟨t, mem_cons_of_mem _ ht, hlo⟩, ?_, ?_, ?_, ?_⟩
      · intro u hu
        rcases mem_cons.mp hu with rfl | hu
        · exact .inl mem_cons_self
        · exact (hmem u hu).imp_left (mem_cons_of_mem _)
      · refine hseparated.cons fun u hu => ?_
        rcases hmem u hu with hold | ⟨hnew, -⟩
        · exact hhead u hold
        · change s.hi < u.lo
          omega
      · rw [covered_cons]
        exact hsubset.trans Set.subset_union_right
      · ext x
        rw [covered_cons, covered_cons, hcovered, Set.mem_sdiff, Set.mem_union, Set.mem_union,
          Set.mem_sdiff, points, Set.mem_Ico, Set.mem_Ico]
        constructor
        · rintro (hx | ⟨hx, hout⟩)
          · exact ⟨.inl hx, by omega⟩
          · exact ⟨.inr hx, hout⟩
        · rintro ⟨hx | hx, hout⟩
          · exact .inl hx
          · exact .inr ⟨hx, hout⟩

/-! ## Putting back -/

/-- An extent absorbs those that touch it, in order. -/
def merge (new : Extent) : List Extent → Extent × List Extent
  | [] => (new, [])
  | s :: l =>
    if h : new.hi = s.lo then merge (new.join s h) l
    else if h : s.hi = new.lo then merge (s.join new h) l
    else ((merge new l).1, s :: (merge new l).2)

/-- The result of the merge at its place. -/
def release (new : Extent) (l : List Extent) : List Extent :=
  (merge new l).2.orderedInsert (fun s t => s.lo < t.lo) (merge new l).1

lemma merge_of_before (h : ∀ s ∈ l, new.Before s) :
    merge new l = (new, l) := by
  induction l with
  | nil => rfl
  | cons s l ih =>
    have hgap : new.hi < s.lo := h s mem_cons_self
    have hnew := new.le
    have hs := s.le
    unfold merge
    rw [dif_neg (by omega), dif_neg (by omega), ih fun t ht => h t (mem_cons_of_mem _ ht)]

lemma merge_spec (hl : Separated l)
    (hnew : ∀ s ∈ l, s.hi ≤ new.lo ∨ new.hi ≤ s.lo) :
    (merge new l).2.Sublist l ∧
      (∀ s ∈ (merge new l).2, s.Before (merge new l).1 ∨ (merge new l).1.Before s) ∧
      ((merge new l).1.lo = new.lo ∨ ∃ s ∈ l, (merge new l).1.lo = s.lo) ∧
      (merge new l).1.lo ≤ new.lo ∧ new.hi ≤ (merge new l).1.hi ∧
      (merge new l).1.points ∪ covered (merge new l).2 = new.points ∪ covered l := by
  induction l generalizing new with
  | nil => exact ⟨List.Sublist.refl _, nofun, .inl rfl, Nat.le_refl _, Nat.le_refl _, rfl⟩
  | cons s l ih =>
    obtain ⟨hhead, htail⟩ := pairwise_cons.mp hl
    have hs := s.le
    have hn := new.le
    unfold merge
    by_cases hbefore : new.hi = s.lo
    · -- Everything later is after `s`, so nothing else is merged.
      have hgaps : ∀ t ∈ l, (new.join s hbefore).Before t := hhead
      rw [dif_pos hbefore, merge_of_before hgaps]
      refine ⟨List.sublist_cons_self _ _, fun t ht => .inr (hgaps t ht), .inl rfl, Nat.le_refl _,
        ?_, ?_⟩
      · exact hbefore.trans_le hs
      · rw [covered_cons, ← Set.union_assoc, points_join]
    · rw [dif_neg hbefore]
      by_cases hafter : s.hi = new.lo
      · rw [dif_pos hafter]
        have hnew' : ∀ t ∈ l, t.hi ≤ s.lo ∨ new.hi ≤ t.lo := by
          intro t ht
          have hgap : s.hi < t.lo := hhead t ht
          have ht' := t.le
          have hside := hnew t (mem_cons_of_mem _ ht)
          omega
        obtain ⟨hsub, hgaps, hlo, hle, hge, hpoints⟩ :=
          @ih (s.join new hafter) htail hnew'
        refine ⟨hsub.trans (List.sublist_cons_self _ _), hgaps, .inr ?_,
          (hle.trans hs).trans_eq hafter, hge, ?_⟩
        · rcases hlo with hlo | ⟨t, ht, hlo⟩
          · exact ⟨s, mem_cons_self, hlo⟩
          · exact ⟨t, mem_cons_of_mem _ ht, hlo⟩
        · rw [hpoints, covered_cons, points_join, Set.union_assoc, Set.union_left_comm]
      · rw [dif_neg hafter]
        obtain ⟨hsub, hgaps, hlo, hle, hge, hpoints⟩ :=
          ih htail fun t ht => hnew t (mem_cons_of_mem _ ht)
        refine ⟨hsub.cons_cons s, ?_, ?_, hle, hge, ?_⟩
        · intro t ht
          rcases mem_cons.mp ht with rfl | ht
          · rcases hnew t mem_cons_self with hleft | hright
            · refine .inl ?_
              change t.hi < (merge new l).1.lo
              rcases hlo with hlo | ⟨u, hu, hlo⟩
              · omega
              · rw [hlo]
                exact hhead u hu
            · have hfirst : new.Before t := by
                change new.hi < t.lo
                omega
              have hsame := merge_of_before fun u hu => before_trans hfirst (hhead u hu)
              rw [hsame]
              exact .inr hfirst
          · exact hgaps t ht
        · rcases hlo with hlo | ⟨t, ht, hlo⟩
          · exact .inl hlo
          · exact .inr ⟨t, mem_cons_of_mem _ ht, hlo⟩
        · rw [covered_cons, covered_cons, Set.union_left_comm, hpoints, Set.union_left_comm]

lemma separated_orderedInsert (hl : Separated l)
    (hnew : ∀ s ∈ l, s.Before new ∨ new.Before s) :
    Separated (l.orderedInsert (fun s t => s.lo < t.lo) new) := by
  induction l with
  | nil => exact List.pairwise_singleton _ _
  | cons s l ih =>
    obtain ⟨hhead, htail⟩ := pairwise_cons.mp hl
    have hs := hnew s mem_cons_self
    rw [List.orderedInsert_cons]
    by_cases hlt : new.lo < s.lo
    · rw [if_pos hlt]
      have hfirst : new.Before s :=
        hs.resolve_left fun hbefore => Nat.lt_asymm hlt (lo_lt_of_before hbefore)
      refine hl.cons fun t ht => ?_
      rcases mem_cons.mp ht with rfl | ht
      · exact hfirst
      · exact before_trans hfirst (hhead t ht)
    · rw [if_neg hlt]
      have hfirst : s.Before new := hs.resolve_right fun hafter => hlt (lo_lt_of_before hafter)
      refine (ih htail fun t ht => hnew t (mem_cons_of_mem _ ht)).cons fun t ht => ?_
      rcases (List.mem_orderedInsert _).mp ht with rfl | ht
      · exact hfirst
      · exact hhead t ht

lemma release_spec (hl : Separated l)
    (hnew : ∀ s ∈ l, s.hi ≤ new.lo ∨ new.hi ≤ s.lo) :
    Separated (release new l) ∧ covered (release new l) = new.points ∪ covered l ∧
      (∀ s ∈ release new l, s.lo = new.lo ∨ ∃ t ∈ l, s.lo = t.lo) ∧
      (new.lo < new.hi → AllPos l → AllPos (release new l)) := by
  obtain ⟨hsub, hgaps, hlo, hle, hge, hpoints⟩ := merge_spec hl hnew
  refine ⟨separated_orderedInsert (hl.sublist hsub) hgaps, ?_, ?_, ?_⟩
  · rw [← hpoints, ← covered_cons]
    ext x
    simp only [mem_covered, release, List.mem_orderedInsert, mem_cons]
  · intro s hs
    rcases (List.mem_orderedInsert _).mp hs with rfl | hs
    · exact hlo
    · exact .inr ⟨s, hsub.subset hs, rfl⟩
  · intro hpos hall s hs
    rcases (List.mem_orderedInsert _).mp hs with rfl | hs
    · omega
    · exact hall s (hsub.subset hs)

/-! ## Free and live extents -/

/-- **The free and the live extents partition the first `n` numbers**; the free ones are separated,
and all start at multiples of `a`. -/
structure Partition (n a : Nat) (free live : List Extent) : Prop where
  /-- The free list is sorted, with gaps. -/
  separated : Separated free
  freePos : AllPos free
  livePos : AllPos live
  apart : live.Pairwise fun s t => Disjoint s.points t.points
  disjoint : Disjoint (covered free) (covered live)
  covers : covered free ∪ covered live = Set.Ico 0 n
  freeAligned : ∀ s ∈ free, a ∣ s.lo
  liveAligned : ∀ s ∈ live, a ∣ s.lo

namespace Partition

variable {n a : Nat} {free live : List Extent}

lemma start (hn : 0 < n) : Partition n a [⟨0, n, Nat.zero_le n⟩] [] where
  separated := List.pairwise_singleton _ _
  freePos := by
    intro s hs
    rw [List.mem_singleton.mp hs]
    exact hn
  livePos := nofun
  apart := List.Pairwise.nil
  disjoint := by
    rw [covered_nil]
    exact disjoint_bot_right
  covers := by
    rw [covered_cons, covered_nil, Set.union_empty, Set.union_empty]
    rfl
  freeAligned := by
    intro s hs
    rw [List.mem_singleton.mp hs]
    exact dvd_zero a
  liveAligned := nofun

lemma perm {live' : List Extent} (h : Partition n a free live) (hperm : live'.Perm live) :
    Partition n a free live' := by
  have hcovered : covered live' = covered live := by
    ext x
    simp only [mem_covered, hperm.mem_iff]
  refine ⟨h.separated, h.freePos, fun s hs => h.livePos s (hperm.mem_iff.mp hs), ?_, ?_, ?_,
    h.freeAligned, fun s hs => h.liveAligned s (hperm.mem_iff.mp hs)⟩
  · exact (hperm.pairwise_iff fun hst => hst.symm).mpr h.apart
  · rw [hcovered]
    exact h.disjoint
  · rw [hcovered]
    exact h.covers

lemma take (h : Partition n a free live) {m lo : Nat} {free' : List Extent} (hm : 0 < m)
    (ha : a ∣ m) (htake : takeFirst m free = some (lo, free')) :
    Partition n a free' (⟨lo, lo + m, Nat.le_add_right _ _⟩ :: live) := by
  obtain ⟨⟨s, hs, rfl⟩, hmem, hseparated, hsubset, hcovered⟩ := takeFirst_spec h.separated htake
  have hlo : a ∣ s.lo := h.freeAligned s hs
  refine ⟨hseparated, ?_, ?_, ?_, ?_, ?_, ?_, ?_⟩
  · intro t ht
    rcases hmem t ht with hold | ⟨-, hpos⟩
    · exact h.freePos t hold
    · exact hpos
  · exact forall_mem_cons.mpr ⟨Nat.lt_add_of_pos_right hm, h.livePos⟩
  · refine h.apart.cons fun t ht => ?_
    exact (h.disjoint.mono_left hsubset).mono_right (points_subset_covered ht)
  · rw [hcovered, covered_cons, Set.disjoint_union_right]
    exact ⟨Set.disjoint_sdiff_left, h.disjoint.mono_left sdiff_le⟩
  · rw [hcovered, covered_cons, ← Set.union_assoc]
    have hback : covered free \ Set.Ico s.lo (s.lo + m) ∪ Set.Ico s.lo (s.lo + m) = covered free :=
      Set.sdiff_union_of_subset hsubset
    exact (congrArg (· ∪ covered live) hback).trans h.covers
  · intro t ht
    rcases hmem t ht with hold | ⟨hnew, -⟩
    · exact h.freeAligned t hold
    · rw [hnew]
      exact dvd_add hlo ha
  · exact forall_mem_cons.mpr ⟨hlo, h.liveAligned⟩

lemma putBack {s : Extent} (h : Partition n a free (s :: live)) :
    Partition n a (release s free) live := by
  have hdisjoint := h.disjoint
  rw [covered_cons, Set.disjoint_union_right] at hdisjoint
  obtain ⟨hpos, hlive⟩ := forall_mem_cons.mp h.livePos
  obtain ⟨hapart, hrest⟩ := pairwise_cons.mp h.apart
  have hsides : ∀ t ∈ free, t.hi ≤ s.lo ∨ s.hi ≤ t.lo := by
    intro t ht
    by_contra hoverlap
    -- The larger of the two starts would be in both.
    have htpos := h.freePos t ht
    have hmem : max s.lo t.lo ∈ t.points ∧ max s.lo t.lo ∈ s.points := by
      unfold points
      rw [Set.mem_Ico, Set.mem_Ico]
      omega
    exact Set.disjoint_left.mp hdisjoint.1 (points_subset_covered ht hmem.1) hmem.2
  obtain ⟨hseparated, hcovered, hlo, hall⟩ := release_spec h.separated hsides
  refine ⟨hseparated, hall hpos h.freePos, hlive, hrest, ?_, ?_, ?_, ?_⟩
  · rw [hcovered, Set.disjoint_union_left]
    refine ⟨?_, hdisjoint.2⟩
    rw [Set.disjoint_left]
    rintro x hx ⟨t, ht, hxt⟩
    exact Set.disjoint_left.mp (hapart t ht) hx hxt
  · rw [hcovered, ← h.covers, covered_cons, Set.union_assoc, Set.union_left_comm]
  · intro t ht
    rcases hlo t ht with heq | ⟨u, hu, heq⟩
    · rw [heq]
      exact h.liveAligned s mem_cons_self
    · rw [heq]
      exact h.freeAligned u hu
  · exact fun t ht => h.liveAligned t (mem_cons_of_mem _ ht)

lemma hi_le (h : Partition n a free live) {s : Extent} (hs : s ∈ free ∨ s ∈ live) : s.hi ≤ n := by
  have hpos : s.lo < s.hi := hs.elim (h.freePos s) (h.livePos s)
  have hlast : s.hi - 1 ∈ covered free ∪ covered live :=
    hs.imp (fun hs => ⟨s, hs, by omega, by omega⟩) fun hs => ⟨s, hs, by omega, by omega⟩
  rw [h.covers] at hlast
  have hlt := hlast.2
  omega

lemma takeFirst_eq_none_iff (h : Partition n a free live) {m : Nat} (hm : 0 < m) :
    takeFirst m free = none ↔
      ∀ lo, lo + m ≤ n → ¬ Disjoint (Set.Ico lo (lo + m)) (covered live) := by
  rw [takeFirst_eq_none]
  constructor
  · intro hshort lo hlo hgap
    have hcovered : Set.Ico lo (lo + m) ⊆ covered free := by
      intro x hx
      have hall : x ∈ covered free ∪ covered live := by
        rw [h.covers]
        exact ⟨Nat.zero_le _, Nat.lt_of_lt_of_le hx.2 hlo⟩
      exact hall.resolve_right (Set.disjoint_left.mp hgap hx)
    obtain ⟨s, hs, hslo, hshi⟩ := exists_extent_of_covered h.separated hm hcovered
    have hlength := hshort s hs
    unfold Extent.length at hlength
    omega
  · intro hnone s hs
    by_contra hlong
    unfold Extent.length at hlong
    have hle := s.le
    have hend := h.hi_le (.inl hs)
    have hsubset : Set.Ico s.lo (s.lo + m) ⊆ covered free := fun x hx =>
      ⟨s, hs, hx.1, by have := hx.2; omega⟩
    exact hnone s.lo (by omega) (h.disjoint.mono_left hsubset)

lemma free_eq_singleton (h : Partition n a free []) (hn : 0 < n) :
    free = [⟨0, n, Nat.zero_le n⟩] := by
  refine eq_singleton_of_covered h.separated h.freePos hn ?_
  rw [← h.covers, covered_nil, Set.union_empty]

end Partition

end Lib
