import AxiomCore.Lib.Run
import AxiomCore.Lib.Bits
import AxiomCore.Lib.Extents
import AxiomCore.Types.Basic

/-!
# The region allocator

A memory capability keeps its free regions in a sorted list. `allocate` rounds the size up to the
alignment and takes the start of the first free region that is large enough; `free` merges the region
with the free regions it touches.

The code counts in 64 bits. As long as no region ends beyond `2 ^ 64` its loops are those on extents
of natural numbers (`extents_firstFit`, `extents_coalesce`), for which the library says what they do
to the set of free addresses.

Source: `axiom-hal/src/memory.rs`.
-/

namespace AxiomCore

open Lib

/-! ## Regions -/

structure MemoryRegion where
  base : UInt64
  size : UInt64
  allocated : Bool
  owner : Option NodeId

namespace MemoryRegion

def new (base size : UInt64) : MemoryRegion := ⟨base, size, false, none⟩

def stop (r : MemoryRegion) : UInt64 := r.base + r.size

def extent (r : MemoryRegion) : Extent where
  lo := r.base.toNat
  hi := r.base.toNat + r.size.toNat
  le := Nat.le_add_right _ _

def Bounded (r : MemoryRegion) : Prop := r.extent.hi < 2 ^ 64

lemma Bounded.toNat_stop {r : MemoryRegion} (h : r.Bounded) : r.stop.toNat = r.extent.hi := by
  rw [stop, UInt64.toNat_add]
  exact Nat.mod_eq_of_lt h

lemma length_extent (r : MemoryRegion) : r.extent.length = r.size.toNat :=
  Nat.add_sub_cancel_left ..

lemma stop_eq_base_iff {r s : MemoryRegion} (h : r.Bounded) :
    r.stop = s.base ↔ r.extent.hi = s.extent.lo := by
  rw [← UInt64.toNat_inj, h.toNat_stop]
  rfl

end MemoryRegion

open MemoryRegion

/-! ## The capability -/

structure MemoryCapability where
  capacity : UInt64
  alignment : UInt64
  freeRegions : List MemoryRegion

namespace MemoryCapability

/-- `MemoryCapability::new` and `with_alignment`. -/
def new (capacity alignment : UInt64) : MemoryCapability :=
  ⟨capacity, alignment, [.new 0 capacity]⟩

def alignedSize (m : MemoryCapability) (size : UInt64) : UInt64 :=
  (size + m.alignment - 1) &&& ~~~(m.alignment - 1)

/-- The loop of `allocate`: the base of the first region that is large enough, and the regions
without what was taken. -/
def firstFit (alignedSize : UInt64) : List MemoryRegion → Option (UInt64 × List MemoryRegion)
  | [] => none
  | region :: regions =>
    if region.size ≥ alignedSize then
      some (region.base,
        if region.size = alignedSize then regions
        else { region with
          base := region.base + alignedSize
          size := region.size - alignedSize } :: regions)
    else (firstFit alignedSize regions).map fun (base, rest) => (base, region :: rest)

def allocate (m : MemoryCapability) (size : UInt64) (owner : NodeId) :
    Option MemoryRegion × MemoryCapability :=
  match firstFit (m.alignedSize size) m.freeRegions with
  | none => (none, m)
  | some (base, regions) =>
    (some ⟨base, m.alignedSize size, true, some owner⟩, { m with freeRegions := regions })

def coalesce (new : MemoryRegion) : List MemoryRegion → MemoryRegion × List MemoryRegion
  | [] => (new, [])
  | existing :: regions =>
    if new.stop = existing.base then
      coalesce { new with size := new.size + existing.size } regions
    else if existing.stop = new.base then
      coalesce { new with base := existing.base, size := new.size + existing.size } regions
    else ((coalesce new regions).1, existing :: (coalesce new regions).2)

def free (m : MemoryCapability) (region : MemoryRegion) : MemoryCapability :=
  let (new, regions) := coalesce (.new region.base region.size) m.freeRegions
  { m with freeRegions := regions.orderedInsert (fun r s => s.base > r.base) new }

/-! ## The loops on extents -/

def extents (regions : List MemoryRegion) : List Extent := regions.map extent

lemma extents_cons (region : MemoryRegion) (regions : List MemoryRegion) :
    extents (region :: regions) = region.extent :: extents regions := rfl

lemma extents_firstFit {n : UInt64} {regions : List MemoryRegion}
    (h : ∀ r ∈ regions, r.Bounded) :
    (firstFit n regions).map (fun p => (p.1.toNat, extents p.2)) =
      takeFirst n.toNat (extents regions) := by
  induction regions with
  | nil => rfl
  | cons region regions ih =>
    obtain ⟨hregion, hregions⟩ := List.forall_mem_cons.mp h
    have hlength := region.length_extent
    unfold firstFit
    rw [extents_cons, takeFirst]
    by_cases hfit : region.size ≥ n
    · have hle : n.toNat ≤ region.size.toNat := hfit
      rw [if_pos hfit, dif_pos (hlength.symm ▸ hle), Option.map_some]
      by_cases hexact : region.size = n
      · rw [if_pos hexact, if_pos (hlength.trans (congrArg UInt64.toNat hexact))]
        rfl
      have hexact' : ¬ region.extent.length = n.toNat := by
        rw [hlength]
        exact fun heq => hexact (UInt64.toNat_inj.mp heq)
      rw [if_neg hexact, if_neg hexact']
      dsimp only
      rw [extents_cons]
      congr 3
      have hbase : (region.base + n).toNat = region.base.toNat + n.toNat := by
        rw [UInt64.toNat_add, Nat.mod_eq_of_lt]
        exact Nat.lt_of_le_of_lt (Nat.add_le_add_left hle _) hregion
      ext
      · exact hbase
      · change (region.base + n).toNat + (region.size - n).toNat = _
        rw [hbase, UInt64.toNat_sub_of_le _ _ hfit]
        change _ = region.base.toNat + region.size.toNat
        omega
    · have hlt : ¬ n.toNat ≤ region.extent.length := by
        rw [hlength]
        exact hfit
      rw [if_neg hfit, dif_neg hlt, ← ih hregions, Option.map_map, Option.map_map]
      rfl

lemma extents_coalesce {new : MemoryRegion} {regions : List MemoryRegion} (hnew : new.Bounded)
    (h : ∀ r ∈ regions, r.Bounded) :
    ((coalesce new regions).1.extent, extents (coalesce new regions).2) =
      merge new.extent (extents regions) := by
  induction regions generalizing new with
  | nil => rfl
  | cons existing regions ih =>
    obtain ⟨hexisting, hregions⟩ := List.forall_mem_cons.mp h
    have hbound : existing.base.toNat + existing.size.toNat < 2 ^ 64 := hexisting
    have hbound' : new.base.toNat + new.size.toNat < 2 ^ 64 := hnew
    unfold coalesce
    rw [extents_cons, merge]
    by_cases hbefore : new.stop = existing.base
    · have htouch := (stop_eq_base_iff hnew).mp hbefore
      have htouch' : new.base.toNat + new.size.toNat = existing.base.toNat := htouch
      have hsize : (new.size + existing.size).toNat = new.size.toNat + existing.size.toNat := by
        rw [UInt64.toNat_add, Nat.mod_eq_of_lt (by omega)]
      have hjoin : ({ new with size := new.size + existing.size } : MemoryRegion).extent =
          new.extent.join existing.extent htouch := by
        ext
        · rfl
        · change new.base.toNat + (new.size + existing.size).toNat =
            existing.base.toNat + existing.size.toNat
          omega
      rw [if_pos hbefore, dif_pos htouch, ← hjoin]
      refine ih ?_ hregions
      rw [MemoryRegion.Bounded, hjoin]
      exact hexisting
    · rw [if_neg hbefore, dif_neg fun htouch =>
        hbefore ((stop_eq_base_iff hnew).mpr htouch)]
      by_cases hafter : existing.stop = new.base
      · have htouch := (stop_eq_base_iff hexisting).mp hafter
        have htouch' : existing.base.toNat + existing.size.toNat = new.base.toNat := htouch
        have hsize : (new.size + existing.size).toNat = new.size.toNat + existing.size.toNat := by
          rw [UInt64.toNat_add, Nat.mod_eq_of_lt (by omega)]
        have hjoin : ({ new with base := existing.base, size := new.size + existing.size } :
            MemoryRegion).extent = existing.extent.join new.extent htouch := by
          ext
          · rfl
          · change existing.base.toNat + (new.size + existing.size).toNat =
              new.base.toNat + new.size.toNat
            omega
        rw [if_pos hafter, dif_pos htouch, ← hjoin]
        refine ih ?_ hregions
        rw [MemoryRegion.Bounded, hjoin]
        exact hnew
      · rw [if_neg hafter, dif_neg fun htouch =>
          hafter ((stop_eq_base_iff hexisting).mpr htouch)]
        rw [← ih hnew hregions, extents_cons]

lemma extents_free {m : MemoryCapability} {region : MemoryRegion} (hregion : region.Bounded)
    (h : ∀ r ∈ m.freeRegions, r.Bounded) :
    extents (m.free region).freeRegions = release region.extent (extents m.freeRegions) := by
  have hmerge := @extents_coalesce (.new region.base region.size) _ hregion h
  rw [release, ← show _ = merge region.extent _ from hmerge]
  exact List.map_orderedInsert _ _ _ _ _ (fun _ _ => Iff.rfl) fun _ _ => Iff.rfl

lemma toNat_alignedSize {m : MemoryCapability} {k : Nat} (hk : m.alignment.toNat = 2 ^ k)
    {size : UInt64} (hfits : size.toNat + m.alignment.toNat < 2 ^ 64) :
    (m.alignedSize size).toNat = (size.toNat + 2 ^ k - 1) / 2 ^ k * 2 ^ k := by
  have hpos : 0 < 2 ^ k := by positivity
  have hone : (1 : UInt64) ≤ m.alignment := by
    rw [UInt64.le_iff_toNat_le, hk]
    exact hpos
  have hmask : (m.alignment - 1).toNat = 2 ^ k - 1 := by
    rw [UInt64.toNat_sub_of_le _ _ hone, hk]
    rfl
  have hsum : (size + m.alignment).toNat = size.toNat + 2 ^ k := by
    rw [UInt64.toNat_add, Nat.mod_eq_of_lt hfits, hk]
  have hle : (1 : UInt64) ≤ size + m.alignment := by
    rw [UInt64.le_iff_toNat_le, hsum]
    exact Nat.le_add_left_of_le hpos
  rw [alignedSize, toNat_and_not_mask64 k hmask, UInt64.toNat_sub_of_le _ _ hle, hsum]
  rfl

end MemoryCapability

/-! ## Histories -/

structure Grant where
  requested : UInt64
  region : MemoryRegion

/-- A call; a free names one of the regions in use. -/
inductive MemoryEvent where
  | allocate (size : UInt64) (owner : NodeId)
  | free (grant : Nat)

structure MemoryRun where
  memory : MemoryCapability
  live : List Grant

namespace MemoryRun

open MemoryCapability (extents firstFit extents_firstFit extents_free)

def start (capacity alignment : UInt64) : MemoryRun := ⟨.new capacity alignment, []⟩

/-- A call. A region that was freed is not in use any more, so it is not freed again. -/
def step (r : MemoryRun) : MemoryEvent → MemoryRun
  | .allocate size owner =>
    ⟨(r.memory.allocate size owner).2,
      ((r.memory.allocate size owner).1.map (⟨size, ·⟩)).toList ++ r.live⟩
  | .free i =>
    match r.live[i]? with
    | none => r
    | some grant => ⟨r.memory.free grant.region, r.live.eraseIdx i⟩

def liveExtents (r : MemoryRun) : List Extent := extents (r.live.map (·.region))

/-- Free and live regions partition the memory, and no region is too small. -/
structure Sound (capacity alignment : UInt64) (r : MemoryRun) : Prop where
  aligned : r.memory.alignment = alignment
  partition : Lib.Partition capacity.toNat alignment.toNat (extents r.memory.freeRegions)
    r.liveExtents
  requested : ∀ grant ∈ r.live, grant.requested.toNat ≤ grant.region.size.toNat

variable {capacity alignment : UInt64} {r : MemoryRun}

lemma Sound.bounded (h : r.Sound capacity alignment) {region : MemoryRegion}
    (hregion : region ∈ r.memory.freeRegions ∨ region ∈ r.live.map (·.region)) :
    region.Bounded :=
  Nat.lt_of_le_of_lt
    (h.partition.hi_le (hregion.imp (List.mem_map_of_mem (f := extent))
      (List.mem_map_of_mem (f := extent)))) capacity.toNat_lt

def roundUp (alignment n : Nat) : Nat := (n + alignment - 1) / alignment * alignment

lemma le_roundUp {alignment : Nat} (h : 0 < alignment) (n : Nat) : n ≤ roundUp alignment n := by
  have hlt := Nat.lt_div_mul_add h (a := n + alignment - 1)
  unfold roundUp
  omega

section Step

variable {k : Nat} (hk : alignment.toNat = 2 ^ k)
  (hfits : capacity.toNat + alignment.toNat < 2 ^ 64) (h : r.Sound capacity alignment)

include hk hfits h

lemma Sound.toNat_alignedSize {size : UInt64} (hsize : size.toNat ≤ capacity.toNat) :
    (r.memory.alignedSize size).toNat = roundUp alignment.toNat size.toNat := by
  rw [MemoryCapability.toNat_alignedSize (k := k), roundUp, hk]
  · rw [h.aligned, hk]
  · rw [h.aligned]
    omega

lemma Sound.takeFirst_eq {size : UInt64} (hsize : size.toNat ≤ capacity.toNat) :
    (firstFit (r.memory.alignedSize size) r.memory.freeRegions).map
        (fun p => (p.1.toNat, extents p.2)) =
      takeFirst (roundUp alignment.toNat size.toNat) (extents r.memory.freeRegions) := by
  rw [extents_firstFit fun region hregion => h.bounded (.inl hregion),
    h.toNat_alignedSize hk hfits hsize]

lemma Sound.allocate {size : UInt64} (hpos : 1 ≤ size.toNat)
    (hsize : size.toNat ≤ capacity.toNat) (owner : NodeId) :
    (r.step (.allocate size owner)).Sound capacity alignment := by
  have haligned := h.toNat_alignedSize hk hfits hsize
  have htake := h.takeFirst_eq hk hfits hsize
  have hpow : 0 < alignment.toNat := by
    rw [hk]
    positivity
  have hle := le_roundUp hpow size.toNat
  simp only [step, MemoryCapability.allocate]
  rcases hfit : firstFit (r.memory.alignedSize size) r.memory.freeRegions with _ | ⟨base, regions⟩
  · exact h
  rw [hfit] at htake
  refine ⟨h.aligned, ?_, ?_⟩
  · have hdvd : alignment.toNat ∣ roundUp alignment.toNat size.toNat := Nat.dvd_mul_left _ _
    have htaken := h.partition.take (Nat.lt_of_lt_of_le hpos hle) hdvd htake.symm
    simp only [← haligned] at htaken
    exact htaken
  · refine List.forall_mem_cons.mpr ⟨?_, h.requested⟩
    rw [haligned]
    exact hle

omit hk hfits

lemma Sound.free (i : Nat) : (r.step (.free i)).Sound capacity alignment := by
  simp only [step]
  split
  · exact h
  next grant hgrant =>
  obtain ⟨hi, rfl⟩ := List.getElem?_eq_some_iff.mp hgrant
  have hperm : (r.live[i] :: r.live.eraseIdx i).Perm r.live := List.getElem_cons_eraseIdx_perm hi
  have hfreed := (h.partition.perm ((hperm.map (·.region)).map extent)).putBack
  refine ⟨h.aligned, ?_, fun grant hmem => ?_⟩
  · have hregion : r.live[i].region.Bounded :=
      h.bounded (.inr (List.mem_map_of_mem (List.getElem_mem hi)))
    dsimp only
    rw [extents_free hregion fun region hregion => h.bounded (.inl hregion)]
    exact hfreed
  · exact h.requested grant (List.mem_of_mem_eraseIdx hmem)

end Step

lemma sound_run {k : Nat} (hk : alignment.toNat = 2 ^ k)
    (hfits : capacity.toNat + alignment.toNat < 2 ^ 64) (hcapacity : 0 < capacity.toNat)
    {events : List MemoryEvent} (hsizes : ∀ size owner, .allocate size owner ∈ events →
      1 ≤ size.toNat ∧ size.toNat ≤ capacity.toNat) :
    (run step (start capacity alignment) events).Sound capacity alignment := by
  have hstart : (start capacity alignment).Sound capacity alignment := by
    refine ⟨rfl, ?_, nofun⟩
    have hpartition := Lib.Partition.start (a := alignment.toNat) hcapacity
    simpa [start, MemoryCapability.new, extents, extent, MemoryRegion.new,
      liveExtents] using hpartition
  refine run_induction
    (P := fun es (r : MemoryRun) => (∀ e ∈ es, e ∈ events) → r.Sound capacity alignment)
    (fun _ => hstart) ?_ events fun _ he => he
  intro es e hes hmem
  have hr := hes fun e he => hmem e (List.mem_append_left _ he)
  cases e with
  | allocate size owner =>
    obtain ⟨hpos, hsize⟩ := hsizes size owner (hmem _ (List.mem_append_right _ (by simp)))
    exact hr.allocate hk hfits hpos hsize owner
  | free i => exact hr.free i

lemma run_eq_start (hcapacity : capacity.toNat = 0) {events : List MemoryEvent}
    (hsizes : ∀ size owner, .allocate size owner ∈ events →
      1 ≤ size.toNat ∧ size.toNat ≤ capacity.toNat) :
    run step (start capacity alignment) events = start capacity alignment := by
  induction events with
  | nil => rfl
  | cons e events ih =>
    have hstep : (start capacity alignment).step e = start capacity alignment := by
      cases e with
      | allocate size owner =>
        obtain ⟨hpos, hsize⟩ := hsizes size owner List.mem_cons_self
        omega
      | free i => rfl
    rw [run_cons, hstep]
    exact ih fun size owner hmem => hsizes size owner (List.mem_cons_of_mem _ hmem)

def regions (r : MemoryRun) : List MemoryRegion :=
  r.memory.freeRegions ++ r.live.map (·.region)

lemma Sound.allocate_eq_none_iff {k : Nat} (hk : alignment.toNat = 2 ^ k)
    (hfits : capacity.toNat + alignment.toNat < 2 ^ 64) (h : r.Sound capacity alignment)
    {size : UInt64} (hpos : 1 ≤ size.toNat) (hsize : size.toNat ≤ capacity.toNat)
    (owner : NodeId) :
    (r.memory.allocate size owner).1 = none ↔
      ∀ lo, lo + roundUp alignment.toNat size.toNat ≤ capacity.toNat →
        ¬ Disjoint (Set.Ico lo (lo + roundUp alignment.toNat size.toNat))
          (covered r.liveExtents) := by
  have hpow : 0 < alignment.toNat := by
    rw [hk]
    positivity
  rw [← h.partition.takeFirst_eq_none_iff (Nat.lt_of_lt_of_le hpos (le_roundUp hpow _)),
    ← h.takeFirst_eq hk hfits hsize, Option.map_eq_none_iff, MemoryCapability.allocate]
  split
  · next hnone => simp [hnone]
  · next hsome => simp [hsome]

end MemoryRun

open MemoryRun

/-- **Live and free regions partition the memory.** For an alignment that is a power of two, and any
history of allocations of 1 up to all bytes and frees of regions in use: regions are disjoint and
make up the memory; a live one starts at a multiple of the alignment and is as large as asked for;
free ones are sorted, with gaps; an allocation fails exactly if no gap between live regions has the
aligned size; and if nothing is live, there is one free region. -/
theorem region_partition (capacity alignment : UInt64) (halignment : ∃ k, alignment.toNat = 2 ^ k)
    (hfits : capacity.toNat + alignment.toNat < 2 ^ 64) (events : List MemoryEvent)
    (hsizes : ∀ size owner, .allocate size owner ∈ events →
      1 ≤ size.toNat ∧ size.toNat ≤ capacity.toNat) :
    let r := run MemoryRun.step (.start capacity alignment) events
    (r.regions.Pairwise fun s t => Disjoint s.extent.points t.extent.points) ∧
      covered (r.regions.map extent) = Set.Ico 0 capacity.toNat ∧
      (∀ grant ∈ r.live, alignment.toNat ∣ grant.region.base.toNat ∧
        grant.requested.toNat ≤ grant.region.size.toNat) ∧
      (r.memory.freeRegions.Pairwise fun s t => s.extent.hi < t.extent.lo) ∧
      (∀ (size : UInt64) (owner : NodeId), 1 ≤ size.toNat → size.toNat ≤ capacity.toNat →
        ((r.memory.allocate size owner).1 = none ↔
          ∀ lo, lo + roundUp alignment.toNat size.toNat ≤ capacity.toNat →
            ¬ Disjoint (Set.Ico lo (lo + roundUp alignment.toNat size.toNat))
              (covered r.liveExtents))) ∧
      (r.live = [] → r.memory.freeRegions.map (fun s => (s.base, s.size)) = [(0, capacity)]) := by
  intro r
  obtain ⟨k, hk⟩ := halignment
  rcases Nat.eq_zero_or_pos capacity.toNat with hzero | hpos
  · have hr : r = .start capacity alignment := run_eq_start hzero hsizes
    rw [hr]
    refine ⟨List.pairwise_singleton _ _, ?_, nofun, List.pairwise_singleton _ _,
      fun size owner hpos hsize => by omega, fun _ => rfl⟩
    ext x
    simp [covered, regions, MemoryRun.start, MemoryCapability.new, extent,
      MemoryRegion.new, Extent.points]
  · have h : r.Sound capacity alignment := sound_run hk hfits hpos hsizes
    have hp := h.partition
    have hfree := List.pairwise_map.mp hp.separated
    refine ⟨?_, ?_, fun grant hgrant => ?_, hfree, fun size owner hpos hsize => ?_, fun hlive => ?_⟩
    · rw [regions, List.pairwise_append]
      refine ⟨hfree.imp fun hgap => ?_,
        (List.pairwise_map (f := extent)).mp hp.apart, fun s hs t ht => ?_⟩
      · rw [Set.disjoint_left]
        intro x hx hx'
        have hlt : _ < _ := hgap
        have hx := hx.2
        have hx' := hx'.1
        omega
      · exact (hp.disjoint.mono_left (points_subset_covered (List.mem_map_of_mem hs))).mono_right
          (points_subset_covered (List.mem_map_of_mem ht))
    · rw [regions, List.map_append, ← hp.covers]
      ext x
      simp [covered, MemoryCapability.extents, liveExtents, or_and_right, exists_or]
    · refine ⟨hp.liveAligned grant.region.extent ?_, h.requested grant hgrant⟩
      exact List.mem_map_of_mem (List.mem_map_of_mem hgrant)
    · exact h.allocate_eq_none_iff hk hfits hpos hsize owner
    · rw [liveExtents, hlive] at hp
      obtain ⟨region, hregion, hextent⟩ := List.map_eq_singleton_iff.mp (hp.free_eq_singleton hpos)
      have hbase : region.base.toNat = 0 := congrArg Extent.lo hextent
      have hstop : region.base.toNat + region.size.toNat = capacity.toNat :=
        congrArg Extent.hi hextent
      have hsize : region.size = capacity := UInt64.toNat_inj.mp (by omega)
      rw [hregion, List.map_singleton, hsize, UInt64.toNat_inj.mp (hbase.trans UInt64.toNat_zero.symm)]

theorem region_partition_reused :
    let owner : NodeId := ⟨.replicate 32 1⟩
    let events : List MemoryEvent :=
      [.allocate 256 owner, .allocate 200 owner, .allocate 300 owner, .free 1, .allocate 100 owner]
    let r := run MemoryRun.step (.start 1024 256) events
    r.live.map (·.region.base) = [256, 512, 0] ∧
      covered (r.regions.map extent) = Set.Ico 0 1024 := by
  intro owner events r
  have hsizes : ∀ size owner', .allocate size owner' ∈ events →
      1 ≤ size.toNat ∧ size.toNat ≤ (1024 : UInt64).toNat := by
    intro size owner' hmem
    simp only [events, List.mem_cons, MemoryEvent.allocate.injEq, List.not_mem_nil, reduceCtorEq,
      or_false, false_or] at hmem
    rcases hmem with ⟨rfl, -⟩ | ⟨rfl, -⟩ | ⟨rfl, -⟩ | ⟨rfl, -⟩ <;> decide
  refine ⟨by decide +kernel, ?_⟩
  exact (region_partition 1024 256 ⟨8, rfl⟩ (by decide) events hsizes).2.1

/-- **Memory after the last multiple of the alignment is not allocated.** Of 1000 bytes, all free,
1000 cannot be allocated: the size is rounded up to 1024. -/
theorem unaligned_tail_unused :
    let r := MemoryRun.start 1000 256
    (r.memory.allocate 1000 ⟨.replicate 32 1⟩).1 = none ∧
      Disjoint (Set.Ico 0 1000) (covered r.liveExtents) := by
  intro r
  refine ⟨by decide +kernel, ?_⟩
  exact Set.disjoint_left.mpr fun _ _ ⟨_, hmem, _⟩ => absurd hmem List.not_mem_nil

end AxiomCore
