import AxiomCore.Lib.Run
import AxiomCore.Lib.Bits

/-!
# The tensor allocators

- The bump allocator hands out ranges of one storage by adding to an atomic cursor. A call whose range
  does not fit subtracts its size again, in a second atomic operation; until then other calls see a
  cursor that is too high.
- The pool keeps slabs of slots of equal size, each with a free list and a counter. Nothing records
  which handles are in use. `Slab.Holds` ties a slab to the multiset of its slots in use.

Source: `axiom-hal/src/tensor_alloc.rs`.
-/

namespace AxiomCore

open Lib

/-! ## The bump allocator -/

structure BumpAllocator where
  storageLen : UInt64
  cursor : UInt64

/-- Where a call of `alloc` is, or how it ended. -/
inductive BumpCall where
  /-- Between the failed check and the subtraction. -/
  | rollingBack (bytes : UInt64)
  | failed
  | allocated (offset bytes : UInt64)
  deriving DecidableEq

namespace BumpAllocator

def new (capacity : UInt64) : BumpAllocator := ⟨capacity, 0⟩

/-- `alloc` up to its check: the addition is atomic and wraps, and so does the sum that is compared. -/
def alloc (b : BumpAllocator) (bytes : UInt64) : BumpCall × BumpAllocator :=
  let old := b.cursor
  (if old + bytes > b.storageLen then .rollingBack bytes else .allocated old bytes,
    { b with cursor := b.cursor + bytes })

/-- The subtraction of a call that failed. -/
def rollback (b : BumpAllocator) (bytes : UInt64) : BumpAllocator :=
  { b with cursor := b.cursor - bytes }

end BumpAllocator

namespace BumpCall

def range : BumpCall → Finset Nat
  | .allocated offset bytes => Finset.Ico offset.toNat (offset.toNat + bytes.toNat)
  | _ => ∅

def inFlight : BumpCall → Bool
  | .rollingBack _ => true
  | _ => false

def owed : BumpCall → Nat
  | .rollingBack bytes => bytes.toNat
  | _ => 0

end BumpCall

/-- An atomic operation of some thread. -/
inductive BumpEvent where
  | alloc (bytes : UInt64)
  | rollback (call : Nat)

structure BumpRun where
  allocator : BumpAllocator
  /-- The calls, in the order of their additions. -/
  calls : List BumpCall

namespace BumpRun

def start (capacity : UInt64) : BumpRun := ⟨.new capacity, []⟩

def step (r : BumpRun) : BumpEvent → BumpRun
  | .alloc bytes => ⟨(r.allocator.alloc bytes).2, r.calls ++ [(r.allocator.alloc bytes).1]⟩
  | .rollback call =>
    match r.calls[call]? with
    | some (.rollingBack bytes) => ⟨r.allocator.rollback bytes, r.calls.set call .failed⟩
    | _ => r

def owed (r : BumpRun) : Nat := (r.calls.map BumpCall.owed).sum

/-- The cursor does not overflow, and no call whose size fits comes while another is rolling
back. -/
def Exclusive (r : BumpRun) : BumpEvent → Prop
  | .alloc bytes =>
    r.allocator.cursor.toNat + bytes.toNat < 2 ^ 64 ∧
      (r.allocator.cursor.toNat + bytes.toNat ≤ r.allocator.storageLen.toNat →
        ∀ call ∈ r.calls, call.inFlight = false)
  | .rollback _ => True

/-- The ranges handed out lie below a mark, and the cursor is past the mark by what is owed. -/
structure Packed (capacity : UInt64) (mark : Nat) (r : BumpRun) : Prop where
  storageLen : r.allocator.storageLen = capacity
  mark_le : mark ≤ capacity.toNat
  cursor : r.allocator.cursor.toNat = mark + r.owed
  below : ∀ call ∈ r.calls, call.range ⊆ Finset.range mark
  disjoint : r.calls.Pairwise fun call call' => Disjoint call.range call'.range

lemma owed_eq_zero {r : BumpRun} (h : ∀ call ∈ r.calls, call.inFlight = false) : r.owed = 0 := by
  apply List.sum_eq_zero
  intro bytes hbytes
  obtain ⟨call, hcall, rfl⟩ := List.mem_map.mp hbytes
  cases call with
  | rollingBack other => exact absurd (h _ hcall) Bool.noConfusion
  | failed => rfl
  | allocated offset bytes => rfl

lemma disjoint_set_failed {calls : List BumpCall}
    (h : calls.Pairwise fun call call' => Disjoint call.range call'.range) (i : Nat) :
    (calls.set i .failed).Pairwise fun call call' => Disjoint call.range call'.range := by
  induction h generalizing i with
  | nil => exact List.Pairwise.nil
  | @cons call calls hcall hcalls ih =>
    cases i with
    | zero => exact hcalls.cons fun _ _ => Finset.disjoint_empty_left _
    | succ i =>
      refine (ih i).cons fun other hother => ?_
      rcases List.mem_or_eq_of_mem_set hother with hold | rfl
      · exact hcall other hold
      · exact Finset.disjoint_empty_right _

lemma toNat_add_of_lt {x y : UInt64} (h : x.toNat + y.toNat < 2 ^ 64) :
    (x + y).toNat = x.toNat + y.toNat := by
  rw [UInt64.toNat_add, Nat.mod_eq_of_lt h]

variable {capacity : UInt64} {mark : Nat} {r : BumpRun}

lemma Packed.allocated (h : Packed capacity mark r) {bytes : UInt64}
    (hguard : r.Exclusive (.alloc bytes))
    (hfits : r.allocator.cursor.toNat + bytes.toNat ≤ r.allocator.storageLen.toNat) :
    Packed capacity (mark + bytes.toNat) (r.step (.alloc bytes)) := by
  obtain ⟨hlt, hquiet⟩ := hguard
  have howed : r.owed = 0 := owed_eq_zero (hquiet hfits)
  have hcursor : r.allocator.cursor.toNat = mark := by
    rw [h.cursor, howed, Nat.add_zero]
  have hcall : (r.allocator.alloc bytes).1 = .allocated r.allocator.cursor bytes := by
    apply if_neg
    rw [gt_iff_lt, UInt64.lt_iff_toNat_lt, toNat_add_of_lt hlt]
    omega
  have hstep : r.step (.alloc bytes) = ⟨(r.allocator.alloc bytes).2,
      r.calls ++ [.allocated r.allocator.cursor bytes]⟩ := by
    rw [← hcall]
    rfl
  rw [hstep]
  refine ⟨h.storageLen, ?_, ?_, ?_, ?_⟩
  · rw [← h.storageLen, ← hcursor]
    exact hfits
  · have hnew : owed ⟨(r.allocator.alloc bytes).2,
        r.calls ++ [.allocated r.allocator.cursor bytes]⟩ = r.owed := by
      simp [owed, BumpCall.owed]
    rw [hnew, howed, Nat.add_zero]
    exact (toNat_add_of_lt hlt).trans (by rw [hcursor])
  · intro call hmem
    rcases List.mem_append.mp hmem with hold | hlast
    · exact (h.below call hold).trans (Finset.range_mono (Nat.le_add_right _ _))
    · rw [List.mem_singleton.mp hlast, BumpCall.range, hcursor, Finset.range_eq_Ico]
      exact Finset.Ico_subset_Ico (Nat.zero_le _) (Nat.le_refl _)
  · rw [List.pairwise_append]
    refine ⟨h.disjoint, List.pairwise_singleton _ _, fun call hold last hlast => ?_⟩
    rw [List.mem_singleton.mp hlast, BumpCall.range, hcursor]
    apply Finset.disjoint_of_subset_left (h.below call hold)
    rw [Finset.range_eq_Ico]
    exact Finset.Ico_disjoint_Ico_consecutive 0 mark _

lemma Packed.rollingBack (h : Packed capacity mark r) {bytes : UInt64}
    (hguard : r.Exclusive (.alloc bytes))
    (hfull : ¬ r.allocator.cursor.toNat + bytes.toNat ≤ r.allocator.storageLen.toNat) :
    Packed capacity mark (r.step (.alloc bytes)) := by
  obtain ⟨hlt, -⟩ := hguard
  have hcall : (r.allocator.alloc bytes).1 = .rollingBack bytes := by
    apply if_pos
    rw [gt_iff_lt, UInt64.lt_iff_toNat_lt, toNat_add_of_lt hlt]
    omega
  have hstep : r.step (.alloc bytes) = ⟨(r.allocator.alloc bytes).2,
      r.calls ++ [.rollingBack bytes]⟩ := by
    rw [← hcall]
    rfl
  rw [hstep]
  refine ⟨h.storageLen, h.mark_le, ?_, ?_, ?_⟩
  · have hnew : owed ⟨(r.allocator.alloc bytes).2, r.calls ++ [.rollingBack bytes]⟩ =
        r.owed + bytes.toNat := by
      simp [owed, BumpCall.owed]
    rw [hnew, ← Nat.add_assoc, ← h.cursor]
    exact toNat_add_of_lt hlt
  · intro call hmem
    rcases List.mem_append.mp hmem with hold | hlast
    · exact h.below call hold
    · rw [List.mem_singleton.mp hlast]
      exact Finset.empty_subset _
  · rw [List.pairwise_append]
    refine ⟨h.disjoint, List.pairwise_singleton _ _, fun call _ last hlast => ?_⟩
    rw [List.mem_singleton.mp hlast]
    exact Finset.disjoint_empty_right _

lemma Packed.rollback (h : Packed capacity mark r) (i : Nat) :
    Packed capacity mark (r.step (.rollback i)) := by
  simp only [step]
  split
  · next bytes hcall =>
    have hsum : (r.calls.set i .failed |>.map BumpCall.owed).sum + bytes.toNat = r.owed + 0 :=
      sum_map_set_add hcall .failed BumpCall.owed
    have hcursor := h.cursor
    refine ⟨h.storageLen, h.mark_le, ?_, ?_, ?_⟩
    · have hle : bytes ≤ r.allocator.cursor := by
        rw [UInt64.le_iff_toNat_le]
        omega
      simp only [BumpAllocator.rollback, owed]
      rw [UInt64.toNat_sub_of_le _ _ hle]
      omega
    · intro call hmem
      rcases List.mem_or_eq_of_mem_set hmem with hold | rfl
      · exact h.below call hold
      · exact Finset.empty_subset _
    · exact disjoint_set_failed h.disjoint i
  · exact h

end BumpRun

/-- **Bump allocation is safe if no call succeeds while another is rolling back.** In every run in
which the cursor does not overflow, and whoever fits comes when no other call is between its failed
check and its subtraction, the ranges handed out are pairwise disjoint and inside the storage. -/
theorem bump_disjoint (capacity : UInt64) (events : List BumpEvent)
    (h : Guarded BumpRun.step BumpRun.Exclusive (.start capacity) events) :
    let r := run BumpRun.step (.start capacity) events
    (r.calls.Pairwise fun call call' => Disjoint call.range call'.range) ∧
      ∀ call ∈ r.calls, call.range ⊆ Finset.range capacity.toNat := by
  intro r
  have hstart : ∃ mark, BumpRun.Packed capacity mark (.start capacity) :=
    ⟨0, rfl, Nat.zero_le _, rfl, nofun, List.Pairwise.nil⟩
  have hpacked : ∃ mark, BumpRun.Packed capacity mark r := by
    refine run_invariant_of_guarded (I := fun r => ∃ mark, BumpRun.Packed capacity mark r) ?_ hstart h
    rintro r e ⟨mark, hr⟩ hguard
    cases e with
    | alloc bytes =>
      by_cases hfits : r.allocator.cursor.toNat + bytes.toNat ≤ r.allocator.storageLen.toNat
      · exact ⟨_, hr.allocated hguard hfits⟩
      · exact ⟨mark, hr.rollingBack hguard hfits⟩
    | rollback i => exact ⟨mark, hr.rollback i⟩
  obtain ⟨mark, hr⟩ := hpacked
  exact ⟨hr.disjoint, fun call hcall => (hr.below call hcall).trans (Finset.range_mono hr.mark_le)⟩

theorem bump_disjoint_after_failure :
    let r := run BumpRun.step (.start 100) [.alloc 1000, .rollback 0, .alloc 20, .alloc 30]
    r.calls = [.failed, .allocated 0 20, .allocated 20 30] ∧
      r.calls.Pairwise fun call call' => Disjoint call.range call'.range := by
  intro r
  have hguard : Guarded BumpRun.step BumpRun.Exclusive (.start 100)
      [.alloc 1000, .rollback 0, .alloc 20, .alloc 30] := by
    simp only [Guarded, BumpRun.Exclusive]
    decide +kernel
  refine ⟨by decide +kernel, ?_⟩
  exact (bump_disjoint 100 _ hguard).1

/-- **Two successful calls may get overlapping ranges.** On a storage of 100 bytes a call of 1000
fails; before it rolls back, a call of 10 fails too; before that one rolls back, a call of 20 gets
the range from 10. The second rollback takes the cursor below the end of that range, and the next
call of 20 gets the range from 20. A size near the end of the address space wraps the cursor, out of
the storage. -/
theorem bump_overlap :
    (run BumpRun.step (.start 100) [.alloc 1000, .alloc 10, .rollback 0, .alloc 20, .rollback 1,
        .alloc 20]).calls = [.failed, .failed, .allocated 10 20, .allocated 20 20] ∧
      ¬ Disjoint (BumpCall.allocated 10 20).range (BumpCall.allocated 20 20).range ∧
      (run BumpRun.step (.start 100) [.alloc 10, .alloc 0xffffffffffffffff]).calls =
        [.allocated 0 10, .allocated 10 0xffffffffffffffff] ∧
      ¬ (BumpCall.allocated 10 0xffffffffffffffff).range ⊆ Finset.range 100 := by
  refine ⟨by decide +kernel, by decide +kernel, by decide +kernel, fun hsubset => ?_⟩
  have hmem : 100 ∈ (BumpCall.allocated 10 0xffffffffffffffff).range := by
    rw [BumpCall.range, Finset.mem_Ico]
    decide +kernel
  exact absurd (hsubset hmem) (by decide)

/-! ## Slabs -/

inductive SizeClass where
  | tiny
  | small
  | medium
  | large
  | huge
  | giant

namespace SizeClass

def size : SizeClass → Nat
  | .tiny => 64
  | .small => 256
  | .medium => 1024
  | .large => 4096
  | .huge => 16384
  | .giant => 65536

def forSize (bytes : Nat) : Option SizeClass :=
  if bytes ≤ 64 then some .tiny
  else if bytes ≤ 256 then some .small
  else if bytes ≤ 1024 then some .medium
  else if bytes ≤ 4096 then some .large
  else if bytes ≤ 16384 then some .huge
  else if bytes ≤ 65536 then some .giant
  else none

/-- The classes in the order of their slabs. -/
def all : List SizeClass := [.tiny, .small, .medium, .large, .huge, .giant]

def slabIdx : SizeClass → UInt8
  | .tiny => 0
  | .small => 1
  | .medium => 2
  | .large => 3
  | .huge => 4
  | .giant => 5

lemma all_slabIdx (c : SizeClass) : all[c.slabIdx.toNat]? = some c := by
  cases c <;> rfl

lemma le_size_of_forSize {bytes : Nat} {c : SizeClass} (h : forSize bytes = some c) :
    bytes ≤ c.size := by
  unfold forSize at h
  split_ifs at h <;> obtain rfl := Option.some.inj h <;> assumption

end SizeClass

structure AllocHandle where
  id : UInt64
  deriving DecidableEq

namespace AllocHandle

def new (slabIdx : UInt8) (slotIdx : UInt32) : AllocHandle :=
  ⟨slabIdx.toUInt64 <<< 32 ||| slotIdx.toUInt64⟩

def slabIdx (h : AllocHandle) : Nat := (h.id >>> 32).toNat

def slotIdx (h : AllocHandle) : Nat := (h.id &&& 0xffffffff).toNat

variable (slabIdx : UInt8) (slotIdx : UInt32)

lemma toNat_new : (new slabIdx slotIdx).id.toNat = slabIdx.toNat * 2 ^ 32 + slotIdx.toNat := by
  have hslab := slabIdx.toNat_lt
  have hslot := slotIdx.toNat_lt
  have hshift : (slabIdx.toUInt64 <<< 32).toNat = slabIdx.toNat * 2 ^ 32 := by
    rw [toNat_shiftLeft64 32 rfl (by decide)]
    · rw [UInt8.toNat_toUInt64]
    · rw [UInt8.toNat_toUInt64]
      omega
  rw [new, toNat_or_below64 32, hshift, UInt32.toNat_toUInt64]
  · rw [hshift]
    exact Nat.mul_mod_left _ _
  · rw [UInt32.toNat_toUInt64]
    exact hslot

@[simp] lemma slabIdx_new : (new slabIdx slotIdx).slabIdx = slabIdx.toNat := by
  have hslot := slotIdx.toNat_lt
  rw [AllocHandle.slabIdx, toNat_shiftRight64 32 rfl (by decide), toNat_new]
  omega

@[simp] lemma slotIdx_new : (new slabIdx slotIdx).slotIdx = slotIdx.toNat := by
  have hslot := slotIdx.toNat_lt
  rw [AllocHandle.slotIdx, toNat_and_mask64 32 rfl, toNat_new]
  omega

lemma slotIdx_lt (h : AllocHandle) : h.slotIdx < 2 ^ 32 := by
  rw [slotIdx, toNat_and_mask64 32 rfl]
  exact Nat.mod_lt _ (by decide)

end AllocHandle

structure Slice where
  start : Nat
  stop : Nat

structure Slab where
  sizeClass : SizeClass
  storageLen : Nat
  /-- The free slots, the end of the vector first. -/
  freeList : List UInt32
  capacity : Nat
  allocated : Nat

namespace Slab

/-- `Slab::new`: the free list counts up to the number of slots as a 32-bit number. -/
def new (sizeClass : SizeClass) (numSlots : UInt64) : Slab where
  sizeClass := sizeClass
  storageLen := sizeClass.size * numSlots.toNat
  freeList := (List.range numSlots.toUInt32.toNat).map UInt32.ofNat
  capacity := numSlots.toNat
  allocated := 0

/-- `Slab::alloc`; no result is the panic of a slice that ends after the storage. -/
def alloc (slab : Slab) : Option (Option (UInt32 × Slice) × Slab) :=
  match slab.freeList with
  | [] => some (none, slab)
  | slotIdx :: freeList =>
    let start := slotIdx.toNat * slab.sizeClass.size
    let stop := start + slab.sizeClass.size
    if stop ≤ slab.storageLen then
      some (some (slotIdx, ⟨start, stop⟩),
        { slab with freeList := freeList, allocated := slab.allocated + 1 })
    else none

/-- `Slab::free`; no result is the panic of the assertion or of the subtraction (in a release build
the counter wraps; while `Holds` holds, neither occurs). -/
def free (slab : Slab) (slotIdx : UInt32) : Option Slab :=
  if slotIdx.toNat < slab.capacity ∧ 0 < slab.allocated then
    some { slab with
      freeList := slotIdx :: slab.freeList
      allocated := slab.allocated - 1 }
  else none

/-- Each slot is free or live, once. -/
structure Holds (slab : Slab) (live : Multiset Nat) : Prop where
  slots : ((slab.freeList.map UInt32.toNat : List Nat) : Multiset Nat) + live =
    Multiset.range slab.capacity
  allocated : slab.allocated = live.card
  storageLen : slab.storageLen = slab.sizeClass.size * slab.capacity

lemma holds_new {sizeClass : SizeClass} {numSlots : UInt64} (h : numSlots.toNat < 2 ^ 32) :
    (new sizeClass numSlots).Holds 0 where
  slots := by
    have hlist : (new sizeClass numSlots).freeList.map UInt32.toNat = List.range numSlots.toNat := by
      rw [new, UInt64.toNat_toUInt32, Nat.mod_eq_of_lt h, List.map_map]
      refine (List.map_congr_left fun i hi => ?_).trans (List.map_id _)
      exact UInt32.toNat_ofNat_of_lt' ((List.mem_range.mp hi).trans h)
    rw [hlist, add_zero]
    rfl
  allocated := rfl
  storageLen := rfl

variable {slab : Slab} {live : Multiset Nat}

lemma Holds.lt (h : slab.Holds live) {slot : Nat} (hslot : slot ∈ live) : slot < slab.capacity := by
  rw [← Multiset.mem_range, ← h.slots, Multiset.mem_add]
  exact .inr hslot

lemma Holds.nodup (h : slab.Holds live) :
    (((slab.freeList.map UInt32.toNat : List Nat) : Multiset Nat) + live).Nodup := by
  rw [h.slots]
  exact Multiset.nodup_range _

lemma Holds.counts (h : slab.Holds live) :
    slab.freeList.Nodup ∧ slab.allocated + slab.freeList.length = slab.capacity := by
  constructor
  · have hfree := (Multiset.nodup_add.mp h.nodup).1
    exact (Multiset.coe_nodup.mp hfree).of_map _
  · have hcard := congrArg Multiset.card h.slots
    rw [Multiset.card_add, Multiset.coe_card, List.length_map, Multiset.card_range] at hcard
    rw [h.allocated]
    omega

lemma Holds.alloc (h : slab.Holds live) :
    slab.alloc = some (none, slab) ∨
      ∃ slot slab', slab.alloc = some (some (slot, ⟨slot.toNat * slab.sizeClass.size,
          slot.toNat * slab.sizeClass.size + slab.sizeClass.size⟩), slab') ∧
        slab'.Holds (slot.toNat ::ₘ live) ∧ slab'.sizeClass = slab.sizeClass ∧
        slab'.allocated = slab.allocated + 1 := by
  unfold Slab.alloc
  rcases hfree : slab.freeList with _ | ⟨slot, freeList⟩
  · exact .inl rfl
  have hslots := h.slots
  rw [hfree, List.map_cons, ← Multiset.cons_coe, Multiset.cons_add, ← Multiset.add_cons] at hslots
  have hlt : slot.toNat < slab.capacity := by
    rw [← Multiset.mem_range, ← hslots, Multiset.mem_add]
    exact .inr (Multiset.mem_cons_self _ _)
  have hfits : slot.toNat * slab.sizeClass.size + slab.sizeClass.size ≤ slab.storageLen := by
    rw [h.storageLen, ← Nat.succ_mul, Nat.mul_comm]
    exact Nat.mul_le_mul_left _ hlt
  refine .inr ⟨slot, _, if_pos hfits, ⟨hslots, ?_, h.storageLen⟩, rfl, rfl⟩
  rw [Multiset.card_cons, ← h.allocated]

lemma Holds.free {slot : UInt32} (h : slab.Holds (slot.toNat ::ₘ live)) :
    ∃ slab', slab.free slot = some slab' ∧ slab'.Holds live ∧ slab'.sizeClass = slab.sizeClass ∧
      slab'.allocated + 1 = slab.allocated := by
  have hlt : slot.toNat < slab.capacity := h.lt (Multiset.mem_cons_self _ _)
  have hallocated : slab.allocated = live.card + 1 := by
    rw [h.allocated, Multiset.card_cons]
  refine ⟨_, if_pos ⟨hlt, by omega⟩, ⟨?_, ?_, h.storageLen⟩, rfl, ?_⟩
  · rw [← h.slots, List.map_cons, ← Multiset.cons_coe, Multiset.cons_add, Multiset.add_cons]
  · exact Nat.sub_eq_of_eq_add hallocated
  · exact Nat.sub_add_cancel (by omega)

end Slab

/-! ## The pool -/

structure MemoryPool where
  /-- One slab for each size class. -/
  slabs : List Slab
  bytesAllocated : Nat

namespace MemoryPool

def new (totalBytes : UInt64) : MemoryPool :=
  let slabBytes := totalBytes * 60 / 100
  ⟨[.new .tiny (slabBytes * 30 / 100 / 64),
    .new .small (slabBytes * 25 / 100 / 256),
    .new .medium (slabBytes * 20 / 100 / 1024),
    .new .large (slabBytes * 15 / 100 / 4096),
    .new .huge (slabBytes * 7 / 100 / 16384),
    .new .giant (slabBytes * 3 / 100 / 65536)], 0⟩

/-- `MemoryPool::alloc`; no result is a panic. -/
def alloc (p : MemoryPool) (bytes : Nat) : Option (Option (AllocHandle × Slice) × MemoryPool) :=
  match SizeClass.forSize bytes with
  | none => some (none, p)
  | some sizeClass =>
    match p.slabs[sizeClass.slabIdx.toNat]? with
    | none => none
    | some slab =>
      match slab.alloc with
      | none => none
      | some (none, _) => some (none, p)
      | some (some (slotIdx, slice), slab) =>
        if bytes ≤ slice.stop - slice.start then
          some (some (.new sizeClass.slabIdx slotIdx, ⟨slice.start, slice.start + bytes⟩),
            { slabs := p.slabs.set sizeClass.slabIdx.toNat slab
              bytesAllocated := p.bytesAllocated + sizeClass.size })
        else none

/-- `MemoryPool::free`; no result is a panic. -/
def free (p : MemoryPool) (handle : AllocHandle) : Option MemoryPool :=
  match p.slabs[handle.slabIdx]? with
  | none => some p
  | some slab =>
    match slab.free (UInt32.ofNat handle.slotIdx) with
    | none => none
    | some freed =>
      if slab.sizeClass.size ≤ p.bytesAllocated then
        some
          { slabs := p.slabs.set handle.slabIdx freed
            bytesAllocated := p.bytesAllocated - slab.sizeClass.size }
      else none

/-- The bytes of the slot that a handle refers to, each with its slab. -/
def slot (p : MemoryPool) (handle : AllocHandle) : Finset (Nat × Nat) :=
  match p.slabs[handle.slabIdx]? with
  | none => ∅
  | some slab =>
    {handle.slabIdx} ×ˢ Finset.Ico (handle.slotIdx * slab.sizeClass.size)
      (handle.slotIdx * slab.sizeClass.size + slab.sizeClass.size)

lemma disjoint_slot {p : MemoryPool} {h h' : AllocHandle}
    (hne : h.slabIdx ≠ h'.slabIdx ∨ h.slotIdx ≠ h'.slotIdx) : Disjoint (p.slot h) (p.slot h') := by
  rw [Finset.disjoint_left]
  rintro ⟨k, byte⟩ hmem hmem'
  unfold slot at hmem hmem'
  split at hmem
  · exact absurd hmem (Finset.notMem_empty _)
  next slab hslab =>
  split at hmem'
  · exact absurd hmem' (Finset.notMem_empty _)
  next slab' hslab' =>
  rw [Finset.mem_product, Finset.mem_singleton, Finset.mem_Ico] at hmem hmem'
  obtain ⟨rfl, hge, hlt⟩ := hmem
  obtain ⟨hsame, hge', hlt'⟩ := hmem'
  have hslots : h.slotIdx ≠ h'.slotIdx := hne.resolve_left fun hdiff => hdiff hsame
  dsimp only at hsame hge hlt hge' hlt'
  rw [← hsame, hslab] at hslab'
  cases hslab'
  rw [← Nat.succ_mul] at hlt hlt'
  -- The quotient of a byte by the slot size is its slot.
  rcases Nat.lt_or_gt_of_ne hslots with hbefore | hafter
  · have hle := Nat.mul_le_mul_right slab.sizeClass.size hbefore
    omega
  · have hle := Nat.mul_le_mul_right slab.sizeClass.size hafter
    omega

end MemoryPool

structure Allocation where
  handle : AllocHandle
  live : Bool
  deriving DecidableEq

/-- A call. A free names the allocation whose handle is passed, of all that were ever given. -/
inductive PoolEvent where
  | alloc (bytes : Nat)
  | free (allocation : Nat)

structure PoolRun where
  pool : MemoryPool
  given : List Allocation

namespace PoolRun

def start (totalBytes : UInt64) : PoolRun := ⟨.new totalBytes, []⟩

def call (r : PoolRun) : PoolEvent → Option PoolRun
  | .alloc bytes =>
    (r.pool.alloc bytes).map fun (result, pool) =>
      ⟨pool, r.given ++ (result.map fun (handle, _) => ⟨handle, true⟩).toList⟩
  | .free i =>
    match r.given[i]? with
    | none => some r
    | some allocation =>
      (r.pool.free allocation.handle).map fun pool =>
        ⟨pool, r.given.set i { allocation with live := false }⟩

def step (r : Option PoolRun) (e : PoolEvent) : Option PoolRun := r.bind (·.call e)

def FreedOnce (r : Option PoolRun) : PoolEvent → Prop
  | .alloc _ => True
  | .free i => ∀ allocation ∈ r.bind (·.given[i]?), allocation.live = true

def liveSlot (k : Nat) (allocation : Allocation) : Multiset Nat :=
  if allocation.live = true ∧ allocation.handle.slabIdx = k then {allocation.handle.slotIdx} else 0

def liveSlots (given : List Allocation) (k : Nat) : Multiset Nat := (given.map (liveSlot k)).sum

/-- Every slab holds the slots in use. -/
structure Sound (r : PoolRun) : Prop where
  classes : r.pool.slabs.map (·.sizeClass) = SizeClass.all
  holds : ∀ (k : Nat) (slab : Slab), r.pool.slabs[k]? = some slab →
    slab.Holds (liveSlots r.given k)
  bytes : r.pool.bytesAllocated =
    (r.pool.slabs.map fun slab => slab.allocated * slab.sizeClass.size).sum

lemma sound_start {totalBytes : UInt64}
    (h : ∀ slab ∈ (MemoryPool.new totalBytes).slabs, slab.capacity < 2 ^ 32) :
    (start totalBytes).Sound where
  classes := rfl
  holds := by
    have hnew (slab : Slab) (hmem : slab ∈ (MemoryPool.new totalBytes).slabs) : slab.Holds 0 := by
      have hlt := h slab hmem
      simp only [MemoryPool.new, List.mem_cons, List.not_mem_nil, or_false] at hmem
      rcases hmem with rfl | rfl | rfl | rfl | rfl | rfl <;> exact Slab.holds_new hlt
    intro k slab hslab
    exact hnew slab (List.mem_of_getElem? hslab)
  bytes := by
    simp only [start, MemoryPool.new, Slab.new, List.map_cons, List.map_nil, List.sum_cons,
      List.sum_nil, Nat.zero_mul, Nat.add_zero]

lemma liveSlots_concat (given : List Allocation) (allocation : Allocation) (k : Nat) :
    liveSlots (given ++ [allocation]) k = liveSlots given k + liveSlot k allocation := by
  simp [liveSlots]

variable {given : List Allocation} {i : Nat} {allocation : Allocation}

lemma liveSlots_eq_cons
    (h : given[i]? = some allocation) (hlive : allocation.live = true) :
    liveSlots given allocation.handle.slabIdx = allocation.handle.slotIdx ::ₘ
      liveSlots (given.set i { allocation with live := false }) allocation.handle.slabIdx := by
  have hsum := sum_map_set_add h { allocation with live := false }
    (liveSlot allocation.handle.slabIdx)
  have hself : liveSlot allocation.handle.slabIdx allocation = {allocation.handle.slotIdx} :=
    if_pos ⟨hlive, rfl⟩
  have hdead : liveSlot allocation.handle.slabIdx { allocation with live := false } = 0 :=
    if_neg fun hdead => Bool.noConfusion hdead.1
  rw [hself, hdead, add_zero, add_comm, Multiset.singleton_add] at hsum
  exact hsum.symm

lemma liveSlots_set_of_ne {k : Nat}
    (h : given[i]? = some allocation) (hk : allocation.handle.slabIdx ≠ k) :
    liveSlots (given.set i { allocation with live := false }) k = liveSlots given k := by
  have hsum := sum_map_set_add h { allocation with live := false } (liveSlot k)
  have hself : liveSlot k allocation = 0 := if_neg fun hsame => hk hsame.2
  have hdead : liveSlot k { allocation with live := false } = 0 := if_neg fun hsame => hk hsame.2
  rw [hdead, hself, add_zero, add_zero] at hsum
  exact hsum

lemma mem_liveSlots
    (h : given[i]? = some allocation) (hlive : allocation.live = true) :
    allocation.handle.slotIdx ∈ liveSlots given allocation.handle.slabIdx := by
  rw [liveSlots_eq_cons h hlive]
  exact Multiset.mem_cons_self _ _

variable {r : PoolRun}

lemma Sound.exists_slab (h : r.Sound) (c : SizeClass) :
    ∃ slab, r.pool.slabs[c.slabIdx.toNat]? = some slab ∧ slab.sizeClass = c := by
  have hclass := SizeClass.all_slabIdx c
  rw [← h.classes, List.getElem?_map, Option.map_eq_some_iff] at hclass
  exact hclass

lemma Sound.write (h : r.Sound) {k bytes : Nat} {slab slab' : Slab}
    (hslab : r.pool.slabs[k]? = some slab) (hclass : slab'.sizeClass = slab.sizeClass)
    (hholds : slab'.Holds (liveSlots given k))
    (hothers : ∀ j ≠ k, liveSlots given j = liveSlots r.given j)
    (hbytes : bytes + slab.allocated * slab.sizeClass.size =
      r.pool.bytesAllocated + slab'.allocated * slab.sizeClass.size) :
    Sound ⟨⟨r.pool.slabs.set k slab', bytes⟩, given⟩ where
  classes := by
    rw [← h.classes]
    apply List.ext_getElem?
    intro j
    rw [List.getElem?_map, List.getElem?_map]
    by_cases hj : j = k
    · subst hj
      rw [getElem?_set_of_some hslab, hslab, Option.map_some, Option.map_some, hclass]
    · rw [List.getElem?_set_ne (Ne.symm hj)]
  holds j other hother := by
    rcases getElem?_set_cases hother with ⟨rfl, rfl⟩ | ⟨hne, hold⟩
    · exact hholds
    · rw [hothers j hne]
      exact h.holds j other hold
  bytes := by
    have hsum := sum_map_set_add hslab slab' fun slab => slab.allocated * slab.sizeClass.size
    have hold := h.bytes
    dsimp only at hsum ⊢
    rw [hclass] at hsum
    omega

lemma Sound.alloc (h : r.Sound) (bytes : Nat) :
    ∃ r', r.call (.alloc bytes) = some r' ∧ r'.Sound := by
  rcases hclass : SizeClass.forSize bytes with _ | c
  · have hnone : r.pool.alloc bytes = some (none, r.pool) := by
      simp only [MemoryPool.alloc, hclass]
    refine ⟨r, ?_, h⟩
    simp [call, hnone]
  obtain ⟨slab, hslab, rfl⟩ := h.exists_slab c
  rcases (h.holds _ slab hslab).alloc with hfull | ⟨slot, slab', halloc, hholds, hsame, hcount⟩
  · have hnone : r.pool.alloc bytes = some (none, r.pool) := by
      simp only [MemoryPool.alloc, hclass, hslab, hfull]
    refine ⟨r, ?_, h⟩
    simp [call, hnone]
  have hfits := SizeClass.le_size_of_forSize hclass
  have hsome : r.call (.alloc bytes) = some
      ⟨⟨r.pool.slabs.set slab.sizeClass.slabIdx.toNat slab',
          r.pool.bytesAllocated + slab.sizeClass.size⟩,
        r.given ++ [⟨.new slab.sizeClass.slabIdx slot, true⟩]⟩ := by
    simp [call, MemoryPool.alloc, hclass, hslab, halloc, hfits]
  refine ⟨_, hsome, h.write hslab hsame ?_ (fun j hj => ?_) ?_⟩
  · have hlive : liveSlot slab.sizeClass.slabIdx.toNat
        ⟨.new slab.sizeClass.slabIdx slot, true⟩ = {slot.toNat} := by
      simp [liveSlot]
    rw [liveSlots_concat, hlive, add_comm, Multiset.singleton_add]
    exact hholds
  · have hlive : liveSlot j ⟨.new slab.sizeClass.slabIdx slot, true⟩ = 0 := by
      simp [liveSlot, Ne.symm hj]
    rw [liveSlots_concat, hlive, add_zero]
  · rw [hcount]
    ring

lemma Sound.free (h : r.Sound)
    (hgiven : r.given[i]? = some allocation) (hlive : allocation.live = true) :
    ∃ r', r.call (.free i) = some r' ∧ r'.Sound := by
  have hothers : ∀ j ≠ allocation.handle.slabIdx,
      liveSlots (r.given.set i { allocation with live := false }) j = liveSlots r.given j :=
    fun j hj => liveSlots_set_of_ne hgiven (Ne.symm hj)
  rcases hslab : r.pool.slabs[allocation.handle.slabIdx]? with _ | slab
  · have hsome : r.call (.free i) = some
        ⟨r.pool, r.given.set i { allocation with live := false }⟩ := by
      simp [call, hgiven, MemoryPool.free, hslab]
    refine ⟨_, hsome, h.classes, fun j other hother => ?_, h.bytes⟩
    have hne : j ≠ allocation.handle.slabIdx := by
      rintro rfl
      rw [hslab] at hother
      cases hother
    rw [hothers j hne]
    exact h.holds j other hother
  · have hholds := h.holds _ slab hslab
    have hslot : (UInt32.ofNat allocation.handle.slotIdx).toNat = allocation.handle.slotIdx :=
      UInt32.toNat_ofNat_of_lt' allocation.handle.slotIdx_lt
    rw [liveSlots_eq_cons hgiven hlive, ← hslot] at hholds
    obtain ⟨slab', hfree, hholds', hsame, hcount⟩ := hholds.free
    have hsum := sum_map_set_add hslab slab' fun slab => slab.allocated * slab.sizeClass.size
    rw [← h.bytes, hsame, ← hcount, Nat.succ_mul] at hsum
    have hle : slab.sizeClass.size ≤ r.pool.bytesAllocated := by
      omega
    have hsome : r.call (.free i) = some
        ⟨⟨r.pool.slabs.set allocation.handle.slabIdx slab',
            r.pool.bytesAllocated - slab.sizeClass.size⟩,
          r.given.set i { allocation with live := false }⟩ := by
      simp [call, hgiven, MemoryPool.free, hslab, hfree, hle]
    refine ⟨_, hsome, h.write hslab hsame hholds' hothers ?_⟩
    rw [← hcount, Nat.succ_mul]
    omega

lemma Sound.disjoint (h : r.Sound) {j : Nat} {a b : Allocation} (hij : i ≠ j)
    (ha : r.given[i]? = some a) (hb : r.given[j]? = some b) (halive : a.live = true)
    (hblive : b.live = true) : Disjoint (r.pool.slot a.handle) (r.pool.slot b.handle) := by
  rcases hslab : r.pool.slabs[a.handle.slabIdx]? with _ | slab
  · have hempty : r.pool.slot a.handle = ∅ := by
      simp only [MemoryPool.slot, hslab]
    rw [hempty]
    exact Finset.disjoint_empty_left _
  apply MemoryPool.disjoint_slot
  by_contra hsame
  rw [not_or, not_not, not_not] at hsame
  -- The second would be among the slots in use without the first.
  have hrest : (r.given.set i { a with live := false })[j]? = some b := by
    rw [List.getElem?_set_ne hij]
    exact hb
  have hmem := mem_liveSlots hrest hblive
  rw [← hsame.1, ← hsame.2] at hmem
  have hnodup := (Multiset.nodup_add.mp (h.holds _ slab hslab).nodup).2.1
  rw [liveSlots_eq_cons ha halive, Multiset.nodup_cons] at hnodup
  exact hnodup.1 hmem

end PoolRun

/-- **A pool is sound as long as nothing is freed twice.** On a pool whose slabs have fewer than `2
^ 32` slots, after any calls in which each allocation is freed at most once: no call has panicked,
allocations in use have disjoint slots, no free list has a repetition, and in every slab the
allocated slots and the free ones add up to the capacity. -/
theorem pool_sound (totalBytes : UInt64)
    (hslots : ∀ slab ∈ (MemoryPool.new totalBytes).slabs, slab.capacity < 2 ^ 32)
    (events : List PoolEvent)
    (h : Guarded PoolRun.step PoolRun.FreedOnce (some (.start totalBytes)) events) :
    ∃ r, run PoolRun.step (some (.start totalBytes)) events = some r ∧
      (∀ (i j : Nat) (a b : Allocation), i ≠ j → r.given[i]? = some a → r.given[j]? = some b →
        a.live = true → b.live = true →
        Disjoint (r.pool.slot a.handle) (r.pool.slot b.handle)) ∧
      ∀ slab ∈ r.pool.slabs,
        slab.freeList.Nodup ∧ slab.allocated + slab.freeList.length = slab.capacity := by
  have hstart : ∃ r, some (PoolRun.start totalBytes) = some r ∧ r.Sound :=
    ⟨_, rfl, PoolRun.sound_start hslots⟩
  have hrun : ∃ r, run PoolRun.step (some (.start totalBytes)) events = some r ∧ r.Sound := by
    refine run_invariant_of_guarded (I := fun s => ∃ r, s = some r ∧ r.Sound) ?_ hstart h
    rintro s e ⟨r, rfl, hr⟩ hguard
    cases e with
    | alloc bytes => exact hr.alloc bytes
    | free i =>
      rcases hgiven : r.given[i]? with _ | allocation
      · refine ⟨r, ?_, hr⟩
        simp [PoolRun.step, PoolRun.call, hgiven]
      · exact hr.free hgiven (hguard allocation hgiven)
  obtain ⟨r, hr, hsound⟩ := hrun
  refine ⟨r, hr, fun i j a b hij ha hb halive hblive => ?_, fun slab hslab => ?_⟩
  · exact hsound.disjoint hij ha hb halive hblive
  · obtain ⟨k, hk⟩ := List.mem_iff_getElem?.mp hslab
    exact (hsound.holds k slab hk).counts

theorem pool_sound_reused :
    ∃ r, run PoolRun.step (some (.start 10000)) [.alloc 8, .alloc 8, .free 0, .alloc 8] = some r ∧
      ∀ slab ∈ r.pool.slabs,
        slab.freeList.Nodup ∧ slab.allocated + slab.freeList.length = slab.capacity := by
  have hslots : ∀ slab ∈ (MemoryPool.new 10000).slabs, slab.capacity < 2 ^ 32 := by
    decide +kernel
  have hguard : Guarded PoolRun.step PoolRun.FreedOnce (some (.start 10000))
      [.alloc 8, .alloc 8, .free 0, .alloc 8] := by
    simp only [Guarded, PoolRun.FreedOnce]
    decide +kernel
  obtain ⟨r, hr, -, hcounts⟩ := pool_sound 10000 hslots _ hguard
  exact ⟨r, hr, hcounts⟩

/-- **A handle that is freed twice is given out twice.** The first of two allocations is freed, and
freed again; the next two allocations then get its slot both. And the free list of a slab of `2 ^
32` slots is empty from the start. -/
theorem stale_handle_aliases :
    (run PoolRun.step (some (.start 10000))
        [.alloc 8, .alloc 8, .free 0, .free 0, .alloc 8, .alloc 8]).map (·.given) =
      some [⟨.new 0 0, false⟩, ⟨.new 0 1, true⟩, ⟨.new 0 0, true⟩, ⟨.new 0 0, true⟩] ∧
      ∃ slab ∈ (MemoryPool.new 1527099483025).slabs,
        slab.allocated + slab.freeList.length ≠ slab.capacity := by
  refine ⟨by decide +kernel, _, List.mem_cons_self, ?_⟩
  rw [Slab.new, List.length_map, List.length_range, UInt64.toNat_toUInt32]
  decide +kernel

end AxiomCore
