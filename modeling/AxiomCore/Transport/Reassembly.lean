import AxiomCore.Transport.Fragment

/-!
# What a reassembler puts together

Whatever arrives, in whatever order: a frame that is returned for a fragment consists of fragments
that have arrived, one for each number, and the `unwrap`s of `reassemble` do not panic. They rest on
a count: as many numbers as the total, all of them below it and none twice, are all the numbers.

- `Pending arrived key b`: what the buffer `b` holds came in fragments of `key`.
- `Sound arrived r`: all buffers are such, and there are not too many of them.

Source: `axiom-transport/src/fragment.rs`.
-/

namespace AxiomCore

open Lib List

/-- A fragment that is collected under the key. -/
structure IsFragment (key : ReassemblyKey) (info : FragmentInfo) (frame : Frame) : Prop where
  flag : frame.header.flags.fragmented = true
  info : frame.fragmentInfo = some info
  key : frame.header.reassemblyKey = key

/-- The frame has the payloads of fragments that have arrived, all of one sender, intent and clock
and one for each number; all else is that of the first one. -/
def PutTogether (arrived : List Frame) (frame : Frame) : Prop :=
  ∃ (key : ReassemblyKey) (total : UInt16) (fragment : Nat → Frame), 0 < total ∧
    (∀ i < total.toNat, fragment i ∈ arrived ∧ IsFragment key ⟨.ofNat i, total⟩ (fragment i)) ∧
    let payload := (List.range total.toNat).flatMap fun i => (fragment i).payload
    let first := fragment 0
    frame = { first with
      header := { first.header with flags := { first.header.flags with fragmented := false } }
      fragmentInfo := none
      payloadHeader := { first.payloadHeader with length := .ofNat payload.length }
      payload := payload }

/-- What the buffer holds under a number came in a fragment with this number, and what it has taken
over came in the first one. -/
def Pending (arrived : List Frame) (key : ReassemblyKey) (b : FragmentBuffer) : Prop :=
  ∀ seq payload, b.fragments.lookup seq = some payload → seq < b.total ∧
    ∃ frame ∈ arrived, IsFragment key ⟨seq, b.total⟩ frame ∧ frame.payload = payload ∧
      (seq = 0 → b.captureFirst 0 frame = b)

section Pending

variable {arrived : List Frame} {key : ReassemblyKey} {b b' : FragmentBuffer} {frame : Frame}
  {info : FragmentInfo}

lemma pending_new (arrived : List Frame) (key : ReassemblyKey) (total : UInt16)
    (createdAt : UInt64) : Pending arrived key (.new total createdAt) := by
  intro seq payload hlookup
  cases hlookup

lemma Pending.concat (h : Pending arrived key b) (frame : Frame) :
    Pending (arrived ++ [frame]) key b := by
  intro seq payload hlookup
  obtain ⟨hlt, f, hf, hrest⟩ := h seq payload hlookup
  exact ⟨hlt, f, mem_append_left _ hf, hrest⟩

lemma Pending.addFragment (h : Pending arrived key b) (hframe : IsFragment key info frame)
    (hadd : b.addFragment info frame = .ok b') :
    Pending (arrived ++ [frame]) key b' ∧ 0 < b'.total := by
  unfold FragmentBuffer.addFragment at hadd
  split_ifs at hadd with htotal hseq hnew
  rw [not_not] at htotal
  have hlt : info.sequence < b.total := htotal ▸ UInt16.not_le.mp hseq
  cases hadd
  dsimp only
  rw [Pending, b.total_captureFirst, b.fragments_captureFirst]
  refine ⟨?_, UInt16.lt_of_le_of_lt UInt16.zero_le hlt⟩
  intro seq payload hlookup
  by_cases heq : seq = info.sequence
  · subst heq
    rw [AList.lookup_insert] at hlookup
    refine ⟨hlt, frame, mem_concat_self, htotal ▸ hframe, Option.some.inj hlookup, ?_⟩
    intro hzero
    rw [hzero]
    rfl
  · rw [AList.lookup_insert_ne heq] at hlookup
    obtain ⟨hbelow, f, hf, hfragment, hpayload, hfirst⟩ := h seq payload hlookup
    refine ⟨hbelow, f, mem_append_left _ hf, hfragment, hpayload, ?_⟩
    rintro rfl
    rw [b.captureFirst_of_ne _ (Ne.symm heq)]
    have hcaptured := hfirst rfl
    rw [← hcaptured]
    rfl

/-- The numbers are below the total and none is there twice, so a complete buffer has them all. -/
lemma Pending.mem_of_isComplete (h : Pending arrived key b) (hcomplete : b.isComplete) {i : Nat}
    (hi : i < b.total.toNat) : UInt16.ofNat i ∈ b.fragments := by
  have hcount : (b.fragments.keys.map UInt16.toNat).length = b.total.toNat := by
    rw [length_map, AList.keys, keys, length_map]
    exact of_decide_eq_true hcomplete
  have hnodup : (b.fragments.keys.map UInt16.toNat).Nodup :=
    b.fragments.keys_nodup.map fun _ _ => UInt16.toNat_inj.mp
  have hbelow : b.fragments.keys.map UInt16.toNat ⊆ List.range b.total.toNat := by
    intro n hn
    obtain ⟨seq, hseq, rfl⟩ := mem_map.mp hn
    obtain ⟨payload, hlookup⟩ := Option.isSome_iff_exists.mp (AList.lookup_isSome.mpr hseq)
    exact mem_range.mpr (UInt16.lt_iff_toNat_lt.mp (h seq payload hlookup).1)
  have hperm := (hnodup.subperm hbelow).perm_of_length_le (by rw [hcount, length_range])
  obtain ⟨seq, hseq, rfl⟩ := mem_map.mp (hperm.mem_iff.mpr (mem_range.mpr hi))
  rwa [UInt16.ofNat_toNat]

lemma Pending.reassemble (h : Pending arrived key b) (hcomplete : b.isComplete)
    (hpos : 0 < b.total) : ∃ out, b.reassemble = .ok out ∧ PutTogether arrived out := by
  have hfragments : ∀ i < b.total.toNat, ∃ f ∈ arrived, IsFragment key ⟨.ofNat i, b.total⟩ f ∧
      b.fragments.lookup (.ofNat i) = some f.payload ∧ (i = 0 → b.captureFirst 0 f = b) := by
    intro i hi
    obtain ⟨payload, hlookup⟩ := Option.isSome_iff_exists.mp
      (AList.lookup_isSome.mpr (h.mem_of_isComplete hcomplete hi))
    obtain ⟨-, f, hf, hfragment, rfl, hfirst⟩ := h _ _ hlookup
    refine ⟨f, hf, hfragment, hlookup, ?_⟩
    rintro rfl
    exact hfirst rfl
  have hzero := UInt16.lt_iff_toNat_lt.mp hpos
  have : Nonempty Frame := ⟨(hfragments 0 hzero).choose⟩
  choose! fragment harrived hfragment hlookup hfirst using hfragments
  have hpayload : ((List.range b.total.toNat).flatMap fun seq =>
      (b.fragments.lookup (.ofNat seq)).getD []) =
      (List.range b.total.toNat).flatMap fun i => (fragment i).payload := by
    refine flatMap_congr fun i hi => ?_
    rw [hlookup i (mem_range.mp hi), Option.getD_some]
  refine ⟨_, ?_, key, b.total, fragment, hpos, fun i hi => ⟨harrived i hi, hfragment i hi⟩, rfl⟩
  unfold FragmentBuffer.reassemble
  rw [if_neg (not_not_intro hcomplete), hpayload, ← hfirst 0 hzero rfl]
  rfl

end Pending

/-- All buffers are made of what has arrived, and there are not too many. -/
structure Reassembler.Sound (arrived : List Frame) (r : Reassembler) : Prop where
  room : r.buffers.entries.length ≤ r.maxBuffers
  pending : ∀ key b, r.buffers.lookup key = some b → Pending arrived key b

namespace Reassembler

variable {arrived : List Frame} {r : Reassembler} {key : ReassemblyKey} {b : FragmentBuffer}
  {frame : Frame} {info : FragmentInfo}

/-- There is no panic, and what is returned is a frame that is no fragment, or was put together. -/
def SoundResult (arrived : List Frame) (frame : Frame) :
    Checked ReassemblyError (Option Frame) → Prop
  | .ok (some out) =>
    ((∀ key info, ¬ IsFragment key info frame) ∧ out = frame) ∨ PutTogether arrived out
  | .ok none => True
  | .error (.error _) => True
  | .error .outOfBounds => False

lemma sound_new (maxBuffers : Nat) (timeoutMs : UInt64) :
    (new maxBuffers timeoutMs).Sound [] where
  room := Nat.zero_le _
  pending key b hlookup := by cases hlookup

lemma Sound.cleanupExpired (h : r.Sound arrived) (now : UInt64) :
    (r.cleanupExpired now).Sound arrived where
  room := (length_filter_le _ _).trans h.room
  pending key b hlookup := by
    rw [lookup_cleanupExpired] at hlookup
    exact h.pending key b (Option.filter_eq_some_iff.mp hlookup).1

/-- A buffer is written back or removed. -/
lemma Sound.write {buffers : AList fun _ : ReassemblyKey => FragmentBuffer} (h : r.Sound arrived)
    (hroom : buffers.entries.length ≤ r.maxBuffers)
    (hkey : ∀ b, buffers.lookup key = some b → Pending (arrived ++ [frame]) key b)
    (hother : ∀ key' ≠ key, buffers.lookup key' = r.buffers.lookup key') :
    Sound (arrived ++ [frame]) { r with buffers := buffers } where
  room := hroom
  pending key' b hlookup := by
    by_cases heq : key' = key
    · subst heq
      exact hkey b hlookup
    · rw [hother key' heq] at hlookup
      exact (h.pending key' b hlookup).concat frame

lemma Sound.addTo (h : r.Sound arrived)
    (hroom : (r.buffers.erase key).entries.length < r.maxBuffers) (hb : Pending arrived key b)
    (hframe : IsFragment key info frame) :
    SoundResult (arrived ++ [frame]) frame (r.addTo key b info frame).1 ∧
      (r.addTo key b info frame).2.Sound (arrived ++ [frame]) := by
  have hinsert : ∀ b', Pending (arrived ++ [frame]) key b' →
      Sound (arrived ++ [frame]) { r with buffers := r.buffers.insert key b' } := by
    intro b' hb'
    refine h.write hroom ?_ fun key' hne => AList.lookup_insert_ne hne
    intro b'' hlookup
    rw [AList.lookup_insert] at hlookup
    rwa [← Option.some.inj hlookup]
  unfold Reassembler.addTo
  rcases hadd : b.addFragment info frame with e | b'
  · exact ⟨trivial, hinsert b (hb.concat frame)⟩
  obtain ⟨hb', hpos⟩ := hb.addFragment hframe hadd
  dsimp only
  split_ifs with hcomplete
  · obtain ⟨out, hout, hput⟩ := hb'.reassemble hcomplete hpos
    rw [hout]
    refine ⟨.inr hput, h.write hroom.le ?_ fun key' hne => AList.lookup_erase_ne hne⟩
    intro b'' hlookup
    rw [AList.lookup_erase] at hlookup
    cases hlookup
  · exact ⟨trivial, hinsert b' hb'⟩

lemma Sound.process (h : r.Sound arrived) (frame : Frame) (now : UInt64) :
    SoundResult (arrived ++ [frame]) frame (r.process frame now).1 ∧
      (r.process frame now).2.Sound (arrived ++ [frame]) := by
  have hclean := h.cleanupExpired now
  unfold Reassembler.process
  dsimp only
  split
  · rename_i info hflag hinfo
    split
    · rename_i b hlookup
      refine hclean.addTo ?_ (hclean.pending _ b hlookup) ⟨hflag, hinfo, rfl⟩
      refine Nat.lt_of_lt_of_le ?_ hclean.room
      have hperm := (perm_insert_of_lookup hlookup).length_eq
      rw [AList.entries_insert, length_cons] at hperm
      exact Nat.lt_of_succ_le hperm.le
    · rename_i hlookup
      split_ifs with hfull
      · exact ⟨trivial, hclean.room, fun key b hb => (hclean.pending key b hb).concat frame⟩
      · refine hclean.addTo ?_ (pending_new _ _ _ _) ⟨hflag, hinfo, rfl⟩
        exact (kerase_sublist _ _).length_le.trans_lt (Nat.lt_of_not_le hfull)
  · rename_i hno
    refine ⟨.inl ⟨fun key info hframe => hno info hframe.flag hframe.info, rfl⟩, hclean.room, ?_⟩
    exact fun key b hb => (hclean.pending key b hb).concat frame

end Reassembler

open Reassembler

/-- **Reassembly is sound.** After any frames, at any times, a reassembler has at most as many
buffers as it may have, and with any further frame it does not panic: if it returns a frame, this
is the frame that came, which is no fragment, or it was put together of fragments that came. -/
theorem reassembly_sound (maxBuffers : Nat) (timeoutMs : UInt64) (deliveries : List Delivery)
    (frame : Frame) (now : UInt64) :
    let r := run deliver (.new maxBuffers timeoutMs) deliveries
    r.buffers.entries.length ≤ maxBuffers ∧
      SoundResult (deliveries.map (·.frame) ++ [frame]) frame (r.process frame now).1 := by
  intro r
  have hsound : r.maxBuffers = maxBuffers ∧ r.Sound (deliveries.map (·.frame)) := by
    refine run_induction (P := fun ds (r : Reassembler) => r.maxBuffers = maxBuffers ∧
      r.Sound (ds.map (·.frame))) ⟨rfl, sound_new maxBuffers timeoutMs⟩ ?_ deliveries
    rintro ds d ⟨hmax, h⟩
    rw [map_append]
    exact ⟨(sameLimits_deliver _ d).2.trans hmax, (h.process d.frame d.now).2⟩
  exact ⟨hsound.1 ▸ hsound.2.room, (hsound.2.process frame now).1⟩

end AxiomCore
