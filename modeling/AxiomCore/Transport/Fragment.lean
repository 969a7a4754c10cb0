import AxiomCore.Lib.Buffer
import AxiomCore.Lib.Pieces
import AxiomCore.Lib.Run
import AxiomCore.Types.Frame

/-!
# Fragmentation

A frame whose payload does not fit is cut into fragments. Each has the frame's header, marked as
that of a fragment, its trace id, routing and authentication, and a piece of the payload. The
receiver collects the fragments of a sender, intent and clock until it has all of them.

- `Holding frame k n b order`: the buffer `b` has the fragments with these numbers, of the `n` that
  the frame was cut into.
- `addTo_of_holding`: with one more fragment, it has that one too; with the last one, the frame is
  returned.

An `unwrap` of nothing is a fault, like an access out of bounds; a lossless run has none.

Source: `axiom-transport/src/fragment.rs`.
-/

namespace AxiomCore

open Lib List

/-! ## Cutting -/

namespace Fragmenter

def maxPayloadPerFragment (mtu authOverhead : Nat) : Nat := mtu - (58 + 4 + 4 + authOverhead)

def fragmentAt (frame : Frame) (maxPayload : Nat) (total seq : UInt16) : Frame :=
  let start := seq.toNat * maxPayload
  let stop := min ((seq.toNat + 1) * maxPayload) frame.payload.length
  let chunk := (frame.payload.drop start).take (stop - start)
  let fragHeader :=
    { frame.header with flags := { frame.header.flags with fragmented := true } }
  let fragFrame := Frame.new fragHeader frame.payloadHeader.payloadType chunk
  { fragFrame with
    fragmentInfo := some ⟨seq, total⟩
    traceId := frame.traceId
    routing := frame.routing
    auth := frame.auth
    payloadHeader := { fragFrame.payloadHeader with flags := frame.payloadHeader.flags } }

def fragment (mtu : Nat) (frame : Frame) : List Frame :=
  let authOverhead := frame.auth.wireSize
  let maxPayload := maxPayloadPerFragment mtu authOverhead
  if maxPayload = 0 ∨ frame.payload.length ≤ maxPayload then [frame]
  else
    let totalFragments := (frame.payload.length + maxPayload - 1) / maxPayload
    if totalFragments > 65535 then [frame]
    else
      let total := UInt16.ofNat totalFragments
      (List.range total.toNat).map fun seq => fragmentAt frame maxPayload total (.ofNat seq)

end Fragmenter

open Fragmenter

/-! ## Collecting -/

inductive ReassemblyError where
  | duplicateFragment (seq total : UInt16)
  | totalMismatch (expected got : UInt16)
  | tooManyPending (pending : Nat)
  | incomplete (received : Nat) (total : UInt16)
  | invalidSequence (seq total : UInt16)
  deriving DecidableEq

structure ReassemblyKey where
  senderId : NodeId
  intentHash : IntentHash
  clock : HybridClock
  deriving DecidableEq

/-- What fragments of a frame are collected under. -/
def FrameHeader.reassemblyKey (header : FrameHeader) : ReassemblyKey :=
  ⟨header.senderId, header.intentHash, header.clock⟩

structure FragmentBuffer where
  total : UInt16
  fragments : AList fun _ : UInt16 => List UInt8
  header : Option FrameHeader
  payloadHeader : Option PayloadHeader
  traceId : Option TraceId
  routing : Option RoutingExt
  auth : Option Authentication
  createdAt : UInt64

namespace FragmentBuffer

def new (total : UInt16) (createdAt : UInt64) : FragmentBuffer where
  total := total
  fragments := ∅
  header := none
  payloadHeader := none
  traceId := none
  routing := none
  auth := none
  createdAt := createdAt

def isComplete (b : FragmentBuffer) : Bool := b.fragments.entries.length = b.total.toNat

/-- What is taken over from the first fragment. -/
def captureFirst (b : FragmentBuffer) (seq : UInt16) (frame : Frame) : FragmentBuffer :=
  if seq = 0 then
    { b with
      header := some frame.header
      payloadHeader := some frame.payloadHeader
      traceId := frame.traceId
      routing := frame.routing
      auth := some frame.auth }
  else b

def addFragment (b : FragmentBuffer) (info : FragmentInfo) (frame : Frame) :
    Except ReassemblyError FragmentBuffer :=
  if info.total ≠ b.total then .error (.totalMismatch b.total info.total)
  else if info.total ≤ info.sequence then .error (.invalidSequence info.sequence info.total)
  else if info.sequence ∈ b.fragments then .error (.duplicateFragment info.sequence info.total)
  else
    let b := b.captureFirst info.sequence frame
    .ok { b with fragments := b.fragments.insert info.sequence frame.payload }

variable (b : FragmentBuffer) (seq : UInt16) (frame : Frame)

lemma total_captureFirst : (b.captureFirst seq frame).total = b.total := by
  unfold captureFirst
  split_ifs <;> rfl

lemma createdAt_captureFirst : (b.captureFirst seq frame).createdAt = b.createdAt := by
  unfold captureFirst
  split_ifs <;> rfl

lemma fragments_captureFirst : (b.captureFirst seq frame).fragments = b.fragments := by
  unfold captureFirst
  split_ifs <;> rfl

variable {seq} in
lemma captureFirst_of_ne (h : seq ≠ 0) : b.captureFirst seq frame = b := if_neg h

def reassemble (b : FragmentBuffer) : Checked ReassemblyError Frame :=
  if ¬ b.isComplete then .error (.error (.incomplete b.fragments.entries.length b.total))
  else
    let payload := (List.range b.total.toNat).flatMap fun seq =>
      (b.fragments.lookup (.ofNat seq)).getD []
    match b.header, b.payloadHeader, b.auth with
    | some header, some origPayloadHeader, some auth => .ok
        { header := { header with flags := { header.flags with fragmented := false } }
          traceId := b.traceId
          routing := b.routing
          fragmentInfo := none
          payloadHeader := ⟨origPayloadHeader.payloadType, UInt32.ofNat payload.length,
            origPayloadHeader.flags⟩
          payload := payload
          auth := auth }
    | _, _, _ => .error .outOfBounds

end FragmentBuffer

structure Reassembler where
  buffers : AList fun _ : ReassemblyKey => FragmentBuffer
  maxBuffers : Nat
  timeoutMs : UInt64

namespace Reassembler

def new (maxBuffers : Nat) (timeoutMs : UInt64) : Reassembler := ⟨∅, maxBuffers, timeoutMs⟩

def cleanupExpired (r : Reassembler) (now : UInt64) : Reassembler :=
  { r with
    buffers := retainEntries r.buffers fun entry =>
      now.toNat - entry.2.createdAt.toNat < r.timeoutMs.toNat }

def addTo (r : Reassembler) (key : ReassemblyKey) (b : FragmentBuffer) (info : FragmentInfo)
    (frame : Frame) : Checked ReassemblyError (Option Frame) × Reassembler :=
  match b.addFragment info frame with
  | .error e => (.error (.error e), { r with buffers := r.buffers.insert key b })
  | .ok b =>
    if b.isComplete then (some <$> b.reassemble, { r with buffers := r.buffers.erase key })
    else (.ok none, { r with buffers := r.buffers.insert key b })

def process (r : Reassembler) (frame : Frame) (now : UInt64) :
    Checked ReassemblyError (Option Frame) × Reassembler :=
  let r := r.cleanupExpired now
  match frame.header.flags.fragmented, frame.fragmentInfo with
  | true, some info =>
    let key := frame.header.reassemblyKey
    match r.buffers.lookup key with
    | some b => r.addTo key b info frame
    | none =>
      if r.maxBuffers ≤ r.buffers.entries.length then
        (.error (.error (.tooManyPending r.buffers.entries.length)), r)
      else r.addTo key (.new info.total now) info frame
  | _, _ => (.ok (some frame), r)

end Reassembler

/-! ## What a buffer holds -/

/-- A whole frame that says how long its payload is. -/
structure Frame.Whole (frame : Frame) : Prop where
  flag : frame.header.flags.fragmented = false
  info : frame.fragmentInfo = none
  /-- The payload header gives the payload's length. -/
  length : frame.payloadHeader.length.toNat = frame.payload.length

namespace Fragmenter

variable (frame : Frame) (k : Nat) (total seq : UInt16)

lemma payload_fragmentAt :
    (fragmentAt frame k total seq).payload = piece k frame.payload seq.toNat :=
  take_min_sub_eq_piece k frame.payload seq.toNat

lemma flag_fragmentAt : (fragmentAt frame k total seq).header.flags.fragmented = true := rfl

lemma info_fragmentAt : (fragmentAt frame k total seq).fragmentInfo = some ⟨seq, total⟩ := rfl

lemma key_fragmentAt :
    (fragmentAt frame k total seq).header.reassemblyKey = frame.header.reassemblyKey := rfl

end Fragmenter

/-- The buffer has the fragments with these numbers, of the `n` with pieces of length `k` that the
frame was cut into. -/
structure Holding (frame : Frame) (k n : Nat) (createdAt : UInt64) (order : List Nat)
    (b : FragmentBuffer) : Prop where
  total : b.total = .ofNat n
  createdAt : b.createdAt = createdAt
  lookup : ∀ i < n, b.fragments.lookup (.ofNat i) =
    if i ∈ order then some (piece k frame.payload i) else none
  count : b.fragments.entries.length = order.length
  first : 0 ∈ order →
    b.header = some { frame.header with flags := { frame.header.flags with fragmented := true } } ∧
      (∃ length, b.payloadHeader =
        some ⟨frame.payloadHeader.payloadType, length, frame.payloadHeader.flags⟩) ∧
      b.traceId = frame.traceId ∧ b.routing = frame.routing ∧ b.auth = some frame.auth

section Holding

variable {frame : Frame} {k n i : Nat} {createdAt : UInt64} {order : List Nat} {b : FragmentBuffer}

lemma holding_new (frame : Frame) (k n : Nat) (createdAt : UInt64) :
    Holding frame k n createdAt [] (.new (.ofNat n) createdAt) where
  total := rfl
  createdAt := rfl
  lookup _ _ := rfl
  count := rfl
  first := nofun

lemma ofNat_ne_ofNat {i j : Nat} (hi : i < 65536) (hj : j < 65536) (h : i ≠ j) :
    UInt16.ofNat i ≠ UInt16.ofNat j := by
  intro heq
  have htoNat := congrArg UInt16.toNat heq
  rw [UInt16.toNat_ofNat_of_lt' hi, UInt16.toNat_ofNat_of_lt' hj] at htoNat
  exact h htoNat

lemma Holding.addFragment (h : Holding frame k n createdAt order b) (hn : n < 65536) (hi : i < n)
    (hnew : i ∉ order) :
    ∃ b', b.addFragment ⟨.ofNat i, .ofNat n⟩ (fragmentAt frame k (.ofNat n) (.ofNat i)) =
      .ok b' ∧ Holding frame k n createdAt (i :: order) b' := by
  have hsmall : i < 65536 := hi.trans hn
  have habsent : UInt16.ofNat i ∉ b.fragments := by
    rw [← AList.lookup_eq_none, h.lookup i hi, if_neg hnew]
  have hin : ¬ UInt16.ofNat n ≤ UInt16.ofNat i := by
    rw [UInt16.le_iff_toNat_le, UInt16.toNat_ofNat_of_lt' hn, UInt16.toNat_ofNat_of_lt' hsmall]
    exact Nat.not_le_of_lt hi
  unfold FragmentBuffer.addFragment
  rw [if_neg (not_not_intro h.total.symm), if_neg hin, if_neg habsent]
  refine ⟨_, rfl, ?_⟩
  constructor
  · exact (b.total_captureFirst ..).trans h.total
  · exact (b.createdAt_captureFirst ..).trans h.createdAt
  · intro j hj
    show AList.lookup _ (AList.insert _ _ (b.captureFirst _ _).fragments) = _
    rw [b.fragments_captureFirst]
    by_cases hji : j = i
    · subst hji
      rw [AList.lookup_insert, if_pos mem_cons_self, payload_fragmentAt,
        UInt16.toNat_ofNat_of_lt' hsmall]
    · rw [AList.lookup_insert_ne (ofNat_ne_ofNat (hj.trans hn) hsmall hji), h.lookup j hj]
      simp [hji]
  · show (AList.insert _ _ (b.captureFirst _ _).fragments).entries.length = _
    rw [b.fragments_captureFirst, AList.entries_insert_of_notMem habsent, length_cons,
      length_cons, h.count]
  · intro hzero
    rcases Nat.eq_zero_or_pos i with rfl | hpos
    · exact ⟨rfl, ⟨_, rfl⟩, rfl, rfl, rfl⟩
    have hlater : UInt16.ofNat i ≠ 0 :=
      ofNat_ne_ofNat hsmall (Nat.zero_lt_succ _) (Nat.ne_of_gt hpos)
    rw [b.captureFirst_of_ne _ hlater]
    exact h.first (mem_of_ne_of_mem (Nat.ne_of_lt hpos) hzero)

lemma Holding.isComplete_iff (h : Holding frame k n createdAt order b) (hn : n < 65536) :
    b.isComplete ↔ order.length = n := by
  rw [FragmentBuffer.isComplete, decide_eq_true_iff, h.count, h.total,
    UInt16.toNat_ofNat_of_lt' hn]

lemma Holding.reassemble (h : Holding frame k n createdAt order b) (hn : n < 65536)
    (hall : order.Perm (List.range n)) (hpos : 0 < n) (hwhole : frame.Whole)
    (henough : frame.payload.length ≤ n * k) : b.reassemble = .ok frame := by
  have hcomplete : b.isComplete := (h.isComplete_iff hn).mpr (by simpa using hall.length_eq)
  have hpayload : ((List.range b.total.toNat).flatMap fun seq =>
      (b.fragments.lookup (.ofNat seq)).getD []) = frame.payload := by
    rw [h.total, UInt16.toNat_ofNat_of_lt' hn]
    have hpieces : ((List.range n).flatMap fun seq => (b.fragments.lookup (.ofNat seq)).getD []) =
        (List.range n).flatMap (piece k frame.payload) := by
      refine flatMap_congr fun i hi => ?_
      rw [h.lookup i (mem_range.mp hi), if_pos (hall.mem_iff.mpr hi), Option.getD_some]
    rw [hpieces, flatMap_piece, take_of_length_le henough]
  obtain ⟨hheader, ⟨length, hph⟩, htrace, hrouting, hauth⟩ :=
    h.first (hall.mem_iff.mpr (mem_range.mpr hpos))
  have hlength : UInt32.ofNat frame.payload.length = frame.payloadHeader.length := by
    rw [← hwhole.length, UInt32.ofNat_toNat]
  unfold FragmentBuffer.reassemble
  rw [if_neg (not_not_intro hcomplete)]
  simp only [hpayload, hheader, hph, hauth, htrace, hrouting, hlength, ← hwhole.flag,
    ← hwhole.info]

end Holding

namespace Fragmenter

def Cuts (mtu : Nat) (frame : Frame) : Prop :=
  let k := maxPayloadPerFragment mtu frame.auth.wireSize
  0 < k ∧ k < frame.payload.length ∧ frame.payload.length ≤ 65535 * k

lemma fragment_cases (mtu : Nat) (frame : Frame) :
    (¬ Cuts mtu frame ∧ fragment mtu frame = [frame]) ∨
      ∃ n, Cuts mtu frame ∧ 1 < n ∧ n < 65536 ∧
        frame.payload.length ≤ n * maxPayloadPerFragment mtu frame.auth.wireSize ∧
        fragment mtu frame = (List.range n).map fun seq =>
          fragmentAt frame (maxPayloadPerFragment mtu frame.auth.wireSize) (.ofNat n)
            (.ofNat seq) := by
  unfold fragment Cuts
  dsimp only
  generalize maxPayloadPerFragment mtu frame.auth.wireSize = k
  split_ifs with hfits hmany
  · exact .inl ⟨by omega, rfl⟩
  · rw [not_or] at hfits
    have hk : 0 < k := Nat.pos_of_ne_zero hfits.1
    rw [gt_iff_lt, Nat.lt_iff_add_one_le, Nat.le_div_iff_mul_le hk] at hmany
    exact .inl ⟨by omega, rfl⟩
  · rw [not_or] at hfits
    have hk : 0 < k := Nat.pos_of_ne_zero hfits.1
    have hn : (frame.payload.length + k - 1) / k < 65536 := by omega
    have hcount := (Nat.div_lt_iff_lt_mul hk).mp hn
    refine .inr ⟨(frame.payload.length + k - 1) / k, ⟨hk, by omega, by omega⟩, ?_, hn,
      le_ceilDiv_mul hk _, ?_⟩
    · rw [Nat.lt_iff_add_one_le, Nat.le_div_iff_mul_le hk]
      omega
    · rw [UInt16.toNat_ofNat_of_lt' hn]

end Fragmenter

/-! ## Whatever else arrives -/

structure Delivery where
  frame : Frame
  now : UInt64
  /-- Whether it is of the frame in question. -/
  ours : Bool

namespace Reassembler

def deliver (r : Reassembler) (d : Delivery) : Reassembler := (r.process d.frame d.now).2

def ourResults : Reassembler → List Delivery → List (Checked ReassemblyError (Option Frame))
  | _, [] => []
  | r, d :: deliveries =>
    if d.ours then (r.process d.frame d.now).1 :: ourResults (r.deliver d) deliveries
    else ourResults (r.deliver d) deliveries

/-- It is no fragment that is collected under this key. -/
def Foreign (key : ReassemblyKey) (frame : Frame) : Prop :=
  frame.header.flags.fragmented → frame.fragmentInfo.isSome → frame.header.reassemblyKey ≠ key

variable {r : Reassembler} {key : ReassemblyKey}

lemma lookup_cleanupExpired (r : Reassembler) (key : ReassemblyKey) (now : UInt64) :
    (r.cleanupExpired now).buffers.lookup key =
      (r.buffers.lookup key).filter fun b =>
        now.toNat - b.createdAt.toNat < r.timeoutMs.toNat :=
  lookup_retainEntries ..

lemma lookup_addTo_of_ne {key' : ReassemblyKey} (h : key ≠ key') (b : FragmentBuffer)
    (info : FragmentInfo) (frame : Frame) :
    (r.addTo key' b info frame).2.buffers.lookup key = r.buffers.lookup key := by
  unfold addTo
  split
  · exact AList.lookup_insert_ne h
  split_ifs
  · exact AList.lookup_erase_ne h
  · exact AList.lookup_insert_ne h

def SameLimits (r r' : Reassembler) : Prop :=
  r'.timeoutMs = r.timeoutMs ∧ r'.maxBuffers = r.maxBuffers

lemma sameLimits_addTo (r : Reassembler) (key : ReassemblyKey) (b : FragmentBuffer)
    (info : FragmentInfo) (frame : Frame) : r.SameLimits (r.addTo key b info frame).2 := by
  unfold addTo
  split
  · exact ⟨rfl, rfl⟩
  · split_ifs <;> exact ⟨rfl, rfl⟩

lemma sameLimits_deliver (r : Reassembler) (d : Delivery) : r.SameLimits (r.deliver d) := by
  unfold deliver process
  dsimp only
  split
  · split
    · exact (r.cleanupExpired d.now).sameLimits_addTo ..
    split_ifs
    · exact ⟨rfl, rfl⟩
    · exact (r.cleanupExpired d.now).sameLimits_addTo ..
  · exact ⟨rfl, rfl⟩

variable {d : Delivery} {frame : Frame} {b : FragmentBuffer} {before deliveries : List Delivery}

lemma lookup_deliver_of_foreign (h : Foreign key d.frame) :
    (r.deliver d).buffers.lookup key = (r.buffers.lookup key).filter fun b =>
      d.now.toNat - b.createdAt.toNat < r.timeoutMs.toNat := by
  rw [← lookup_cleanupExpired]
  unfold deliver process
  dsimp only
  split
  · rename_i hflag hinfo
    have hne : key ≠ d.frame.header.reassemblyKey :=
      (h hflag (by rw [hinfo]; rfl)).symm
    split
    · exact lookup_addTo_of_ne hne ..
    split_ifs
    · rfl
    · exact lookup_addTo_of_ne hne ..
  · rfl

variable {k n : Nat} {createdAt now : UInt64} {order rest : List Nat} {info : FragmentInfo}

lemma addTo_of_holding {i : Nat}
    (h : Holding frame k n createdAt order b) (hn : n < 65536)
    (hwhole : frame.Whole) (henough : frame.payload.length ≤ n * k)
    (hall : (order ++ i :: rest).Perm (List.range n)) (key : ReassemblyKey) :
    (rest = [] ∧ (r.addTo key b ⟨.ofNat i, .ofNat n⟩
        (fragmentAt frame k (.ofNat n) (.ofNat i))).1 = .ok (some frame)) ∨
      (rest ≠ [] ∧ (r.addTo key b ⟨.ofNat i, .ofNat n⟩
          (fragmentAt frame k (.ofNat n) (.ofNat i))).1 = .ok none ∧
        ∃ b', Holding frame k n createdAt (i :: order) b' ∧ (r.addTo key b ⟨.ofNat i, .ofNat n⟩
          (fragmentAt frame k (.ofNat n) (.ofNat i))).2.buffers.lookup key =
            some b') := by
  have hnodup : (order ++ i :: rest).Nodup := hall.nodup_iff.mpr nodup_range
  have hi : i < n := mem_range.mp (hall.subset (mem_append_right order mem_cons_self))
  have hnew : i ∉ order := fun hmem =>
    disjoint_of_nodup_append hnodup hmem mem_cons_self
  have hlength : order.length + (rest.length + 1) = n := by
    simpa using hall.length_eq
  obtain ⟨b', hadd, hb'⟩ := h.addFragment hn hi hnew
  have hcomplete := hb'.isComplete_iff hn
  rw [length_cons] at hcomplete
  unfold addTo
  rw [hadd]
  dsimp only
  rcases rest with _ | ⟨j, rest⟩
  · have hdone : b'.isComplete := hcomplete.mpr hlength
    have hperm : (i :: order).Perm (List.range n) :=
      (perm_append_singleton i order).symm.trans hall
    rw [if_pos hdone, hb'.reassemble hn hperm (Nat.zero_lt_of_lt hi) hwhole henough]
    exact .inl ⟨rfl, rfl⟩
  · have hmore : ¬ b'.isComplete := by
      rw [hcomplete]
      simp only [length_cons] at hlength
      omega
    rw [if_neg hmore]
    exact .inr ⟨cons_ne_nil _ _, rfl, b', hb', AList.lookup_insert _⟩

lemma process_of_room
    (hflag : frame.header.flags.fragmented = true) (hinfo : frame.fragmentInfo = some info)
    (hlookup : (r.cleanupExpired now).buffers.lookup frame.header.reassemblyKey = none)
    (hroom : (r.cleanupExpired now).buffers.entries.length < r.maxBuffers) :
    r.process frame now = (r.cleanupExpired now).addTo frame.header.reassemblyKey
      (.new info.total now) info frame := by
  simp only [process, hflag, hinfo, hlookup]
  exact if_neg (Nat.not_le_of_lt hroom)

lemma process_of_whole (h : frame.Whole) (now : UInt64) :
    (r.process frame now).1 = .ok (some frame) := by
  simp only [process, h.flag]

lemma ourResults_append (h : ∀ d ∈ before, d.ours = false)
    (deliveries : List Delivery) :
    ourResults r (before ++ deliveries) = ourResults (run deliver r before) deliveries := by
  induction before generalizing r with
  | nil => rfl
  | cons d before ih =>
    rw [cons_append, ourResults, h d mem_cons_self, if_neg Bool.false_ne_true, run_cons]
    exact ih fun d' hd' => h d' (mem_cons_of_mem d hd')

lemma ourResults_of_none (h : ∀ d ∈ deliveries, d.ours = false) :
    ourResults r deliveries = [] := by
  have hnone := ourResults_append (r := r) h []
  rwa [append_nil] at hnone

def ourFrames (deliveries : List Delivery) : List Frame :=
  (deliveries.filter (·.ours)).map (·.frame)

lemma ourFrames_cons_of_ours (h : d.ours = true) (deliveries : List Delivery) :
    ourFrames (d :: deliveries) = d.frame :: ourFrames deliveries := by
  simp [ourFrames, h]

lemma ourFrames_cons_of_other (h : d.ours = false) (deliveries : List Delivery) :
    ourFrames (d :: deliveries) = ourFrames deliveries := by
  simp [ourFrames, h]

lemma ourFrames_eq_nil_iff :
    ourFrames deliveries = [] ↔ ∀ d ∈ deliveries, d.ours = false := by
  simp [ourFrames]

lemma ourResults_of_holding (hn : n < 65536)
    (hwhole : frame.Whole) (henough : frame.payload.length ≤ n * k)
    {r : Reassembler}
    (hlookup : r.buffers.lookup frame.header.reassemblyKey = some b)
    (h : Holding frame k n createdAt order b) (hall : (order ++ rest).Perm (List.range n))
    (hrest : rest ≠ [])
    (hours : ourFrames deliveries =
      rest.map fun seq => fragmentAt frame k (.ofNat n) (.ofNat seq))
    (hothers : ∀ d ∈ deliveries, d.ours = false → Foreign frame.header.reassemblyKey d.frame)
    (htimely : ∀ d ∈ deliveries, d.now.toNat - createdAt.toNat < r.timeoutMs.toNat) :
    ourResults r deliveries = List.replicate (rest.length - 1) (.ok none) ++ [.ok (some frame)] := by
  induction deliveries generalizing r b order rest with
  | nil => exact absurd (map_eq_nil_iff.mp hours.symm) hrest
  | cons d deliveries ih =>
    have hothers' : ∀ d ∈ deliveries, d.ours = false →
        Foreign frame.header.reassemblyKey d.frame :=
      fun d' hd' => hothers d' (mem_cons_of_mem d hd')
    have htimely' : ∀ d' ∈ deliveries,
        d'.now.toNat - createdAt.toNat < (r.deliver d).timeoutMs.toNat := by
      rw [(r.sameLimits_deliver d).1]
      exact fun d' hd' => htimely d' (mem_cons_of_mem d hd')
    have hyoung : (some b).filter (fun b =>
        decide (d.now.toNat - b.createdAt.toNat < r.timeoutMs.toNat)) = some b := by
      rw [Option.filter_some, h.createdAt, if_pos (decide_eq_true (htimely d mem_cons_self))]
    rw [ourResults]
    cases hd : d.ours with
    | false =>
      rw [if_neg Bool.false_ne_true]
      have hkept := lookup_deliver_of_foreign (r := r) (hothers d mem_cons_self hd)
      rw [hlookup, hyoung] at hkept
      rw [ourFrames_cons_of_other hd] at hours
      exact ih hkept h hall hrest hours hothers' htimely'
    | true =>
      rw [if_pos rfl]
      obtain ⟨i, rest, rfl⟩ := exists_cons_of_ne_nil hrest
      rw [ourFrames_cons_of_ours hd, map_cons] at hours
      obtain ⟨hframe, hours'⟩ := List.cons.inj hours
      have hprocess : r.process d.frame d.now = (r.cleanupExpired d.now).addTo
          frame.header.reassemblyKey b ⟨.ofNat i, .ofNat n⟩
          (fragmentAt frame k (.ofNat n) (.ofNat i)) := by
        rw [hframe, process]
        simp only [flag_fragmentAt, info_fragmentAt, key_fragmentAt, lookup_cleanupExpired, hlookup,
          hyoung]
      rw [deliver] at htimely' ⊢
      rw [hprocess] at htimely' ⊢
      rcases addTo_of_holding h hn hwhole henough hall frame.header.reassemblyKey with
        ⟨rfl, hresult⟩ | ⟨hmore, hresult, b', hb', hlookup'⟩
      · rw [hresult, ourResults_of_none (ourFrames_eq_nil_iff.mp hours')]
        rfl
      have hall' : ((i :: order) ++ rest).Perm (List.range n) :=
        perm_middle.symm.trans hall
      rw [hresult, ih hlookup' hb' hall' hmore hours' hothers' htimely', ← cons_append]
      obtain ⟨j, rest, rfl⟩ := exists_cons_of_ne_nil hmore
      rfl

lemma run_of_foreign (hnew : r.buffers.lookup key = none)
    (hothers : ∀ d ∈ before, Foreign key d.frame) :
    (run deliver r before).buffers.lookup key = none ∧
      r.SameLimits (run deliver r before) := by
  have hstep : ∀ s d, s.buffers.lookup key = none ∧ r.SameLimits s → Foreign key d.frame →
      (s.deliver d).buffers.lookup key = none ∧ r.SameLimits (s.deliver d) := by
    intro s d hs hd
    have hlimits := s.sameLimits_deliver d
    refine ⟨?_, hlimits.1.trans hs.2.1, hlimits.2.trans hs.2.2⟩
    rw [lookup_deliver_of_foreign hd, hs.1, Option.filter_none]
  exact run_invariant_of_guarded hstep ⟨hnew, rfl, rfl⟩
    (guarded_of_forall fun d hd _ => hothers d hd)

lemma ourFrames_append (h : ∀ d ∈ before, d.ours = false)
    (deliveries : List Delivery) : ourFrames (before ++ deliveries) = ourFrames deliveries := by
  have hnone := ourFrames_eq_nil_iff.mpr h
  unfold ourFrames at hnone ⊢
  rw [filter_append, map_append, hnone, nil_append]

end Reassembler

open Reassembler

/-- **Fragmentation is lossless, in any order.** A whole frame is cut for any MTU, and what it was
cut into arrives in any order, between other frames: whole ones, and fragments with another sender,
intent or clock. When the first of ours arrives, there is room for a buffer, and all that arrives
after it arrives in time. Then `process` returns nothing for each of ours but the last one, and for
that one the frame. -/
theorem fragmentation_lossless (r : Reassembler) (frame : Frame) (hwhole : frame.Whole) (mtu : Nat)
    (before after : List Delivery) (first : Delivery)
    (hbefore : ∀ d ∈ before, d.ours = false) (hfirst : first.ours = true)
    (hours : (ourFrames (before ++ first :: after)).Perm (Fragmenter.fragment mtu frame))
    (hothers : ∀ d ∈ before ++ first :: after, d.ours = false →
      Foreign frame.header.reassemblyKey d.frame)
    (hnew : r.buffers.lookup frame.header.reassemblyKey = none)
    (htimely : ∀ d ∈ after, d.now.toNat - first.now.toNat < r.timeoutMs.toNat)
    (hroom : ((run deliver r before).cleanupExpired first.now).buffers.entries.length <
      r.maxBuffers) :
    ourResults r (before ++ first :: after) =
      List.replicate ((Fragmenter.fragment mtu frame).length - 1) (.ok none) ++
        [.ok (some frame)] := by
  obtain ⟨hlookup, hlimits⟩ := run_of_foreign hnew fun d hd =>
    hothers d (mem_append_left _ hd) (hbefore d hd)
  rw [ourFrames_append hbefore, ourFrames_cons_of_ours hfirst] at hours
  rw [ourResults_append hbefore, ourResults, if_pos hfirst]
  generalize run deliver r before = s at hlookup hlimits hroom ⊢
  rcases fragment_cases mtu frame with ⟨-, hwhole'⟩ | ⟨n, -, htwo, hn, henough, hcut⟩
  · rw [hwhole'] at hours ⊢
    obtain ⟨hframe, hnone⟩ := List.cons.inj (perm_singleton.mp hours)
    rw [hframe, process_of_whole hwhole, ourResults_of_none (ourFrames_eq_nil_iff.mp hnone)]
    rfl
  generalize maxPayloadPerFragment mtu frame.auth.wireSize = k at henough hcut
  -- the fragments are known by their numbers
  have hinverse : ∀ seq ∈ List.range n,
      ((fragmentAt frame k (.ofNat n) (.ofNat seq)).fragmentInfo.elim 0
        (·.sequence.toNat)) = seq := fun seq hseq =>
    UInt16.toNat_ofNat_of_lt' ((mem_range.mp hseq).trans hn)
  rw [hcut] at hours ⊢
  obtain ⟨order, hall, hframes⟩ :=
    exists_order_of_perm (fun f : Frame => f.fragmentInfo.elim 0 (·.sequence.toNat)) hinverse
      hours
  rcases order with _ | ⟨i, rest⟩
  · cases hframes
  obtain ⟨hframe, hrest⟩ := List.cons.inj hframes
  have hlength : rest.length + 1 = n := by simpa using hall.length_eq
  have hroom' : (s.cleanupExpired first.now).buffers.entries.length < s.maxBuffers := by
    rw [hlimits.2]
    exact hroom
  have hprocess : s.process first.frame first.now = (s.cleanupExpired first.now).addTo
      frame.header.reassemblyKey (.new (.ofNat n) first.now) ⟨.ofNat i, .ofNat n⟩
      (fragmentAt frame k (.ofNat n) (.ofNat i)) := by
    rw [hframe]
    apply process_of_room (flag_fragmentAt ..) (info_fragmentAt ..) _
      hroom'
    rw [key_fragmentAt, lookup_cleanupExpired, hlookup, Option.filter_none]
  rcases addTo_of_holding (holding_new frame k n first.now) hn hwhole henough hall
    frame.header.reassemblyKey with ⟨rfl, -⟩ | ⟨hmore, hresult, b, hb, hlookup'⟩
  · simp only [length_nil] at hlength
    omega
  have htimely' : ∀ d ∈ after,
      d.now.toNat - first.now.toNat < (s.deliver first).timeoutMs.toNat := by
    rw [(s.sameLimits_deliver first).1, hlimits.1]
    exact htimely
  rw [← hprocess] at hlookup' hresult
  have hlater : ourResults (s.deliver first) after = _ :=
    ourResults_of_holding hn hwhole henough hlookup' hb hall hmore hrest
      (fun d hd => hothers d (mem_append_right _ (mem_cons_of_mem first hd))) htimely'
  rw [hresult, hlater, length_map, length_range, ← hlength, Nat.add_sub_cancel]
  obtain ⟨j, rest, rfl⟩ := exists_cons_of_ne_nil hmore
  rfl

def wholeFrame (sender : UInt8) : Frame :=
  { Frame.new { FrameHeader.new .intent ⟨Vector.replicate 32 sender⟩ with trustLevel := .raw } .raw
      [1, 2, 3, 4, 5] with
    traceId := some ⟨Vector.replicate 8 1⟩
    routing := some ⟨⟨Vector.replicate 32 9⟩, 8⟩ }

def sampleFragment (sender : UInt8) (seq : UInt16) : Frame :=
  fragmentAt (wholeFrame sender) 2 3 seq

theorem fragments_in_disorder :
    ourResults (.new 4 1000) ([⟨sampleFragment 8 0, 0, false⟩] ++
        ⟨sampleFragment 7 2, 10, true⟩ :: [⟨sampleFragment 7 0, 20, true⟩,
          ⟨sampleFragment 8 1, 25, false⟩, ⟨sampleFragment 7 1, 30, true⟩]) =
      List.replicate ((Fragmenter.fragment 68 (wholeFrame 7)).length - 1) (.ok none) ++
        [.ok (some (wholeFrame 7))] := by
  have hforeign (seq : UInt16) :
      Foreign (wholeFrame 7).header.reassemblyKey (sampleFragment 8 seq) := by
    intro _ _ hkey
    have hsender : (⟨Vector.replicate 32 8⟩ : NodeId) ≠ ⟨Vector.replicate 32 7⟩ := by decide
    exact hsender (congrArg ReassemblyKey.senderId hkey)
  apply fragmentation_lossless
  · exact ⟨rfl, rfl, rfl⟩
  · decide
  · rfl
  · decide +kernel
  · intro d hd hother
    simp only [cons_append, nil_append, mem_cons, not_mem_nil, or_false] at hd
    rcases hd with rfl | rfl | rfl | rfl | rfl
    · exact hforeign 0
    · cases hother
    · cases hother
    · exact hforeign 1
    · cases hother
  · rfl
  · decide
  · decide +kernel

/-! ## What fits -/

def Frame.ownSize (frame : Frame) : Nat := frame.wireSize - frame.payload.length

namespace Fragmenter

def needsFragmentation (mtu : Nat) (frame : Frame) : Bool := frame.wireSize > mtu

/-- What the formula leaves out. -/
def extensionSize (frame : Frame) : Nat :=
  (if frame.traceId.isSome then 8 else 0) + if frame.routing.isSome then 33 else 0

variable {frame : Frame} {mtu : Nat}

lemma extensionSize_eq_zero_iff :
    extensionSize frame = 0 ↔ frame.traceId = none ∧ frame.routing = none := by
  cases htrace : frame.traceId <;> cases hrouting : frame.routing <;>
    simp [extensionSize, htrace, hrouting]

lemma wireSize_fragmentAt (frame : Frame) (k : Nat) (total seq : UInt16) :
    (fragmentAt frame k total seq).wireSize = 66 + frame.auth.wireSize + extensionSize frame +
      min k (frame.payload.length - seq.toNat * k) := by
  have hlength : (fragmentAt frame k total seq).payload.length =
      min k (frame.payload.length - seq.toNat * k) := by
    rw [payload_fragmentAt, piece, length_take, length_drop]
  have hwire : (fragmentAt frame k total seq).wireSize = 66 + extensionSize frame +
      (fragmentAt frame k total seq).payload.length + frame.auth.wireSize := by
    cases htrace : frame.traceId <;> cases hrouting : frame.routing <;>
      simp [Frame.wireSize, fragmentAt, extensionSize, htrace, hrouting]
  omega

lemma one_lt_length_fragment_iff :
    1 < (fragment mtu frame).length ↔ Cuts mtu frame := by
  rcases fragment_cases mtu frame with ⟨hno, hone⟩ | ⟨n, hcuts, htwo, -, -, hmany⟩
  · simp [hone, hno]
  · simp [hmany, hcuts, htwo]

/-- What is cut is cut to the MTU, and the extensions come on top. -/
theorem forall_wireSize_le_iff (hcuts : Cuts mtu frame) :
    (∀ f ∈ fragment mtu frame, f.wireSize ≤ mtu) ↔ extensionSize frame = 0 := by
  rcases fragment_cases mtu frame with ⟨hno, -⟩ | ⟨n, -, htwo, -, -, hmany⟩
  · exact absurd hcuts hno
  obtain ⟨hpos, hmore, -⟩ := hcuts
  have hmtu : maxPayloadPerFragment mtu frame.auth.wireSize + (66 + frame.auth.wireSize) = mtu := by
    unfold maxPayloadPerFragment at hpos ⊢
    omega
  rw [hmany]
  constructor
  · intro h
    -- the first fragment is full
    have hfirst := h _ (mem_map_of_mem (mem_range.mpr (Nat.zero_lt_of_lt htwo)))
    have hzero : (UInt16.ofNat 0).toNat = 0 := rfl
    rw [wireSize_fragmentAt, hzero, Nat.zero_mul] at hfirst
    omega
  · intro hzero f hf
    obtain ⟨seq, -, rfl⟩ := mem_map.mp hf
    rw [wireSize_fragmentAt]
    omega

end Fragmenter

open Fragmenter in
/-- **When fragments fit the MTU.** What is cut into several frames is cut into frames that fit, and
what needs it is cut if a byte of it fits with all that comes with a frame, as far as the fragments
can be numbered: exactly if a frame that is cut has no trace id and no routing, and one that needs it
has a payload that fits no fragment but of which a byte does. -/
theorem fragments_fit_mtu_iff (mtu : Nat) (frame : Frame) :
    let overhead := 58 + 4 + 4 + frame.auth.wireSize
    let payload := frame.payload.length
    ((1 < (fragment mtu frame).length → ∀ f ∈ fragment mtu frame, f.wireSize ≤ mtu) ∧
      (needsFragmentation mtu frame → frame.ownSize + 1 ≤ mtu →
        payload ≤ 65535 * max 1 (mtu - overhead) → 1 < (fragment mtu frame).length)) ↔
    ((overhead < mtu → mtu < overhead + payload → payload ≤ 65535 * (mtu - overhead) →
        frame.traceId = none ∧ frame.routing = none) ∧
      (frame.ownSize < mtu → mtu < frame.ownSize + payload →
        payload ≤ 65535 * max 1 (mtu - overhead) →
          overhead < mtu ∧ mtu < overhead + payload)) := by
  intro overhead payload
  have hcuts : Cuts mtu frame ↔
      overhead < mtu ∧ mtu < overhead + payload ∧ payload ≤ 65535 * (mtu - overhead) := by
    unfold Cuts maxPayloadPerFragment
    omega
  have hneeds : needsFragmentation mtu frame ↔ mtu < frame.ownSize + payload := by
    have hpayload : payload ≤ frame.wireSize :=
      Nat.le_trans (Nat.le_add_left _ _) (Nat.le_add_right _ _)
    unfold Frame.ownSize needsFragmentation
    rw [decide_eq_true_iff]
    omega
  rw [one_lt_length_fragment_iff, hneeds]
  apply and_congr
  · rw [← extensionSize_eq_zero_iff]
    constructor
    · intro h hover hfits hcount
      have hcut : Cuts mtu frame := hcuts.mpr ⟨hover, hfits, hcount⟩
      exact (forall_wireSize_le_iff hcut).mp (h hcut)
    · intro h hcut
      obtain ⟨hover, hfits, hcount⟩ := hcuts.mp hcut
      exact (forall_wireSize_le_iff hcut).mpr (h hover hfits hcount)
  · rw [hcuts]
    constructor
    · intro h hown hneed hcount
      obtain ⟨hover, hfits, -⟩ := h hneed hown hcount
      exact ⟨hover, hfits⟩
    · intro h hneed hown hcount
      obtain ⟨hover, hfits⟩ := h hown hneed hcount
      refine ⟨hover, hfits, ?_⟩
      rwa [Nat.max_eq_right (by omega)] at hcount

/-- With a trace id and routing, three fragments for 68 bytes do not fit; and a plain frame that does
not fit into 64 bytes is not cut, though a byte of its payload fits with its own sections. -/
theorem fragments_exceed_mtu :
    (Fragmenter.fragment 68 (wholeFrame 7)).map (·.wireSize) = [109, 109, 108] ∧
      let frame : Frame := { wholeFrame 7 with traceId := none, routing := none }
      needsFragmentation 64 frame ∧ frame.ownSize + 1 ≤ 64 ∧
        (Fragmenter.fragment 64 frame).length = 1 := by
  decide +kernel

/-! ## What is rejected -/

namespace Reassembler

structure Same (r r' : Reassembler) : Prop where
  buffers : r.buffers.entries.Perm r'.buffers.entries
  limits : r.SameLimits r'

variable {r r' : Reassembler} {frame : Frame} {now : UInt64}

lemma Same.cleanupExpired (h : r.Same r') (now : UInt64) :
    (r.cleanupExpired now).Same (r'.cleanupExpired now) := by
  refine ⟨?_, h.limits⟩
  unfold Reassembler.cleanupExpired retainEntries
  rw [h.limits.1]
  exact h.buffers.filter _

lemma Same.addTo (h : r.Same r') (key : ReassemblyKey) (b : FragmentBuffer) (info : FragmentInfo)
    (frame : Frame) : (r.addTo key b info frame).1 = (r'.addTo key b info frame).1 ∧
      (r.addTo key b info frame).2.Same (r'.addTo key b info frame).2 := by
  unfold Reassembler.addTo
  split
  · exact ⟨rfl, AList.perm_insert h.buffers, h.limits⟩
  split_ifs
  · exact ⟨rfl, AList.perm_erase h.buffers, h.limits⟩
  · exact ⟨rfl, AList.perm_insert h.buffers, h.limits⟩

lemma Same.process (h : r.Same r') (frame : Frame) (now : UInt64) :
    (r.process frame now).1 = (r'.process frame now).1 ∧
      (r.process frame now).2.Same (r'.process frame now).2 := by
  have hclean := h.cleanupExpired now
  unfold Reassembler.process
  dsimp only
  split
  · rw [AList.perm_lookup hclean.buffers, hclean.buffers.length_eq, ← hclean.limits.2]
    split
    · exact hclean.addTo ..
    split_ifs
    · exact ⟨rfl, hclean⟩
    · exact hclean.addTo ..
  · exact ⟨rfl, hclean⟩

lemma Same.ourResults (h : r.Same r') (deliveries : List Delivery) :
    ourResults r deliveries = ourResults r' deliveries := by
  induction deliveries generalizing r r' with
  | nil => rfl
  | cons d deliveries ih =>
    obtain ⟨hresult, hsame⟩ := h.process d.frame d.now
    rw [Reassembler.ourResults, Reassembler.ourResults, hresult, deliver, deliver, ih hsame]

/-- The fragment has a number that none of its frame can have, and it is the first of this key, with
room for a buffer. -/
def Occupies (r : Reassembler) (frame : Frame) (now : UInt64) : Prop :=
  frame.header.flags.fragmented = true ∧ (∃ info, frame.fragmentInfo = some info ∧
    info.total ≤ info.sequence) ∧
  (r.cleanupExpired now).buffers.lookup frame.header.reassemblyKey = none ∧
  (r.cleanupExpired now).buffers.entries.length < r.maxBuffers

variable {info : FragmentInfo} {e : ReassemblyError}

lemma addFragment_new_eq_error_iff :
    (∃ e, (FragmentBuffer.new info.total now).addFragment info frame = .error e) ↔
      info.total ≤ info.sequence := by
  unfold FragmentBuffer.addFragment
  split_ifs with hother hbeyond hold
  · exact absurd rfl hother
  · exact iff_of_true ⟨_, rfl⟩ hbeyond
  · exact absurd hold (AList.notMem_empty _)
  · exact iff_of_false nofun hbeyond

/-- `reassemble` cannot fail on what is complete. -/
theorem addTo_eq_error {key : ReassemblyKey} {b : FragmentBuffer}
    (h : (r.addTo key b info frame).1 = .error (.error e)) :
    b.addFragment info frame = .error e ∧
      (r.addTo key b info frame).2 = { r with buffers := r.buffers.insert key b } := by
  unfold Reassembler.addTo at h ⊢
  rcases hadd : b.addFragment info frame with e' | b'
  · simp only [hadd] at h ⊢
    cases h
    exact ⟨rfl, trivial⟩
  simp only [hadd] at h
  split_ifs at h with hcomplete
  unfold FragmentBuffer.reassemble at h
  rw [if_neg (not_not_intro hcomplete)] at h
  dsimp only at h
  split at h <;> cases h

lemma same_of_error (h : (r.process frame now).1 = .error (.error e))
    (hno : ¬ r.Occupies frame now) : (r.process frame now).2.Same (r.cleanupExpired now) := by
  unfold Reassembler.process at h ⊢
  dsimp only at h ⊢
  split at h
  · rename_i info hflag hinfo
    split at h
    · rename_i b hlookup
      rw [(addTo_eq_error h).2]
      exact ⟨perm_insert_of_lookup hlookup, rfl, rfl⟩
    rename_i hlookup
    split_ifs at h ⊢ with hfull
    · exact ⟨.refl _, rfl, rfl⟩
    · have hbeyond := addFragment_new_eq_error_iff.mp ⟨e, (addTo_eq_error h).1⟩
      exact absurd ⟨hflag, ⟨info, hinfo, hbeyond⟩, hlookup, Nat.lt_of_not_le hfull⟩ hno
  · cases h

lemma process_of_occupies (h : r.Occupies frame now) :
    (∃ e, (r.process frame now).1 = .error (.error e)) ∧
      (r.process frame now).2.buffers.entries.length =
        (r.cleanupExpired now).buffers.entries.length + 1 := by
  obtain ⟨hflag, ⟨info, hinfo, hbeyond⟩, hlookup, hroom⟩ := h
  obtain ⟨e, hadd⟩ := addFragment_new_eq_error_iff.mpr hbeyond
  rw [process_of_room hflag hinfo hlookup hroom]
  unfold Reassembler.addTo
  rw [hadd]
  refine ⟨⟨e, rfl⟩, ?_⟩
  dsimp only
  rw [AList.entries_insert_of_notMem (AList.lookup_eq_none.mp hlookup), length_cons]

end Reassembler

/-- **When a rejected fragment has no effect.** For any state, frame and time: if `process` returns
an error, the same reassemblies are pending with the same contents as after the expired ones are
dropped, and whatever arrives later is processed as if the fragment had never come. This holds
unless a buffer was made for a fragment whose number its own total excludes. -/
theorem rejected_fragment_no_effect_iff (r : Reassembler) (frame : Frame) (now : UInt64) :
    ((∃ e, (r.process frame now).1 = .error (.error e)) →
      (r.process frame now).2.Same (r.cleanupExpired now) ∧
        ∀ deliveries, ourResults (r.process frame now).2 deliveries =
          ourResults (r.cleanupExpired now) deliveries) ↔
    ¬ r.Occupies frame now := by
  constructor
  · intro h hoccupies
    obtain ⟨hfails, hlength⟩ := process_of_occupies hoccupies
    have hsame := (h hfails).1.buffers.length_eq
    omega
  · rintro hno ⟨e, hfails⟩
    have hsame := same_of_error hfails hno
    exact ⟨hsame, hsame.ourResults⟩

/-- A fragment that says it is the ninth of two is rejected. After it, the three fragments of a frame
with the same sender, intent and clock are rejected too. -/
theorem rejected_fragment_blocks_frame :
    ourResults (.new 4 1000)
        [⟨{ sampleFragment 7 0 with fragmentInfo := some ⟨9, 2⟩ }, 0, true⟩,
          ⟨sampleFragment 7 0, 10, true⟩, ⟨sampleFragment 7 1, 20, true⟩,
          ⟨sampleFragment 7 2, 30, true⟩] =
      [.error (.error (.invalidSequence 9 2)), .error (.error (.totalMismatch 2 3)),
        .error (.error (.totalMismatch 2 3)), .error (.error (.totalMismatch 2 3))] :=
  rfl

end AxiomCore
