import AxiomCore.Node.Gossip

/-!
# The clock of a node's own announcements

A node stamps its announcements with its hybrid clock. The clock is set forward to the wall clock
before each announcement, and takes in the header clocks of announcements it passes on, if they are
close to the wall clock. `Announcer` is an announcement manager with a log of what it created; the
readings of the wall clock come with the events, so any wall clock is a run.

Source: `axiom-router/src/announce.rs`.
-/

namespace AxiomCore

open Lib AnnouncementManager List

/-! ## Clock operations and the order -/

namespace HybridClock

lemma satSucc_le (n : UInt16) : n.toNat ≤ (satSucc n).toNat := by
  unfold satSucc
  split_ifs with h
  · rfl
  have hn := n.toNat_lt
  have hne : n.toNat ≠ 0xFFFF := fun heq => h (UInt16.toNat_inj.mp heq)
  rw [UInt16.toNat_add]
  simp only [UInt16.reduceToNat]
  omega

lemma satSucc_lt {n : UInt16} (h : n ≠ 0xFFFF) : n.toNat < (satSucc n).toNat := by
  have hn := n.toNat_lt
  have hne : n.toNat ≠ 0xFFFF := fun heq => h (UInt16.toNat_inj.mp heq)
  rw [satSucc, if_neg h, UInt16.toNat_add]
  simp only [UInt16.reduceToNat]
  omega

lemma le_tick (c : HybridClock) : c ≤ c.tick := by
  have hle := satSucc_le c.logical
  rw [le_iff_stamp_le]
  simp only [stamp, tick]
  omega

lemma lt_tick {c : HybridClock} (h : c.logical ≠ 0xFFFF) : c < c.tick := by
  have hlt := satSucc_lt h
  rw [lt_iff_stamp_lt]
  simp only [stamp, tick]
  omega

lemma tick_eq_self {c : HybridClock} (h : c.logical = 0xFFFF) : c.tick = c := by
  cases c
  simp_all [tick, satSucc]

lemma le_update (c received : HybridClock) : c ≤ c.update received := by
  have hc := c.logical.toNat_lt
  rw [le_iff_stamp_le]
  unfold update
  split_ifs with hless hequal
  · have hless' := UInt64.lt_iff_toNat_lt.mp hless
    simp only [stamp]
    omega
  · have hle := satSucc_le (max c.logical received.logical)
    have hmax : c.logical.toNat ≤ (max c.logical received.logical).toNat := by
      show _ ≤ (if c.logical ≤ received.logical then received.logical else c.logical).toNat
      split_ifs with hle
      · exact UInt16.le_iff_toNat_le.mp hle
      · rfl
    simp only [stamp]
    omega
  · have hle := satSucc_le c.logical
    simp only [stamp]
    omega

lemma physical_update (c received : HybridClock) :
    (c.update received).physical.toNat = max c.physical.toNat received.physical.toNat := by
  unfold update
  split_ifs with hless hequal
  · have hless' := UInt64.lt_iff_toNat_lt.mp hless
    simp only
    omega
  · rw [← hequal]
    simp
  · have hge := UInt64.lt_iff_toNat_lt.not.mp hless
    simp only
    omega

end HybridClock

open HybridClock

/-! ## The announcer -/

structure Announcer where
  manager : AnnouncementManager
  /-- The announcements created, oldest first, with the wall clock's readings. -/
  created : List (UInt64 × Frame)

/-- What happens to a manager. The wall clock reads `secs`, the monotonic clock `instants i` at the
`i`-th capability. -/
inductive AnnouncerEvent where
  | create (ttl : UInt8) (secs : UInt64)
  /-- `process_announcement`, for frames whose signature verifies. -/
  | process (frame : Frame) (secs : UInt64) (instants : Nat → Nat)
  | cleanup (now maxAge : Nat)
  | register (cap : AnnouncedCapability)
  | unregister (intentHash : IntentHash)

/-- The wall clock's reading, if the event makes one. -/
def AnnouncerEvent.reading : AnnouncerEvent → Option UInt64
  | .create _ secs => some secs
  | .process _ secs _ => some secs
  | _ => none

namespace Announcer

def start (identity : Keypair) (secs : UInt64) : Announcer := ⟨.new identity secs.toNat, []⟩

def clock (a : Announcer) : HybridClock := a.manager.clock.clock

/-- The origin clocks announced. An announcement has the same clock in its header. -/
def originClocks (a : Announcer) : List HybridClock := a.created.map (·.2.header.clock)

def step (V : Verify) (a : Announcer) : AnnouncerEvent → Announcer
  | .create ttl secs =>
    let (frame, manager) := a.manager.createAnnouncement ttl secs.toNat
    ⟨manager, a.created ++ [(secs, frame)]⟩
  | .process frame secs instants =>
    if FrameVerifier.verify V frame = .ok true then
      { a with manager := (a.manager.processAnnouncement V frame secs.toNat instants).2 }
    else a
  | .cleanup now maxAge => { a with manager := a.manager.cleanupStale now maxAge }
  | .register cap => { a with manager := a.manager.registerCapability cap }
  | .unregister intentHash => { a with manager := a.manager.unregisterCapability intentHash }

/-! ## What a step does to the clock -/

def nextClock (a : Announcer) (secs : UInt64) : HybridClock :=
  (a.manager.clock.syncPhysical secs.toNat).clock.tick

lemma syncPhysical_toNat (m : ClockManager) (secs : UInt64) :
    m.syncPhysical secs.toNat = if secs > m.clock.physical then ⟨⟨secs, 0⟩⟩ else m := by
  rw [ClockManager.syncPhysical, UInt64.ofNat_toNat]

variable (V : Verify) (a : Announcer) (e : AnnouncerEvent) (m : AnnouncementManager)
  (frame : Frame)

lemma nextClock_cases (secs : UInt64) :
    (a.clock < a.nextClock secs ∧ ¬ (a.clock.logical = 0xFFFF ∧ secs ≤ a.clock.physical)) ∨
      (a.nextClock secs = a.clock ∧ a.clock.logical = 0xFFFF ∧ secs ≤ a.clock.physical) := by
  unfold nextClock
  rw [syncPhysical_toNat]
  split_ifs with hahead
  · -- the wall clock is ahead: its second, counter 1
    refine .inl ⟨?_, fun h => UInt64.not_lt.mpr h.2 hahead⟩
    have hlt := UInt64.lt_iff_toNat_lt.mp hahead
    have hlogical := a.clock.logical.toNat_lt
    rw [lt_iff_stamp_lt]
    show a.clock.physical.toNat * 2 ^ 16 + a.clock.logical.toNat < _
    simp only [stamp, HybridClock.tick]
    have hphysical : a.clock.physical.toNat < secs.toNat := hlt
    omega
  · by_cases hused : a.clock.logical = 0xFFFF
    · exact .inr ⟨tick_eq_self hused, hused, UInt64.not_lt.mp hahead⟩
    · exact .inl ⟨lt_tick hused, fun h => hused h.1⟩

def mergedClock (clock received : HybridClock) (secs : Nat) : HybridClock :=
  if withinSkew secs received then clock.update received else clock

lemma clock_forwardFrame (payload : AnnouncePayload) (secs : Nat) :
    (m.forwardFrame frame payload secs).2 = m.clock ∨
      (m.forwardFrame frame payload secs).2 =
        ⟨(mergedClock m.clock.clock frame.header.clock secs).tick⟩ := by
  unfold forwardFrame mergedClock
  by_cases hhops : min payload.ttl maxAcceptedAnnounceTtl > 0
  · refine .inr ?_
    simp only [if_pos hhops]
    split_ifs <;> rfl
  · refine .inl ?_
    simp only [if_neg hhops]

lemma clock_processAnnouncement (secs : Nat) (instants : Nat → Nat) :
    (m.processAnnouncement V frame secs instants).2.clock = m.clock ∨
      (m.processAnnouncement V frame secs instants).2.clock =
        ⟨(mergedClock m.clock.clock frame.header.clock secs).tick⟩ := by
  unfold processAnnouncement
  rcases AnnouncePayload.decode frame.payload with _ | payload
  · exact .inl rfl
  dsimp only
  split
  · -- only a frame that is passed on touches the clock
    split_ifs
    all_goals first | exact .inl rfl | exact clock_forwardFrame m frame payload secs
  · exact .inl rfl

lemma clock_step :
    (∃ ttl secs, e = .create ttl secs ∧ (a.step V e).clock = a.nextClock secs) ∨
      (∃ frame secs instants, e = .process frame secs instants ∧
        (a.step V e).clock = (mergedClock a.clock frame.header.clock secs.toNat).tick) ∨
      (a.step V e).clock = a.clock := by
  cases e with
  | create ttl secs => exact .inl ⟨ttl, secs, rfl, rfl⟩
  | process frame secs instants =>
    by_cases hverify : FrameVerifier.verify V frame = .ok true
    · have hstep : (a.step V (.process frame secs instants)).clock =
          (a.manager.processAnnouncement V frame secs.toNat instants).2.clock.clock := by
        simp only [step, if_pos hverify, clock]
      rcases clock_processAnnouncement V a.manager frame secs.toNat instants with h | h
      · exact .inr (.inr (by rw [hstep, h]; rfl))
      · exact .inr (.inl ⟨frame, secs, instants, rfl, by rw [hstep, h]; rfl⟩)
    · exact .inr (.inr (by simp only [step, if_neg hverify]))
  | cleanup now maxAge => exact .inr (.inr rfl)
  | register cap => exact .inr (.inr rfl)
  | unregister intentHash => exact .inr (.inr rfl)

lemma created_step :
    (∃ ttl secs, e = .create ttl secs ∧
        (a.step V e).created = a.created ++
          [(secs, (a.manager.createAnnouncement ttl secs.toNat).1)]) ∨
      (∀ ttl secs, e ≠ .create ttl secs) ∧ (a.step V e).created = a.created := by
  cases e with
  | create ttl secs => exact .inl ⟨ttl, secs, rfl, rfl⟩
  | process frame secs instants =>
    refine .inr ⟨nofun, ?_⟩
    simp only [step]
    split_ifs <;> rfl
  | cleanup now maxAge => exact .inr ⟨nofun, rfl⟩
  | register cap => exact .inr ⟨nofun, rfl⟩
  | unregister intentHash => exact .inr ⟨nofun, rfl⟩

/-! ## Order of the announcements -/

lemma clock_le_step : a.clock ≤ (a.step V e).clock := by
  rcases clock_step V a e with ⟨ttl, secs, -, h⟩ | ⟨frame, secs, instants, -, h⟩ | h
  · rw [h]
    rcases nextClock_cases a secs with hnext | hnext
    · exact hnext.1.le
    · exact hnext.1.ge
  · rw [h, mergedClock]
    split_ifs
    · exact (le_update ..).trans (le_tick _)
    · exact le_tick _
  · exact h.ge

/-- No announcement is ahead of the clock. -/
def Behind (a : Announcer) : Prop := ∀ c ∈ a.originClocks, c ≤ a.clock

lemma behind_step (h : a.Behind) : (a.step V e).Behind := by
  intro c hc
  rcases created_step V a e with ⟨ttl, secs, rfl, hcreated⟩ | ⟨-, hcreated⟩
  · rw [originClocks, hcreated, map_append, mem_append] at hc
    rcases hc with hold | hnew
    · exact (h c hold).trans (clock_le_step V a _)
    · rw [mem_singleton.mp hnew]
      exact le_refl _
  · rw [originClocks, hcreated] at hc
    exact (h c hc).trans (clock_le_step V a e)

/-- The event does not announce a clock again: the counter is not used up, or the wall clock has
passed the clock's second, or the clock was not announced. -/
def Advances (a : Announcer) : AnnouncerEvent → Prop
  | .create _ secs =>
    ¬ (a.clock.logical = 0xFFFF ∧ secs ≤ a.clock.physical ∧
      a.originClocks.getLast? = some a.clock)
  | _ => True

def Ordered (a : Announcer) : Prop :=
  a.originClocks.Pairwise fun c d => c.happensBefore d

lemma ordered_iff : a.Ordered ↔ a.originClocks.Pairwise (· < ·) := by
  unfold Ordered
  simp only [happensBefore_iff_lt]

lemma forall_lt_iff_getLast_ne {cs : List HybridClock} {bound : HybridClock}
    (hordered : cs.Pairwise (· < ·)) (hbound : ∀ c ∈ cs, c ≤ bound) :
    (∀ c ∈ cs, c < bound) ↔ cs.getLast? ≠ some bound := by
  constructor
  · intro hlt hlast
    exact lt_irrefl bound (hlt bound (mem_of_getLast? hlast))
  · intro hlast c hc
    rcases (hbound c hc).lt_or_eq with hlt | rfl
    · exact hlt
    -- the bound itself can only be the last one
    obtain ⟨front, back, rfl⟩ := append_of_mem hc
    cases back with
    | nil => simp at hlast
    | cons d back =>
      have hd := hbound d (by simp)
      have hcd : c < d := by
        have hback := (pairwise_append.mp hordered).2.1
        exact (pairwise_cons.mp hback).1 d mem_cons_self
      exact absurd hcd hd.not_gt

lemma ordered_step_iff (h : a.Behind) : (a.step V e).Ordered ↔ a.Ordered ∧ a.Advances e := by
  rcases created_step V a e with ⟨ttl, secs, rfl, hcreated⟩ | ⟨hother, hcreated⟩
  · have hclocks : (a.step V (.create ttl secs)).originClocks =
        a.originClocks ++ [a.nextClock secs] := by
      rw [originClocks, hcreated, map_append]
      rfl
    rw [ordered_iff, ordered_iff, hclocks, pairwise_append]
    simp only [pairwise_singleton, mem_singleton, forall_eq, true_and]
    refine and_congr_right fun hordered => ?_
    rcases nextClock_cases a secs with ⟨hlater, havailable⟩ | ⟨hsame, hused, hwall⟩
    · exact iff_of_true (fun c hc => (h c hc).trans_lt hlater)
        fun hbad => havailable ⟨hbad.1, hbad.2.1⟩
    · rw [hsame, forall_lt_iff_getLast_ne hordered h]
      simp [Advances, hused, hwall]
  · have hadvances : a.Advances e := by
      cases e with
      | create ttl secs => exact absurd rfl (hother ttl secs)
      | _ => trivial
    have hsame : (a.step V e).Ordered ↔ a.Ordered := by
      rw [Ordered, originClocks, hcreated]
      rfl
    rw [hsame, and_iff_left hadvances]

end Announcer

/-- **Exactly when a node's announcements are ordered.** The origin clocks of the announcements a
node creates increase exactly if it never creates one while its clock's counter is used up, the wall
clock has not passed the clock's second, and the clock is that of the announcement before. -/
theorem own_announcements_ordered_iff (V : Verify) (identity : Keypair) (secs : UInt64)
    (es : List AnnouncerEvent) :
    (run (Announcer.step V) (.start identity secs) es).Ordered ↔
      Guarded (Announcer.step V) Announcer.Advances (.start identity secs) es := by
  have hbehind : (Announcer.start identity secs).Behind := nofun
  have hordered : (Announcer.start identity secs).Ordered := List.Pairwise.nil
  exact run_iff_guarded (Announcer.behind_step V) (Announcer.ordered_step_iff V) hbehind hordered es

/-- The sample origin's own announcement, in a frame with the last clock that is close enough. -/
def exhaustingFrame : Frame :=
  { Frame.new { FrameHeader.new .announce sampleOrigin with
      trustLevel := .sig
      clock := ⟨1700000300, 65535⟩ } .raw (earlyClaim.payload earlyClaimSignature 2).encode with
    auth := .signature ⟨
      hex 64 (0x05734c612b674bc658f1800669b98c677eb6dfae7be6712af71f0a3d28be8c95 <<< 256 +
      0x97a572541490298f6abea0e24ee878faf5125b14f7081e008ad21e7c91422505)⟩ }

def exhaustingVerify : Verify := fun node message signature =>
  sampleVerify node message signature ||
    (node = sampleOrigin && message = Encoder.signatureData exhaustingFrame &&
      .signature signature = exhaustingFrame.auth)

/-- One frame of a peer, and two announcements of this node in the next second have equal clocks. -/
theorem announcements_with_equal_clocks :
    (run (Announcer.step exhaustingVerify) (.start sampleReceiver 1700000000)
      [.process exhaustingFrame 1700000000 fun _ => 0, .create 2 1700000000,
        .create 2 1700000001]).originClocks = [⟨1700000300, 65535⟩, ⟨1700000300, 65535⟩] ∧
    ¬ (run (Announcer.step exhaustingVerify) (.start sampleReceiver 1700000000)
      [.process exhaustingFrame 1700000000 fun _ => 0, .create 2 1700000000,
        .create 2 1700000001]).Ordered := by
  refine (and_iff_left_of_imp fun hclocks => ?_).mpr (by decide +kernel)
  rw [Announcer.Ordered, hclocks]
  decide +kernel

/-! ## Distance to the wall clock -/

/-- Source: `forge-node/src/network.rs`, `origin_clock_is_fresh`. -/
def originClockIsFresh (originClockPhysical nowPhysical : UInt64) : Bool :=
  absDiff nowPhysical.toNat originClockPhysical.toNat ≤ maxAnnounceClockSkew

/-- The announcement, created when the wall clock read `secs`, carries its header's clock as origin
clock, and both checks of a receiver with this wall clock accept that clock. A receiver reads this
clock from the payload, as long as it fits the 40 bits it has there. Source:
`forge-node/src/network.rs`, `handle_axiom_frame` (Announce arm); `axiom-router/src/announce.rs`,
`AnnouncementManager::process_announcement`. -/
def AcceptedNow (secs : UInt64) (frame : Frame) : Prop :=
  ∃ claim signature ttl, frame.payload = (Claim.payload claim signature ttl).encode ∧
    claim.clock = frame.header.clock ∧ withinSkew secs.toNat claim.clock ∧
    originClockIsFresh claim.clock.physical secs ∧
    (claim.clock.physical.toNat < 2 ^ 40 → claim.capabilities.length < 2 ^ 16 →
      (AnnouncePayload.decode frame.payload).bind (·.originClock) = some claim.clock)

namespace Announcer

/-- The clock is at most the allowed skew ahead of a reading of the wall clock. -/
def WithinSkewOf (a : Announcer) (wall : UInt64) : Prop :=
  a.clock.physical.toNat ≤ wall.toNat + maxAnnounceClockSkew

lemma physical_nextClock (a : Announcer) (secs : UInt64) :
    (a.nextClock secs).physical.toNat = max a.clock.physical.toNat secs.toNat := by
  rw [nextClock, syncPhysical_toNat]
  split_ifs with hahead
  · have hlt : a.clock.physical.toNat < secs.toNat := UInt64.lt_iff_toNat_lt.mp hahead
    show secs.toNat = _
    omega
  have hle : secs.toNat ≤ a.clock.physical.toNat :=
    UInt64.le_iff_toNat_le.mp (UInt64.not_lt.mp hahead)
  show a.clock.physical.toNat = _
  omega

variable {V : Verify} {a : Announcer} {wall : UInt64}

lemma withinSkewOf_step {e : AnnouncerEvent}
    (h : a.WithinSkewOf wall) (hwall : ∀ secs, e.reading = some secs → wall ≤ secs) :
    (a.step V e).WithinSkewOf (e.reading.getD wall) := by
  unfold WithinSkewOf at h ⊢
  rcases clock_step V a e with
    ⟨ttl, secs, rfl, hclock⟩ | ⟨frame, secs, instants, rfl, hclock⟩ | hclock
  · have hle := UInt64.le_iff_toNat_le.mp (hwall secs rfl)
    rw [hclock, physical_nextClock]
    simp only [AnnouncerEvent.reading, Option.getD_some]
    omega
  · have hle := UInt64.le_iff_toNat_le.mp (hwall secs rfl)
    rw [hclock, mergedClock]
    simp only [AnnouncerEvent.reading, Option.getD_some]
    split_ifs with hskew
    · have hclose := (withinSkew_iff.mp hskew).2
      have hphysical := physical_update a.clock frame.header.clock
      show (a.clock.update frame.header.clock).physical.toNat ≤ _
      omega
    · show a.clock.physical.toNat ≤ _
      omega
  · rw [hclock]
    rcases hreading : e.reading with _ | secs
    · exact h
    have hle := UInt64.le_iff_toNat_le.mp (hwall secs hreading)
    simp only [Option.getD_some]
    omega

lemma acceptedNow_create {secs : UInt64} (h : a.WithinSkewOf wall)
    (hwall : wall ≤ secs) (ttl : UInt8) :
    AcceptedNow secs (a.manager.createAnnouncement ttl secs.toNat).1 := by
  have hle := UInt64.le_iff_toNat_le.mp hwall
  have hphysical := physical_nextClock a secs
  unfold WithinSkewOf at h
  have hskew : withinSkew secs.toNat (a.nextClock secs) := by
    rw [withinSkew_iff]
    omega
  refine ⟨⟨a.manager.identity.nodeId, a.nextClock secs, a.manager.localCapabilities⟩, _, _, rfl, rfl,
    hskew, hskew, fun hclock hcount => ?_⟩
  have hdecode := AnnouncePayload.decode_encode (p := Claim.payload
    ⟨a.manager.identity.nodeId, a.nextClock secs, a.manager.localCapabilities⟩
    (a.manager.identity.sign (AnnouncePayload.originSigningBytesFor a.manager.identity.nodeId
      (a.nextClock secs) a.manager.localCapabilities)) (min ttl maxAnnounceTtl))
    ⟨hcount, fun c hc => Option.some.inj hc ▸ hclock, rfl, fun _ => rfl⟩
  exact congrArg (Option.bind · (·.originClock)) hdecode

lemma acceptedNow_run {es : List AnnouncerEvent}
    (h : a.WithinSkewOf wall) (hlog : ∀ p ∈ a.created, AcceptedNow p.1 p.2)
    (hwall : (wall :: es.filterMap AnnouncerEvent.reading).Pairwise (· ≤ ·)) :
    ∀ p ∈ (run (step V) a es).created, AcceptedNow p.1 p.2 := by
  induction es generalizing a wall with
  | nil => exact hlog
  | cons e es ih =>
    have hreading : ∀ secs, e.reading = some secs → wall ≤ secs := by
      intro secs hsecs
      rw [filterMap_cons_some hsecs] at hwall
      exact (pairwise_cons.mp hwall).1 secs mem_cons_self
    have hlater : (e.reading.getD wall :: es.filterMap AnnouncerEvent.reading).Pairwise
        (· ≤ ·) := by
      rcases hsecs : e.reading with _ | secs
      · rwa [filterMap_cons_none hsecs] at hwall
      · rw [filterMap_cons_some hsecs] at hwall
        exact (pairwise_cons.mp hwall).2
    refine ih (withinSkewOf_step h hreading) ?_ hlater
    intro p hp
    rcases created_step V a e with ⟨ttl, secs, rfl, hcreated⟩ | ⟨-, hcreated⟩
    · rw [hcreated, mem_append] at hp
      rcases hp with hold | hnew
      · exact hlog p hold
      · rw [mem_singleton.mp hnew]
        exact acceptedNow_create h (hreading secs rfl) ttl
    · exact hlog p (hcreated ▸ hp)

end Announcer

/-- **No peer can poison a node's clock.** Under a wall clock that does not go back, every
announcement a node creates has an origin clock within the allowed skew of the wall clock at that
moment, so the checks of a receiver with the same wall clock accept it, whatever frames the node has
processed. -/
theorem origin_clock_within_skew (V : Verify) (identity : Keypair) {secs : UInt64}
    {es : List AnnouncerEvent}
    (hwall : (secs :: es.filterMap AnnouncerEvent.reading).Pairwise (· ≤ ·)) :
    ∀ p ∈ (run (Announcer.step V) (.start identity secs) es).created, AcceptedNow p.1 p.2 := by
  refine Announcer.acceptedNow_run ?_ (fun _ h => absurd h not_mem_nil) hwall
  show (HybridClock.now secs.toNat).physical.toNat ≤ _
  rw [HybridClock.now, UInt64.ofNat_toNat]
  exact Nat.le_add_right ..

theorem origin_clock_within_skew_exhausted :
    ([1700000000, 1700000000, 1700000000, 1700000001] : List UInt64).Pairwise (· ≤ ·) ∧
      ∀ p ∈ (run (Announcer.step exhaustingVerify) (.start sampleReceiver 1700000000)
        [.process exhaustingFrame 1700000000 fun _ => 0, .create 2 1700000000,
          .create 2 1700000001]).created, AcceptedNow p.1 p.2 := by
  have hwall : ([1700000000, 1700000000, 1700000000, 1700000001] : List UInt64).Pairwise
      (· ≤ ·) := by decide
  exact ⟨hwall, origin_clock_within_skew exhaustingVerify sampleReceiver hwall⟩

end AxiomCore
