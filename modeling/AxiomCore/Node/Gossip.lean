import AxiomCore.Lib.Freshness
import AxiomCore.Lib.Run
import AxiomCore.Router.Announce
import AxiomCore.Router.Semantic

/-!
# Gossip of announcements

The Announce arm of a node hands a frame to `process_announcement`; if that accepts the claim, the
arm replaces everything registered for the origin and passes the claim on. Maintenance evicts from
the manager what was not touched for a while.

`GossipNode` is a node as far as this goes, with a log of the claims it accepted. A delivery takes
time: the wall clock is read when it begins, the monotonic clock once per capability. Both clocks
advance together. Frames that the arm drops before `process_announcement` (unknown sender, too many
origins, too soon) are deliveries that do not happen. One frame is handled after the other.

Source: `forge-node/src/network.rs`.
-/

namespace AxiomCore

open Lib AnnouncementManager List

/-! ## The node -/

def knownCapabilityNames : List String :=
  ["echo", "sysinfo", "network_clients", "notify_send", "proxmox_restart", "home_assistant_toggle",
    "docker_restart", "wg_peers_list", "wg_peer_manage"]

/-- `ANNOUNCEMENT_MAX_AGE`, in nanoseconds. -/
def announcementMaxAge : Nat := 30 * 60 * 10 ^ 9

def replaceRegistrations (blake3 : List UInt8 → Digest) (router : SemanticRouter) (origin : NodeId)
    (newCaps : List AnnouncedCapability) : SemanticRouter :=
  newCaps.foldl (fun router cap =>
    knownCapabilityNames.foldl (fun router name =>
      if capabilityHash blake3 name = cap.intentHash then
        router.register origin (.new blake3 name)
      else router) router) (router.unregisterNode origin)

structure Accepted where
  claim : Claim
  time : Nat
  regossiped : Bool

structure GossipNode where
  manager : AnnouncementManager
  router : SemanticRouter
  /-- The monotonic clock, in nanoseconds. -/
  now : Nat
  /-- What the wall clock is ahead of it. -/
  epoch : Nat
  log : List Accepted

inductive GossipEvent where
  /-- A frame is delivered. It takes `elapsed`; the `i`-th reading of the monotonic clock comes
  `pauses i` after the beginning. -/
  | deliver (frame : Frame) (elapsed : Nat) (pauses : Nat → Fin (elapsed + 1))
  | cleanup (maxAge : Nat)
  | announce (ttl : UInt8)
  | register (cap : AnnouncedCapability)
  | unregister (intentHash : IntentHash)
  | tick (elapsed : Nat)

namespace GossipNode

def start (identity : Keypair) (now epoch : Nat) : GossipNode :=
  ⟨.new identity ((epoch + now) / 10 ^ 9), .new, now, epoch, []⟩

/-- What the wall clock reads at a time. Source: Rust standard library, `SystemTime::now`. -/
def secsAt (n : GossipNode) (time : Nat) : Nat := (n.epoch + time) / 10 ^ 9

variable (blake3 : List UInt8 → Digest) (V : Verify)

def announceArm (n : GossipNode) (frame : Frame) (instants : Nat → Nat) : GossipNode :=
  match verifiedClaim V frame with
  | none => n
  | some claim =>
    match n.manager.processAnnouncement V frame (n.secsAt n.now) instants with
    | (none, manager) => { n with manager := manager }
    | (some (newCaps, forward), manager) =>
      { n with
        manager := manager
        router := replaceRegistrations blake3 n.router claim.origin newCaps
        log := n.log ++ [⟨claim, n.now, forward.isSome⟩] }

def step (n : GossipNode) : GossipEvent → GossipNode
  | .deliver frame elapsed pauses =>
    { n.announceArm blake3 V frame (fun i => n.now + pauses i) with now := n.now + elapsed }
  | .cleanup maxAge => { n with manager := n.manager.cleanupStale n.now maxAge }
  | .announce ttl => { n with manager := (n.manager.createAnnouncement ttl (n.secsAt n.now)).2 }
  | .register cap => { n with manager := n.manager.registerCapability cap }
  | .unregister intentHash => { n with manager := n.manager.unregisterCapability intentHash }
  | .tick elapsed => { n with now := n.now + elapsed }

def accepted (n : GossipNode) : List Claim := n.log.map (·.claim)

def regossiped (n : GossipNode) : List Claim := (n.log.filter (·.regossiped)).map (·.claim)

end GossipNode

open GossipNode

/-! ## The manager as a table of newest stamps -/

def SeenMap.table (seen : SeenMap) : FreshTable (NodeId × IntentHash) HybridClock :=
  fun key => (seen key).map fun e => (e.firstSeen, e.clock)

def Claim.keys (claim : Claim) : List (NodeId × IntentHash) :=
  claim.capabilities.map fun cap => (claim.origin, cap.intentHash)

lemma Claim.mem_keys_iff {claim : Claim} {key : NodeId × IntentHash} :
    key ∈ claim.keys ↔ key.1 = claim.origin ∧ key.2 ∈ claim.hashes := by
  obtain ⟨origin, hash⟩ := key
  simp only [keys, hashes, mem_map, Prod.mk.injEq]
  constructor
  · rintro ⟨cap, hmem, rfl, rfl⟩
    exact ⟨rfl, cap, hmem, rfl⟩
  · rintro ⟨rfl, cap, hmem, rfl⟩
    exact ⟨cap, hmem, rfl, rfl⟩

variable (seen : SeenMap) (key : NodeId × IntentHash)

lemma table_update (e : SeenAnnouncement) :
    SeenMap.table (Function.update seen key (some e)) =
      Function.update seen.table key (some (e.firstSeen, e.clock)) := by
  funext key'
  by_cases h : key' = key
  · subst h
    simp [SeenMap.table]
  · simp [SeenMap.table, h]

lemma table_touchSeen (clock : HybridClock) (now : Nat) :
    Prod.map id SeenMap.table (touchSeen seen key clock now) =
      touch seen.table key clock now := by
  unfold touchSeen touch
  rcases h : seen key with _ | e
  · have htable : seen.table key = none := by simp [SeenMap.table, h]
    simp only [htable, Prod.map, id, table_update]
  have htable : seen.table key = some (e.firstSeen, e.clock) := by simp [SeenMap.table, h]
  by_cases hlt : e.clock < clock
  · simp only [htable, if_pos (HybridClock.happensBefore_iff_lt.mpr hlt), Prod.map, id, table_update,
      decide_eq_true hlt, max_eq_right hlt.le]
  have hnot : ¬ e.clock.happensBefore clock := fun hb =>
    hlt (HybridClock.happensBefore_iff_lt.mp hb)
  simp only [htable, if_neg hnot, Prod.map, id, table_update, decide_eq_false hlt,
    max_eq_left (not_lt.mp hlt)]

lemma table_touchCapabilities (origin : NodeId) (clock : HybridClock) (instants : Nat → Nat)
    (caps : List AnnouncedCapability) (seen : SeenMap) :
    Prod.map id SeenMap.table
        (touchCapabilities origin clock instants caps seen) =
      touchAll clock instants (Claim.keys ⟨origin, clock, caps⟩) seen.table := by
  induction caps generalizing instants seen with
  | nil => rfl
  | cons cap caps ih =>
    have hhead := table_touchSeen seen (origin, cap.intentHash) clock (instants 0)
    have htail := ih (fun i => instants (i + 1))
      (touchSeen seen (origin, cap.intentHash) clock (instants 0)).2
    show _ = touchAll clock instants
      ((origin, cap.intentHash) :: Claim.keys ⟨origin, clock, caps⟩) seen.table
    rw [touchAll, ← hhead]
    simp only [Prod.map_snd, Prod.map_fst, ← htail]
    rfl

lemma table_cleanupStale (m : AnnouncementManager) (now maxAge : Nat) :
    (m.cleanupStale now maxAge).seen.table = evict m.seen.table now maxAge := by
  funext key
  simp only [SeenMap.table, AnnouncementManager.cleanupStale, evict]
  rcases m.seen key with _ | e
  · rfl
  by_cases h : now - e.firstSeen < maxAge
  · simp [Option.filter_some, h]
  · simp [Option.filter_some, h]

/-! ## Steps -/

namespace GossipNode

variable {blake3 : List UInt8 → Digest} {V : Verify} {n : GossipNode} {claim : Claim}

def table (n : GossipNode) : FreshTable (NodeId × IntentHash) HybridClock := n.manager.seen.table

lemma announceArm_of_admits (blake3 : List UInt8 → Digest) {frame : Frame}
    (h : n.manager.Admits V frame (n.secsAt n.now) claim) (instants : Nat → Nat) :
    ∃ manager forward, manager.identity = n.manager.identity ∧
      manager.seen.table = (touchAll claim.clock instants claim.keys n.table).2 ∧
      n.announceArm blake3 V frame instants =
        if (touchAll claim.clock instants claim.keys n.table).1 then
          { n with
            manager := manager
            router := replaceRegistrations blake3 n.router claim.origin claim.capabilities
            log := n.log ++ [⟨claim, n.now, forward⟩] }
        else { n with manager := manager } := by
  obtain ⟨forward, clock, hprocess⟩ :=
    processAnnouncement_of_admits h instants
  have htable := table_touchCapabilities claim.origin claim.clock instants claim.capabilities
    n.manager.seen
  refine ⟨{ n.manager with
      seen := (touchCapabilities claim.origin claim.clock instants
        claim.capabilities n.manager.seen).2
      clock := clock }, forward.isSome, rfl, congrArg Prod.snd htable, ?_⟩
  have hfresh : (touchCapabilities claim.origin claim.clock instants
      claim.capabilities n.manager.seen).1 =
        (touchAll claim.clock instants claim.keys n.table).1 := congrArg Prod.fst htable
  unfold announceArm
  rw [h.verified]
  simp only [hprocess, hfresh]
  split_ifs
  · rfl
  · rfl

lemma announceArm_of_not_admits (blake3 : List UInt8 → Digest) {frame : Frame}
    (h : ∀ claim, ¬ n.manager.Admits V frame (n.secsAt n.now) claim) (instants : Nat → Nat) :
    n.announceArm blake3 V frame instants = n := by
  unfold announceArm
  rw [processAnnouncement_of_not_admits h]
  split
  · rfl
  · rfl

inductive Change (blake3 : List UInt8 → Digest) (V : Verify) (n n' : GossipNode) :
    GossipEvent → Prop where
  /-- Nothing changes but the time, the node's own clock and its capabilities. -/
  | idle {e : GossipEvent} (htable : n'.table = n.table) (hrouter : n'.router = n.router)
      (hlog : n'.log = n.log) : Change blake3 V n n' e
  | evicted {maxAge : Nat} (htable : n'.table = evict n.table n.now maxAge)
      (hrouter : n'.router = n.router) (hlog : n'.log = n.log) : Change blake3 V n n' (.cleanup maxAge)
  | stale {frame : Frame} {elapsed : Nat} {pauses : Nat → Fin (elapsed + 1)} (claim : Claim)
      (htable : n'.table = (touchAll claim.clock (fun i => n.now + pauses i) claim.keys n.table).2)
      (hrouter : n'.router = n.router) (hlog : n'.log = n.log) :
      Change blake3 V n n' (.deliver frame elapsed pauses)
  | accepted {frame : Frame} {elapsed : Nat} {pauses : Nat → Fin (elapsed + 1)} (claim : Claim)
      (forward : Bool) (hadmits : n.manager.Admits V frame (n.secsAt n.now) claim)
      (hfresh : (touchAll claim.clock (fun i => n.now + pauses i) claim.keys n.table).1)
      (htable : n'.table = (touchAll claim.clock (fun i => n.now + pauses i) claim.keys n.table).2)
      (hrouter : n'.router = replaceRegistrations blake3 n.router claim.origin claim.capabilities)
      (hlog : n'.log = n.log ++ [⟨claim, n.now, forward⟩]) :
      Change blake3 V n n' (.deliver frame elapsed pauses)

lemma change_step (blake3 : List UInt8 → Digest) (V : Verify) (n : GossipNode)
    (e : GossipEvent) :
    Change blake3 V n (n.step blake3 V e) e := by
  cases e with
  | deliver frame elapsed pauses =>
    by_cases h : ∃ claim, n.manager.Admits V frame (n.secsAt n.now) claim
    · obtain ⟨claim, hadmits⟩ := h
      obtain ⟨manager, forward, -, htable, harm⟩ :=
        announceArm_of_admits blake3 hadmits fun i => n.now + pauses i
      by_cases hfresh : (touchAll claim.clock (fun i => n.now + pauses i) claim.keys n.table).1
      · rw [if_pos hfresh] at harm
        apply Change.accepted claim forward hadmits hfresh
        · rw [step, harm]
          exact htable
        · rw [step, harm]
        · rw [step, harm]
      · rw [if_neg hfresh] at harm
        apply Change.stale claim
        · rw [step, harm]
          exact htable
        · rw [step, harm]
        · rw [step, harm]
    · have harm := announceArm_of_not_admits blake3 (not_exists.mp h)
        fun i => n.now + pauses i
      apply Change.idle
      · rw [step, harm]
        rfl
      · rw [step, harm]
      · rw [step, harm]
  | cleanup maxAge => exact .evicted (table_cleanupStale n.manager n.now maxAge) rfl rfl
  | announce ttl => exact .idle rfl rfl rfl
  | register cap => exact .idle rfl rfl rfl
  | unregister intentHash => exact .idle rfl rfl rfl
  | tick elapsed => exact .idle rfl rfl rfl

lemma announceArm_clocks (frame : Frame) (instants : Nat → Nat) :
    (n.announceArm blake3 V frame instants).now = n.now ∧
      (n.announceArm blake3 V frame instants).epoch = n.epoch := by
  unfold announceArm
  split
  · exact ⟨rfl, rfl⟩
  split
  · exact ⟨rfl, rfl⟩
  · exact ⟨rfl, rfl⟩

lemma now_le_step (blake3 : List UInt8 → Digest) (V : Verify) (n : GossipNode)
    (e : GossipEvent) : n.now ≤ (n.step blake3 V e).now := by
  cases e with
  | deliver frame elapsed pauses => exact Nat.le_add_right ..
  | tick elapsed => exact Nat.le_add_right ..
  | cleanup | announce | register | unregister => exact le_rfl

lemma epoch_step (blake3 : List UInt8 → Digest) (V : Verify) (n : GossipNode)
    (e : GossipEvent) : (n.step blake3 V e).epoch = n.epoch := by
  cases e with
  | deliver frame elapsed pauses => exact (announceArm_clocks frame _).2
  | cleanup | announce | register | unregister | tick => rfl

end GossipNode

/-! ## What was accepted is covered -/

def GossipEvent.Spares (minAge : Nat) : GossipEvent → Prop
  | .cleanup maxAge => minAge ≤ maxAge
  | _ => True

/-- For how long the wall clock can be within the skew of a clock value, in nanoseconds. Source:
`axiom-router/src/announce.rs`, `MAX_ANNOUNCE_CLOCK_SKEW`. -/
def HybridClock.window (clock : HybridClock) : Nat :=
  (clock.physical.toNat + maxAnnounceClockSkew + 1 -
    (clock.physical.toNat - maxAnnounceClockSkew)) * 10 ^ 9

/-- What every run keeps whose cleanups spare `minAge`. -/
structure DedupInv (minAge : Nat) (n : GossipNode) : Prop where
  past : ∀ a ∈ n.log, a.time ≤ n.now
  /-- Each claim was within the skew when it was accepted. -/
  skew : ∀ a ∈ n.log, withinSkew (n.secsAt a.time) a.claim.clock
  /-- Each claim is covered until rows of its age may be evicted. -/
  covered : ∀ a ∈ n.log, n.now < a.time + minAge → ∀ key ∈ a.claim.keys,
    Covers n.table key a.claim.clock a.time

section

variable {blake3 : List UInt8 → Digest} {V : Verify} {n n' : GossipNode} {minAge : Nat}

lemma dedupInv_start (identity : Keypair) (now epoch : Nat) :
    DedupInv minAge (.start identity now epoch) where
  past _ ha := absurd ha not_mem_nil
  skew _ ha := absurd ha not_mem_nil
  covered _ ha := absurd ha not_mem_nil

lemma DedupInv.keep (h : DedupInv minAge n) (hnow : n.now ≤ n'.now) (hepoch : n'.epoch = n.epoch)
    (hlog : n'.log = n.log)
    (htable : ∀ a ∈ n.log, n.now < a.time + minAge → ∀ key,
      Covers n.table key a.claim.clock a.time → Covers n'.table key a.claim.clock a.time) :
    DedupInv minAge n' where
  past a ha := (h.past a (hlog ▸ ha)).trans hnow
  skew a ha := by
    rw [secsAt, hepoch]
    exact h.skew a (hlog ▸ ha)
  covered a ha hlt key hkey := by
    have hlt' : n.now < a.time + minAge := hnow.trans_lt hlt
    exact htable a (hlog ▸ ha) hlt' key (h.covered a (hlog ▸ ha) hlt' key hkey)

variable {claim : Claim} {clock : Nat → Nat} {e : GossipEvent}

lemma DedupInv.accept (h : DedupInv minAge n) (hnow : n.now ≤ n'.now)
    (hepoch : n'.epoch = n.epoch) {regossiped : Bool}
    (hclock : ∀ i, n.now ≤ clock i)
    (hskew : withinSkew (n.secsAt n.now) claim.clock)
    (htable : n'.table = (touchAll claim.clock clock claim.keys n.table).2)
    (hlog : n'.log = n.log ++ [⟨claim, n.now, regossiped⟩]) : DedupInv minAge n' := by
  have hcases : ∀ a ∈ n'.log, a ∈ n.log ∨ a = ⟨claim, n.now, regossiped⟩ := by
    intro a ha
    rw [hlog, mem_append, mem_singleton] at ha
    exact ha
  refine ⟨fun a ha => ?_, fun a ha => ?_, fun a ha hlt key hkey => ?_⟩
  · rcases hcases a ha with hold | rfl
    · exact (h.past a hold).trans hnow
    · exact hnow
  · rw [secsAt, hepoch]
    rcases hcases a ha with hold | rfl
    · exact h.skew a hold
    · exact hskew
  · rw [htable]
    rcases hcases a ha with hold | rfl
    · have hcovers := h.covered a hold (hnow.trans_lt hlt) key hkey
      exact hcovers.touchAll claim.clock (fun i => (h.past a hold).trans (hclock i)) claim.keys
    · exact covers_touchAll n.table claim.clock hclock hkey

lemma DedupInv.step (h : DedupInv minAge n) (he : e.Spares minAge) :
    DedupInv minAge (n.step blake3 V e) := by
  have hnow := now_le_step blake3 V n e
  have hepoch := epoch_step blake3 V n e
  cases GossipNode.change_step blake3 V n e with
  | idle htable hrouter hlog =>
    apply h.keep hnow hepoch hlog
    intro a _ _ key hcovers
    rwa [htable]
  | evicted htable hrouter hlog =>
    apply h.keep hnow hepoch hlog
    intro a ha hlt key hcovers
    rw [htable]
    exact hcovers.evict (h.past a ha) (hlt.trans_le (Nat.add_le_add_left he a.time))
  | stale claim htable hrouter hlog =>
    apply h.keep hnow hepoch hlog
    intro a ha _ key hcovers
    rw [htable]
    exact hcovers.touchAll claim.clock
      (fun i => (h.past a ha).trans (Nat.le_add_right n.now _)) claim.keys
  | accepted claim forward hadmits hfresh htable hrouter hlog =>
    exact h.accept hnow hepoch (fun i => Nat.le_add_right n.now _) hadmits.skew htable hlog

lemma DedupInv.not_subset_of_accepted (h : DedupInv minAge n) {frame : Frame}
    (hadmits : n.manager.Admits V frame (n.secsAt n.now) claim)
    (hfresh : (touchAll claim.clock clock claim.keys n.table).1)
    (hwindow : claim.clock.window ≤ minAge) {a : Accepted} (ha : a ∈ n.log)
    (horigin : a.claim.origin = claim.origin) (hclock : claim.clock ≤ a.claim.clock) :
    ¬ claim.hashes ⊆ a.claim.hashes := by
  intro hsubset
  obtain ⟨key, hkey, hnot⟩ := (touchAll_fresh_iff _ _ _ _).mp hfresh
  obtain ⟨hkeyOrigin, hhash⟩ := Claim.mem_keys_iff.mp hkey
  have hmem : key ∈ a.claim.keys :=
    Claim.mem_keys_iff.mpr ⟨hkeyOrigin.trans horigin.symm, hsubset hhash⟩
  -- both deliveries fell into the skew window of the older clock, so the row is still there
  have hyoung : n.now < a.time + minAge := by
    have hthen := (withinSkew_iff.mp (h.skew a ha)).2
    have hnow := (withinSkew_iff.mp hadmits.skew).1
    have hphysical := HybridClock.physical_le_of_le hclock
    rw [secsAt] at hthen hnow
    rw [HybridClock.window] at hwindow
    omega
  obtain ⟨at', s, hrow, hle, -⟩ := h.covered a ha hyoung key hmem
  exact hnot ⟨at', s, hrow, hclock.trans hle, Nat.zero_le _⟩

/-! ## Each claim once -/

lemma window_le_announcementMaxAge (clock : HybridClock) : clock.window ≤ announcementMaxAge := by
  unfold HybridClock.window maxAnnounceClockSkew announcementMaxAge
  omega

/-- What every run keeps whose cleanups are the node's own. -/
structure OnceInv (n : GossipNode) : Prop extends DedupInv announcementMaxAge n where
  once : n.accepted.Nodup

lemma OnceInv.step (h : OnceInv n) (he : e.Spares announcementMaxAge) :
    OnceInv (n.step blake3 V e) := by
  refine ⟨h.toDedupInv.step he, ?_⟩
  unfold GossipNode.accepted
  cases GossipNode.change_step blake3 V n e with
  | idle htable hrouter hlog =>
    rw [hlog]
    exact h.once
  | evicted htable hrouter hlog =>
    rw [hlog]
    exact h.once
  | stale claim htable hrouter hlog =>
    rw [hlog]
    exact h.once
  | accepted claim forward hadmits hfresh htable hrouter hlog =>
    rw [hlog, map_append, map_singleton, nodup_append]
    refine ⟨h.once, nodup_singleton _, ?_⟩
    rintro claim' hclaim' _ hmem rfl
    obtain ⟨a, ha, rfl⟩ := mem_map.mp hclaim'
    have hsame : a.claim = claim := mem_singleton.mp hmem
    apply h.toDedupInv.not_subset_of_accepted hadmits hfresh (window_le_announcementMaxAge _) ha
    · rw [hsame]
    · rw [hsame]
    · rw [hsame]
      exact List.Subset.refl _

end

/-- The only cleanup is the maintenance's own. -/
def GossipEvent.Maintains (e : GossipEvent) : Prop :=
  ∀ maxAge, e = .cleanup maxAge → maxAge = announcementMaxAge

lemma GossipEvent.Maintains.spares {e : GossipEvent} (h : e.Maintains) :
    e.Spares announcementMaxAge := by
  cases e with
  | cleanup maxAge => exact (h maxAge rfl).ge
  | deliver | announce | register | unregister | tick => exact trivial

/-! ## Sample data -/

/-- BLAKE3 of the known capability names. -/
def nameDigests : List (String × Digest) :=
  [("echo", echoDigest),
    ("sysinfo",
      hex 32 0xde64b6e5c6876daab28dd9762eadcae3d8d2af89085aa812c4de69208d812502),
    ("network_clients",
      hex 32 0x52cac0625463c9752b4cd1b79708ba57124679e482bcc7759626a2e70b33e728),
    ("notify_send",
      hex 32 0x59d8a37a5701ea1d16c07c5cfb6497ede70e0cabfa6300ad31e12103c86c3122),
    ("proxmox_restart",
      hex 32 0xb2c7c0062086de3bf110d7edf3849990eae3b6a06a6eba78ae6519df886421c0),
    ("home_assistant_toggle",
      hex 32 0xe1423a01478a3cfa68a027212cb5e3ca9ff203d9bde31f7e55cdb378e9355ec3),
    ("docker_restart",
      hex 32 0x32eceed7002005d438434ef7ef14375e812c9f22e18dd8c526a65db922cdcfe6),
    ("wg_peers_list",
      hex 32 0xabe73ced424db106fb3b521ead061150fecc5a8c514c8950611a7c304fa45fc5),
    ("wg_peer_manage", wgPeerManageDigest)]

def sampleBlake3 (input : List UInt8) : Digest :=
  ((nameDigests.find? fun entry => utf8 entry.1 = input).map (·.2)).getD (Vector.replicate 32 0)

/-- A claim of the sample origin, `offset` seconds after some second of 2023. -/
def sampleClaim (offset : UInt64) (names : List String) : Claim where
  origin := sampleOrigin
  clock := ⟨1700000000 + offset, 1⟩
  capabilities := names.map fun name =>
    .new (capabilityHash sampleBlake3 name) #v[99, 97, 112, 97]

def earlyClaim : Claim := sampleClaim 0 ["echo"]

def fullClaim : Claim := sampleClaim 60 ["echo", "sysinfo"]

def lateClaim : Claim := sampleClaim 120 ["echo"]

def earlyClaimSignature : Signature :=
  ⟨hex 64 (0xaa273da804e63fc71a244ece29d91593f7419243e5600f27a0bbe71046f5307a <<< 256 +
    0xc34e1e3ae38a5b16a2363df039bafeaada6461f444dfbb56ffa498a96747a90d)⟩

def fullClaimSignature : Signature :=
  ⟨hex 64 (0xde030f3a476a3eee61a93515981db39f3462311e1782fb39652a672909008e35 <<< 256 +
    0xe57c2fa192ee176c19747c75acff1d32ecf1f72feeeb43389fb3d75f36bb7402)⟩

def lateClaimSignature : Signature :=
  ⟨hex 64 (0x7e2626fcad04aa115be2f1c8fd3cf807851ec7078507a9033e8b6b6607621687 <<< 256 +
    0x6e575397698f48fe2e1240ea99c8d8687a4fd7a3da57c59c51d72306cc02d400)⟩

/-- Ed25519 verification, on the three claims. -/
def sampleVerify : Verify := fun node message signature =>
  node = sampleOrigin &&
    ((message = earlyClaim.signingBytes && signature = earlyClaimSignature) ||
      (message = fullClaim.signingBytes && signature = fullClaimSignature) ||
      (message = lateClaim.signingBytes && signature = lateClaimSignature))

def sampleReceiver : Keypair := ⟨⟨Vector.replicate 32 1⟩, fun _ => ⟨Vector.replicate 64 0⟩⟩

def sampleFrame (claim : Claim) (signature : Signature) : Frame :=
  .new (.new .announce ⟨Vector.replicate 32 2⟩) .raw (claim.payload signature 2).encode

def deliverAtOnce (frame : Frame) : GossipEvent := .deliver frame 0 fun _ => 0


/-! ## Networks -/

/-- **A node accepts a claim once.** Take any number of nodes, each with its own key and its own
clocks, and any interleaving of what happens at them: any frames, from anyone, in any order, any
number of times and however far apart, with the periodic cleanup at any times. No node accepts one
claim twice, and so none passes one on twice. -/
theorem accepts_each_claim_once {ι : Type*} [DecidableEq ι] (blake3 : List UInt8 → Digest)
    (V : Verify) (identity : ι → Keypair) (now epoch : ι → Nat) (es : List (ι × GossipEvent))
    (hes : ∀ e ∈ es, e.2.Maintains) (i : ι) :
    (run (stepAt (GossipNode.step blake3 V))
      (fun i => .start (identity i) (now i) (epoch i)) es i).accepted.Nodup ∧
    (run (stepAt (GossipNode.step blake3 V))
      (fun i => .start (identity i) (now i) (epoch i)) es i).regossiped.Nodup := by
  rw [run_stepAt]
  have hspares : ∀ e ∈ eventsAt i es, ∀ _ : GossipNode, e.Spares announcementMaxAge :=
    fun e he _ => (hes _ (mem_of_mem_eventsAt he)).spares
  have hstart : OnceInv (.start (identity i) (now i) (epoch i)) :=
    ⟨dedupInv_start _ _ _, nodup_nil⟩
  have hinv : OnceInv (run (GossipNode.step blake3 V)
      (.start (identity i) (now i) (epoch i)) (eventsAt i es)) :=
    run_invariant_of_guarded (I := OnceInv) (fun _ _ h he => h.step he) hstart
      (guarded_of_forall hspares)
  exact ⟨hinv.once, hinv.once.sublist (filter_sublist.map _)⟩

theorem second_copy_is_ignored :
    let node := run (stepAt (GossipNode.step sampleBlake3 sampleVerify))
      (fun _ => .start sampleReceiver 0 (1700000000 * 10 ^ 9))
      [((), deliverAtOnce (sampleFrame earlyClaim earlyClaimSignature)), ((), .tick (200 * 10 ^ 9)),
        ((), .cleanup announcementMaxAge),
        ((), deliverAtOnce (sampleFrame earlyClaim earlyClaimSignature))] ()
    node.accepted = [earlyClaim] ∧ node.accepted.Nodup := by
  refine ⟨by decide +kernel, (accepts_each_claim_once sampleBlake3 sampleVerify
    (fun _ => sampleReceiver) (fun _ => 0) (fun _ => 1700000000 * 10 ^ 9) _ ?_ ()).1⟩
  intro e he maxAge hmaxAge
  simp only [mem_cons, not_mem_nil, or_false] at he
  rcases he with rfl | rfl | rfl | rfl
  · exact absurd hmaxAge (by simp [deliverAtOnce])
  · exact absurd hmaxAge (by simp)
  · exact (GossipEvent.cleanup.inj hmaxAge).symm
  · exact absurd hmaxAge (by simp [deliverAtOnce])

end AxiomCore
