import AxiomCore.Node.AnnounceClock
import AxiomCore.Node.Peers
import AxiomCore.Node.Rollback

/-!
# Announcements, evictions and maintenance at once

The Announce arm of a receiving task goes from lock to lock: it looks whether the sender is a known
peer, counts the sender's origins, limits its rate, hands the frame to the announcement manager,
notes a route to the origin, and registers what the origin offers. Meanwhile `register_peer` may
evict a peer, purge the routes through it and spawn a task that unregisters what is gone, and
maintenance ages routes and registrations. None of them waits for another to be through.

`RouteSystem` has the tables and all these tasks, each at some point of its code. One `RouteEvent`
is what a task does between two locks, so that any list of events is an interleaving. Clock readings
are part of the event, and free. A spawned task and maintenance hold the lock of the router over
several steps; whoever needs it meanwhile waits.

- `register_in_a_row`: undisturbed, the steps of `register_peer` are `registerPeer`.

Source: `forge-node/src/network.rs`.
-/

namespace AxiomCore

open Lib List Function

/-! ## Tables -/

/-- `ANNOUNCE_RATE_LIMIT_INTERVAL`, in nanoseconds. -/
def announceRateLimitInterval : Nat := 10 ^ 9

def maxDistinctOriginsPerSenderPerWindow : Nat := 16

/-- `ORIGIN_ADMISSION_WINDOW`, in nanoseconds. -/
def originAdmissionWindow : Nat := 60 * 10 ^ 9

/-- For a sender, when its window began and which origins it has introduced since. -/
abbrev OriginAdmission := NodeId → Option (Nat × Finset NodeId)

abbrev LastAnnounceFrom := NodeId × NodeId → Option Nat

/-- May the sender introduce the origin? -/
def OriginAdmission.introduce (admission : OriginAdmission) (sender origin : NodeId) (now : Nat) :
    Bool × OriginAdmission :=
  let entry := (admission sender).getD (now, ∅)
  let entry := if now - entry.1 ≥ originAdmissionWindow then (now, ∅) else entry
  if origin ∈ entry.2 then (true, update admission sender (some entry))
  else if entry.2.card ≥ maxDistinctOriginsPerSenderPerWindow then
    (false, update admission sender (some entry))
  else (true, update admission sender (some (entry.1, insert origin entry.2)))

/-- Is it long enough since the last one? -/
def LastAnnounceFrom.touch (last : LastAnnounceFrom) (sender origin : NodeId) (now : Nat) :
    Bool × LastAnnounceFrom :=
  let touched := update last (sender, origin) (some now)
  match last (sender, origin) with
  | some time => if now - time < announceRateLimitInterval then (false, last) else (true, touched)
  | none => (true, touched)

/-- For an origin, the relay and when it was touched. -/
abbrev ReachableVia := AList fun _ : NodeId => NodeId × Nat

namespace ReachableVia

def origins (via : ReachableVia) (p : NodeId × Nat → Bool) : List NodeId :=
  (via.entries.filter fun entry => p entry.2).map fun entry => entry.1

def remove (via : ReachableVia) (origins : List NodeId) : ReachableVia :=
  origins.foldl (fun via origin => via.erase origin) via

variable {via : ReachableVia} {origin : NodeId}

lemma mem_origins {p : NodeId × Nat → Bool} :
    origin ∈ via.origins p ↔ ∃ route, via.lookup origin = some route ∧ p route := by
  unfold origins
  rw [mem_map]
  constructor
  · rintro ⟨⟨origin', route⟩, hentry, rfl⟩
    obtain ⟨hmem, hp⟩ := mem_filter.mp hentry
    exact ⟨route, AList.mem_lookup_iff.mpr hmem, hp⟩
  · rintro ⟨route, hlookup, hp⟩
    exact ⟨⟨origin, route⟩, mem_filter.mpr ⟨AList.mem_lookup_iff.mp hlookup, hp⟩, rfl⟩

lemma lookup_remove (via : ReachableVia) (origins : List NodeId) (origin : NodeId) :
    (via.remove origins).lookup origin = if origin ∈ origins then none else via.lookup origin := by
  unfold remove
  induction origins generalizing via with
  | nil => simp
  | cons first rest ih =>
    rw [foldl_cons, ih]
    by_cases hrest : origin ∈ rest
    · simp [hrest]
    by_cases hfirst : origin = first
    · subst hfirst
      simp [hrest]
    · simp [hrest, hfirst, AList.lookup_erase_ne hfirst]

lemma lookup_of_lookup_remove {origins : List NodeId}
    {route : NodeId × Nat} (h : (via.remove origins).lookup origin = some route) :
    origin ∉ origins ∧ via.lookup origin = some route := by
  rw [lookup_remove] at h
  split_ifs at h with hmem
  exact ⟨hmem, h⟩

end ReachableVia

open ReachableVia

def NetworkManager.unlist (m : NetworkManager) (id : NodeId) : NetworkManager :=
  { m with
    peers := m.peers.erase id
    knownPeers := m.knownPeers.erase id
    relay := { m.relay with peerAddrs := m.relay.peerAddrs.erase id } }

def NetworkManager.withRoutes (m : NetworkManager) (via : ReachableVia) : NetworkManager :=
  { m with relay := { m.relay with reachableVia := fun origin => via.lookup origin } }

lemma NetworkManager.evict_withRoutes (m : NetworkManager) (via : ReachableVia) (id : NodeId) :
    (m.withRoutes via).evict id =
      (m.unlist id).withRoutes (via.remove (via.origins fun route => route.1 = id)) := by
  unfold evict withRoutes unlist
  simp only [NetworkManager.mk.injEq, Relay.mk.injEq, true_and, and_true]
  funext origin
  rw [lookup_remove]
  rcases hlookup : via.lookup origin with _ | ⟨relay, time⟩
  · simp
  have hmem : origin ∈ via.origins (fun route => decide (route.1 = id)) ↔ relay = id := by
    rw [mem_origins, hlookup]
    simp
  simp only [hmem]

/-! ## Tasks -/

/-- What a task reads off the clocks in one step: the wall clock, and the monotonic clock as often
as it looks. -/
structure Reading where
  secs : UInt64
  /-- Nanoseconds. -/
  instants : Nat → Nat

inductive ArmStage where
  | received
  /-- The sender was a known peer. -/
  | gated
  /-- The claim is signed by its origin and fresh. -/
  | checked (claim : Claim)
  | introduced (claim : Claim)
  | limited (claim : Claim)
  | accepted (claim : Claim) (newCaps : List AnnouncedCapability)
  /-- The origin was not a known peer; the route is next. -/
  | routing (claim : Claim) (newCaps : List AnnouncedCapability)
  | registering (claim : Claim) (newCaps : List AnnouncedCapability)
  /-- Returned at the gate or at the checks of the claim. -/
  | rejected
  | ended
  deriving DecidableEq

structure Arm where
  frame : Frame
  stage : ArmStage

structure Greeting where
  nodeId : NodeId
  addr : SocketAddr
  helloTs : UInt64
  deriving DecidableEq

/-- How far `register_peer` is. It has the network manager for itself, so there is one at a time. -/
inductive Registrar where
  | idle
  /-- `id` is off the list of known peers. -/
  | unlisted (id : NodeId) (greeting : Greeting)
  | forgotten (id : NodeId) (greeting : Greeting)
  /-- Its routes are purged and the task is spawned. -/
  | purged (greeting : Greeting)
  deriving DecidableEq

def Registrar.evicting : Registrar → Option NodeId
  | .unlisted id _ | .forgotten id _ => some id
  | .idle | .purged _ => none

structure Purge where
  id : NodeId
  started : Bool
  /-- The orphaned origins that are still to be looked at. -/
  orphaned : List NodeId

/-- How far a pass of maintenance is. -/
inductive Upkeep where
  | started
  | cleaned
  | limits (now : Nat)
  | admissions (now : Nat)
  /-- Stale routes are removed. -/
  | waiting (stale : List NodeId)
  /-- The router is locked. These origins are still to be looked at, and this one was not a known
  peer. -/
  | sweeping (stale : List NodeId) (unknown : Option NodeId)
  deriving DecidableEq

def Purge.locks (purge : Purge) : Bool := purge.started && purge.orphaned ≠ []

def Upkeep.locks : Upkeep → Bool
  | .sweeping stale unknown => stale ≠ [] || unknown.isSome
  | _ => false

inductive RouteObs where
  | accepted (t : Nat) (claim : Claim)
  | evicted (id : NodeId)
  deriving DecidableEq

structure RouteSystem where
  /-- Peers and their addresses. The routes are in the next field, as a finite map. -/
  net : NetworkManager
  reachableVia : ReachableVia
  originAdmission : OriginAdmission
  lastAnnounceFrom : LastAnnounceFrom
  manager : AnnouncementManager
  router : SemanticRouter
  registrar : Registrar
  arms : List Arm
  purges : List Purge
  upkeeps : List Upkeep
  /-- What happened so far, oldest first. -/
  log : List RouteObs

inductive RouteEvent where
  | connect (greeting : Greeting) (now : Nat)
  | register (greeting : Greeting) (now tie : Nat)
  | registerNext (now : Nat)
  | receive (frame : Frame)
  | arm (t : Nat) (reading : Reading)
  /-- A spawned task unregisters the evicted peer. -/
  | purge (p : Nat)
  | orphan (p : Nat) (origin : NodeId)
  | maintain
  | upkeep (u : Nat) (now : Nat)
  | sweep (u : Nat) (origin : NodeId)

/-! ## Steps -/

namespace RouteSystem

variable (blake3 : List UInt8 → Digest) (V : Verify)

def start (identity : Keypair) (secs maxPeers : Nat) (relay : Relay) : RouteSystem where
  net := .start maxPeers relay
  reachableVia := ∅
  originAdmission := fun _ => none
  lastAnnounceFrom := fun _ => none
  manager := .new identity secs
  router := .new
  registrar := .idle
  arms := []
  purges := []
  upkeeps := []
  log := []

def setArm (s : RouteSystem) (t : Nat) (arm : Arm) (stage : ArmStage) : RouteSystem :=
  { s with arms := s.arms.set t { arm with stage := stage } }

def routerFree (s : RouteSystem) : Bool := !s.purges.any Purge.locks && !s.upkeeps.any Upkeep.locks

/-- `register_peer` up to its first lock that others take, or to its end if it evicts nobody. -/
def stepRegister (s : RouteSystem) (g : Greeting) (now tie : Nat) : RouteSystem :=
  match s.net.peers.lookup g.nodeId with
  | some existing =>
    if g.helloTs ≤ existing.lastHelloTs then s
    else
      { s with net :=
        { s.net with
          peers := s.net.peers.insert g.nodeId
            { existing with addr := g.addr, lastHelloTs := g.helloTs, lastSeen := now }
          relay := { s.net.relay with
            peerAddrs := s.net.relay.peerAddrs.insert g.nodeId g.addr } } }
  | none =>
    if s.net.peers.entries.length ≥ s.net.maxPeers then
      match s.net.evictable tie with
      | some id =>
        { s with
          net := s.net.unlist id
          registrar := .unlisted id g
          log := s.log ++ [.evicted id] }
      | none => s
    else { s with net := s.net.insertDiscovered g.nodeId g.addr g.helloTs now }

/-- `register_peer` after an eviction. -/
def stepRegisterNext (s : RouteSystem) (now : Nat) : RouteSystem :=
  match s.registrar with
  | .idle => s
  | .unlisted id g =>
    { s with
      originAdmission := update s.originAdmission id none
      registrar := .forgotten id g }
  | .forgotten id g =>
    { s with
      reachableVia :=
        s.reachableVia.remove (s.reachableVia.origins fun route => route.1 = id)
      purges := s.purges ++ [⟨id, false, s.reachableVia.origins fun route => route.1 = id⟩]
      registrar := .purged g }
  | .purged g =>
    { s with
      net := s.net.insertDiscovered g.nodeId g.addr g.helloTs now
      registrar := .idle }

/-- The Announce arm, from lock to lock. -/
def stepArm (s : RouteSystem) (t : Nat) (arm : Arm) (reading : Reading) : RouteSystem :=
  let sender := arm.frame.header.senderId
  match arm.stage with
  | .received => s.setArm t arm (if sender ∈ s.net.knownPeers then .gated else .rejected)
  | .gated =>
    match verifiedClaim V arm.frame with
    | none => s.setArm t arm .rejected
    | some claim =>
      s.setArm t arm
        (if originClockIsFresh claim.clock.physical reading.secs then .checked claim
          else .rejected)
  | .checked claim =>
    let (pass, admission) :=
      s.originAdmission.introduce sender claim.origin (reading.instants 0)
    { s with originAdmission := admission }.setArm t arm
      (if pass then .introduced claim else .ended)
  | .introduced claim =>
    let (pass, last) := s.lastAnnounceFrom.touch sender claim.origin (reading.instants 0)
    { s with lastAnnounceFrom := last }.setArm t arm (if pass then .limited claim else .ended)
  | .limited claim =>
    match s.manager.processAnnouncement V arm.frame reading.secs.toNat reading.instants with
    | (none, manager) => { s with manager := manager }.setArm t arm .ended
    | (some (newCaps, _), manager) =>
      { s with manager := manager, log := s.log ++ [RouteObs.accepted t claim] }.setArm t arm
        (.accepted claim newCaps)
  | .accepted claim newCaps =>
    s.setArm t arm
      (if claim.origin ∈ s.net.knownPeers then .registering claim newCaps
        else .routing claim newCaps)
  | .routing claim newCaps =>
    { s with reachableVia := s.reachableVia.insert claim.origin (sender, reading.instants 0)
      }.setArm t arm (.registering claim newCaps)
  | .registering claim newCaps =>
    if s.routerFree then
      { s with router := replaceRegistrations blake3 s.router claim.origin newCaps }.setArm t arm
        .ended
    else s
  | .rejected | .ended => s

def stepOrphan (s : RouteSystem) (p : Nat) (purge : Purge) (origin : NodeId) : RouteSystem :=
  if purge.started ∧ origin ∈ purge.orphaned then
    { s with
      router := if origin ∈ s.reachableVia then s.router else s.router.unregisterNode origin
      purges := s.purges.set p { purge with orphaned := purge.orphaned.erase origin } }
  else s

/-- Maintenance, up to its sweep. -/
def stepUpkeep (s : RouteSystem) (u : Nat) (upkeep : Upkeep) (now : Nat) : RouteSystem :=
  match upkeep with
  | .started =>
    { s with
      manager := s.manager.cleanupStale now announcementMaxAge
      upkeeps := s.upkeeps.set u .cleaned }
  | .cleaned =>
    { s with
      lastAnnounceFrom := fun key =>
        (s.lastAnnounceFrom key).filter fun last => now - last < announcementMaxAge
      upkeeps := s.upkeeps.set u (.limits now) }
  | .limits now =>
    { s with
      originAdmission := fun sender =>
        (s.originAdmission sender).filter fun entry => now - entry.1 < announcementMaxAge
      upkeeps := s.upkeeps.set u (.admissions now) }
  | .admissions now =>
    { s with
      reachableVia := s.reachableVia.remove
        (s.reachableVia.origins fun route => now - route.2 ≥ announcementMaxAge)
      upkeeps := s.upkeeps.set u (.waiting
        (s.reachableVia.origins fun route => now - route.2 ≥ announcementMaxAge)) }
  | .waiting stale =>
    if stale = [] ∨ s.routerFree then
      { s with upkeeps := s.upkeeps.set u (.sweeping stale none) }
    else s
  | .sweeping _ _ => s

/-- Maintenance looks at an origin: is it a known peer? If not, has it a route again? -/
def stepSweep (s : RouteSystem) (u : Nat) (stale : List NodeId) (unknown : Option NodeId)
    (origin : NodeId) : RouteSystem :=
  match unknown with
  | none =>
    if origin ∈ stale then
      { s with upkeeps := s.upkeeps.set u (.sweeping (stale.erase origin)
        (if origin ∈ s.net.knownPeers then none else some origin)) }
    else s
  | some origin =>
    { s with
      router := if origin ∈ s.reachableVia then s.router else s.router.unregisterNode origin
      upkeeps := s.upkeeps.set u (.sweeping stale none) }

def step (s : RouteSystem) : RouteEvent → RouteSystem
  | .connect g now =>
    match s.registrar with
    | .idle => { s with net := s.net.connect g.nodeId g.addr g.helloTs now }
    | _ => s
  | .register g now tie =>
    match s.registrar with
    | .idle => s.stepRegister g now tie
    | _ => s
  | .registerNext now => s.stepRegisterNext now
  | .receive frame => { s with arms := s.arms ++ [⟨frame, .received⟩] }
  | .arm t reading =>
    match s.arms[t]? with
    | some arm => s.stepArm blake3 V t arm reading
    | none => s
  | .purge p =>
    match s.purges[p]? with
    | some purge =>
      if purge.started ∨ ¬ s.routerFree then s
      else
        { s with
          router := s.router.unregisterNode purge.id
          purges := s.purges.set p { purge with started := true } }
    | none => s
  | .orphan p origin =>
    match s.purges[p]? with
    | some purge => s.stepOrphan p purge origin
    | none => s
  | .maintain => { s with upkeeps := s.upkeeps ++ [.started] }
  | .upkeep u now =>
    match s.upkeeps[u]? with
    | some upkeep => s.stepUpkeep u upkeep now
    | none => s
  | .sweep u origin =>
    match s.upkeeps[u]? with
    | some (.sweeping stale unknown) => s.stepSweep u stale unknown origin
    | _ => s

/-- Nothing is in flight: every call has returned, every spawned task has run. -/
def Quiet (s : RouteSystem) : Prop :=
  s.registrar = .idle ∧ (∀ arm ∈ s.arms, arm.stage = .rejected ∨ arm.stage = .ended) ∧
    (∀ purge ∈ s.purges, purge.started ∧ purge.orphaned = []) ∧
    ∀ upkeep ∈ s.upkeeps, upkeep = .sweeping [] none

instance (s : RouteSystem) : Decidable s.Quiet := by
  unfold Quiet
  infer_instance

/-- The tables as `NetworkManager` has them. -/
def network (s : RouteSystem) : NetworkManager := s.net.withRoutes s.reachableVia

lemma register_in_a_row (s : RouteSystem) (hidle : s.registrar = .idle) (g : Greeting)
    (now tie : Nat) :
    (run (step blake3 V) s
      [.register g now tie, .registerNext now, .registerNext now, .registerNext now]).network =
        s.network.registerPeer g.nodeId g.addr g.helloTs now tie ∧
    (run (step blake3 V) s
      [.register g now tie, .registerNext now, .registerNext now, .registerNext now]).registrar =
        .idle := by
  simp only [run_cons, run_nil, step, hidle]
  -- where the first step evicts nobody, there is nothing left to do
  have hdone : ∀ s' : RouteSystem, s'.registrar = .idle →
      (((s'.stepRegisterNext now).stepRegisterNext now).stepRegisterNext now).network = s'.network ∧
      (((s'.stepRegisterNext now).stepRegisterNext now).stepRegisterNext now).registrar = .idle := by
    intro s' h
    simp [stepRegisterNext, h]
  have hpeers : s.network.peers = s.net.peers := rfl
  have hmax : s.network.maxPeers = s.net.maxPeers := rfl
  have hevictable : s.network.evictable tie = s.net.evictable tie := rfl
  unfold stepRegister NetworkManager.registerPeer
  rw [hpeers, hmax, hevictable]
  rcases hlookup : s.net.peers.lookup g.nodeId with _ | existing
  · by_cases hfull : s.net.peers.entries.length ≥ s.net.maxPeers
    · simp only [if_pos hfull]
      rcases hvictim : s.net.evictable tie with _ | id
      · exact hdone s hidle
      have hevict := NetworkManager.evict_withRoutes s.net s.reachableVia id
      refine ⟨?_, rfl⟩
      show _ = (s.network.evict id).insertDiscovered g.nodeId g.addr g.helloTs now
      rw [network, network, hevict]
      rfl
    · simp only [if_neg hfull]
      exact hdone _ hidle
  · by_cases hold : g.helloTs ≤ existing.lastHelloTs
    · simp only [if_pos hold]
      exact hdone s hidle
    · simp only [if_neg hold]
      exact hdone _ hidle

end RouteSystem

/-! ## Routes -/

namespace RouteSystem

def RelaysKnown (s : RouteSystem) : Prop :=
  ∀ origin relay time, s.reachableVia.lookup origin = some (relay, time) →
    relay ∈ s.net.knownPeers

/-- Every relay is a known peer, or is being evicted and its routes are still to be purged. -/
def Sound (s : RouteSystem) : Prop :=
  ∀ origin relay time, s.reachableVia.lookup origin = some (relay, time) →
    relay ∈ s.net.knownPeers ∨ s.registrar.evicting = some relay

/-- When an arm notes its route, the sender is a known peer, or is being evicted and its routes are
still to be purged. -/
def RelayStands (s : RouteSystem) : RouteEvent → Prop
  | .arm t _ =>
    match s.arms[t]? with
    | some ⟨frame, .routing _ _⟩ => frame.header.senderId ∈ s.net.knownPeers ∨
        s.registrar.evicting = some frame.header.senderId
    | _ => True
  | _ => True

instance (s : RouteSystem) : (e : RouteEvent) → Decidable (s.RelayStands e)
  | .arm t _ => by
    unfold RelayStands
    simp only
    split
    · infer_instance
    · infer_instance
  | .connect .. | .register .. | .registerNext .. | .receive .. | .purge .. | .orphan .. |
    .maintain | .upkeep .. | .sweep .. => .isTrue trivial

variable {blake3 : List UInt8 → Digest} {V : Verify} {s s' : RouteSystem}

lemma Sound.mono (h : s.Sound)
    (hroutes : ∀ origin route, s'.reachableVia.lookup origin = some route →
      s.reachableVia.lookup origin = some route)
    (hknown : s.net.knownPeers ⊆ s'.net.knownPeers)
    (hevicting : s'.registrar.evicting = s.registrar.evicting) : s'.Sound := by
  intro origin relay time hroute
  rw [hevicting]
  exact (h origin relay time (hroutes origin _ hroute)).imp_left fun hmem => hknown hmem

lemma Sound.keep (h : s.Sound) (hnet : s'.net = s.net)
    (hroutes : s'.reachableVia = s.reachableVia) (hregistrar : s'.registrar = s.registrar) :
    s'.Sound := by
  apply h.mono
  · rw [hroutes]
    exact fun _ _ hroute => hroute
  · rw [hnet]
  · rw [hregistrar]

lemma Sound.stepRegister (h : s.Sound) (hidle : s.registrar = .idle) (g : Greeting)
    (now tie : Nat) : (s.stepRegister g now tie).Sound := by
  unfold RouteSystem.stepRegister
  split
  · split_ifs
    · exact h
    · exact h.mono (fun _ _ hroute => hroute) (Finset.Subset.refl _) rfl
  split_ifs
  · split
    · rename_i id _
      -- who is unlisted now is being evicted
      intro origin relay time hroute
      rcases h origin relay time hroute with hknown | hevicting
      · by_cases hrelay : relay = id
        · exact .inr (congrArg some hrelay.symm)
        · exact .inl (Finset.mem_erase.mpr ⟨hrelay, hknown⟩)
      · rw [hidle] at hevicting
        cases hevicting
    · exact h
  · exact h.mono (fun _ _ hroute => hroute) (Finset.subset_insert ..) rfl

lemma Sound.stepRegisterNext (h : s.Sound) (now : Nat) : (s.stepRegisterNext now).Sound := by
  unfold RouteSystem.stepRegisterNext
  split
  · exact h
  · rename_i id g hstage
    refine h.mono (fun _ _ hroute => hroute) (Finset.Subset.refl _) ?_
    rw [hstage]
    rfl
  · rename_i id g hstage
    intro origin relay time hroute
    obtain ⟨hkept, hroute⟩ := lookup_of_lookup_remove hroute
    rcases h origin relay time hroute with hknown | hevicting
    · exact .inl hknown
    -- the routes of the peer that was being evicted are purged
    rw [hstage] at hevicting
    cases hevicting
    exact absurd (mem_origins.mpr ⟨_, hroute, decide_eq_true rfl⟩) hkept
  · rename_i g hstage
    refine h.mono (fun _ _ hroute => hroute) (Finset.subset_insert ..) ?_
    rw [hstage]
    rfl

lemma Sound.stepArm (h : s.Sound) {t : Nat} {arm : Arm} (harm : s.arms[t]? = some arm)
    (reading : Reading) (hstands : s.RelayStands (.arm t reading)) :
    (s.stepArm blake3 V t arm reading).Sound := by
  unfold RouteSystem.stepArm
  simp only
  split
  · exact h.keep rfl rfl rfl
  · split
    · exact h.keep rfl rfl rfl
    · exact h.keep rfl rfl rfl
  · exact h.keep rfl rfl rfl
  · exact h.keep rfl rfl rfl
  · split
    · exact h.keep rfl rfl rfl
    · exact h.keep rfl rfl rfl
  · exact h.keep rfl rfl rfl
  · rename_i claim newCaps hstage
    intro origin relay time hroute
    by_cases horigin : origin = claim.origin
    · subst horigin
      simp only [setArm, AList.lookup_insert] at hroute
      obtain ⟨rfl, -⟩ := Prod.mk.inj (Option.some.inj hroute)
      obtain ⟨frame, stage⟩ := arm
      obtain rfl : stage = .routing claim newCaps := hstage
      simp only [RelayStands, harm] at hstands
      exact hstands
    · simp only [setArm, AList.lookup_insert_ne horigin] at hroute
      exact h origin relay time hroute
  · split_ifs
    · exact h.keep rfl rfl rfl
    · exact h
  · exact h
  · exact h

lemma Sound.stepUpkeep (h : s.Sound) (u : Nat) (upkeep : Upkeep) (now : Nat) :
    (s.stepUpkeep u upkeep now).Sound := by
  unfold RouteSystem.stepUpkeep
  split
  · exact h.keep rfl rfl rfl
  · exact h.keep rfl rfl rfl
  · exact h.keep rfl rfl rfl
  · exact h.mono (fun _ _ hroute => (lookup_of_lookup_remove hroute).2)
      (Finset.Subset.refl _) rfl
  · split_ifs
    · exact h.keep rfl rfl rfl
    · exact h
  · exact h

lemma Sound.stepSweep (h : s.Sound) (u : Nat) (stale : List NodeId) (unknown : Option NodeId)
    (origin : NodeId) : (s.stepSweep u stale unknown origin).Sound := by
  unfold RouteSystem.stepSweep
  split
  · split_ifs
    · exact h.keep rfl rfl rfl
    · exact h.keep rfl rfl rfl
    · exact h
  · exact h.keep rfl rfl rfl

lemma Sound.stepOrphan (h : s.Sound) (p : Nat) (purge : Purge) (origin : NodeId) :
    (s.stepOrphan p purge origin).Sound := by
  unfold RouteSystem.stepOrphan
  split_ifs
  · exact h.keep rfl rfl rfl
  · exact h.keep rfl rfl rfl
  · exact h

lemma Sound.step (h : s.Sound) {e : RouteEvent} (hstands : s.RelayStands e) :
    (s.step blake3 V e).Sound := by
  cases e with
  | connect g now =>
    simp only [RouteSystem.step]
    split
    · exact h.mono (fun _ _ hroute => hroute) (Finset.subset_insert ..) rfl
    · exact h
  | register g now tie =>
    simp only [RouteSystem.step]
    split
    · exact h.stepRegister ‹_› g now tie
    · exact h
  | registerNext now => exact h.stepRegisterNext now
  | receive frame => exact h.keep rfl rfl rfl
  | arm t reading =>
    simp only [RouteSystem.step]
    split
    · exact h.stepArm ‹_› reading hstands
    · exact h
  | purge p =>
    simp only [RouteSystem.step]
    split
    · split_ifs
      · exact h
      · exact h.keep rfl rfl rfl
    · exact h
  | orphan p origin =>
    simp only [RouteSystem.step]
    split
    · exact h.stepOrphan p _ origin
    · exact h
  | maintain => exact h.keep rfl rfl rfl
  | upkeep u now =>
    simp only [RouteSystem.step]
    split
    · exact h.stepUpkeep u _ now
    · exact h
  | sweep u origin =>
    simp only [RouteSystem.step]
    split
    · exact h.stepSweep u _ _ origin
    · exact h

end RouteSystem

/-- **Routes do not dangle**, whenever nothing is in flight, in every run in which an arm notes its
route only while the sender is a known peer, or is being evicted and its routes are still to be
purged. The sender was a known peer when the arm looked, which is earlier. -/
theorem routes_never_dangle (blake3 : List UInt8 → Digest) (V : Verify) (identity : Keypair)
    (secs maxPeers : Nat) (relay : Relay) (es : List RouteEvent)
    (hstands : Guarded (RouteSystem.step blake3 V) RouteSystem.RelayStands
      (.start identity secs maxPeers relay) es) :
    let s := run (RouteSystem.step blake3 V) (.start identity secs maxPeers relay) es
    s.Quiet → s.RelaysKnown := by
  intro s hquiet origin via time hroute
  have hsound : s.Sound := by
    apply run_invariant_of_guarded (fun _ _ h hstands => h.step hstands) _ hstands
    intro origin relay time hroute
    cases hroute
  rcases hsound origin via time hroute with hknown | hevicting
  · exact hknown
  · rw [hquiet.1] at hevicting
    cases hevicting

/-! ## Runs -/

def sampleRelayId : NodeId := ⟨Vector.replicate 32 2⟩

def sampleNewcomer : NodeId := ⟨Vector.replicate 32 3⟩

def receiverRelay : Relay := { idleRelay with localNodeId := sampleReceiver.nodeId }

/-- A node with room for one peer, whose wall clock reads a second of 2023. -/
def smallNode : RouteSystem :=
  .start sampleReceiver 1700000000 1 receiverRelay

/-- The wall clock reads `1700000000 + offset`, the monotonic clock as many seconds. -/
def readingAt (offset : Nat) : Reading :=
  ⟨1700000000 + UInt64.ofNat offset, fun _ => offset * 10 ^ 9⟩

def armSteps (t count offset : Nat) : List RouteEvent :=
  List.replicate count (.arm t (readingAt offset))

def greets (nodeId : NodeId) (host : UInt8) (offset : Nat) : List RouteEvent :=
  [.register ⟨nodeId, sampleAddr host, 1700000000 + UInt64.ofNat offset⟩ (offset * 10 ^ 9) 0,
    .registerNext (offset * 10 ^ 9), .registerNext (offset * 10 ^ 9),
    .registerNext (offset * 10 ^ 9)]

def relayed : List RouteEvent :=
  greets sampleRelayId 2 0 ++ [.receive (sampleFrame earlyClaim earlyClaimSignature)] ++
    armSteps 0 8 1

def relayedNode : RouteSystem :=
  run (RouteSystem.step sampleBlake3 sampleVerify) smallNode relayed

theorem relayed_routes_stand :
    relayedNode.reachableVia.lookup sampleOrigin = some (sampleRelayId, 10 ^ 9) ∧
      sampleRelayId ∈ relayedNode.net.knownPeers := by
  have hrun : Guarded (RouteSystem.step sampleBlake3 sampleVerify) RouteSystem.RelayStands
      smallNode relayed ∧ relayedNode.Quiet ∧
        relayedNode.reachableVia.lookup sampleOrigin = some (sampleRelayId, 10 ^ 9) := by
    decide +kernel
  -- from here on the events do not matter
  unfold relayedNode smallNode at hrun ⊢
  generalize relayed = es at hrun ⊢
  obtain ⟨hstands, hquiet, hroute⟩ := hrun
  exact ⟨hroute, routes_never_dangle sampleBlake3 sampleVerify sampleReceiver 1700000000 1
    receiverRelay es hstands hquiet _ _ _ hroute⟩

def relayedLate : List RouteEvent :=
  greets sampleRelayId 2 0 ++ [.receive (sampleFrame earlyClaim earlyClaimSignature)] ++
    armSteps 0 5 1 ++ greets sampleNewcomer 3 2 ++ [.purge 0] ++ armSteps 0 3 3

def danglingNode : RouteSystem :=
  run (RouteSystem.step sampleBlake3 sampleVerify) smallNode relayedLate

/-- **An evicted relay keeps its route**: the arm looked before the eviction and noted the route
after it. -/
theorem evicted_relay_keeps_route :
    danglingNode.Quiet ∧
      danglingNode.reachableVia.lookup sampleOrigin = some (sampleRelayId, 3 * 10 ^ 9) ∧
      sampleRelayId ∉ danglingNode.net.knownPeers ∧ ¬ danglingNode.RelaysKnown := by
  have hrun : danglingNode.Quiet ∧
      danglingNode.reachableVia.lookup sampleOrigin = some (sampleRelayId, 3 * 10 ^ 9) ∧
      sampleRelayId ∉ danglingNode.net.knownPeers := by
    decide +kernel
  generalize danglingNode = s at hrun ⊢
  obtain ⟨hquiet, hroute, hunknown⟩ := hrun
  exact ⟨hquiet, hroute, hunknown, fun h => hunknown (h _ _ _ hroute)⟩

end AxiomCore
