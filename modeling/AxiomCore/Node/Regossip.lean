import AxiomCore.Node.Registry

/-!
# How far announcements travel, and how they arrive

A node that accepts an announcement passes it on to its other peers: it builds the payload anew with
one hop less, signs the frame as the relay of this copy and encodes it. The hops are not signed by
the origin, so they are clamped before they are used.

Source: `forge-node/src/network.rs`.
-/

namespace AxiomCore

open Lib Encoder Decoder List Function

/-! ## One frame -/

/-- What an Announce datagram carries. Source: `axiom-codec/src/decoder.rs`, `Decoder::decode`;
`axiom-router/src/announce.rs`, `AnnouncePayload::decode`. -/
def announced (data : List UInt8) : Option AnnouncePayload :=
  match decode data with
  | .ok frame => AnnouncePayload.decode frame.payload
  | .error _ => none

/-- The frame that passes a payload on. Source: `axiom-router/src/announce.rs`,
`AnnouncementManager::process_announcement`. -/
def passedFrame (relay : NodeId) (trustLevel : TrustLevel) (clock : HybridClock)
    (payload : AnnouncePayload) : Frame :=
  Frame.new { FrameHeader.new .announce relay with trustLevel := trustLevel, clock := clock } .raw
    payload.encode

/-- `fwd` passes on the claim in `frame`, with one hop less than the clamped number. -/
def PassesOn (V : Verify) (frame fwd : Frame) : Prop :=
  ∃ (claim : Claim) (signature : Signature) (ttl : UInt8) (relay : NodeId) (clock : HybridClock),
    AnnouncePayload.decode frame.payload = some (claim.payload signature ttl) ∧
    V claim.origin claim.signingBytes signature ∧ 0 < ttl ∧
    fwd = passedFrame relay frame.header.trustLevel clock
      (claim.payload signature (min ttl maxAcceptedAnnounceTtl - 1))

/-- What is sent to the other peers. -/
def regossipBytes (identity : Keypair) (fwd : Frame) : Option (List UInt8) :=
  match FrameSigner.sign identity fwd with
  | .error _ => none
  | .ok fwd =>
    let wireSize := fwd.wireSize
    let buffer := List.replicate (wireSize + 32) 0
    match encode fwd buffer with
    | .ok (size, buffer) => some (buffer.take size)
    | .error _ => none

variable {frame fwd : Frame} {V : Verify} {identity : Keypair} {bytes : List UInt8}

variable {m : AnnouncementManager} {payload : AnnouncePayload} {secs : Nat}

lemma forwardFrame_eq_some
    (h : (m.forwardFrame frame payload secs).1 = some fwd) :
    0 < payload.ttl ∧ ∃ clock, fwd = passedFrame m.identity.nodeId frame.header.trustLevel clock
      { payload with ttl := min payload.ttl maxAcceptedAnnounceTtl - 1 } := by
  unfold AnnouncementManager.forwardFrame at h
  by_cases httl : min payload.ttl maxAcceptedAnnounceTtl > 0
  · rw [if_pos httl] at h
    refine ⟨UInt8.pos_iff_ne_zero.mpr fun hzero => ?_, _, (Option.some.inj h).symm⟩
    rw [hzero] at httl
    exact absurd httl (by decide)
  · rw [if_neg httl] at h
    cases h

lemma passesOn_of_processAnnouncement
    {instants : Nat → Nat} {newCaps : List AnnouncedCapability}
    (h : (m.processAnnouncement V frame secs instants).1 = some (newCaps, some fwd)) :
    PassesOn V frame fwd := by
  unfold AnnouncementManager.processAnnouncement at h
  split at h
  · cases h
  next payload hdecode =>
  split at h
  next origin originClock signature horigin hclock hsignature =>
    obtain ⟨ttl, capabilities, origin', originClock', signature'⟩ := payload
    obtain ⟨rfl, rfl, rfl⟩ : origin' = some origin ∧ originClock' = some originClock ∧
      signature' = some signature := ⟨horigin, hclock, hsignature⟩
    dsimp only at h
    split_ifs at h with hV hskew hown hfresh
    obtain ⟨httl, clock, rfl⟩ :=
      forwardFrame_eq_some (congrArg Prod.snd (Option.some.inj h))
    exact ⟨⟨origin, originClock, capabilities⟩, signature, ttl, _, clock, hdecode, hV, httl, rfl⟩
  · cases h

/-! ### On the wire -/

/-- The frame as it is read again: seconds that do not fit have lost their upper bits. Source:
`axiom-types/src/clock.rs`, `HybridClock::to_bytes`. -/
def Frame.onWire (frame : Frame) : Frame :=
  { frame with
    header := { frame.header with clock := .fromBytes frame.header.clock.toBytes } }

lemma wireBytes_onWire (frame : Frame) : frame.onWire.wireBytes = frame.wireBytes := by
  have hclock : (HybridClock.fromBytes frame.header.clock.toBytes).toBytes =
      frame.header.clock.toBytes := HybridClock.toBytes_fromBytes (by simp)
  simp only [Frame.onWire, Frame.wireBytes, Frame.bodyBytes, fixedHeaderBytes, hclock]
  rfl

lemma regossipBytes_eq_some
    (h : regossipBytes identity fwd = some bytes) :
    ∃ signed, FrameSigner.sign identity fwd = .ok signed ∧
      signed.payload.length ≤ maxPayloadSize ∧ bytes = signed.wireBytes := by
  unfold regossipBytes at h
  split at h
  · cases h
  next signed hsign =>
    refine ⟨signed, hsign, ?_⟩
    dsimp only at h
    rw [encode_eq, if_neg (by simp)] at h
    by_cases hfits : signed.payload.length > maxPayloadSize
    · rw [if_pos hfits] at h
      cases h
    rw [if_neg hfits] at h
    cases h
    refine ⟨not_lt.mp hfits, ?_⟩
    simp only [← length_wireBytes, take_left]

lemma announced_regossipBytes {relay : NodeId} {trustLevel : TrustLevel}
    {clock : HybridClock}
    (hpayload : payload.Encodable)
    (h : regossipBytes identity (passedFrame relay trustLevel clock payload) = some bytes) :
    announced bytes = some payload := by
  obtain ⟨signed, hsign, hfits, rfl⟩ := regossipBytes_eq_some h
  -- only the two levels with a signature can be signed
  have hsigned : trustLevel.prescribes signed.auth ∧
      signed = { passedFrame relay trustLevel clock payload with auth := signed.auth } := by
    unfold FrameSigner.sign at hsign
    rcases trustLevel with _ | _ | _ | _
    all_goals cases hsign
    all_goals exact ⟨rfl, rfl⟩
  obtain ⟨hauth, hsigned⟩ := hsigned
  generalize signed.auth = auth at hauth hsigned
  subst hsigned
  have hlength : (UInt32.ofNat payload.encode.length).toNat = payload.encode.length := by
    have hmax : maxPayloadSize < UInt32.size := by decide
    exact UInt32.toNat_ofNat_of_lt' (lt_of_le_of_lt hfits hmax)
  have hflags : (0 : UInt8).toNat < 16 := by decide
  have hwf : ({ passedFrame relay trustLevel clock payload with auth := auth } :
      Frame).onWire.WellFormed :=
    ⟨⟨rfl, HybridClock.physical_fromBytes_lt, trivial⟩,
      ⟨trivial, hlength.trans_le hfits, hflags⟩, hlength, rfl, hauth⟩
  have hdecode := decode_wireBytes hwf []
  rw [append_nil, wireBytes_onWire] at hdecode
  rw [announced, hdecode]
  exact AnnouncePayload.decode_encode hpayload

lemma PassesOn.announced {data : List UInt8}
    (h : PassesOn V frame fwd) (hframe : decodeVerifiedFrame V data = some frame)
    (hbytes : regossipBytes identity fwd = some bytes) :
    ∃ (claim : Claim) (signature : Signature) (ttl : UInt8),
      AxiomCore.announced data = some (claim.payload signature ttl) ∧
      V claim.origin claim.signingBytes signature ∧ 0 < ttl ∧
      AxiomCore.announced bytes =
        some (claim.payload signature (min ttl maxAcceptedAnnounceTtl - 1)) := by
  obtain ⟨claim, signature, ttl, relay, clock, hpayload, hV, httl, rfl⟩ := h
  have hencodable := AnnouncePayload.encodable_of_decode hpayload
  refine ⟨claim, signature, ttl, ?_, hV, httl, announced_regossipBytes ?_ hbytes⟩
  · rw [AxiomCore.announced, (decodeVerifiedFrame_eq_some_iff.mp hframe).1]
    exact hpayload
  · exact ⟨hencodable.count, hencodable.clock, rfl, fun _ => rfl⟩

/-! ## A node -/

structure Regossip where
  /-- The datagram whose announcement was accepted. -/
  received : List UInt8
  sent : List UInt8
  targets : List SocketAddr
  deriving DecidableEq

/-- The copy that was sent carries what the accepted one carries, with one hop less than the clamped
number. -/
def Regossip.Intact (V : Verify) (r : Regossip) : Prop :=
  ∃ (claim : Claim) (signature : Signature) (ttl : UInt8),
    announced r.received = some (claim.payload signature ttl) ∧
    V claim.origin claim.signingBytes signature ∧ 0 < ttl ∧
    announced r.sent = some (claim.payload signature (min ttl maxAcceptedAnnounceTtl - 1))

/-- The tables and tasks of a node, with what its Announce arms pass on. -/
structure RegossipNode where
  routes : RouteSystem
  data : List (List UInt8)
  /-- The frames that the manager built, by arm. -/
  forwards : Nat → Option Frame
  log : List Regossip

inductive RegossipEvent where
  | receive (data : List UInt8) (addr : SocketAddr) (relay : Relay) (now : Nat)
  | task (e : RouteEvent)
  /-- An arm that is through with the registry passes the announcement on. -/
  | regossip (t : Nat)

namespace RegossipNode

def start (identity : Keypair) (secs maxPeers : Nat) (relay : Relay) : RegossipNode :=
  ⟨.start identity secs maxPeers relay, [], fun _ => none, []⟩

def forwarded (V : Verify) (routes : RouteSystem) (t : Nat) (reading : Reading) : Option Frame :=
  match routes.arms[t]? with
  | some ⟨frame, .limited _⟩ =>
    match (routes.manager.processAnnouncement V frame reading.secs.toNat reading.instants).1 with
    | some (_, forward) => forward
    | none => none
  | _ => none

def note (forwards : Nat → Option Frame) (t : Nat) : Option Frame → Nat → Option Frame
  | some fwd => update forwards t (some fwd)
  | none => forwards

def receive (blake3 : List UInt8 → Digest) (V : Verify) (n : RegossipNode) (data : List UInt8)
    (addr : SocketAddr) (relay : Relay) (now : Nat) : RegossipNode :=
  match decodeVerifiedFrame V data with
  | none => n
  | some frame =>
    match (relay.tryForwardRoutedFrame frame addr now).1, frame.header.frameType with
    | .notConsumed, .announce =>
      { n with
        routes := n.routes.step blake3 V (.receive frame)
        data := n.data ++ [data] }
    | _, _ => n

/-- A task goes on. Frames arrive as datagrams only. -/
def task (blake3 : List UInt8 → Digest) (V : Verify) (n : RegossipNode) : RouteEvent → RegossipNode
  | .receive _ => n
  | .arm t reading =>
    { n with
      routes := n.routes.step blake3 V (.arm t reading)
      forwards := note n.forwards t (forwarded V n.routes t reading) }
  | e => { n with routes := n.routes.step blake3 V e }

def targets (n : RegossipNode) (sender : NodeId) : List SocketAddr :=
  (n.routes.net.relay.peerAddrs.entries.filter fun entry => entry.1 ≠ sender).map (·.2)

def regossip (n : RegossipNode) (t : Nat) : RegossipNode :=
  match n.routes.arms[t]?, n.data[t]?, n.forwards t with
  | some ⟨frame, .ended⟩, some data, some fwd =>
    { n with
      forwards := update n.forwards t none
      log := n.log ++ match regossipBytes n.routes.manager.identity fwd with
        | some bytes => [⟨data, bytes, n.targets frame.header.senderId⟩]
        | none => [] }
  | _, _, _ => n

def step (blake3 : List UInt8 → Digest) (V : Verify) (n : RegossipNode) :
    RegossipEvent → RegossipNode
  | .receive data addr relay now => n.receive blake3 V data addr relay now
  | .task e => n.task blake3 V e
  | .regossip t => n.regossip t

/-! ### What every step keeps -/

/-- Arms have the frames of their datagrams, what the manager built for them passes these on, and so
did what was sent. -/
structure Faithful (V : Verify) (n : RegossipNode) : Prop where
  /-- Every arm has the frame of its datagram. -/
  arrived : n.data.map (decodeVerifiedFrame V) = n.routes.arms.map fun arm => some arm.frame
  /-- What the manager built passes the arm's frame on. -/
  built : ∀ t fwd, n.forwards t = some fwd →
    ∃ arm, n.routes.arms[t]? = some arm ∧ PassesOn V arm.frame fwd
  intact : ∀ r ∈ n.log, r.Intact V

section Steps

variable {blake3 : List UInt8 → Digest} {V : Verify} {n : RegossipNode}

lemma frames_step (blake3 : List UInt8 → Digest) (V : Verify) (s : RouteSystem) {e : RouteEvent}
    (hreceive : ∀ frame, e ≠ .receive frame) :
    ((s.step blake3 V e).arms.map fun arm => some arm.frame) =
      s.arms.map fun arm => some arm.frame := by
  rcases arms_step_cases blake3 V s e with
    hsame | ⟨frame, he, -⟩ | ⟨t, reading, arm, stage, -, harm, hset, -⟩
  · rw [hsame]
  · exact absurd he (hreceive frame)
  rw [hset, map_set]
  obtain ⟨hlt, rfl⟩ := List.getElem?_eq_some_iff.mp harm
  have hself := set_getElem_self
    (by rwa [length_map] : t < (s.arms.map fun arm => some arm.frame).length)
  rwa [getElem_map] at hself

lemma passesOn_forwarded {routes : RouteSystem} {t : Nat} {reading : Reading} {fwd : Frame}
    (h : forwarded V routes t reading = some fwd) :
    ∃ arm, routes.arms[t]? = some arm ∧ PassesOn V arm.frame fwd := by
  unfold forwarded at h
  split at h
  next frame claim harm =>
    refine ⟨_, harm, ?_⟩
    split at h
    next newCaps forward hprocess =>
      subst h
      exact passesOn_of_processAnnouncement hprocess
    · cases h
  · cases h

namespace Faithful

lemma start (V : Verify) (identity : Keypair) (secs maxPeers : Nat) (relay : Relay) :
    Faithful V (.start identity secs maxPeers relay) := by
  refine ⟨rfl, fun t fwd h => ?_, fun r h => ?_⟩
  · rw [RegossipNode.start] at h
    cases h
  · rw [RegossipNode.start] at h
    cases h

lemma receive (h : n.Faithful V) (data : List UInt8) (addr : SocketAddr) (relay : Relay)
    (now : Nat) : (n.receive blake3 V data addr relay now).Faithful V := by
  unfold RegossipNode.receive
  split
  · exact h
  next frame hframe =>
    split
    · refine ⟨?_, fun t fwd hfwd => ?_, h.intact⟩
      · simp only [map_append, h.arrived, RouteSystem.step, map_cons, map_nil, hframe]
      · obtain ⟨arm, harm, hpasses⟩ := h.built t fwd hfwd
        exact ⟨arm, getElem?_concat_of_some harm, hpasses⟩
    · exact h

lemma keep (h : n.Faithful V) {routes : RouteSystem} {forwards : Nat → Option Frame}
    (hframes : (routes.arms.map fun arm => some arm.frame) =
      n.routes.arms.map fun arm => some arm.frame)
    (hforwards : ∀ t fwd, forwards t = some fwd → n.forwards t = some fwd ∨
      ∃ arm, n.routes.arms[t]? = some arm ∧ PassesOn V arm.frame fwd) :
    Faithful V { n with routes := routes, forwards := forwards } where
  arrived := h.arrived.trans hframes.symm
  built t fwd hfwd := by
    obtain ⟨arm, harm, hpasses⟩ := (hforwards t fwd hfwd).elim (h.built t fwd) id
    -- the frame of the arm is still at its place
    have hat := congrArg (·[t]?) hframes
    simp only [getElem?_map, harm, Option.map_some, Option.map_eq_some_iff,
      Option.some.injEq] at hat
    obtain ⟨arm', harm', hframe⟩ := hat
    exact ⟨arm', harm', hframe ▸ hpasses⟩
  intact := h.intact

lemma task (h : n.Faithful V) (e : RouteEvent) : (n.task blake3 V e).Faithful V := by
  by_cases hreceive : ∃ frame, e = .receive frame
  · obtain ⟨frame, rfl⟩ := hreceive
    exact h
  have hframes := frames_step blake3 V n.routes (not_exists.mp hreceive)
  by_cases harm : ∃ t reading, e = .arm t reading
  · obtain ⟨t, reading, rfl⟩ := harm
    refine h.keep hframes fun u fwd hfwd => ?_
    rcases hbuilt : forwarded V n.routes t reading with _ | built
    · rw [hbuilt] at hfwd
      exact .inl hfwd
    rw [hbuilt, note] at hfwd
    by_cases hu : u = t
    · subst hu
      rw [update_self] at hfwd
      cases hfwd
      exact .inr (passesOn_forwarded hbuilt)
    · rw [update_of_ne hu] at hfwd
      exact .inl hfwd
  · have hkeep := h.keep hframes fun t fwd hfwd => .inl hfwd
    cases e with
    | receive frame => exact absurd ⟨frame, rfl⟩ hreceive
    | arm t reading => exact absurd ⟨t, reading, rfl⟩ harm
    | connect | register | registerNext | purge | orphan | maintain | upkeep | sweep =>
      exact hkeep

lemma regossip (h : n.Faithful V) (t : Nat) : (n.regossip t).Faithful V := by
  unfold RegossipNode.regossip
  split
  next frame data fwd harm hdata hfwd =>
    have hat := congrArg (·[t]?) h.arrived
    simp only [getElem?_map, hdata, harm, Option.map_some, Option.some.injEq] at hat
    obtain ⟨arm, harm', hpasses⟩ := h.built t fwd hfwd
    cases harm.symm.trans harm'
    refine ⟨h.arrived, fun u fwd' hfwd' => ?_, fun r hr => ?_⟩
    · dsimp only at hfwd'
      by_cases hu : u = t
      · subst hu
        simp at hfwd'
      · rw [update_of_ne hu] at hfwd'
        exact h.built u fwd' hfwd'
    · rcases mem_append.mp hr with hr | hr
      · exact h.intact r hr
      split at hr
      next bytes hbytes =>
        obtain rfl := mem_singleton.mp hr
        exact hpasses.announced hat hbytes
      · cases hr
  · exact h

lemma step (h : n.Faithful V) (e : RegossipEvent) : (n.step blake3 V e).Faithful V := by
  cases e with
  | receive data addr relay now => exact h.receive data addr relay now
  | task e => exact h.task e
  | regossip t => exact h.regossip t

end Faithful

end Steps

end RegossipNode

/-! ## Networks -/

/-- Nodes that pass a copy on in a row: each one received what the one before sent. -/
def RegossipPath {ι : Type*} (net : ι → RegossipNode) (path : List (ι × Regossip)) : Prop :=
  (∀ hop ∈ path, hop.2 ∈ (net hop.1).log) ∧
    path.IsChain fun hop next => next.2.received = hop.2.sent

lemma clamped_ttl_lt {ttl : UInt8} (h : 0 < ttl) :
    (min (min ttl maxAcceptedAnnounceTtl - 1) maxAcceptedAnnounceTtl).toNat <
      (min ttl maxAcceptedAnnounceTtl).toNat := by
  revert ttl
  decide +kernel

lemma length_le_of_intact {ι : Type*} {path : List (ι × Regossip)}
    (hintact : ∀ hop ∈ path, hop.2.Intact V)
    (hchain : path.IsChain fun hop next => next.2.received = hop.2.sent) (payload : AnnouncePayload)
    (hpayload : ∀ first, path.head? = some first → announced first.2.received = some payload) :
    path.length ≤ (min payload.ttl maxAcceptedAnnounceTtl).toNat := by
  induction path generalizing payload with
  | nil => exact Nat.zero_le _
  | cons hop path ih =>
    obtain ⟨claim, signature, ttl, hreceived, -, httl, hsent⟩ := hintact hop mem_cons_self
    obtain rfl : payload = claim.payload signature ttl :=
      Option.some.inj ((hpayload hop rfl).symm.trans hreceived)
    have hrest := ih (fun next hnext => hintact next (mem_cons_of_mem _ hnext)) hchain.tail
      (claim.payload signature (min ttl maxAcceptedAnnounceTtl - 1)) fun next hnext => by
        rw [← hsent]
        exact congrArg announced (hchain.rel_head? (by simpa using hnext))
    exact Nat.succ_le_of_lt (hrest.trans_lt (clamped_ttl_lt httl))

/-- **Announcements stay intact and do not travel far.** For any number of nodes that run the
Announce arm, any interleaving, and arbitrary datagrams from anyone else: a copy that a node passes
on carries the origin, the origin's clock, the capabilities and the origin's signature of the copy
that it accepted; and nodes that pass on each what the one before sent are at most
`maxRouteIndirection` in a row, whatever number of hops the copy came with. -/
theorem gossip_intact_and_bounded {ι : Type*} [DecidableEq ι] (blake3 : List UInt8 → Digest)
    (V : Verify) (identity : ι → Keypair) (secs maxPeers : ι → Nat) (relay : ι → Relay)
    (es : List (ι × RegossipEvent)) :
    (∀ i, ∀ r ∈ (run (stepAt (RegossipNode.step blake3 V))
        (fun i => .start (identity i) (secs i) (maxPeers i) (relay i)) es i).log, r.Intact V) ∧
    ∀ path : List (ι × Regossip),
      RegossipPath (run (stepAt (RegossipNode.step blake3 V))
        (fun i => .start (identity i) (secs i) (maxPeers i) (relay i)) es) path →
      path.length ≤ maxRouteIndirection.toNat := by
  have hintact : ∀ i, ∀ r ∈ (run (stepAt (RegossipNode.step blake3 V))
      (fun i => .start (identity i) (secs i) (maxPeers i) (relay i)) es i).log, r.Intact V := by
    intro i
    rw [run_stepAt]
    have hfaithful : RegossipNode.Faithful V (run (RegossipNode.step blake3 V)
        (.start (identity i) (secs i) (maxPeers i) (relay i)) (eventsAt i es)) :=
      run_invariant (fun n e h => h.step e)
        (RegossipNode.Faithful.start V (identity i) (secs i) (maxPeers i) (relay i)) _
    exact hfaithful.intact
  refine ⟨hintact, fun path hpath => ?_⟩
  cases path with
  | nil => exact Nat.zero_le _
  | cons first path =>
    obtain ⟨claim, signature, ttl, hreceived, -⟩ :=
      hintact _ _ (hpath.1 first mem_cons_self)
    have hlength := length_le_of_intact (fun hop hhop => hintact _ _ (hpath.1 hop hhop)) hpath.2
      _ fun _ hfirst => Option.some.inj hfirst ▸ hreceived
    have hclamped : ∀ ttl : UInt8, (min ttl maxAcceptedAnnounceTtl).toNat ≤ 2 := by
      decide +kernel
    exact hlength.trans (hclamped ttl)

/-! ### Two relays in a row -/

/-- The origin's announcement, from a relay that has set the hops to 255, not yet signed. -/
def rewrittenCopy : Frame :=
  .new (.new .announce sampleProvider) .raw (earlyClaim.payload earlyClaimSignature 255).encode

def rewrittenCopySignature : Signature :=
  ⟨hex 64 (0x41255a4718097a50306b99b8f5579f2db4f97dc60e26a58cabf1c9d270bb44a3 <<< 256 +
    0x2f067b389d5a2dc89c6791f7a30e040d88ecd9b63e802ed4abf120f6325f6608)⟩

/-- The public keys of the seeds 2, 3, …, 33 and 3, 4, …, 34. -/
def relayKey : Bool → NodeId
  | false => samplePasser
  | true =>
    ⟨hex 32 0x481ede772da15785c9e59a086201b8c3f9c307129e3fc6d7f34aa4dfed5814e5⟩

def relayCopy : Bool → Frame
  | false => passedFrame (relayKey false) .full ⟨1700000000, 1⟩
      (earlyClaim.payload earlyClaimSignature 1)
  | true => passedFrame (relayKey true) .full ⟨1700000000, 3⟩
      (earlyClaim.payload earlyClaimSignature 0)

def relayCopySignature : Bool → Signature
  | false =>
    ⟨hex 64 (0x08b27fe5fecbe71b28fff42b063d3e89980a1ad8126e44acff92e5744cef5d15 <<< 256 +
      0x824785ddf6afb641d591a2869e1db77b63e044021fe572516731ca0da0374600)⟩
  | true =>
    ⟨hex 64 (0x7bce2f745c2637424b2106a7d588e4c48f9920f05cdb1060c9230766213df908 <<< 256 +
      0xb6c8357b90d162940b53a6b9a0b2b8e8d2bdaad609b1d9416bb7ae6578cc800e)⟩

def relayKeypair (node : Bool) : Keypair where
  nodeId := relayKey node
  sign message :=
    if message = signatureData (relayCopy node) then relayCopySignature node
    else ⟨Vector.replicate 64 0⟩

/-- Ed25519 verification, on what is signed here. -/
def relayVerify : Verify := fun node message signature =>
  sampleVerify node message signature ||
    (node = sampleProvider && message = signatureData rewrittenCopy &&
      signature = rewrittenCopySignature) ||
    (node = relayKey false && message = signatureData (relayCopy false) &&
      signature = relayCopySignature false)

/-- The datagrams that the two relays receive, and the one that the second sends. -/
def relayData : Fin 3 → List UInt8
  | 0 => { rewrittenCopy with auth := .signature rewrittenCopySignature : Frame }.wireBytes
  | 1 => { relayCopy false with auth := .signature (relayCopySignature false) : Frame }.wireBytes
  | 2 => { relayCopy true with auth := .signature (relayCopySignature true) : Frame }.wireBytes

def relays (peer : NodeId) (data : List UInt8) : List RegossipEvent :=
  [.task (.connect ⟨peer, sampleAddr 1, 1700000000⟩ 0),
    .receive data (sampleAddr 1) idleRelay 0] ++ (armSteps 0 8 1).map .task ++ [.regossip 0]

instance neZero_three : NeZero 3 := ⟨by decide⟩

def relaysInARow : List (Bool × RegossipEvent) :=
  (relays sampleProvider (relayData 0)).map (Prod.mk false) ++
    (relays (relayKey false) (relayData 1)).map (Prod.mk true)

def relaysAfter : Bool → RegossipNode :=
  run (stepAt (RegossipNode.step sampleBlake3 relayVerify))
    (fun node => .start (relayKeypair node) 1700000000 2 idleRelay) relaysInARow

lemma relays_log :
    (relaysAfter false).log = [⟨relayData 0, relayData 1, []⟩] ∧
      (relaysAfter true).log = [⟨relayData 1, relayData 2, []⟩] := by
  decide +kernel

/-- **The bound is attained**: the copy comes with 255 hops, and two relays pass it on. -/
theorem relays_in_a_row_bounded :
    ∃ path : List (Bool × Regossip), RegossipPath relaysAfter path ∧ path.length = 2 ∧
      (∀ hop ∈ path, hop.2.Intact relayVerify) ∧ path.length ≤ maxRouteIndirection.toNat := by
  obtain ⟨hfirst, hsecond⟩ := relays_log
  obtain ⟨hintact, hbound⟩ := gossip_intact_and_bounded sampleBlake3 relayVerify relayKeypair
    (fun _ => 1700000000) (fun _ => 2) (fun _ => idleRelay) relaysInARow
  unfold relaysAfter at *
  generalize run (stepAt (RegossipNode.step sampleBlake3 relayVerify)) _ relaysInARow = net at *
  have hpath : RegossipPath net
      [(false, ⟨relayData 0, relayData 1, []⟩), (true, ⟨relayData 1, relayData 2, []⟩)] := by
    refine ⟨?_, .cons_cons rfl (.singleton _)⟩
    intro hop hhop
    rcases mem_pair.mp hhop with rfl | rfl
    · exact hfirst ▸ mem_singleton_self _
    · exact hsecond ▸ mem_singleton_self _
  exact ⟨_, hpath, rfl, fun hop hhop => hintact _ _ (hpath.1 hop hhop), hbound _ hpath⟩

end AxiomCore
