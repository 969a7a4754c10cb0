import Mathlib.Data.List.AList
import AxiomCore.Crypto.FrameSign
import AxiomCore.Lib.FifoSet

/-!
# Forwarding routed frames

A frame with a routing extension is for its destination; every other node that receives it is a
relay. `try_forward_routed_frame` checks where the frame came from, drops what was recorded before,
looks up the next hop in three tables, and sends the frame on with one hop less.

`Relay` is what the function reads and writes, `tryForwardRoutedFrame` the function: what it does
with the frame, and the relay afterwards. `Routed` says for each outcome when it occurs;
`routed_tryForwardRoutedFrame` connects the two, and later proofs use only this.

`relay_transparency`: as long as hops are left, a relay can send a verified frame on, and what it
sends verifies and is the same frame up to the hop count.

A handler runs to its end before the next frame is handled. A send that fails is a frame that is
lost.

Source: `forge-node/src/network.rs`.
-/

namespace AxiomCore

open Lib Encoder Decoder AxiomCore.Frame FrameVerifier

/-! ## Constants -/

def defaultRoutingTtl : UInt8 := 8

def forwardDedupCapacity : Nat := 4096

def reverseRoutesCapacity : Nat := 65536

/-! ## Receiving -/

def decodeVerifiedFrame (V : Verify) (data : List UInt8) : Option Frame :=
  match decode data with
  | .ok frame =>
    match FrameVerifier.verify V frame with
    | .ok true => some frame
    | .ok false => none
    | .error _ => none
  | .error _ => none

variable {V : Verify} {data : List UInt8} {frame : Frame} {routing : RoutingExt} {r : Relay}
  {addr : SocketAddr} {traceId : TraceId}

lemma decodeVerifiedFrame_eq_some_iff :
    decodeVerifiedFrame V data = some frame ↔
      decode data = .ok frame ∧ FrameVerifier.verify V frame = .ok true := by
  unfold decodeVerifiedFrame
  constructor
  · intro h
    split at h
    · rename_i decoded hdecode
      split at h
      · rename_i hverify
        cases h
        exact ⟨hdecode, hverify⟩
      all_goals cases h
    · cases h
  · rintro ⟨hdecode, hverify⟩
    simp only [hdecode, hverify]

/-! ## The relay -/

abbrev ForwardedFrameCache := FifoSet (TraceId × FrameType) forwardDedupCapacity

/-- What `try_forward_routed_frame` reads and writes of a node. Times are in nanoseconds. -/
structure Relay where
  localNodeId : NodeId
  peerAddrs : AList fun _ : NodeId => SocketAddr
  forwardedFrames : ForwardedFrameCache
  /-- For an origin, the direct peer it was heard of from, and when. -/
  reachableVia : NodeId → Option (NodeId × Nat)
  /-- For a request, where it came from, and when. -/
  reverseRoutes : AList fun _ : TraceId => SocketAddr × Nat

inductive Forwarding where
  /-- Not routed, or for this node: the caller handles it. -/
  | notConsumed
  /-- The relay source is not a known peer. -/
  | unknownSource
  /-- No trace id, can't dedup safely. -/
  | noTraceId
  | duplicate
  | ttlExhausted
  | noRoute
  /-- The next hop is the frame's own arrival source. -/
  | bounced
  | notEncoded (error : Fault CodecError)
  | forwarded (nextHop : SocketAddr) (data : List UInt8)
  deriving DecidableEq

namespace Relay

def knowsAddr (r : Relay) (addr : SocketAddr) : Bool :=
  r.peerAddrs.entries.any fun entry => entry.2 = addr

/-- `next_hop_addr`: a direct peer; else, for a reply, where the request came from; else the peer
that the destination was heard of from. -/
def nextHop (r : Relay) (frameType : FrameType) (traceId : TraceId) (destination : NodeId) :
    Option SocketAddr :=
  let directHit := r.peerAddrs.lookup destination
  let breadcrumb :=
    if frameType = .fulfill ∨ frameType = .error then
      (r.reverseRoutes.lookup traceId).map fun (upstreamAddr, _) => upstreamAddr
    else none
  directHit.or (breadcrumb.or
    ((r.reachableVia destination).bind fun (relay, _) => r.peerAddrs.lookup relay))

def record (r : Relay) (dedupKey : TraceId × FrameType) : Relay :=
  { r with forwardedFrames := r.forwardedFrames.insert dedupKey }

/-- Remember where a request came from: the first write wins, and there is a limit. -/
def leaveBreadcrumb (r : Relay) (frameType : FrameType) (traceId : TraceId) (addr : SocketAddr)
    (now : Nat) : Relay :=
  if frameType = .intent then
    if r.reverseRoutes.entries.length < reverseRoutesCapacity ∨ traceId ∈ r.reverseRoutes then
      if traceId ∈ r.reverseRoutes then r
      else { r with reverseRoutes := r.reverseRoutes.insert traceId (addr, now) }
    else r
  else r

def reencode (frame : Frame) (routing : RoutingExt) : Checked CodecError (List UInt8) := do
  let newTtl := routing.ttl - 1
  let forwarded := { frame with routing := some { routing with ttl := newTtl } }
  let buffer := List.replicate (forwarded.wireSize + 32) 0
  let (size, buffer) ← encode forwarded buffer
  .ok (buffer.take size)

/-- `try_forward_routed_frame`; it returns `true` unless the outcome is `notConsumed`. -/
def tryForwardRoutedFrame (r : Relay) (frame : Frame) (addr : SocketAddr) (now : Nat) :
    Forwarding × Relay :=
  match frame.routing with
  | none => (.notConsumed, r)
  | some routing =>
    if routing.destination = r.localNodeId then (.notConsumed, r)
    else if !r.knowsAddr addr then (.unknownSource, r)
    else
      match frame.traceId with
      | none => (.noTraceId, r)
      | some traceId =>
        let dedupKey := (traceId, frame.header.frameType)
        if dedupKey ∈ r.forwardedFrames then (.duplicate, r)
        else
          let r := r.record dedupKey
          if routing.ttl = 0 then (.ttlExhausted, r)
          else
            match r.nextHop frame.header.frameType traceId routing.destination with
            | none => (.noRoute, r)
            | some nextHopAddr =>
              if nextHopAddr = addr then (.bounced, r)
              else
                let r := r.leaveBreadcrumb frame.header.frameType traceId addr now
                match reencode frame routing with
                | .ok data => (.forwarded nextHopAddr data, r)
                | .error error => (.notEncoded error, r)

lemma knowsAddr_of_lookup {r : Relay} {node : NodeId} {addr : SocketAddr}
    (h : r.peerAddrs.lookup node = some addr) : r.knowsAddr addr := by
  refine List.any_eq_true.mpr ⟨⟨node, addr⟩, AList.mem_lookup_iff.mp h, ?_⟩
  simp

lemma leaveBreadcrumb_fields (r : Relay) (frameType : FrameType) (traceId : TraceId)
    (addr : SocketAddr) (now : Nat) :
    (r.leaveBreadcrumb frameType traceId addr now).localNodeId = r.localNodeId ∧
      (r.leaveBreadcrumb frameType traceId addr now).peerAddrs = r.peerAddrs ∧
      (r.leaveBreadcrumb frameType traceId addr now).forwardedFrames = r.forwardedFrames := by
  unfold leaveBreadcrumb
  split_ifs <;> exact ⟨rfl, rfl, rfl⟩

/-! ## Routes -/

/-- The tables lead to an address: that of a direct peer, else the one a reply's request came from,
else that of the peer that the destination was heard of from. -/
inductive RoutesTo (r : Relay) (frameType : FrameType) (traceId : TraceId) (destination : NodeId)
    (addr : SocketAddr) : Prop where
  | direct (hdirect : r.peerAddrs.lookup destination = some addr)
  | breadcrumb {time : Nat} (hdirect : r.peerAddrs.lookup destination = none)
      (hreply : frameType = .fulfill ∨ frameType = .error)
      (htrace : r.reverseRoutes.lookup traceId = some (addr, time))
  | gossip {relay : NodeId} {time : Nat} (hdirect : r.peerAddrs.lookup destination = none)
      (htrace : frameType = .fulfill ∨ frameType = .error → r.reverseRoutes.lookup traceId = none)
      (hvia : r.reachableVia destination = some (relay, time))
      (hrelay : r.peerAddrs.lookup relay = some addr)

variable {destination : NodeId}

lemma nextHop_eq_some_iff {r : Relay} {frameType : FrameType} {traceId : TraceId}
    {addr : SocketAddr} :
    r.nextHop frameType traceId destination = some addr ↔
      r.RoutesTo frameType traceId destination addr := by
  unfold nextHop
  rcases hdirect : r.peerAddrs.lookup destination with _ | direct
  · -- without a direct peer or a breadcrumb, what was heard decides
    have hgossip (htrace : frameType = .fulfill ∨ frameType = .error →
        r.reverseRoutes.lookup traceId = none) :
        ((r.reachableVia destination).bind fun (relay, _) => r.peerAddrs.lookup relay) =
          some addr ↔ r.RoutesTo frameType traceId destination addr := by
      rw [Option.bind_eq_some_iff, Prod.exists]
      constructor
      · rintro ⟨relay, time, hvia, hrelay⟩
        exact .gossip hdirect htrace hvia hrelay
      · rintro (h | ⟨-, hreply, h⟩ | ⟨-, -, hvia, hrelay⟩)
        · cases hdirect.symm.trans h
        · cases (htrace hreply).symm.trans h
        · exact ⟨_, _, hvia, hrelay⟩
    by_cases hreply : frameType = .fulfill ∨ frameType = .error
    · rcases htrace : r.reverseRoutes.lookup traceId with _ | ⟨upstream, time⟩
      · simpa only [if_pos hreply, Option.none_or, Option.map_none] using hgossip fun _ => htrace
      simp only [if_pos hreply, Option.none_or, Option.map_some, Option.some_or,
        Option.some.injEq]
      constructor
      · rintro rfl
        exact .breadcrumb hdirect hreply htrace
      · rintro (h | ⟨-, -, h⟩ | ⟨-, hnone, -⟩)
        · cases hdirect.symm.trans h
        · cases htrace.symm.trans h
          rfl
        · cases htrace.symm.trans (hnone hreply)
    · simpa only [if_neg hreply, Option.none_or] using hgossip fun h => absurd h hreply
  · simp only [Option.some_or, Option.some.injEq]
    constructor
    · rintro rfl
      exact .direct hdirect
    · rintro (h | ⟨h, -⟩ | ⟨h, -⟩)
      · exact Option.some.inj (hdirect.symm.trans h)
      all_goals cases hdirect.symm.trans h

/-! ## What a relay does with a frame -/

/-- The frame is one to forward, and comes from a peer. -/
structure Admitted (r : Relay) (frame : Frame) (addr : SocketAddr) (routing : RoutingExt)
    (traceId : TraceId) : Prop where
  routed : frame.routing = some routing
  elsewhere : routing.destination ≠ r.localNodeId
  /-- It comes from the address of a peer. -/
  known : r.knowsAddr addr
  traced : frame.traceId = some traceId

inductive Routed (r : Relay) (frame : Frame) (addr : SocketAddr) (now : Nat) :
    Forwarding × Relay → Prop where
  | notConsumed
      (hlocal : ∀ routing, frame.routing = some routing → routing.destination = r.localNodeId) :
      Routed r frame addr now (.notConsumed, r)
  | unknownSource (hrouted : frame.routing.isSome) (hunknown : r.knowsAddr addr = false) :
      Routed r frame addr now (.unknownSource, r)
  | noTraceId (hnone : frame.traceId = none) : Routed r frame addr now (.noTraceId, r)
  | duplicate {routing : RoutingExt} {traceId : TraceId}
      (hadmitted : r.Admitted frame addr routing traceId)
      (hseen : (traceId, frame.header.frameType) ∈ r.forwardedFrames) :
      Routed r frame addr now (.duplicate, r)
  | ttlExhausted {routing : RoutingExt} {traceId : TraceId}
      (hadmitted : r.Admitted frame addr routing traceId)
      (hnew : (traceId, frame.header.frameType) ∉ r.forwardedFrames) (httl : routing.ttl = 0) :
      Routed r frame addr now (.ttlExhausted, r.record (traceId, frame.header.frameType))
  | noRoute {routing : RoutingExt} {traceId : TraceId}
      (hadmitted : r.Admitted frame addr routing traceId)
      (hnew : (traceId, frame.header.frameType) ∉ r.forwardedFrames)
      (hroute : r.nextHop frame.header.frameType traceId routing.destination = none) :
      Routed r frame addr now (.noRoute, r.record (traceId, frame.header.frameType))
  | bounced {routing : RoutingExt} {traceId : TraceId}
      (hadmitted : r.Admitted frame addr routing traceId)
      (hnew : (traceId, frame.header.frameType) ∉ r.forwardedFrames)
      (hroute : r.nextHop frame.header.frameType traceId routing.destination = some addr) :
      Routed r frame addr now (.bounced, r.record (traceId, frame.header.frameType))
  | notEncoded {routing : RoutingExt} {traceId : TraceId} {error : Fault CodecError}
      (hadmitted : r.Admitted frame addr routing traceId)
      (hnew : (traceId, frame.header.frameType) ∉ r.forwardedFrames)
      (hencode : reencode frame routing = .error error) :
      Routed r frame addr now (.notEncoded error,
        (r.record (traceId, frame.header.frameType)).leaveBreadcrumb frame.header.frameType traceId
          addr now)
  | forwarded {routing : RoutingExt} {traceId : TraceId} {nextHop : SocketAddr} {data : List UInt8}
      (hadmitted : r.Admitted frame addr routing traceId)
      (hnew : (traceId, frame.header.frameType) ∉ r.forwardedFrames) (httl : routing.ttl ≠ 0)
      (hroute : r.nextHop frame.header.frameType traceId routing.destination = some nextHop)
      (haway : nextHop ≠ addr) (hencode : reencode frame routing = .ok data) :
      Routed r frame addr now (.forwarded nextHop data,
        (r.record (traceId, frame.header.frameType)).leaveBreadcrumb frame.header.frameType traceId
          addr now)

lemma routed_tryForwardRoutedFrame (r : Relay) (frame : Frame) (addr : SocketAddr) (now : Nat) :
    Routed r frame addr now (r.tryForwardRoutedFrame frame addr now) := by
  unfold tryForwardRoutedFrame
  rcases hrouting : frame.routing with _ | routing
  · exact .notConsumed (by simp [hrouting])
  dsimp only
  by_cases hlocal : routing.destination = r.localNodeId
  · rw [if_pos hlocal]
    exact .notConsumed fun _ h => by rwa [← Option.some.inj (hrouting.symm.trans h)]
  rw [if_neg hlocal]
  rcases hknown : r.knowsAddr addr
  · exact .unknownSource (by simp [hrouting]) hknown
  rw [if_neg (by simp)]
  rcases htrace : frame.traceId with _ | traceId
  · exact .noTraceId htrace
  dsimp only
  have hadmitted : r.Admitted frame addr routing traceId :=
    ⟨hrouting, hlocal, hknown, htrace⟩
  by_cases hseen : (traceId, frame.header.frameType) ∈ r.forwardedFrames
  · rw [if_pos hseen]
    exact .duplicate hadmitted hseen
  rw [if_neg hseen]
  by_cases httl : routing.ttl = 0
  · rw [if_pos httl]
    exact .ttlExhausted hadmitted hseen httl
  rw [if_neg httl]
  -- recording the frame does not touch the tables of addresses
  have hsame : (r.record (traceId, frame.header.frameType)).nextHop frame.header.frameType traceId
      routing.destination = r.nextHop frame.header.frameType traceId routing.destination := rfl
  rw [hsame]
  rcases hroute : r.nextHop frame.header.frameType traceId routing.destination with _ | nextHop
  · exact .noRoute hadmitted hseen hroute
  dsimp only
  by_cases hback : nextHop = addr
  · rw [if_pos hback]
    exact .bounced hadmitted hseen (by rw [hroute, hback])
  rw [if_neg hback]
  rcases hencode : reencode frame routing with error | data
  · exact .notEncoded hadmitted hseen hencode
  · exact .forwarded hadmitted hseen httl hroute hback hencode

end Relay

/-! ## Hops -/

def Frame.afterHops (frame : Frame) (hops : Nat) : Frame :=
  { frame with
    routing := frame.routing.map fun routing =>
      { routing with ttl := routing.ttl - UInt8.ofNat hops } }

lemma afterHops_zero (frame : Frame) : frame.afterHops 0 = frame := by
  rcases frame with ⟨_, _, _ | _, _, _, _, _⟩ <;> simp [afterHops]

lemma afterHops_add (frame : Frame) (m n : Nat) :
    frame.afterHops (m + n) = (frame.afterHops m).afterHops n := by
  rcases frame with ⟨_, _, _ | _, _, _, _, _⟩ <;>
    simp [afterHops, UInt8.ofNat_add, sub_add_eq_sub_sub]

lemma afterHops_wellFormed (h : frame.WellFormed) (hops : Nat) :
    (frame.afterHops hops).WellFormed :=
  { h with }

lemma agreeUpToTtl_afterHops (frame : Frame) (hops : Nat) :
    frame.AgreeUpToTtl (frame.afterHops hops) := by
  refine ⟨rfl, rfl, ?_, rfl, rfl, rfl⟩
  simp [afterHops, Function.comp_def]

lemma verify_afterHops (hwf : frame.WellFormed)
    (h : FrameVerifier.verify V frame = .ok true) (hops : Nat) :
    FrameVerifier.verify V (frame.afterHops hops) = .ok true := by
  have hdata : signatureData frame = signatureData (frame.afterHops hops) :=
    signatureData_eq_of_agree hwf (afterHops_wellFormed hwf hops)
      (agreeUpToTtl_afterHops frame hops)
  obtain ⟨htrust, sig, hauth, hsig⟩ := verify_eq_true_iff.mp h
  rw [hdata] at hsig
  exact verify_eq_true_iff.mpr ⟨htrust, sig, hauth, hsig⟩

lemma decodeVerifiedFrame_afterHops
    (h : decodeVerifiedFrame V data = some frame) (hops : Nat) :
    decodeVerifiedFrame V (frame.afterHops hops).wireBytes = some (frame.afterHops hops) := by
  obtain ⟨hdecode, hverify⟩ := decodeVerifiedFrame_eq_some_iff.mp h
  have hwf := (decode_eq_ok_iff.mp hdecode).1
  refine decodeVerifiedFrame_eq_some_iff.mpr ⟨?_, verify_afterHops hwf hverify hops⟩
  simpa using decode_wireBytes (afterHops_wellFormed hwf hops) []

lemma reencode_eq
    (h : decodeVerifiedFrame V data = some frame) (hrouting : frame.routing = some routing) :
    Relay.reencode frame routing = .ok (frame.afterHops 1).wireBytes := by
  have hwf := (decode_eq_ok_iff.mp (decodeVerifiedFrame_eq_some_iff.mp h).1).1
  have hforwarded : { frame with routing := some { routing with ttl := routing.ttl - 1 } } =
      frame.afterHops 1 := by
    simp [afterHops, hrouting]
  have hpayload : (frame.afterHops 1).payload.length ≤ maxPayloadSize := hwf.payload_le
  simp only [Relay.reencode, hforwarded]
  rw [encode_of_le (by simp) hpayload, ok_bind, ← length_wireBytes, List.take_left]

variable {nextHop : SocketAddr} {sent : List UInt8}

lemma Relay.tryForwardRoutedFrame_eq
    (h : decodeVerifiedFrame V data = some frame)
    (hadmitted : r.Admitted frame addr routing traceId)
    (hnew : (traceId, frame.header.frameType) ∉ r.forwardedFrames) (httl : routing.ttl ≠ 0)
    (hroute : r.RoutesTo frame.header.frameType traceId routing.destination nextHop)
    (haway : nextHop ≠ addr) (now : Nat) :
    r.tryForwardRoutedFrame frame addr now =
      (.forwarded nextHop (frame.afterHops 1).wireBytes,
        (r.record (traceId, frame.header.frameType)).leaveBreadcrumb frame.header.frameType traceId
          addr now) := by
  have hnext : r.nextHop frame.header.frameType traceId routing.destination = some nextHop :=
    nextHop_eq_some_iff.mpr hroute
  have hsame : (r.record (traceId, frame.header.frameType)).nextHop frame.header.frameType traceId
      routing.destination = some nextHop := hnext
  simp only [tryForwardRoutedFrame, hadmitted.routed, hadmitted.traced, if_neg hadmitted.elsewhere,
    hadmitted.known, Bool.not_true, Bool.false_eq_true, if_false, if_neg hnew, if_neg httl, hsame,
    if_neg haway, reencode_eq h hadmitted.routed]

lemma Relay.sent_of_forwarded
    {relay : Relay} {now : Nat}
    (h : decodeVerifiedFrame V data = some frame)
    (hforward : r.tryForwardRoutedFrame frame addr now = (.forwarded nextHop sent, relay)) :
    sent = (frame.afterHops 1).wireBytes := by
  have hrouted := r.routed_tryForwardRoutedFrame frame addr now
  rw [hforward] at hrouted
  cases hrouted with
  | forwarded hadmitted hnew httl hroute haway hencode =>
    exact Except.ok.inj (hencode.symm.trans (reencode_eq h hadmitted.routed))

lemma Relay.tryForwardRoutedFrame_fields (r : Relay) (frame : Frame) (addr : SocketAddr)
    (now : Nat) :
    (r.tryForwardRoutedFrame frame addr now).2.localNodeId = r.localNodeId ∧
      (r.tryForwardRoutedFrame frame addr now).2.peerAddrs = r.peerAddrs := by
  have hrouted := r.routed_tryForwardRoutedFrame frame addr now
  generalize r.tryForwardRoutedFrame frame addr now = out at hrouted ⊢
  cases hrouted with
  | notEncoded | forwarded => exact ⟨(leaveBreadcrumb_fields ..).1, (leaveBreadcrumb_fields ..).2.1⟩
  | _ => exact ⟨rfl, rfl⟩

/-- What a relay that has a route sends on. -/
def hop (V : Verify) (data : List UInt8) : Option (List UInt8) := do
  let frame ← decodeVerifiedFrame V data
  let routing ← frame.routing
  if routing.ttl = 0 then none else (Relay.reencode frame routing).toOption

def hops (V : Verify) : Nat → List UInt8 → Option (List UInt8)
  | 0, data => some data
  | n + 1, data => (hops V n data).bind (hop V)

structure Visit where
  relay : Relay
  addr : SocketAddr
  now : Nat

def Visit.sends (V : Verify) (data : List UInt8) (visit : Visit) : Option (List UInt8) := do
  let frame ← decodeVerifiedFrame V data
  match (visit.relay.tryForwardRoutedFrame frame visit.addr visit.now).1 with
  | .forwarded _ data => some data
  | _ => none

lemma hop_eq
    (h : decodeVerifiedFrame V data = some frame) (hrouting : frame.routing = some routing)
    (httl : routing.ttl ≠ 0) : hop V data = some (frame.afterHops 1).wireBytes := by
  simp [hop, h, hrouting, httl, reencode_eq h hrouting, Except.toOption]

lemma hop_of_sends {visit : Visit}
    (h : visit.sends V data = some sent) : hop V data = some sent := by
  rcases hframe : decodeVerifiedFrame V data with _ | frame
  · simp [Visit.sends, hframe] at h
  have hrouted := visit.relay.routed_tryForwardRoutedFrame frame visit.addr visit.now
  simp only [Visit.sends, hframe, Option.bind_eq_bind, Option.bind_some] at h
  generalize visit.relay.tryForwardRoutedFrame frame visit.addr visit.now = out at h hrouted
  cases hrouted with
  | forwarded hadmitted hnew httl hroute haway hencode =>
    cases h
    simp [hop, hframe, hadmitted.routed, httl, hencode, Except.toOption]
  | _ => cases h

lemma toNat_sub_ofNat (ttl : UInt8) {n : Nat} (h : n ≤ ttl.toNat) :
    (ttl - UInt8.ofNat n).toNat = ttl.toNat - n := by
  have hlt := ttl.toNat_lt
  have hn : (UInt8.ofNat n).toNat = n := UInt8.toNat_ofNat_of_lt' (show n < 256 by omega)
  rw [UInt8.toNat_sub_of_le _ _ (by rwa [UInt8.le_iff_toNat_le, hn]), hn]

lemma hops_eq
    (h : decodeVerifiedFrame V data = some frame) (hrouting : frame.routing = some routing) (n : Nat)
    (hn : n ≤ routing.ttl.toNat) :
    ∃ sent, hops V n data = some sent ∧ decodeVerifiedFrame V sent = some (frame.afterHops n) := by
  induction n with
  | zero => exact ⟨data, rfl, by rw [afterHops_zero, h]⟩
  | succ n ih =>
    obtain ⟨sent, hsent, hdecode⟩ := ih (by omega)
    have hnext : (frame.afterHops n).routing =
        some { routing with ttl := routing.ttl - UInt8.ofNat n } := by
      simp [afterHops, hrouting]
    have httl : routing.ttl - UInt8.ofNat n ≠ 0 := by
      intro hzero
      have htoNat := toNat_sub_ofNat routing.ttl (n := n) (by omega)
      rw [hzero, UInt8.toNat_zero] at htoNat
      omega
    have hlast : hop V sent = some ((frame.afterHops n).afterHops 1).wireBytes :=
      hop_eq hdecode hnext httl
    refine ⟨_, by rw [hops, hsent, Option.bind_some, hlast], ?_⟩
    rw [afterHops_add frame n 1]
    exact decodeVerifiedFrame_afterHops hdecode 1

def sendsAlong (V : Verify) : List Visit → List UInt8 → Option (List UInt8)
  | [], data => some data
  | visit :: path, data => (visit.sends V data).bind (sendsAlong V path)

lemma hops_succ (V : Verify) (n : Nat) (data : List UInt8) :
    hops V (n + 1) data = (hop V data).bind (hops V n) := by
  induction n with
  | zero => simp [hops]
  | succ n ih =>
    rw [hops, ih, Option.bind_assoc]
    rfl

/-- **Relay transparency.** From a verified frame with hops left, as many relays can send it on, one
after the other; what each sends verifies, and is the frame with the hop count lowered. What relays
really send along a path is this. -/
theorem relay_transparency (V : Verify) {data : List UInt8} {frame : Frame} {routing : RoutingExt}
    (h : decodeVerifiedFrame V data = some frame) (hrouting : frame.routing = some routing) :
    (∀ n ≤ routing.ttl.toNat, ∃ sent, hops V n data = some sent ∧
        decodeVerifiedFrame V sent = some { frame with
          routing := some { routing with ttl := routing.ttl - UInt8.ofNat n } }) ∧
      ∀ path sent, sendsAlong V path data = some sent →
        path.length ≤ routing.ttl.toNat ∧ hops V path.length data = some sent := by
  constructor
  · intro n hn
    obtain ⟨sent, hsent, hdecode⟩ := hops_eq h hrouting n hn
    refine ⟨sent, hsent, ?_⟩
    rw [hdecode, afterHops, hrouting, Option.map_some]
  · intro path
    induction path generalizing data frame routing with
    | nil =>
      intro sent hsent
      exact ⟨Nat.zero_le _, hsent⟩
    | cons visit path ih =>
      intro sent hsent
      obtain ⟨next, hnext, hrest⟩ := Option.bind_eq_some_iff.mp hsent
      have hhop := hop_of_sends hnext
      -- the first relay had a hop left
      have httl : routing.ttl ≠ 0 := by
        rintro hzero
        simp [hop, h, hrouting, hzero] at hhop
      rw [hop_eq h hrouting httl] at hhop
      cases hhop
      have hleft : 1 ≤ routing.ttl.toNat :=
        Nat.pos_of_ne_zero fun hzero => httl (UInt8.toNat_inj.mp hzero)
      obtain ⟨hlength, hrun⟩ := ih (decodeVerifiedFrame_afterHops h 1)
        (by rw [afterHops, hrouting, Option.map_some]) sent hrest
      dsimp only at hlength
      rw [toNat_sub_ofNat _ hleft] at hlength
      rw [List.length_cons, hops_succ, hop_eq h hrouting httl]
      exact ⟨by omega, hrun⟩

lemma decodeVerifiedFrame_signedFragment :
    decodeVerifiedFrame fragmentVerify signedFragment.wireBytes = some signedFragment := by
  refine decodeVerifiedFrame_eq_some_iff.mpr ⟨?_, verify_eq_true_iff.mpr
    ⟨.inr rfl, _, rfl, fragmentVerify_iff.mpr ⟨rfl, rfl, rfl⟩⟩⟩
  simpa using decode_wireBytes signedFragment_wellFormed []

theorem relay_transparency_signedFragment :
    decodeVerifiedFrame fragmentVerify signedFragment.wireBytes = some signedFragment ∧
      ∃ sent, hops fragmentVerify 8 signedFragment.wireBytes = some sent ∧
        decodeVerifiedFrame fragmentVerify sent = some { signedFragment with
          routing := some ⟨⟨Vector.replicate 32 9⟩, 0⟩ } :=
  ⟨decodeVerifiedFrame_signedFragment,
    (relay_transparency fragmentVerify decodeVerifiedFrame_signedFragment rfl).1 8 (by decide)⟩

end AxiomCore
