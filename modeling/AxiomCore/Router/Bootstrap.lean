import Mathlib.Data.List.AList
import AxiomCore.Types.Frame

/-!
# Joining and leaving the mesh

The manager keeps a table of peers. A join request or response enters the node that its payload names
as a connected peer, and a leave notification marks the node that its payload names as gone; the
payload's name is not compared with the frame's sender. A response also lists other peers, of which
only unknown ones are entered.

Source: `axiom-router/src/bootstrap.rs`.
-/

namespace AxiomCore

open Lib

/-! ## Payloads -/

structure JoinRequest where
  nodeId : NodeId
  protocolVersion : UInt16
  capabilities : List IntentHash

def JoinRequest.decode (data : List UInt8) : Option JoinRequest :=
  if data.length < 34 then none
  else if (data.drop 34).length % 16 ≠ 0 then none
  else some
    { nodeId := ⟨takeVec 32 data⟩
      protocolVersion := UInt16.ofNat (beNat ((data.drop 32).take 2))
      capabilities := ((data.drop 34).toChunks 16).map fun chunk => ⟨takeVec 16 chunk⟩ }

structure JoinResponse where
  accepted : Bool
  nodeId : NodeId
  knownPeers : List (NodeId × SocketAddr)

namespace JoinResponse

def encodeAddr : SocketAddr → List UInt8
  | .v4 ip port => 4 :: ip.toList ++ beBytes 2 port.toNat
  | .v6 ip port _ _ => 6 :: ip.toList ++ beBytes 2 port.toNat

def encode (r : JoinResponse) : List UInt8 :=
  (if r.accepted then 1 else 0) :: r.nodeId.bytes.toList ++
    (r.knownPeers.filter fun peer => !isLinkLocal peer.2).flatMap fun peer =>
      peer.1.bytes.toList ++ encodeAddr peer.2

def decodePeers (data : List UInt8) : List (NodeId × SocketAddr) :=
  if _h : data.length < 33 then []
  else
    let peerId : NodeId := ⟨takeVec 32 data⟩
    let rest := data.drop 33
    match data.getD 32 0 with
    | 4 =>
      if rest.length < 6 then []
      else (peerId, .v4 (takeVec 4 rest) (UInt16.ofNat (beNat ((rest.drop 4).take 2)))) ::
        decodePeers (rest.drop 6)
    | 6 =>
      if rest.length < 18 then []
      else (peerId, .v6 (takeVec 16 rest) (UInt16.ofNat (beNat ((rest.drop 16).take 2))) 0 0) ::
        decodePeers (rest.drop 18)
    | _ => []
termination_by data.length
decreasing_by all_goals simp only [List.length_drop]; omega

def decode (data : List UInt8) : Option JoinResponse :=
  if data.length < 33 then none
  else some
    { accepted := data.getD 0 0 = 1
      nodeId := ⟨takeVec 32 (data.drop 1)⟩
      knownPeers := decodePeers (data.drop 33) }

end JoinResponse

inductive LeaveReason where
  | shutdown
  | restart
  | maintenance
  | unknown

structure LeaveNotification where
  nodeId : NodeId
  reason : LeaveReason

def LeaveNotification.decode (data : List UInt8) : Option LeaveNotification :=
  if data.length < 33 then none
  else some
    { nodeId := ⟨takeVec 32 data⟩
      reason :=
        match data.getD 32 0 with
        | 0 => .shutdown
        | 1 => .restart
        | 2 => .maintenance
        | _ => .unknown }

/-! ## The manager -/

inductive PeerState where
  | discovered
  | connecting
  | connected
  | reconnecting
  | left
  | dead
  deriving DecidableEq

/-- The entry of a peer; its id is the key of the table. -/
structure PeerInfo where
  addr : SocketAddr
  state : PeerState
  trustLevel : TrustLevel
  capabilities : List IntentHash
  deriving DecidableEq

inductive BootstrapState where
  | init
  | bootstrapping
  | joined
  | failed

structure MeshManager where
  localId : NodeId
  maxPeers : Nat
  peers : AList fun _ : NodeId => PeerInfo
  addrToNode : SocketAddr → Option NodeId
  clock : HybridClock
  bootstrapState : BootstrapState

namespace MeshManager

def addPeer (m : MeshManager) (nodeId : NodeId) (info : PeerInfo) : MeshManager :=
  { m with
    addrToNode := Function.update m.addrToNode info.addr (some nodeId)
    peers := m.peers.insert nodeId info }

/-- `MeshManager::create_join_response`; `order` is the order in which the table is iterated. -/
def createJoinResponse (m : MeshManager) (order : List NodeId) (accepted : Bool) (maxPeers : Nat) :
    Frame × MeshManager :=
  let known := (order.filterMap fun n => (m.peers.lookup n).map (n, ·)).filter fun peer =>
    peer.2.state = .connected
  let response : JoinResponse :=
    ⟨accepted, m.localId, (known.take maxPeers).map fun peer => (peer.1, peer.2.addr)⟩
  let clock := m.clock.tick
  let header := { FrameHeader.new .join m.localId with trustLevel := .sig, clock := clock }
  (Frame.new header .raw response.encode, { m with clock := clock })

def processJoinRequest (m : MeshManager) (order : List NodeId) (frame : Frame)
    (fromAddr : SocketAddr) : Option Frame × MeshManager :=
  match JoinRequest.decode frame.payload with
  | none => (none, m)
  | some request =>
    let accept := decide (m.peers.keys.length < m.maxPeers)
    let m := if accept then m.addPeer request.nodeId
      ⟨fromAddr, .connected, frame.header.trustLevel, request.capabilities⟩ else m
    let (response, m) := m.createJoinResponse order accept 10
    (some response, m)

/-- The loop over the known peers of a response. -/
def discover (m : MeshManager) : List (NodeId × SocketAddr) → MeshManager
  | [] => m
  | (nodeId, addr) :: known =>
    (if nodeId ∉ m.peers ∧ nodeId ≠ m.localId then m.addPeer nodeId ⟨addr, .discovered, .raw, []⟩
      else m).discover known

def processJoinResponse (m : MeshManager) (frame : Frame) (fromAddr : SocketAddr) :
    Bool × MeshManager :=
  match JoinResponse.decode frame.payload with
  | none => (false, m)
  | some response =>
    if response.accepted then
      let m := m.addPeer response.nodeId ⟨fromAddr, .connected, frame.header.trustLevel, []⟩
      (true, { m.discover response.knownPeers with bootstrapState := .joined })
    else (false, m)

def processLeave (m : MeshManager) (frame : Frame) : MeshManager :=
  match LeaveNotification.decode frame.payload with
  | none => m
  | some notification =>
    match m.peers.lookup notification.nodeId with
    | none => m
    | some info => { m with peers := m.peers.insert notification.nodeId { info with state := .left } }

end MeshManager

open MeshManager

/-! ## For whom a message speaks -/

inductive MembershipMessage where
  | joinRequest (frame : Frame) (fromAddr : SocketAddr) (order : List NodeId)
  | joinResponse (frame : Frame) (fromAddr : SocketAddr)
  | leave (frame : Frame)

namespace MembershipMessage

def sender : MembershipMessage → NodeId
  | .joinRequest frame _ _ | .joinResponse frame _ | .leave frame => frame.header.senderId

def process (m : MeshManager) : MembershipMessage → MeshManager
  | .joinRequest frame fromAddr order => (m.processJoinRequest order frame fromAddr).2
  | .joinResponse frame fromAddr => (m.processJoinResponse frame fromAddr).2
  | .leave frame => m.processLeave frame

/-- If the message takes effect, it names its sender, or a node that is not known, or the entry of
the named node is already the one that is written. -/
def NamesSender (m : MeshManager) : MembershipMessage → Prop
  | .joinRequest frame fromAddr _ => ∀ request ∈ JoinRequest.decode frame.payload,
      m.peers.keys.length < m.maxPeers → request.nodeId = frame.header.senderId ∨
        ∀ info ∈ m.peers.lookup request.nodeId,
          info = ⟨fromAddr, .connected, frame.header.trustLevel, request.capabilities⟩
  | .joinResponse frame fromAddr => ∀ response ∈ JoinResponse.decode frame.payload,
      response.accepted → response.nodeId = frame.header.senderId ∨
        ∀ info ∈ m.peers.lookup response.nodeId,
          info = ⟨fromAddr, .connected, frame.header.trustLevel, []⟩
  | .leave frame => ∀ notification ∈ LeaveNotification.decode frame.payload,
      notification.nodeId = frame.header.senderId ∨
        ∀ info ∈ m.peers.lookup notification.nodeId, info.state = .left

end MembershipMessage

/-- The entries of all known peers but one stay. -/
def OthersKept (sender : NodeId) (peers peers' : AList fun _ : NodeId => PeerInfo) : Prop :=
  ∀ n ≠ sender, ∀ info ∈ peers.lookup n, info ∈ peers'.lookup n

lemma othersKept_insert_iff {sender nodeId : NodeId} {info : PeerInfo}
    {peers : AList fun _ : NodeId => PeerInfo} :
    OthersKept sender peers (peers.insert nodeId info) ↔
      nodeId = sender ∨ ∀ old ∈ peers.lookup nodeId, old = info := by
  constructor
  · intro h
    refine or_iff_not_imp_left.mpr fun hne old hold => ?_
    have hnew := h nodeId hne old hold
    rw [AList.lookup_insert, Option.mem_some_iff] at hnew
    exact hnew.symm
  · rintro h n hn old hold
    by_cases hnode : n = nodeId
    · subst hnode
      rw [AList.lookup_insert, h.resolve_left hn old hold]
      exact Option.mem_some_self _
    · rw [AList.lookup_insert_ne hnode]
      exact hold

namespace MeshManager

lemma lookup_discover {m : MeshManager} {n : NodeId} {info : PeerInfo}
    (h : info ∈ m.peers.lookup n) (known : List (NodeId × SocketAddr)) :
    info ∈ (m.discover known).peers.lookup n := by
  induction known generalizing m with
  | nil => exact h
  | cons peer known ih =>
    unfold discover
    apply ih
    split_ifs with hnew
    · have hne : n ≠ peer.1 := by
        rintro rfl
        exact hnew.1 (AList.lookup_isSome.mp (Option.isSome_of_mem h))
      rw [addPeer, AList.lookup_insert_ne hne]
      exact h
    · exact h

lemma othersKept_discover_iff {m m' : MeshManager} {sender : NodeId} {nodeId : NodeId}
    {info : PeerInfo} (hm : m'.peers = m.peers.insert nodeId info)
    (known : List (NodeId × SocketAddr)) :
    OthersKept sender m.peers (m'.discover known).peers ↔
      OthersKept sender m.peers m'.peers := by
  constructor
  · intro h n hn old hold
    have hlater := h n hn old hold
    -- A known entry is still there after the write, so the loop leaves it.
    have hstill : ∃ new, new ∈ m'.peers.lookup n := by
      rw [hm]
      by_cases hnode : n = nodeId
      · subst hnode
        exact ⟨info, AList.lookup_insert _⟩
      · rw [AList.lookup_insert_ne hnode]
        exact ⟨old, hold⟩
    obtain ⟨new, hnew⟩ := hstill
    obtain rfl : new = old := Option.mem_unique (lookup_discover hnew known) hlater
    exact hnew
  · intro h n hn old hold
    exact lookup_discover (h n hn old hold) known

end MeshManager

/-- **For whom a message speaks.** For every manager and every message, whoever sent it: the entries
of all known peers other than the sender stay as they are exactly if the message, where it takes
effect, names its sender, an unknown node, or a node whose entry is already what it writes. -/
theorem speaks_for_sender_iff (m : MeshManager) (message : MembershipMessage) :
    OthersKept message.sender m.peers (message.process m).peers ↔ message.NamesSender m := by
  have hself : ∀ sender, OthersKept sender m.peers m.peers := fun _ _ _ _ h => h
  cases message with
  | joinRequest frame fromAddr order =>
    simp only [MembershipMessage.sender, MembershipMessage.process,
      MembershipMessage.NamesSender, processJoinRequest]
    rcases hdecode : JoinRequest.decode frame.payload with _ | request
    · simp [hself]
    by_cases hroom : m.peers.keys.length < m.maxPeers
    · simp only [hroom, decide_true, if_true, Option.mem_some_iff, forall_eq', forall_const]
      exact othersKept_insert_iff
    · simp [hroom, hself, createJoinResponse]
  | joinResponse frame fromAddr =>
    simp only [MembershipMessage.sender, MembershipMessage.process,
      MembershipMessage.NamesSender, processJoinResponse]
    rcases hdecode : JoinResponse.decode frame.payload with _ | response
    · simp [hself]
    rcases haccepted : response.accepted with _ | _
    · simp [haccepted, hself]
    simp only [haccepted, if_true, Option.mem_some_iff, forall_eq', forall_const]
    rw [← othersKept_insert_iff]
    exact othersKept_discover_iff rfl response.knownPeers
  | leave frame =>
    simp only [MembershipMessage.sender, MembershipMessage.process,
      MembershipMessage.NamesSender, processLeave]
    rcases hdecode : LeaveNotification.decode frame.payload with _ | notification
    · simp [hself]
    rcases hpeer : m.peers.lookup notification.nodeId with _ | info
    · simp [hself, hpeer]
    simp only [Option.mem_some_iff, forall_eq', hpeer]
    rw [othersKept_insert_iff, hpeer]
    simp only [Option.mem_some_iff, forall_eq']
    have hleft : info = { info with state := .left } ↔ info.state = .left := by
      constructor
      · intro h
        rw [h]
      · intro h
        rw [← h]
    rw [hleft]

/-- **A leave notification in another's name.** A node marks a connected peer as gone, by a
notification that names the peer. -/
theorem forged_leave :
    let peer : NodeId := ⟨.replicate 32 1⟩
    let sender : NodeId := ⟨.replicate 32 2⟩
    let info : PeerInfo := ⟨.v4 (.replicate 4 10) 7000, .connected, .sig, []⟩
    let m : MeshManager := ⟨⟨.replicate 32 3⟩, 64, AList.insert peer info ∅, fun _ => none, .zero,
      .joined⟩
    let frame := Frame.new (FrameHeader.new .leave sender) .raw (.replicate 32 1 ++ [0])
    ((MembershipMessage.leave frame).process m).peers.lookup peer =
      some { info with state := .left } := by
  decide +kernel

end AxiomCore
