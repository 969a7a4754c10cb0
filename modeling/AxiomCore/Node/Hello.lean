import AxiomCore.Node.Peers

/-!
# Greetings

Two nodes meet by a HELLO and a HELLO_ACK: 46 bytes with the sender's key and the time, and the
sender's signature over them. They arrive on two sockets, each with a receive loop of its own. The
loop of the main socket answers a HELLO and reports its sender to the event loop, which calls
`register_peer`; a HELLO_ACK is handed to the `connect` that waits for it. The loop of the discovery
socket only reports senders. Anyone can send a recorded greeting again, so a receiver looks at the
time in it.

Source: `forge-node/src/network.rs`.
-/

namespace AxiomCore

open Lib

/-! ## Format -/

def helloMsgType : UInt8 := 0x01

def helloAckMsgType : UInt8 := 0x02

def helloMagic : List UInt8 := [0x41, 0x58, 0x49, 0x4F]

/-- What `build_frame` signs. -/
def helloBody (nodeId : NodeId) (msgType : UInt8) (timestamp : UInt64) : List UInt8 :=
  helloMagic ++ (0x01 :: msgType :: (nodeId.bytes.toList ++ beBytes 8 timestamp.toNat))

/-- `build_frame`, with the clock reading it makes. -/
def buildFrame (identity : Keypair) (msgType : UInt8) (timestamp : UInt64) : List UInt8 :=
  let buf := helloBody identity.nodeId msgType timestamp
  buf ++ (identity.sign buf).bytes.toList

def buildHelloReplyFrame (identity : Keypair) (timestamp : UInt64) : List UInt8 :=
  buildFrame identity helloAckMsgType timestamp

def frameMsgType (data : List UInt8) : Option UInt8 := data[5]?

def helloSender (data : List UInt8) : NodeId := ⟨takeVec 32 (data.drop 6)⟩

def helloTimestamp (data : List UInt8) : UInt64 := UInt64.ofNat (beNat ((data.drop 38).take 8))

def helloSignature (data : List UInt8) : Signature := ⟨takeVec 64 (data.drop 46)⟩

/-- `extract_sender_with_timestamp`. It looks neither at the version nor at the type, and the buffer
can go on after the signature. -/
def extractSenderWithTimestamp (V : Verify) (data : List UInt8) : Option (NodeId × UInt64) :=
  if data.length < 110 then none
  else if data.take 4 ≠ helloMagic then none
  else if ¬ V (helloSender data) (data.take 46) (helloSignature data) then none
  else some (helloSender data, helloTimestamp data)

/-- `hello_timestamp_is_fresh`: at most `MAX_HELLO_AGE_SECS` old and at most `MAX_CLOCK_SKEW_SECS`
ahead. Source: `forge-node/src/discovery.rs`, `hello_timestamp_is_fresh`. -/
def helloTimestampIsFresh (helloTs nowSecs : UInt64) : Bool :=
  let age := nowSecs.toNat - helloTs.toNat
  let futureSkew := helloTs.toNat - nowSecs.toNat
  age ≤ 60 && futureSkew ≤ 5

/-- The bytes are a greeting, of whatever type, and the key in it signed it. -/
structure SignedGreeting (V : Verify) (data : List UInt8) : Prop where
  length : 110 ≤ data.length
  magic : data.take 4 = helloMagic
  signature : V (helloSender data) (data.take 46) (helloSignature data)

variable {V : Verify} {data : List UInt8} {identity : Keypair} {s : ReceiveState}
  {addr : SocketAddr} {now : Nat} {nowSecs : UInt64}

lemma extractSenderWithTimestamp_eq_some_iff {nodeId : NodeId}
    {timestamp : UInt64} :
    extractSenderWithTimestamp V data = some (nodeId, timestamp) ↔
      SignedGreeting V data ∧ nodeId = helloSender data ∧ timestamp = helloTimestamp data := by
  unfold extractSenderWithTimestamp
  constructor
  · intro h
    split_ifs at h with hlength hmagic hsignature
    obtain ⟨rfl, rfl⟩ := Prod.mk.inj (Option.some.inj h)
    exact ⟨⟨not_lt.mp hlength, not_not.mp hmagic, hsignature⟩, rfl, rfl⟩
  · rintro ⟨⟨hlength, hmagic, hsignature⟩, rfl, rfl⟩
    rw [if_neg (not_lt.mpr hlength), if_neg (not_not.mpr hmagic), if_neg (not_not.mpr hsignature)]

lemma extractSenderWithTimestamp_eq_none_iff :
    extractSenderWithTimestamp V data = none ↔ ¬ SignedGreeting V data := by
  rw [← not_iff_not, not_not, ← ne_eq, Option.ne_none_iff_exists']
  constructor
  · rintro ⟨⟨nodeId, timestamp⟩, h⟩
    exact (extractSenderWithTimestamp_eq_some_iff.mp h).1
  · intro h
    exact ⟨_, extractSenderWithTimestamp_eq_some_iff.mpr ⟨h, rfl, rfl⟩⟩

/-! ### Round trip -/

@[simp] lemma length_helloBody (nodeId : NodeId) (msgType : UInt8) (timestamp : UInt64) :
    (helloBody nodeId msgType timestamp).length = 46 := by
  simp [helloBody, helloMagic]

section RoundTrip

variable (identity : Keypair) (msgType : UInt8) (timestamp : UInt64)

lemma helloTimestamp_buildFrame :
    helloTimestamp (buildFrame identity msgType timestamp) = timestamp := by
  have hdrop : (buildFrame identity msgType timestamp).drop 38 =
      beBytes 8 timestamp.toNat ++
        (identity.sign (helloBody identity.nodeId msgType timestamp)).bytes.toList := by
    rw [show 38 = 6 + 32 from rfl, ← List.drop_drop]
    simp [buildFrame, helloBody, helloMagic]
  have hfits : timestamp.toNat < 256 ^ 8 := timestamp.toNat_lt
  rw [helloTimestamp, hdrop, List.take_left' (length_beBytes 8 _), beNat_beBytes,
    Nat.mod_eq_of_lt hfits, UInt64.ofNat_toNat]

lemma frameMsgType_buildFrame :
    frameMsgType (buildFrame identity msgType timestamp) = some msgType := rfl

end RoundTrip

/-! ## The receive loops -/

inductive IpAddr where
  | v4 (ip : Vector UInt8 4)
  | v6 (ip : Vector UInt8 16)
  deriving DecidableEq

/-- `SocketAddr::ip`. Source: Rust's `std::net::SocketAddr`. -/
def SocketAddr.ip : SocketAddr → IpAddr
  | .v4 ip _ => .v4 ip
  | .v6 ip .. => .v6 ip

/-- What a loop does with a datagram. Source: `forge-node/src/network.rs`,
`NetworkManager::start_receive_loop`; `forge-node/src/node.rs`, `NetworkEvent`. -/
inductive ReceiveAction where
  /-- The `connect` that waits for this address gets its answer. -/
  | connectAnswered (peerId : NodeId) (addr : SocketAddr) (helloTs : UInt64)
  | sent (data : List UInt8) (addr : SocketAddr)
  | peerDiscovered (nodeId : NodeId) (addr : SocketAddr) (timestamp : UInt64)
  | messageReceived (sender : NodeId) (data : List UInt8)
  | frameHandled (frame : Frame) (addr : SocketAddr)
  deriving DecidableEq

/-- What the loops read and write. Source: `forge-node/src/network.rs`, `NetworkManager`;
`forge-node/src/discovery.rs`, `start`. -/
structure ReceiveState where
  /-- The peers; only the event loop writes them. -/
  manager : NetworkManager
  /-- Addresses with a `connect` that waits. -/
  pendingConnects : Finset SocketAddr
  /-- Senders of something that was neither a greeting nor a frame, and when. -/
  recentlyFailed : AList fun _ : IpAddr => Nat

/-- `RATE_LIMIT_INTERVAL`, in nanoseconds. Source: `forge-node/src/discovery.rs`. -/
def rateLimitInterval : Nat := 200000000

def maxRateLimitEntries : Nat := 1024

/-- Source: `forge-node/src/discovery.rs`, `is_recently_failed`. -/
def isRecentlyFailed (recentlyFailed : AList fun _ : IpAddr => Nat) (ip : IpAddr) (now : Nat) :
    Bool :=
  match recentlyFailed.lookup ip with
  | some lastFail => now - lastFail < rateLimitInterval
  | none => false

/-- One more failure; what is old is dropped first if the table is full. Source:
`forge-node/src/discovery.rs`, `start`. -/
def recordFailure (recentlyFailed : AList fun _ : IpAddr => Nat) (ip : IpAddr) (now : Nat) :
    AList fun _ : IpAddr => Nat :=
  let kept :=
    if recentlyFailed.entries.length ≥ maxRateLimitEntries then
      (recentlyFailed.entries.filter fun entry => now - entry.2 < rateLimitInterval).toAList
    else recentlyFailed
  kept.insert ip now

/-- One turn of the loop of the main socket. The answer to a HELLO is stamped with the wall clock. -/
def mainReceive (V : Verify) (identity : Keypair) (s : ReceiveState) (data : List UInt8)
    (addr : SocketAddr) (nowSecs : UInt64) : List ReceiveAction × ReceiveState :=
  match extractSenderWithTimestamp V data with
  | some (nodeId, helloTs) =>
    if frameMsgType data = some helloAckMsgType then
      if addr ∈ s.pendingConnects then
        ([.connectAnswered nodeId addr helloTs, .messageReceived nodeId data],
          { s with pendingConnects := s.pendingConnects.erase addr })
      else ([.messageReceived nodeId data], s)
    else if frameMsgType data = some helloMsgType then
      ([.sent (buildHelloReplyFrame identity nowSecs) addr, .peerDiscovered nodeId addr helloTs,
        .messageReceived nodeId data], s)
    else ([.messageReceived nodeId data], s)
  | none =>
    match decodeVerifiedFrame V data with
    | some frame => ([.frameHandled frame addr], s)
    | none => ([], s)

/-- One turn of the loop of the discovery socket. -/
def discoveryReceive (V : Verify) (identity : Keypair) (s : ReceiveState) (data : List UInt8)
    (addr : SocketAddr) (now : Nat) (nowSecs : UInt64) : List ReceiveAction × ReceiveState :=
  if isRecentlyFailed s.recentlyFailed addr.ip now then ([], s)
  else
    match extractSenderWithTimestamp V data with
    | none =>
      match decodeVerifiedFrame V data with
      | some frame => ([.frameHandled frame addr], s)
      | none => ([], { s with recentlyFailed := recordFailure s.recentlyFailed addr.ip now })
    | some (senderId, helloTs) =>
      if senderId = identity.nodeId then ([], s)
      else if ¬ helloTimestampIsFresh helloTs nowSecs then ([], s)
      else ([.peerDiscovered senderId addr helloTs], s)

section Turns

variable {V : Verify} {s : ReceiveState} {data : List UInt8} {nodeId : NodeId} {helloTs : UInt64}

end Turns

/-! ## Who is registered -/

inductive UdpSocket where
  /-- The configured address. -/
  | main
  | discovery

/-- A datagram and the clock readings when it arrives: the instant in nanoseconds, the wall clock in
unix seconds. -/
structure Datagram where
  socket : UdpSocket
  data : List UInt8
  addr : SocketAddr
  now : Nat
  nowSecs : UInt64

/-- One turn of the loop of the socket that the datagram arrives on. Source:
`forge-node/src/network.rs`, `NetworkManager::start_receive_loop`; `forge-node/src/discovery.rs`,
`start`. -/
def receive (V : Verify) (identity : Keypair) (s : ReceiveState) (d : Datagram) :
    List ReceiveAction × ReceiveState :=
  match d.socket with
  | .main => mainReceive V identity s d.data d.addr d.nowSecs
  | .discovery => discoveryReceive V identity s d.data d.addr d.now d.nowSecs

def NetworkManager.addrOf (m : NetworkManager) (node : NodeId) : Option SocketAddr :=
  (m.peers.lookup node).map (·.addr)

/-- The action registers a peer: it is the event `PeerDiscovered`, or it completes a `connect` that
adds a peer or gives it another address. -/
def ReceiveAction.Registers (m : NetworkManager) (now : Nat) : ReceiveAction → Prop
  | .connectAnswered peerId addr helloTs =>
    (m.connect peerId addr helloTs now).addrOf peerId ≠ m.addrOf peerId
  | .peerDiscovered .. => True
  | .sent .. | .messageReceived .. | .frameHandled .. => False

/-- The bytes are a HELLO or a HELLO_ACK that was signed, at a time that is fresh now. -/
structure FreshGreeting (V : Verify) (data : List UInt8) (nowSecs : UInt64) : Prop where
  signed : SignedGreeting V data
  msgType : frameMsgType data = some helloMsgType ∨ frameMsgType data = some helloAckMsgType
  fresh : helloTimestampIsFresh (helloTimestamp data) nowSecs

/-- **Stale greetings register nobody**, here: if the datagram leads to an action that registers a
peer, it is a fresh greeting. -/
def RegistersOnlyFresh (V : Verify) (identity : Keypair) (s : ReceiveState) (d : Datagram) :
    Prop :=
  ∀ action ∈ (receive V identity s d).1, action.Registers s.manager d.now →
    FreshGreeting V d.data d.nowSecs

/-- What the loops do not check. On the main socket, a signed HELLO, and a signed HELLO_ACK from an
address that is being dialed and that is not where its signer is known to be, has a fresh time. On
the discovery socket, a signed greeting of another node with a fresh time, from a source that did
not fail recently, has one of the two types. -/
def Screened (V : Verify) (identity : Keypair) (s : ReceiveState) (d : Datagram) : Prop :=
  SignedGreeting V d.data →
    match d.socket with
    | .main =>
      (frameMsgType d.data = some helloMsgType ∨
        frameMsgType d.data = some helloAckMsgType ∧ d.addr ∈ s.pendingConnects ∧
          s.manager.addrOf (helloSender d.data) ≠ some d.addr) →
        helloTimestampIsFresh (helloTimestamp d.data) d.nowSecs
    | .discovery =>
      isRecentlyFailed s.recentlyFailed d.addr.ip d.now = false →
        helloSender d.data ≠ identity.nodeId →
          helloTimestampIsFresh (helloTimestamp d.data) d.nowSecs →
            frameMsgType d.data = some helloMsgType ∨ frameMsgType d.data = some helloAckMsgType

lemma addrOf_connect (m : NetworkManager) (peerId : NodeId) (addr : SocketAddr)
    (helloTs : UInt64) (now : Nat) : (m.connect peerId addr helloTs now).addrOf peerId = some addr :=
  congrArg _ (AList.lookup_insert _)

lemma exists_registers_main_iff :
    (∃ action ∈ (mainReceive V identity s data addr nowSecs).1, action.Registers s.manager now) ↔
      SignedGreeting V data ∧
        (frameMsgType data = some helloMsgType ∨
          frameMsgType data = some helloAckMsgType ∧ addr ∈ s.pendingConnects ∧
            s.manager.addrOf (helloSender data) ≠ some addr) := by
  unfold mainReceive
  rcases hextract : extractSenderWithTimestamp V data with _ | ⟨nodeId, helloTs⟩
  · have hunsigned := extractSenderWithTimestamp_eq_none_iff.mp hextract
    rcases decodeVerifiedFrame V data with _ | frame
    · simp [hunsigned]
    · simp [hunsigned, ReceiveAction.Registers]
  obtain ⟨hsigned, rfl, -⟩ := extractSenderWithTimestamp_eq_some_iff.mp hextract
  have hne : helloAckMsgType ≠ helloMsgType := by decide
  by_cases hack : frameMsgType data = some helloAckMsgType
  · by_cases hpending : addr ∈ s.pendingConnects
    · simp [hack, hpending, hsigned, hne, ReceiveAction.Registers, addrOf_connect, eq_comm]
    · simp [hack, hpending, hne, ReceiveAction.Registers]
  by_cases hhello : frameMsgType data = some helloMsgType
  · simp [hhello, hne.symm, hsigned, ReceiveAction.Registers]
  · simp [hack, hhello, ReceiveAction.Registers]

lemma exists_registers_discovery_iff :
    (∃ action ∈ (discoveryReceive V identity s data addr now nowSecs).1,
        action.Registers s.manager now) ↔
      SignedGreeting V data ∧ isRecentlyFailed s.recentlyFailed addr.ip now = false ∧
        helloSender data ≠ identity.nodeId ∧
          helloTimestampIsFresh (helloTimestamp data) nowSecs := by
  unfold discoveryReceive
  by_cases hfailed : isRecentlyFailed s.recentlyFailed addr.ip now
  · simp [hfailed]
  rw [if_neg hfailed]
  rcases hextract : extractSenderWithTimestamp V data with _ | ⟨senderId, helloTs⟩
  · have hunsigned := extractSenderWithTimestamp_eq_none_iff.mp hextract
    rcases decodeVerifiedFrame V data with _ | frame
    · simp [hunsigned]
    · simp [hunsigned, ReceiveAction.Registers]
  obtain ⟨hsigned, rfl, rfl⟩ := extractSenderWithTimestamp_eq_some_iff.mp hextract
  by_cases hown : helloSender data = identity.nodeId
  · simp [hown]
  by_cases hfresh : helloTimestampIsFresh (helloTimestamp data) nowSecs
  · simp [hown, hfresh, hsigned, hfailed, ReceiveAction.Registers]
  · simp [hown, hfresh]

/-- **When stale greetings register nobody.** For every datagram on either socket, in every state
and at every time: an action that registers a peer comes from a fresh greeting only, exactly if the
datagram is one that the missing checks would let pass. -/
theorem greetings_registered_fresh_iff (V : Verify) (identity : Keypair) (s : ReceiveState)
    (d : Datagram) : RegistersOnlyFresh V identity s d ↔ Screened V identity s d := by
  have hexists : RegistersOnlyFresh V identity s d ↔
      ((∃ action ∈ (receive V identity s d).1, action.Registers s.manager d.now) →
        FreshGreeting V d.data d.nowSecs) := by
    constructor
    · rintro h ⟨action, hmem, hregisters⟩
      exact h action hmem hregisters
    · intro h action hmem hregisters
      exact h ⟨action, hmem, hregisters⟩
  rw [hexists, receive, Screened]
  cases d.socket with
  | main =>
    simp only [exists_registers_main_iff]
    constructor
    · intro h hsigned hacts
      exact (h ⟨hsigned, hacts⟩).fresh
    · rintro h ⟨hsigned, hacts⟩
      refine ⟨hsigned, ?_, h hsigned hacts⟩
      rcases hacts with hhello | ⟨hack, -, -⟩
      · exact .inl hhello
      · exact .inr hack
  | discovery =>
    simp only [exists_registers_discovery_iff]
    constructor
    · intro h hsigned hfailed hother hfresh
      exact (h ⟨hsigned, hfailed, hother, hfresh⟩).msgType
    · rintro h ⟨hsigned, hfailed, hother, hfresh⟩
      exact ⟨hsigned, h hsigned hfailed hother hfresh, hfresh⟩

/-! ## What the loops let pass -/

/-- Ed25519 on three greetings of the year 2023: a HELLO, a HELLO_ACK, and one of type 7. -/
def greeter : Keypair where
  nodeId := sampleOrigin
  sign message :=
    if message = helloBody sampleOrigin helloMsgType 1700000000 then
      ⟨hex 64 (0x59b0048dd7b7266d79c50cdc0295e5c22be339d219207a8d185b510adaae2145 <<< 256 +
        0x7705fb638f74b7c9eac2269bebc78f71e8979b9cd051499e065c9c36fe66fe07)⟩
    else if message = helloBody sampleOrigin helloAckMsgType 1700000000 then
      ⟨hex 64 (0xd184242302e22e474b19b22b34d83dfee875a5fa8d8b4c67928d5e646ca9cb6b <<< 256 +
        0x9d0dd6a2477ad45a4b3b7f7c7460afda524c4e87dc9426ab61c8c190dfc6ab05)⟩
    else if message = helloBody sampleOrigin 7 1700000000 then
      ⟨hex 64 (0x191a0c4c4314351000df578d036e196c749a1ed45fed0270716c8bebc13b129a <<< 256 +
        0x98a76da386cbd3fdf108ec52cfab93a85ccbceac5b9f9bcb23f99a0834fafc0f)⟩
    else ⟨Vector.replicate 64 0⟩

def greeterVerify : Verify := fun node message sig =>
  node = greeter.nodeId && sig = greeter.sign message

/-- A node that knows nobody and dials one address. -/
def dialing : ReceiveState := ⟨.start 8 idleRelay, {sampleAddr 2}, ∅⟩

/-- A HELLO, an hour after it was signed. -/
def lateHello : Datagram :=
  ⟨.main, buildFrame greeter helloMsgType 1700000000, sampleAddr 1, 0, 1700003600⟩

def lateAnswer : Datagram :=
  ⟨.main, buildFrame greeter helloAckMsgType 1700000000, sampleAddr 2, 0, 1700003600⟩

def strangeGreeting : Datagram :=
  ⟨.discovery, buildFrame greeter 7 1700000000, sampleAddr 1, 0, 1700000000⟩

/-- **What the loops let pass.** An hour after it was signed, a HELLO on the main socket is reported
as a new peer, and a HELLO_ACK from the dialed address completes `connect`; and a greeting of type 7
on the discovery socket is reported as a new peer. None is a fresh HELLO or HELLO_ACK. -/
theorem stale_greetings_register :
    ReceiveAction.peerDiscovered sampleOrigin (sampleAddr 1) 1700000000 ∈
        (receive greeterVerify provider dialing lateHello).1 ∧
      ¬ RegistersOnlyFresh greeterVerify provider dialing lateHello ∧
      ReceiveAction.connectAnswered sampleOrigin (sampleAddr 2) 1700000000 ∈
        (receive greeterVerify provider dialing lateAnswer).1 ∧
      ¬ RegistersOnlyFresh greeterVerify provider dialing lateAnswer ∧
      ¬ RegistersOnlyFresh greeterVerify provider dialing strangeGreeting := by
  have hstale : ¬ helloTimestampIsFresh 1700000000 1700003600 := by decide
  have hhello : ReceiveAction.peerDiscovered sampleOrigin (sampleAddr 1) 1700000000 ∈
      (receive greeterVerify provider dialing lateHello).1 := by
    decide +kernel
  have hack : ReceiveAction.connectAnswered sampleOrigin (sampleAddr 2) 1700000000 ∈
      (receive greeterVerify provider dialing lateAnswer).1 := by
    decide +kernel
  have hother : ReceiveAction.peerDiscovered sampleOrigin (sampleAddr 1) 1700000000 ∈
      (receive greeterVerify provider dialing strangeGreeting).1 := by
    decide +kernel
  refine ⟨hhello, ?_, hack, ?_, ?_⟩
  · intro h
    have hfresh := (h _ hhello trivial).fresh
    rw [lateHello, helloTimestamp_buildFrame] at hfresh
    exact hstale hfresh
  · intro h
    have hadds : (ReceiveAction.connectAnswered sampleOrigin (sampleAddr 2) 1700000000).Registers
        dialing.manager 0 := by
      rw [ReceiveAction.Registers, addrOf_connect]
      exact Option.some_ne_none _
    have hfresh := (h _ hack hadds).fresh
    rw [lateAnswer, helloTimestamp_buildFrame] at hfresh
    exact hstale hfresh
  · intro h
    have hmsgType := (h _ hother trivial).msgType
    rw [strangeGreeting, frameMsgType_buildFrame] at hmsgType
    revert hmsgType
    decide

/-! ## Two nodes meet -/

end AxiomCore
