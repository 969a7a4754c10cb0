import AxiomCore.Codec.RoundTrip
import AxiomCore.Lib.FifoSet
import AxiomCore.Lib.Run

/-!
# Reliable delivery

A frame that is sent reliably is kept until it is acknowledged, and sent again with growing pauses,
ten times in all by default. The receiver acknowledges each copy and hands the first one to its
caller: what it handed over stays in a table under the sender's address and the frame's trace id.
The table has 8192 places, the oldest entry leaves first, and once a minute the entries that are a
minute old are dropped.

`Remembers m k received n`: the table has the frame, which came at that time, and at most `n` others
came after it.

Times are in nanoseconds.

Source: `axiom-transport/src/reliability.rs`.
-/

namespace AxiomCore

open Lib Encoder Decoder

/-! ## Errors and configuration -/

/-- Source: `axiom-transport/src/lib.rs`, `TransportError`. -/
inductive TransportError where
  | io (reason : String)
  | sendFailed (reason : String)
  | receiveFailed (reason : String)
  | codec (fault : Fault CodecError)
  | notBound

def receivedDedupCapacity : Nat := 8192

/-- A millisecond in nanoseconds. Source: Rust's `Duration::as_millis`. -/
def nanosPerMilli : Nat := 1000000

structure ReliabilityConfig where
  initialRtoMs : UInt64
  maxRtoMs : UInt64
  maxRetries : UInt32
  /-- How many frames can wait for an acknowledgement. -/
  maxPending : Nat

def ReliabilityConfig.default : ReliabilityConfig where
  initialRtoMs := 200
  maxRtoMs := 60000
  maxRetries := 10
  maxPending := 1000

def encodeToBuffer (size : Nat) (frame : Frame) : Checked CodecError (List UInt8) := do
  let (written, buffer) ← encode frame (List.replicate size 0)
  .ok (buffer.take written)

lemma encodeToBuffer_eq_ok_iff {size : Nat} {frame : Frame} {data : List UInt8} :
    encodeToBuffer size frame = .ok data ↔
      frame.wireSize ≤ size ∧ frame.payload.length ≤ maxPayloadSize ∧ frame.wireBytes = data := by
  rw [encodeToBuffer, encode_eq, List.length_replicate]
  by_cases hroom : size < frame.wireSize
  · rw [if_pos hroom]
    constructor
    · nofun
    · exact fun h => absurd h.1 (Nat.not_le_of_lt hroom)
  rw [if_neg hroom]
  by_cases hpayload : frame.payload.length > maxPayloadSize
  · rw [if_pos hpayload]
    constructor
    · nofun
    · exact fun h => absurd h.2.1 (Nat.not_le_of_lt hpayload)
  have htake : (frame.wireBytes ++ (List.replicate size 0).drop frame.wireSize).take
      frame.wireSize = frame.wireBytes := by
    rw [← length_wireBytes]
    exact List.take_left
  rw [if_neg hpayload, ok_bind]
  simp only [htake]
  constructor
  · exact fun h => ⟨Nat.le_of_not_lt hroom, Nat.le_of_not_lt hpayload, Except.ok.inj h⟩
  · exact fun h => congrArg Except.ok h.2.2

/-! ## Control payloads -/

structure AckPayload where
  traceId : TraceId
  ackCount : UInt16
  sackBitmap : UInt32

namespace AckPayload

def new (traceId : TraceId) : AckPayload := ⟨traceId, 1, 0⟩

def encode (ack : AckPayload) : List UInt8 :=
  ack.traceId.bytes.toList ++ (beBytes 2 ack.ackCount.toNat ++ beBytes 4 ack.sackBitmap.toNat)

def decode (data : List UInt8) : Option AckPayload :=
  if data.length < 14 then none
  else some
    ⟨⟨takeVec 8 data⟩, UInt16.ofNat (beNat ((data.drop 8).take 2)),
      UInt32.ofNat (beNat ((data.drop 10).take 4))⟩

end AckPayload

structure NackPayload where
  traceId : TraceId
  missingSeq : UInt16

def NackPayload.decode (data : List UInt8) : Option NackPayload :=
  if data.length < 10 then none
  else some ⟨⟨takeVec 8 data⟩, UInt16.ofNat (beNat ((data.drop 8).take 2))⟩

/-! ## The manager -/

structure PendingFrame where
  data : List UInt8
  frame : Frame
  dest : SocketAddr
  lastSent : Nat
  attempts : UInt32
  rtoMs : UInt64

structure ReliabilityManager where
  config : ReliabilityConfig
  /-- Frames that wait for an acknowledgement. -/
  pending : AList fun _ : TraceId => PendingFrame
  nodeId : NodeId
  /-- `received` and `received_order`: what was received, when, and in which order. -/
  received : FifoMap (SocketAddr × TraceId) Nat receivedDedupCapacity
  /-- How old an entry becomes, and how often old ones are dropped. -/
  receivedCleanupInterval : Nat
  lastCleanup : Nat

namespace ReliabilityManager

def new (config : ReliabilityConfig) (nodeId : NodeId) (now : Nat) : ReliabilityManager where
  config := config
  pending := ∅
  nodeId := nodeId
  received := .empty
  receivedCleanupInterval := 60000 * nanosPerMilli
  lastCleanup := now

def trackFrame (m : ReliabilityManager) (frame : Frame) (data : List UInt8) (dest : SocketAddr)
    (now : Nat) : Except TransportError ReliabilityManager :=
  match frame.traceId with
  | none => .error (.io "Frame must have trace_id for reliable delivery")
  | some traceId =>
    if m.config.maxPending ≤ m.pending.entries.length then .error (.io "Too many pending frames")
    else .ok { m with
      pending := m.pending.insert traceId ⟨data, frame, dest, now, 1, m.config.initialRtoMs⟩ }

/-- `ReliabilityManager::process_ack`: the frame is acknowledged, or `none`. -/
def processAck (m : ReliabilityManager) (source : SocketAddr) (ack : AckPayload) :
    Option ReliabilityManager :=
  match m.pending.lookup ack.traceId with
  | none => none
  | some pending =>
    if pending.dest ≠ source then none
    else some { m with pending := m.pending.erase ack.traceId }

def processNack (m : ReliabilityManager) (source : SocketAddr) (nack : NackPayload) (now : Nat) :
    Option PendingFrame × ReliabilityManager :=
  match m.pending.lookup nack.traceId with
  | none => (none, m)
  | some pending =>
    if pending.dest ≠ source then (none, m)
    else if m.config.maxRetries ≤ pending.attempts then
      (none, { m with pending := m.pending.erase nack.traceId })
    else
      let pending := { pending with lastSent := now, attempts := pending.attempts + 1 }
      (some pending, { m with pending := m.pending.insert nack.traceId pending })

/-- One frame of `get_retransmit_frames`. -/
def visitPending (now : Nat) (acc : List PendingFrame × ReliabilityManager)
    (entry : (_ : TraceId) × PendingFrame) : List PendingFrame × ReliabilityManager :=
  let (retransmit, m) := acc
  let pending := entry.2
  let elapsed := UInt64.ofNat ((now - pending.lastSent) / nanosPerMilli)
  if pending.rtoMs ≤ elapsed then
    if m.config.maxRetries ≤ pending.attempts then
      (retransmit, { m with pending := m.pending.erase entry.1 })
    else
      let pending := { pending with
        attempts := pending.attempts + 1
        lastSent := now
        -- exponential backoff
        rtoMs := min (pending.rtoMs * 2) m.config.maxRtoMs }
      (retransmit ++ [pending], { m with pending := m.pending.insert entry.1 pending })
  else acc

def getRetransmitFrames (m : ReliabilityManager) (now : Nat) :
    List PendingFrame × ReliabilityManager :=
  m.pending.entries.foldl (visitPending now) ([], m)

lemma getRetransmitFrames_eq (m : ReliabilityManager) (now : Nat) :
    ∃ pending, (m.getRetransmitFrames now).2 = { m with pending := pending } := by
  have hfold : ∀ (entries : List ((_ : TraceId) × PendingFrame))
      (acc : List PendingFrame × ReliabilityManager),
      ∃ pending, (entries.foldl (visitPending now) acc).2 = { acc.2 with pending := pending } := by
    intro entries
    induction entries with
    | nil => exact fun acc => ⟨acc.2.pending, rfl⟩
    | cons entry entries ih =>
      intro acc
      have hvisit : ∃ pending, (visitPending now acc entry).2 = { acc.2 with pending := pending } := by
        unfold visitPending
        dsimp only
        split_ifs <;> exact ⟨_, rfl⟩
      obtain ⟨pending, hpending⟩ := hvisit
      obtain ⟨pending', hrest⟩ := ih (visitPending now acc entry)
      exact ⟨pending', by rw [List.foldl_cons, hrest, hpending]⟩
  exact hfold m.pending.entries ([], m)

def createAckFrame (m : ReliabilityManager) (traceId : TraceId) : Frame :=
  Frame.new { FrameHeader.new .ack m.nodeId with trustLevel := .raw } .raw
    (AckPayload.new traceId).encode

def cleanupReceived (m : ReliabilityManager) (now : Nat) : ReliabilityManager :=
  { m with received := m.received.retain fun instant => now - instant < m.receivedCleanupInterval }

/-- The start of `is_duplicate`: drop old entries, if it is time to. `cleanup_received` reads the
clock once more. -/
def cleanupIfDue (m : ReliabilityManager) (now cleanupNow : Nat) : ReliabilityManager :=
  if now - m.lastCleanup > m.receivedCleanupInterval then
    { m.cleanupReceived cleanupNow with lastCleanup := now }
  else m

def isDuplicate (m : ReliabilityManager) (source : SocketAddr) (traceId : TraceId)
    (now cleanupNow : Nat) : Bool × ReliabilityManager :=
  let m := m.cleanupIfDue now cleanupNow
  let key := (source, traceId)
  if key ∈ m.received.keys then (true, m)
  else (false, { m with received := m.received.insert key now })

/-! ### What is remembered -/

variable {m : ReliabilityManager} {key : SocketAddr × TraceId} {now cleanupNow received n : Nat}

def Remembers (m : ReliabilityManager) (key : SocketAddr × TraceId) (received n : Nat) : Prop :=
  m.received.entries key = some received ∧ m.received.keys.Recent key n

lemma Remembers.mono {n' : Nat} (h : m.Remembers key received n) (hn : n ≤ n') :
    m.Remembers key received n' :=
  ⟨h.1, h.2.mono hn⟩

lemma Remembers.cleanupIfDue (h : m.Remembers key received n) (now : Nat)
    (hyoung : cleanupNow - received < m.receivedCleanupInterval) :
    (m.cleanupIfDue now cleanupNow).Remembers key received n := by
  unfold ReliabilityManager.cleanupIfDue
  split_ifs
  · refine ⟨?_, h.2.retain ?_⟩
    · show (m.received.entries key).filter _ = some received
      rw [h.1, Option.filter_some, if_pos (decide_eq_true hyoung)]
    · rw [h.1, Option.any_some]
      exact decide_eq_true hyoung
  · exact h

lemma receivedCleanupInterval_cleanupIfDue (m : ReliabilityManager) (now cleanupNow : Nat) :
    (m.cleanupIfDue now cleanupNow).receivedCleanupInterval = m.receivedCleanupInterval := by
  unfold ReliabilityManager.cleanupIfDue
  split_ifs <;> rfl

lemma receivedCleanupInterval_isDuplicate (m : ReliabilityManager) (source : SocketAddr)
    (traceId : TraceId) (now cleanupNow : Nat) :
    (m.isDuplicate source traceId now cleanupNow).2.receivedCleanupInterval =
      m.receivedCleanupInterval := by
  rw [← receivedCleanupInterval_cleanupIfDue m now cleanupNow]
  unfold isDuplicate
  dsimp only
  split_ifs <;> rfl

variable {source : SocketAddr} {traceId : TraceId}

lemma isDuplicate_eq_true_iff :
    (m.isDuplicate source traceId now cleanupNow).1 = true ↔
      (source, traceId) ∈ (m.cleanupIfDue now cleanupNow).received.keys := by
  unfold isDuplicate
  dsimp only
  split_ifs with hmem <;> simp [hmem]

lemma remembers_of_isDuplicate
    (hnew : (m.isDuplicate source traceId now cleanupNow).1 = false) :
    (m.isDuplicate source traceId now cleanupNow).2.Remembers (source, traceId) now 0 := by
  rw [← Bool.not_eq_true, isDuplicate_eq_true_iff] at hnew
  have hrecent := FifoSet.recent_insert_self hnew (by decide)
  unfold isDuplicate
  dsimp only
  rw [if_neg hnew]
  exact ⟨FifoMap.entries_insert_self now hrecent.mem, hrecent⟩

lemma Remembers.isDuplicate_copy
    (h : m.Remembers (source, traceId) received n) (now : Nat)
    (hyoung : cleanupNow - received < m.receivedCleanupInterval) :
    (m.isDuplicate source traceId now cleanupNow).1 = true ∧
      (m.isDuplicate source traceId now cleanupNow).2.Remembers (source, traceId) received n := by
  have hclean := h.cleanupIfDue now hyoung
  refine ⟨isDuplicate_eq_true_iff.mpr hclean.2.mem, ?_⟩
  unfold isDuplicate
  dsimp only
  rw [if_pos hclean.2.mem]
  exact hclean

lemma Remembers.isDuplicate_other
    (h : m.Remembers key received n) (hother : key ≠ (source, traceId))
    (hyoung : cleanupNow - received < m.receivedCleanupInterval)
    (hroom : n + 1 < receivedDedupCapacity) :
    (m.isDuplicate source traceId now cleanupNow).2.Remembers key received (n + 1) := by
  have hclean := h.cleanupIfDue now hyoung
  unfold isDuplicate
  dsimp only
  split_ifs
  · exact hclean.mono (Nat.le_succ n)
  · have hrecent := hclean.2.insert hroom (source, traceId)
    exact ⟨(FifoMap.entries_insert_of_mem now hother hrecent.mem).trans hclean.1, hrecent⟩

lemma isDuplicate_of_le (h : now - m.lastCleanup ≤ m.receivedCleanupInterval)
    (source : SocketAddr) (traceId : TraceId) (cleanupNow : Nat) :
    (m.isDuplicate source traceId now cleanupNow).1 = decide ((source, traceId) ∈ m.received.keys) ∧
      (m.isDuplicate source traceId now cleanupNow).2.received.keys =
        m.received.keys.insert (source, traceId) ∧
      (m.isDuplicate source traceId now cleanupNow).2.lastCleanup = m.lastCleanup := by
  have hclean : m.cleanupIfDue now cleanupNow = m := if_neg (Nat.not_lt_of_le h)
  unfold isDuplicate
  rw [hclean]
  dsimp only
  by_cases hmem : (source, traceId) ∈ m.received.keys
  · rw [if_pos hmem]
    exact ⟨(decide_eq_true hmem).symm, (FifoSet.insert_of_mem hmem).symm, rfl⟩
  · rw [if_neg hmem]
    exact ⟨(decide_eq_false hmem).symm, rfl, rfl⟩

end ReliabilityManager

/-! ## The transport -/

abbrev Outgoing := List UInt8 × SocketAddr

/-- Source: `axiom-types/src/frame.rs`, `Frame::with_trace_id`. -/
def Frame.withTraceId (frame : Frame) (traceId : TraceId) : Frame :=
  { frame with
    traceId := some traceId
    payloadHeader := { frame.payloadHeader with flags := frame.payloadHeader.flags ||| 0x01 } }

structure ReliableTransport where
  bound : Bool
  /-- What is pending and what was received. -/
  manager : ReliabilityManager

inductive RecvOutcome where
  /-- `continue`. -/
  | next
  | returned (result : Except TransportError (Frame × SocketAddr))

def RecvOutcome.isReturned : RecvOutcome → Bool
  | .next => false
  | .returned _ => true

namespace ReliableTransport

def new (config : ReliabilityConfig) (nodeId : NodeId) (now : Nat) : ReliableTransport :=
  ⟨true, .new config nodeId now⟩

/-- `ReliableTransport::send_reliable`, with a fresh trace id, the reading of the clock and the
error of the socket, if there is one. -/
def sendReliable (t : ReliableTransport) (frame : Frame) (dest : SocketAddr) (freshId : TraceId)
    (now : Nat) (sendError : Option String) :
    Except TransportError TraceId × ReliableTransport × List Outgoing :=
  if ¬ t.bound then (.error .notBound, t, [])
  else
    let (traceId, frame) :=
      match frame.traceId with
      | some traceId => (traceId, frame)
      | none => (freshId, frame.withTraceId freshId)
    match encodeToBuffer 65536 frame with
    | .error fault => (.error (.codec fault), t, [])
    | .ok data =>
      match t.manager.trackFrame frame data dest now with
      | .error e => (.error e, t, [])
      | .ok manager =>
        match sendError with
        | some e => (.error (.sendFailed e), { t with manager := manager }, [])
        | none => (.ok traceId, { t with manager := manager }, [(data, dest)])

def checkRetransmits (t : ReliableTransport) (now : Nat) : ReliableTransport × List Outgoing :=
  let (retransmits, manager) := t.manager.getRetransmitFrames now
  ({ t with manager := manager }, retransmits.map fun pending => (pending.data, pending.dest))

def ackDatagrams (m : ReliabilityManager) (traceId : TraceId) (addr : SocketAddr) : List Outgoing :=
  match encodeToBuffer 65536 (m.createAckFrame traceId) with
  | .ok data => [(data, addr)]
  | .error _ => []

/-- A regular frame: it is acknowledged, and returned if it is not a duplicate. -/
def handleRegular (t : ReliableTransport) (frame : Frame) (addr : SocketAddr)
    (now cleanupNow : Nat) : RecvOutcome × ReliableTransport × List Outgoing :=
  match frame.traceId with
  | some traceId =>
    let (isDup, manager) := t.manager.isDuplicate addr traceId now cleanupNow
    let acks := ackDatagrams manager traceId addr
    if isDup then (.next, { t with manager := manager }, acks)
    else (.returned (.ok (frame, addr)), { t with manager := manager }, acks)
  | none => (.returned (.ok (frame, addr)), t, [])

/-- The rest of a round of `recv`, for what arrived. -/
def handleDatagram (t : ReliableTransport) (data : List UInt8) (addr : SocketAddr)
    (now cleanupNow : Nat) : RecvOutcome × ReliableTransport × List Outgoing :=
  match decode data with
  | .error fault => (.returned (.error (.codec fault)), t, [])
  | .ok frame =>
    match frame.header.frameType with
    | .ack =>
      match AckPayload.decode frame.payload with
      | some ack =>
        (.next, { t with manager := (t.manager.processAck addr ack).getD t.manager }, [])
      | none => (.next, t, [])
    | .nack =>
      match NackPayload.decode frame.payload with
      | some nack =>
        let (pending, manager) := t.manager.processNack addr nack now
        (.next, { t with manager := manager },
          pending.toList.map fun pending => (pending.data, pending.dest))
      | none => (.next, t, [])
    | _ => t.handleRegular frame addr now cleanupNow

variable {t : ReliableTransport} {frame : Frame}

variable {now : Nat} {traceId : TraceId}

lemma handleRegular_of_some (t : ReliableTransport) (now cleanupNow : Nat) (addr : SocketAddr)
    (h : frame.traceId = some traceId) :
    (t.handleRegular frame addr now cleanupNow).1.isReturned =
        !(t.manager.isDuplicate addr traceId now cleanupNow).1 ∧
      (t.handleRegular frame addr now cleanupNow).2.1.manager =
        (t.manager.isDuplicate addr traceId now cleanupNow).2 := by
  simp only [handleRegular, h]
  rcases t.manager.isDuplicate addr traceId now cleanupNow with ⟨_ | _, manager⟩
  · exact ⟨rfl, rfl⟩
  · exact ⟨rfl, rfl⟩

lemma sendReliable_eq
    (hbound : t.bound) (htrace : frame.traceId = some traceId) (hsize : frame.wireSize ≤ 65536)
    (hpayload : frame.payload.length ≤ maxPayloadSize)
    (hroom : t.manager.pending.entries.length < t.manager.config.maxPending) (dest : SocketAddr)
    (freshId : TraceId) (now : Nat) :
    t.sendReliable frame dest freshId now none = (.ok traceId,
      { t with manager := { t.manager with
          pending := t.manager.pending.insert traceId
            ⟨frame.wireBytes, frame, dest, now, 1, t.manager.config.initialRtoMs⟩ } },
      [(frame.wireBytes, dest)]) := by
  have hencode : encodeToBuffer 65536 frame = .ok frame.wireBytes :=
    encodeToBuffer_eq_ok_iff.mpr ⟨hsize, hpayload, rfl⟩
  have htrack : t.manager.trackFrame frame frame.wireBytes dest now =
      .ok { t.manager with
        pending := t.manager.pending.insert traceId
          ⟨frame.wireBytes, frame, dest, now, 1, t.manager.config.initialRtoMs⟩ } := by
    simp only [ReliabilityManager.trackFrame, htrace]
    exact if_neg (Nat.not_le_of_lt hroom)
  rw [sendReliable, if_neg (not_not_intro hbound)]
  simp only [htrace, hencode, htrack]

/-- The table of what was received is the same. -/
def SameReceived (t t' : ReliableTransport) : Prop :=
  t'.manager.received = t.manager.received ∧
    t'.manager.receivedCleanupInterval = t.manager.receivedCleanupInterval

lemma SameReceived.refl (t : ReliableTransport) : t.SameReceived t := ⟨rfl, rfl⟩

lemma sameReceived_of_trackFrame {data : List UInt8}
    {dest : SocketAddr} {manager : ReliabilityManager}
    (h : t.manager.trackFrame frame data dest now = .ok manager) :
    t.SameReceived { t with manager := manager } := by
  unfold ReliabilityManager.trackFrame at h
  split at h
  · cases h
  split_ifs at h
  rw [← Except.ok.inj h]
  exact ⟨rfl, rfl⟩

lemma sameReceived_sendReliable (t : ReliableTransport) (frame : Frame) (dest : SocketAddr)
    (freshId : TraceId) (now : Nat) (sendError : Option String) :
    t.SameReceived (t.sendReliable frame dest freshId now sendError).2.1 := by
  unfold sendReliable
  dsimp only
  split_ifs
  · generalize (match frame.traceId with
      | some traceId => (traceId, frame)
      | none => (freshId, frame.withTraceId freshId)) = traced
    rcases encodeToBuffer 65536 traced.2 with fault | data
    · exact .refl t
    dsimp only
    rcases htrack : t.manager.trackFrame _ data dest now with e | manager
    · exact .refl t
    rcases sendError with _ | e
    · exact sameReceived_of_trackFrame htrack
    · exact sameReceived_of_trackFrame htrack
  · exact .refl t

lemma sameReceived_processAck (t : ReliableTransport) (addr : SocketAddr) (ack : AckPayload) :
    t.SameReceived { t with manager := (t.manager.processAck addr ack).getD t.manager } := by
  unfold ReliabilityManager.processAck
  split
  · exact .refl t
  · split_ifs <;> exact ⟨rfl, rfl⟩

lemma sameReceived_processNack (t : ReliableTransport) (addr : SocketAddr) (nack : NackPayload)
    (now : Nat) : t.SameReceived { t with manager := (t.manager.processNack addr nack now).2 } := by
  unfold ReliabilityManager.processNack
  split
  · exact .refl t
  · split_ifs <;> exact ⟨rfl, rfl⟩

lemma sameReceived_checkRetransmits (t : ReliableTransport) (now : Nat) :
    t.SameReceived (t.checkRetransmits now).1 := by
  obtain ⟨pending, hsame⟩ := t.manager.getRetransmitFrames_eq now
  unfold SameReceived checkRetransmits
  dsimp only
  rw [hsame]
  exact ⟨rfl, rfl⟩

end ReliableTransport

end AxiomCore
