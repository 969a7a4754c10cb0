import AxiomCore.Transport.Reliability

/-!
# At most once

`ReliableLink` is two endpoints that send reliably, with a log of the frames that the receiver got
and which of them it handed over. What the sender sends reaches the receiver; acknowledgements are
lost, delayed or forged: any datagram can reach either side.

Source: `axiom-transport/src/reliability.rs`.
-/

namespace AxiomCore

open Lib Encoder Decoder ReliabilityManager List

/-! ## Two endpoints -/

structure Reception where
  frame : Frame
  source : SocketAddr
  now : Nat
  /-- The second reading of the clock. -/
  cleanupNow : Nat
  handed : Bool

namespace Reception

def key (r : Reception) : Option (SocketAddr × TraceId) :=
  r.frame.traceId.map fun traceId => (r.source, traceId)

/-- It is a copy of that frame, and was handed over. -/
def isHandedAs (k : SocketAddr × TraceId) (r : Reception) : Bool := r.handed && r.key = some k

def isOther (k : SocketAddr × TraceId) (r : Reception) : Bool := r.key.isSome && r.key ≠ some k

variable {r : Reception} {k k' : SocketAddr × TraceId}

lemma isHandedAs_iff : r.isHandedAs k ↔ r.handed ∧ r.key = some k := by
  simp [isHandedAs]

lemma countP_isOther_of_none (h : r.key = none) : [r].countP (·.isOther k) = 0 := by
  simp [isOther, h]

lemma countP_isOther_self (h : r.key = some k) : [r].countP (·.isOther k) = 0 := by
  simp [isOther, h]

lemma countP_isOther_of_ne (h : r.key = some k') (hne : k ≠ k') :
    [r].countP (·.isOther k) = 1 := by
  simp [isOther, h, Ne.symm hne]

end Reception

open Reception

/-- Two endpoints, and what the second one got. -/
structure ReliableLink where
  sender : ReliableTransport
  receiver : ReliableTransport
  senderAddr : SocketAddr
  receiverAddr : SocketAddr
  /-- What the receiver got, in order. -/
  log : List Reception

inductive LinkAction where
  /-- The sender sends a frame to the receiver. -/
  | send (frame : Frame) (freshId : TraceId) (sendError : Option String)
  /-- The sender's `recv` starts a round. -/
  | poll
  /-- Something reaches the sender: an acknowledgement, or not. -/
  | toSender (data : List UInt8) (addr : SocketAddr)
  /-- Something else reaches the receiver. -/
  | toReceiver (data : List UInt8) (addr : SocketAddr)
  /-- The receiver sends a frame, to whomever. -/
  | receiverSend (frame : Frame) (dest : SocketAddr) (freshId : TraceId) (sendError : Option String)
  /-- The receiver's `recv` starts a round. -/
  | receiverPoll

/-- An action, and the readings of the clock: when something is sent, when it arrives, and when the
receiver drops old entries. -/
structure LinkEvent where
  action : LinkAction
  sentAt : Nat
  arrivedAt : Nat
  cleanupAt : Nat

namespace ReliableLink

def start (sender : ReliableTransport) (config : ReliabilityConfig) (nodeId : NodeId) (now : Nat)
    (senderAddr receiverAddr : SocketAddr) : ReliableLink :=
  ⟨sender, .new config nodeId now, senderAddr, receiverAddr, []⟩

def reception (data : List UInt8) (addr : SocketAddr) (now cleanupNow : Nat)
    (outcome : RecvOutcome) : List Reception :=
  match decode data with
  | .error _ => []
  | .ok frame =>
    match frame.header.frameType with
    | .ack | .nack => []
    | _ => [⟨frame, addr, now, cleanupNow, outcome.isReturned⟩]

def receive (link : ReliableLink) (data : List UInt8) (addr : SocketAddr) (now cleanupNow : Nat) :
    ReliableLink :=
  let round := link.receiver.handleDatagram data addr now cleanupNow
  { link with
    receiver := round.2.1
    log := link.log ++ reception data addr now cleanupNow round.1 }

def deliver (link : ReliableLink) (datagrams : List Outgoing) (now cleanupNow : Nat) :
    ReliableLink :=
  datagrams.foldl (fun link (datagram : Outgoing) =>
    if datagram.2 = link.receiverAddr then
      link.receive datagram.1 link.senderAddr now cleanupNow
    else link) link

def step (link : ReliableLink) (e : LinkEvent) : ReliableLink :=
  match e.action with
  | .send frame freshId sendError =>
    let (_, sender, datagrams) :=
      link.sender.sendReliable frame link.receiverAddr freshId e.sentAt sendError
    { link with sender := sender }.deliver datagrams e.arrivedAt e.cleanupAt
  | .poll =>
    let (sender, datagrams) := link.sender.checkRetransmits e.sentAt
    { link with sender := sender }.deliver datagrams e.arrivedAt e.cleanupAt
  | .toSender data addr =>
    let (_, sender, datagrams) := link.sender.handleDatagram data addr e.sentAt e.cleanupAt
    { link with sender := sender }.deliver datagrams e.arrivedAt e.cleanupAt
  | .toReceiver data addr => link.receive data addr e.arrivedAt e.cleanupAt
  | .receiverSend frame dest freshId sendError =>
    { link with
      receiver := (link.receiver.sendReliable frame dest freshId e.sentAt sendError).2.1 }
  | .receiverPoll => { link with receiver := (link.receiver.checkRetransmits e.sentAt).1 }

variable (link : ReliableLink) (sentAt now cleanupNow : Nat)

lemma sender_receive (data : List UInt8) (addr : SocketAddr) :
    (link.receive data addr now cleanupNow).sender = link.sender := rfl

lemma senderAddr_receive (data : List UInt8) (addr : SocketAddr) :
    (link.receive data addr now cleanupNow).senderAddr = link.senderAddr := rfl

lemma receiverAddr_receive (data : List UInt8) (addr : SocketAddr) :
    (link.receive data addr now cleanupNow).receiverAddr = link.receiverAddr := rfl

lemma deliver_singleton {link : ReliableLink} {dest : SocketAddr} (h : dest = link.receiverAddr)
    (data : List UInt8) :
    link.deliver [(data, dest)] now cleanupNow =
      link.receive data link.senderAddr now cleanupNow :=
  if_pos h

lemma step_send (frame : Frame) (freshId : TraceId) (sendError : Option String) :
    link.step ⟨.send frame freshId sendError, sentAt, now, cleanupNow⟩ =
      deliver { link with sender := (link.sender.sendReliable frame link.receiverAddr freshId sentAt
          sendError).2.1 }
        (link.sender.sendReliable frame link.receiverAddr freshId sentAt sendError).2.2 now
        cleanupNow := by
  dsimp only [step]

lemma step_poll :
    link.step ⟨.poll, sentAt, now, cleanupNow⟩ =
      deliver { link with sender := (link.sender.checkRetransmits sentAt).1 }
        (link.sender.checkRetransmits sentAt).2 now cleanupNow := rfl

lemma step_toReceiver (data : List UInt8) (addr : SocketAddr) :
    link.step ⟨.toReceiver data addr, sentAt, now, cleanupNow⟩ =
      link.receive data addr now cleanupNow := rfl

/-- **What a datagram does to the receiver.** It is not logged, and the table stays; or it is
logged, without a trace id; or it is logged with one, and was handed over unless it is a
duplicate. -/
theorem receive_cases (data : List UInt8) (addr : SocketAddr) :
    link.receiver.SameReceived (link.receive data addr now cleanupNow).receiver ∧
        ((link.receive data addr now cleanupNow).log = link.log ∨
          ∃ frame, frame.traceId = none ∧ (link.receive data addr now cleanupNow).log =
            link.log ++ [⟨frame, addr, now, cleanupNow, true⟩]) ∨
      ∃ frame traceId, frame.traceId = some traceId ∧
        (link.receive data addr now cleanupNow).receiver.manager =
          (link.receiver.manager.isDuplicate addr traceId now cleanupNow).2 ∧
        (link.receive data addr now cleanupNow).log = link.log ++ [⟨frame, addr, now, cleanupNow,
          !(link.receiver.manager.isDuplicate addr traceId now cleanupNow).1⟩] := by
  unfold receive reception ReliableTransport.handleDatagram
  rcases hdecode : decode data with fault | frame
  · exact .inl ⟨.refl _, .inl (append_nil _)⟩
  dsimp only
  cases htype : frame.header.frameType with
  | ack =>
    refine .inl ⟨?_, .inl (append_nil _)⟩
    rcases AckPayload.decode frame.payload with _ | ack
    · exact .refl _
    · exact link.receiver.sameReceived_processAck addr ack
  | nack =>
    refine .inl ⟨?_, .inl (append_nil _)⟩
    rcases NackPayload.decode frame.payload with _ | nack
    · exact .refl _
    · exact link.receiver.sameReceived_processNack addr nack now
  | _ =>
    dsimp only
    rcases htrace : frame.traceId with _ | traceId
    · simp only [ReliableTransport.handleRegular, htrace]
      exact .inl ⟨.refl _, .inr ⟨frame, htrace, rfl⟩⟩
    obtain ⟨hhanded, hmanager⟩ := link.receiver.handleRegular_of_some now cleanupNow addr htrace
    rw [hhanded]
    exact .inr ⟨frame, traceId, htrace, hmanager, rfl⟩

variable {data : List UInt8} {frame : Frame} {traceId : TraceId} {k : SocketAddr × TraceId}
  {r : Reception} {later : List Reception}

lemma receive_of_decode
    (hdecode : decode data = .ok frame) (htype : frame.header.frameType = .intent)
    (htrace : frame.traceId = some traceId)
    (hnow : now - link.receiver.manager.lastCleanup ≤
      link.receiver.manager.receivedCleanupInterval) (addr : SocketAddr) :
    (link.receive data addr now cleanupNow).receiver.manager.received.keys =
        link.receiver.manager.received.keys.insert (addr, traceId) ∧
      (link.receive data addr now cleanupNow).receiver.manager.lastCleanup =
        link.receiver.manager.lastCleanup ∧
      (link.receive data addr now cleanupNow).receiver.manager.receivedCleanupInterval =
        link.receiver.manager.receivedCleanupInterval ∧
      (link.receive data addr now cleanupNow).log = link.log ++ [⟨frame, addr, now, cleanupNow,
        !decide ((addr, traceId) ∈ link.receiver.manager.received.keys)⟩] := by
  obtain ⟨hdup, hkeys, hcleanup⟩ :=
    isDuplicate_of_le hnow addr traceId cleanupNow
  obtain ⟨hhanded, hmanager⟩ := link.receiver.handleRegular_of_some now cleanupNow addr htrace
  have hhandle : link.receiver.handleDatagram data addr now cleanupNow =
      link.receiver.handleRegular frame addr now cleanupNow := by
    simp only [ReliableTransport.handleDatagram, hdecode, htype]
  have hreception (outcome : RecvOutcome) : reception data addr now cleanupNow outcome =
      [⟨frame, addr, now, cleanupNow, outcome.isReturned⟩] := by
    simp only [reception, hdecode, htype]
  dsimp only [receive]
  rw [hhandle, hmanager, hreception, hhanded, hdup]
  exact ⟨hkeys, hcleanup, receivedCleanupInterval_isDuplicate .., rfl⟩

lemma log_step_poll
    (hretransmits : (link.sender.checkRetransmits sentAt).2 = [(data, link.receiverAddr)])
    (hdecode : decode data = .ok frame) (htype : frame.header.frameType = .intent)
    (htrace : frame.traceId = some traceId)
    (hnow : now - link.receiver.manager.lastCleanup ≤
      link.receiver.manager.receivedCleanupInterval) :
    (link.step ⟨.poll, sentAt, now, cleanupNow⟩).log =
      link.log ++ [⟨frame, link.senderAddr, now, cleanupNow,
        !decide ((link.senderAddr, traceId) ∈ link.receiver.manager.received.keys)⟩] := by
  rw [step_poll, hretransmits, deliver_singleton now cleanupNow rfl]
  exact (receive_of_decode { link with sender := (link.sender.checkRetransmits sentAt).1 } now
    cleanupNow hdecode htype htrace hnow link.senderAddr).2.2.2

/-! ### At most once -/

/-- The interval between two frames is too short for the table to forget the first one: fewer others
come after it than the table has places, and old entries are dropped when it is still young. -/
def Within (interval : Nat) (k : SocketAddr × TraceId) (r : Reception) (later : List Reception) :
    Prop :=
  later.countP (·.isOther k) < receivedDedupCapacity ∧
    ∀ x ∈ later, x.cleanupNow - r.now < interval

lemma Within.of_append {interval : Nat}
    {rest : List Reception} (h : Within interval k r (later ++ rest)) :
    Within interval k r later := by
  refine ⟨?_, fun x hx => h.2 x (mem_append_left rest hx)⟩
  have hcount := h.1
  rw [countP_append] at hcount
  exact Nat.lt_of_le_of_lt (Nat.le_add_right ..) hcount

/-- What was handed over is remembered, and not handed over again, within the interval. -/
structure HandsOverOnce (interval : Nat) (link : ReliableLink) : Prop where
  interval_eq : link.receiver.manager.receivedCleanupInterval = interval
  remembers : ∀ {k before r later}, link.log = before ++ r :: later → r.isHandedAs k →
    Within interval k r later →
      link.receiver.manager.Remembers k r.now (later.countP (·.isOther k))
  once : ∀ {k before r between r' later}, link.log = before ++ r :: (between ++ r' :: later) →
    r.isHandedAs k → r'.isHandedAs k → ¬ Within interval k r (between ++ [r'])

variable {link' : ReliableLink} {interval : Nat}

variable {link}

lemma HandsOverOnce.of_same (h : link.HandsOverOnce interval) (hlog : link'.log = link.log)
    (hsame : link.receiver.SameReceived link'.receiver) : link'.HandsOverOnce interval where
  interval_eq := hsame.2.trans h.interval_eq
  remembers hr hhanded hwithin := by
    have hold := h.remembers (hlog ▸ hr) hhanded hwithin
    rw [ReliabilityManager.Remembers, hsame.1]
    exact hold
  once hr := h.once (hlog ▸ hr)

lemma HandsOverOnce.of_concat (h : link.HandsOverOnce interval) {x : Reception}
    (hlog : link'.log = link.log ++ [x])
    (hinterval : link'.receiver.manager.receivedCleanupInterval = interval)
    (hself : ∀ {k}, x.isHandedAs k → link'.receiver.manager.Remembers k x.now 0)
    (hearlier : ∀ {k received n}, link.receiver.manager.Remembers k received n →
      x.cleanupNow - received < interval → n + [x].countP (·.isOther k) < receivedDedupCapacity →
        ¬ x.isHandedAs k ∧
          link'.receiver.manager.Remembers k received (n + [x].countP (·.isOther k))) :
    link'.HandsOverOnce interval := by
  -- within the interval, an earlier entry is still remembered when the new one comes
  have hkept : ∀ {k before r later}, link.log = before ++ r :: later → r.isHandedAs k →
      Within interval k r (later ++ [x]) → ¬ x.isHandedAs k ∧
        link'.receiver.manager.Remembers k r.now ((later ++ [x]).countP (·.isOther k)) := by
    intro k before r later hr hhanded hwithin
    have hroom := hwithin.1
    rw [countP_append] at hroom ⊢
    exact hearlier (h.remembers hr hhanded hwithin.of_append)
      (hwithin.2 x (mem_append_right later mem_cons_self)) hroom
  refine ⟨hinterval, ?_, ?_⟩
  · intro k before r later hr hhanded hwithin
    rcases concat_eq_append_cons (hlog ▸ hr) with ⟨-, rfl, rfl⟩ | ⟨earlier, rfl, hold⟩
    · exact hself hhanded
    · exact (hkept hold hhanded hwithin).2
  · intro k before r between r' later hr hhanded hhanded' hwithin
    rcases concat_eq_append_cons (hlog ▸ hr) with ⟨-, -, hnil⟩ | ⟨earlier, hlater, hold⟩
    · simp at hnil
    rcases concat_eq_append_cons hlater.symm with ⟨rfl, rfl, -⟩ | ⟨earlier', -, hearlier'⟩
    · exact (hkept hold hhanded hwithin).1 hhanded'
    · exact h.once (hearlier' ▸ hold) hhanded hhanded' hwithin

lemma HandsOverOnce.receive (h : link.HandsOverOnce interval) (data : List UInt8)
    (addr : SocketAddr) (now cleanupNow : Nat) :
    (link.receive data addr now cleanupNow).HandsOverOnce interval := by
  rcases link.receive_cases now cleanupNow data addr with
    ⟨hsame, hlog | ⟨frame, hnone, hlog⟩⟩ | ⟨frame, traceId, hsome, hmanager, hlog⟩
  · exact h.of_same hlog hsame
  · -- without a trace id it takes no place in the table
    have hkey : (⟨frame, addr, now, cleanupNow, true⟩ : Reception).key = none := by
      rw [Reception.key, hnone, Option.map_none]
    refine h.of_concat hlog (hsame.2.trans h.interval_eq) ?_ ?_
    · intro k hhanded
      cases hkey.symm.trans (isHandedAs_iff.mp hhanded).2
    · intro k received n hremembers _ _
      rw [countP_isOther_of_none hkey]
      constructor
      · intro hhanded
        cases hkey.symm.trans (isHandedAs_iff.mp hhanded).2
      · rw [ReliabilityManager.Remembers, hsame.1]
        exact hremembers
  · generalize hdup : (link.receiver.manager.isDuplicate addr traceId now cleanupNow).1 = dup at hlog
    have hkey : (⟨frame, addr, now, cleanupNow, !dup⟩ : Reception).key = some (addr, traceId) := by
      rw [Reception.key, hsome, Option.map_some]
    refine h.of_concat hlog ?_ ?_ ?_
    · rw [hmanager, receivedCleanupInterval_isDuplicate]
      exact h.interval_eq
    · intro k hhanded
      obtain ⟨hnew, hk⟩ := isHandedAs_iff.mp hhanded
      cases hkey.symm.trans hk
      rw [hmanager]
      exact remembers_of_isDuplicate (hdup.trans (Bool.not_eq_true' dup ▸ hnew))
    · intro k received n hremembers hyoung hroom
      have hyoung' : cleanupNow - received < link.receiver.manager.receivedCleanupInterval := by
        rw [h.interval_eq]
        exact hyoung
      rw [hmanager]
      by_cases hk : k = (addr, traceId)
      · subst hk
        obtain ⟨htrue, hcopy⟩ := hremembers.isDuplicate_copy now hyoung'
        rw [countP_isOther_self hkey]
        refine ⟨?_, hcopy⟩
        rw [isHandedAs_iff, ← hdup, htrue]
        exact fun hhanded => Bool.false_ne_true hhanded.1
      · rw [countP_isOther_of_ne hkey hk] at hroom ⊢
        refine ⟨?_, hremembers.isDuplicate_other hk hyoung' hroom⟩
        intro hhanded
        exact hk (Option.some.inj (hkey.symm.trans (isHandedAs_iff.mp hhanded).2)).symm

lemma HandsOverOnce.deliver (h : link.HandsOverOnce interval) (datagrams : List Outgoing)
    (now cleanupNow : Nat) : (link.deliver datagrams now cleanupNow).HandsOverOnce interval := by
  unfold ReliableLink.deliver
  induction datagrams generalizing link with
  | nil => exact h
  | cons datagram datagrams ih =>
    rw [foldl_cons]
    apply ih
    split_ifs
    · exact h.receive datagram.1 link.senderAddr now cleanupNow
    · exact h

lemma HandsOverOnce.step (h : link.HandsOverOnce interval) (e : LinkEvent) :
    (link.step e).HandsOverOnce interval := by
  -- only what reaches the receiver matters
  have hsender : ∀ sender, ReliableLink.HandsOverOnce interval { link with sender := sender } :=
    fun sender => h.of_same rfl (.refl link.receiver)
  unfold ReliableLink.step
  split
  · exact (hsender _).deliver ..
  · exact (hsender _).deliver ..
  · exact (hsender _).deliver ..
  · exact h.receive ..
  · exact h.of_same rfl (link.receiver.sameReceived_sendReliable ..)
  · exact h.of_same rfl (link.receiver.sameReceived_checkRetransmits _)

lemma handed_over_again (sender : ReliableTransport) (config : ReliabilityConfig)
    (nodeId : NodeId) (started : Nat) (senderAddr receiverAddr : SocketAddr)
    (events : List LinkEvent) {before between : List Reception}
    {r' : Reception}
    (hlog : (run ReliableLink.step
      (.start sender config nodeId started senderAddr receiverAddr) events).log =
        before ++ r :: (between ++ r' :: later))
    (hr : r.isHandedAs k) (hr' : r'.isHandedAs k) :
    ¬ Within (60000 * nanosPerMilli) k r (between ++ [r']) := by
  have hstart : (ReliableLink.start sender config nodeId started senderAddr
      receiverAddr).HandsOverOnce (60000 * nanosPerMilli) := by
    refine ⟨rfl, fun h => ?_, fun h => ?_⟩
    · cases (append_eq_nil_iff.mp h.symm).2
    · cases (append_eq_nil_iff.mp h.symm).2
  have hrun := run_invariant (I := HandsOverOnce (60000 * nanosPerMilli))
    (fun _ e h => h.step e) hstart events
  exact hrun.once hlog hr hr'

end ReliableLink

open ReliableLink

/-- **A frame is handed over at most once**, as long as fewer others arrive than the table has
places and less than a minute passes. -/
theorem handed_over_at_most_once (sender : ReliableTransport) (config : ReliabilityConfig)
    (nodeId : NodeId) (started : Nat) (senderAddr receiverAddr : SocketAddr)
    (events : List LinkEvent) (k : SocketAddr × TraceId) (before during later : List Reception)
    (hlog : (run ReliableLink.step
      (.start sender config nodeId started senderAddr receiverAddr) events).log =
        before ++ (during ++ later))
    (hothers : during.countP (·.isOther k) < receivedDedupCapacity)
    (hminute : ∀ r ∈ during, r.isHandedAs k → ∀ r' ∈ during,
      r'.cleanupNow - r.now < 60000 * nanosPerMilli) :
    during.countP (·.isHandedAs k) ≤ 1 := by
  by_contra htwice
  obtain ⟨first, r, between, r', last, rfl, hr, hr'⟩ :=
    exists_pair_of_countP (Nat.lt_of_not_le htwice)
  have hpair : (run ReliableLink.step
      (.start sender config nodeId started senderAddr receiverAddr) events).log =
        (before ++ first) ++ r :: (between ++ r' :: (last ++ later)) := by
    rw [hlog]
    simp
  apply handed_over_again sender config nodeId started senderAddr receiverAddr events
    hpair hr hr'
  constructor
  · have hsublist : (between ++ [r']).Sublist (first ++ r :: (between ++ r' :: last)) := by
      refine .trans ?_ (sublist_append_right first _)
      refine .cons r (List.Sublist.append_left ?_ between)
      exact singleton_sublist.mpr mem_cons_self
    exact Nat.lt_of_le_of_lt hsublist.countP_le hothers
  · intro x hx
    refine hminute r (by simp) hr x ?_
    rcases mem_append.mp hx with hbetween | hlast
    · simp [hbetween]
    · simp [mem_singleton.mp hlast]

/-! ## Copies that come late -/

def linkAddr (port : UInt16) : SocketAddr := .v4 #v[127, 0, 0, 1] port

/-- Source: `axiom-types/src/crypto.rs`, `TraceId::from_u64`. -/
def numberedId (n : Nat) : TraceId := ⟨takeVec 8 (beBytes 8 n)⟩

def unnumberedFrame : Frame :=
  .new { FrameHeader.new .intent ⟨Vector.replicate 32 7⟩ with trustLevel := .raw } .raw [1, 2, 3]

def numberedFrame (n : Nat) : Frame := { unnumberedFrame with traceId := some (numberedId n) }

lemma decode_numberedFrame (n : Nat) :
    decode (numberedFrame n).wireBytes = .ok (numberedFrame n) := by
  have hplain : unnumberedFrame.WellFormed :=
    ⟨⟨rfl, by decide, by decide⟩, ⟨by decide, by decide, by decide⟩, rfl, rfl, rfl⟩
  have hnumbered : (numberedFrame n).WellFormed :=
    ⟨hplain.header, hplain.payloadHeader, hplain.length, hplain.fragmented, hplain.auth⟩
  have hdecode := decode_wireBytes hnumbered []
  rwa [append_nil] at hdecode

lemma numberedId_inj {m n : Nat} (hm : m < 256 ^ 8) (hn : n < 256 ^ 8)
    (h : numberedId m = numberedId n) : m = n := by
  have hbytes := congrArg (fun id : TraceId => id.bytes.toList) h
  simp only [numberedId, toList_takeVec (length_beBytes 8 _)] at hbytes
  exact beBytes_inj hm hn hbytes

def sampleLink : ReliableLink :=
  .start (.new .default ⟨Vector.replicate 32 7⟩ 0) .default ⟨Vector.replicate 32 8⟩ 0 (linkAddr 1)
    (linkAddr 2)

def sampleKey : SocketAddr × TraceId := (linkAddr 1, numberedId 0)

def atMillis (ms : Nat) (action : LinkAction) : LinkEvent :=
  ⟨action, ms * nanosPerMilli, ms * nanosPerMilli, ms * nanosPerMilli⟩

def firstSend : LinkEvent := ⟨.send (numberedFrame 0) (numberedId 0) none, 0, 0, 0⟩

def retransmissions : List LinkEvent :=
  [200, 600, 1400, 3000, 6200, 12600, 25400, 51000, 102200].map (atMillis · .poll)

def otherFrame (n : Nat) : LinkEvent :=
  ⟨.toReceiver (numberedFrame n).wireBytes (linkAddr 3), 0, 0, 0⟩

def otherFrames : List LinkEvent := (List.range receivedDedupCapacity).map otherFrame

def afterFirstSend : ReliableLink :=
  { sampleLink with
    sender := { sampleLink.sender with
      manager := { sampleLink.sender.manager with
        pending := AList.insert (numberedId 0)
          ⟨(numberedFrame 0).wireBytes, numberedFrame 0, linkAddr 2, 0, 1, 200⟩ ∅ } } }.receive
    (numberedFrame 0).wireBytes (linkAddr 1) 0 0

lemma step_firstSend : sampleLink.step firstSend = afterFirstSend := by
  have hsend : sampleLink.sender.sendReliable (numberedFrame 0) sampleLink.receiverAddr
      (numberedId 0) 0 none = _ :=
    ReliableTransport.sendReliable_eq rfl rfl (by decide) (by decide) (by decide) ..
  rw [firstSend, ReliableLink.step_send, hsend, deliver_singleton _ _ rfl]
  rfl

theorem prompt_copy_handed_over_once :
    (run ReliableLink.step sampleLink [firstSend, atMillis 200 .poll]).log.countP
      (·.isHandedAs sampleKey) ≤ 1 := by
  have hrun :
      let log := (run ReliableLink.step sampleLink [firstSend, atMillis 200 .poll]).log
      log.countP (·.isOther sampleKey) < receivedDedupCapacity ∧
        ∀ r ∈ log, r.isHandedAs sampleKey →
          ∀ r' ∈ log, r'.cleanupNow - r.now < 60000 * nanosPerMilli := by
    rw [run_cons, step_firstSend]
    decide +kernel
  unfold sampleLink at hrun ⊢
  generalize [firstSend, atMillis 200 .poll] = events at hrun ⊢
  exact handed_over_at_most_once _ _ _ _ _ _ events sampleKey [] _ [] (append_nil _).symm
    hrun.1 hrun.2

lemma late_copy :
    (run ReliableLink.step afterFirstSend retransmissions).log.countP (·.isHandedAs sampleKey) = 2 ∧
      (run ReliableLink.step afterFirstSend retransmissions).log.countP (·.isOther sampleKey) =
        0 := by
  decide +kernel

/-- After frames of another sender: they are in the table, and nothing else has changed. -/
structure AfterOthers (start : ReliableLink) (numbers : List Nat) (link : ReliableLink) : Prop where
  sender : link.sender = start.sender
  senderAddr : link.senderAddr = start.senderAddr
  receiverAddr : link.receiverAddr = start.receiverAddr
  lastCleanup : link.receiver.manager.lastCleanup = start.receiver.manager.lastCleanup
  interval : link.receiver.manager.receivedCleanupInterval =
    start.receiver.manager.receivedCleanupInterval
  keys : link.receiver.manager.received.keys =
    (numbers.map fun n => (linkAddr 3, numberedId n)).foldl FifoSet.insert
      start.receiver.manager.received.keys
  handed : link.log.countP (·.isHandedAs sampleKey) = start.log.countP (·.isHandedAs sampleKey)
  others : link.log.countP (·.isOther sampleKey) =
    start.log.countP (·.isOther sampleKey) + numbers.length

lemma AfterOthers.step {start link : ReliableLink} {numbers : List Nat}
    (h : AfterOthers start numbers link) (n : Nat) :
    AfterOthers start (numbers ++ [n]) (link.step (otherFrame n)) := by
  have hother : sampleKey ≠ (linkAddr 3, numberedId n) := by
    have haddr : linkAddr 1 ≠ linkAddr 3 := by decide
    exact fun heq => haddr (congrArg Prod.fst heq)
  have hnow : 0 - link.receiver.manager.lastCleanup ≤
      link.receiver.manager.receivedCleanupInterval := by
    rw [Nat.zero_sub]
    exact Nat.zero_le _
  obtain ⟨hkeys, hcleanup, hinterval, hlog⟩ :=
    link.receive_of_decode 0 0 (decode_numberedFrame n) rfl rfl hnow (linkAddr 3)
  generalize (!decide ((linkAddr 3, numberedId n) ∈ link.receiver.manager.received.keys)) =
    first at hlog
  have hkey : (⟨numberedFrame n, linkAddr 3, 0, 0, first⟩ : Reception).key =
      some (linkAddr 3, numberedId n) := rfl
  have hcopy : ¬ (⟨numberedFrame n, linkAddr 3, 0, 0, first⟩ : Reception).isHandedAs sampleKey := by
    intro hcopy
    exact hother (Option.some.inj (hkey.symm.trans (isHandedAs_iff.mp hcopy).2)).symm
  rw [otherFrame, step_toReceiver]
  constructor
  · rw [sender_receive, h.sender]
  · rw [senderAddr_receive, h.senderAddr]
  · rw [receiverAddr_receive, h.receiverAddr]
  · exact hcleanup.trans h.lastCleanup
  · exact hinterval.trans h.interval
  · rw [map_append, foldl_append, ← h.keys]
    exact hkeys
  · rw [hlog, ← h.handed, countP_append, countP_cons_of_neg hcopy, countP_nil,
      Nat.add_zero]
  · rw [hlog, length_append, ← Nat.add_assoc, ← h.others, countP_append,
      countP_isOther_of_ne hkey hother, length_singleton]

lemma afterOthers_run (start : ReliableLink) (numbers : List Nat) :
    AfterOthers start numbers (run ReliableLink.step start (numbers.map otherFrame)) := by
  induction numbers using List.reverseRecOn with
  | nil => exact ⟨rfl, rfl, rfl, rfl, rfl, rfl, rfl, rfl⟩
  | append_singleton numbers n ih =>
    rw [map_append, run_append]
    exact ih.step n

lemma sampleKey_not_mem {link : ReliableLink}
    (h : AfterOthers afterFirstSend (List.range receivedDedupCapacity) link) :
    sampleKey ∉ link.receiver.manager.received.keys := by
  have horder : afterFirstSend.receiver.manager.received.keys.order = [sampleKey] := by
    decide +kernel
  have haddr : linkAddr 1 ≠ linkAddr 3 := by decide
  have hothers : sampleKey ∉ (List.range receivedDedupCapacity).map
      fun n => (linkAddr 3, numberedId n) := by
    intro hmem
    obtain ⟨n, -, hn⟩ := mem_map.mp hmem
    exact haddr (congrArg Prod.fst hn).symm
  have hnodup : ((List.range receivedDedupCapacity).map
      fun n => (linkAddr 3, numberedId n)).Nodup := by
    refine List.Nodup.map_on ?_ nodup_range
    intro m hm n hn heq
    have hsmall : receivedDedupCapacity < 256 ^ 8 := by decide
    exact numberedId_inj ((mem_range.mp hm).trans hsmall) ((mem_range.mp hn).trans hsmall)
      (congrArg Prod.snd heq)
  rw [FifoSet.mem_iff_mem_order, h.keys, FifoSet.order_foldl_insert, horder]
  · rw [singleton_append, length_cons, length_map, length_range,
      Nat.add_sub_cancel_left, drop_one, tail_cons]
    exact hothers
  · rw [horder, singleton_append]
    exact nodup_cons.mpr ⟨hothers, hnodup⟩

/-- **Copies are handed over twice.** No acknowledgement arrives, and the sender sends the frame
again: the receiver hands the last copy over once more, since the first one is more than a minute
old. And with as many other frames as the table has places, it hands the second copy over once more
after a fifth of a second. -/
theorem copies_handed_over_twice :
    ((run ReliableLink.step sampleLink (firstSend :: retransmissions)).log.countP
          (·.isHandedAs sampleKey) = 2 ∧
        (run ReliableLink.step sampleLink (firstSend :: retransmissions)).log.countP
          (·.isOther sampleKey) = 0) ∧
      ((run ReliableLink.step sampleLink (firstSend :: otherFrames ++ [atMillis 200 .poll])).log.countP
          (·.isHandedAs sampleKey) = 2 ∧
        (run ReliableLink.step sampleLink
            (firstSend :: otherFrames ++ [atMillis 200 .poll])).log.countP
          (·.isOther sampleKey) = receivedDedupCapacity) := by
  rw [cons_append, run_cons, run_cons, step_firstSend, run_append]
  refine ⟨late_copy, ?_⟩
  have hothers := afterOthers_run afterFirstSend (List.range receivedDedupCapacity)
  rw [← otherFrames] at hothers
  generalize run ReliableLink.step afterFirstSend otherFrames = link at hothers ⊢
  have hretransmits : (link.sender.checkRetransmits (200 * nanosPerMilli)).2 =
      [((numberedFrame 0).wireBytes, linkAddr 2)] := by
    rw [hothers.sender]
    decide +kernel
  obtain ⟨hsenderAddr, hreceiverAddr, hcleanup, hhanded, hother⟩ :
      afterFirstSend.senderAddr = linkAddr 1 ∧ linkAddr 2 = afterFirstSend.receiverAddr ∧
        200 * nanosPerMilli - afterFirstSend.receiver.manager.lastCleanup ≤
          afterFirstSend.receiver.manager.receivedCleanupInterval ∧
        afterFirstSend.log.countP (·.isHandedAs sampleKey) = 1 ∧
        afterFirstSend.log.countP (·.isOther sampleKey) = 0 := by
    decide +kernel
  rw [← hothers.senderAddr] at hsenderAddr
  rw [← hothers.receiverAddr] at hreceiverAddr
  rw [← hothers.lastCleanup, ← hothers.interval] at hcleanup
  have hnew := sampleKey_not_mem hothers
  rw [hreceiverAddr] at hretransmits
  have hlog := link.log_step_poll (200 * nanosPerMilli) (200 * nanosPerMilli)
    (200 * nanosPerMilli) hretransmits (decode_numberedFrame 0) rfl rfl hcleanup
  rw [hsenderAddr, ← sampleKey, decide_eq_false hnew] at hlog
  rw [run_cons, run_nil, atMillis, hlog, countP_append, countP_append, hothers.handed,
    hhanded, hothers.others, hother, length_range, countP_isOther_self rfl,
    countP_cons_of_pos (isHandedAs_iff.mpr ⟨rfl, rfl⟩)]
  exact ⟨rfl, Nat.zero_add _⟩

end AxiomCore
