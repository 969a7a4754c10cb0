import AxiomCore.Crypto.Sessions
import AxiomCore.Transport.Flow
import AxiomCore.Transport.Reliability

/-!
# Secure transport

A `SecureTransport` puts signatures and session tokens, reliable delivery and flow control together.
What arrives is checked first: its trust level must not be weaker than the configured one, and its
signature or token must be valid. Then acknowledgements and Flow frames are acted on, and other
frames are returned.

- `credit_run`: the window of a peer after a run is what its last Flow frame granted, less what was
  sent since. Acknowledgements do not count.

Source: `axiom-transport/src/secure.rs`.
-/

namespace AxiomCore

open Lib Encoder Decoder FlowManager

/-- A level is weaker if it comes later. Source: `axiom-types/src/trust.rs`, `TrustLevel`. -/
def TrustLevel.isWeakerThan (a b : TrustLevel) : Bool := b.toU8 < a.toU8

/-- The part of the configuration that is modelled. -/
structure SecureTransportConfig where
  sendBufferSize : Nat
  reliability : ReliabilityConfig
  flow : FlowConfig
  /-- The weakest level that is accepted. -/
  defaultTrustLevel : TrustLevel
  sessionTtlMs : UInt64
  /-- Whether signatures and tokens are checked. -/
  verifySignatures : Bool

def SecureTransportConfig.default : SecureTransportConfig where
  sendBufferSize := 65536
  reliability := .default
  flow := .default
  defaultTrustLevel := .sig
  sessionTtlMs := 3600000
  verifySignatures := true

structure TransportStats where
  framesSent : UInt64
  framesReceived : UInt64
  bytesSent : UInt64
  bytesReceived : UInt64
  verificationFailures : UInt64
  retransmissions : UInt64
  flowPauses : UInt64

structure SecureTransport where
  config : SecureTransportConfig
  bound : Bool
  keypair : Keypair
  /-- What is pending and what was received. -/
  reliability : ReliabilityManager
  flow : FlowManager
  sessions : SessionManager
  stats : TransportStats

/-- The clock readings of one round. -/
structure SecureReadings where
  /-- When a frame is sent, or looked up. -/
  now : Nat
  cleanupNow : Nat
  /-- For the sessions, in milliseconds. -/
  nowMs : UInt64

namespace SecureTransport

def new (config : SecureTransportConfig) (keypair : Keypair) (now : Nat) : SecureTransport where
  config := config
  bound := true
  keypair := keypair
  reliability := .new config.reliability keypair.nodeId now
  flow := .new config.flow
  sessions := .new
  stats := ⟨0, 0, 0, 0, 0, 0, 0⟩

/-! ## Sending -/

def authenticate (t : SecureTransport) (frame : Frame) : Except TransportError Frame :=
  match frame.header.trustLevel with
  | .full | .sig =>
    let frame := { frame with header := { frame.header with senderId := t.keypair.nodeId } }
    match FrameSigner.sign t.keypair frame with
    | .error .encodingFailed => .error (.io "Failed to sign frame")
    | .error _ => .ok frame
    | .ok signed => .ok signed
  | .compress =>
    .ok { frame with header := { frame.header with senderId := t.keypair.nodeId } }
  | .raw => .ok frame

def prepareSend (t : SecureTransport) (frame : Frame) (dest : SocketAddr)
    (sendError : Option String) : SecureTransport × Except TransportError (Frame × List UInt8) :=
  let frameSize := UInt32.ofNat frame.wireSize
  let (allowed, flow) := t.flow.canSend dest frameSize
  let t := { t with flow := flow }
  if ¬ allowed then
    ({ t with stats := { t.stats with flowPauses := t.stats.flowPauses + 1 } },
      .error (.io "Flow control: send blocked"))
  else
    match t.authenticate frame with
    | .error e => (t, .error e)
    | .ok frame =>
      match encodeToBuffer t.config.sendBufferSize frame with
      | .error fault => (t, .error (.codec fault))
      | .ok data =>
        if ¬ t.bound then (t, .error .notBound)
        else
          match sendError with
          | some e => (t, .error (.sendFailed e))
          | none => (t, .ok (frame, data))

def send (t : SecureTransport) (frame : Frame) (dest : SocketAddr) (now : Nat)
    (sendError : Option String) : Except TransportError Unit × SecureTransport × List Outgoing :=
  match t.prepareSend frame dest sendError with
  | (t, .error e) => (.error e, t, [])
  | (t, .ok (frame, data)) =>
    let size := data.length
    let t := { t with
      stats := { t.stats with
        framesSent := t.stats.framesSent + 1
        bytesSent := t.stats.bytesSent + UInt64.ofNat size }
      flow := t.flow.recordSend dest (UInt32.ofNat size) (some frame.header.intentHash) }
    match frame.traceId with
    | none => (.ok (), t, [(data, dest)])
    | some _ =>
      match t.reliability.trackFrame frame data dest now with
      | .error e => (.error e, t, [(data, dest)])
      | .ok reliability => (.ok (), { t with reliability := reliability }, [(data, dest)])

def signControlFrame (t : SecureTransport) (frame : Frame) : Frame :=
  let frame := { frame with
    header := { frame.header with trustLevel := .sig, senderId := t.keypair.nodeId } }
  match FrameSigner.sign t.keypair frame with
  | .ok signed => signed
  | .error _ => frame

/-! ## Receiving -/

def checkRetransmits (t : SecureTransport) (now : Nat) : SecureTransport × List Outgoing :=
  let (retransmits, reliability) := t.reliability.getRetransmitFrames now
  ({ t with
      reliability := reliability
      stats := { t.stats with
        retransmissions := t.stats.retransmissions + UInt64.ofNat retransmits.length } },
    retransmits.map fun pending => (pending.data, pending.dest))

def countFailure (t : SecureTransport) : SecureTransport :=
  { t with stats := { t.stats with
      verificationFailures := t.stats.verificationFailures + 1 } }

/-- The checks before anything is done for a frame. -/
def admitted (V : Verify) (t : SecureTransport) (frame : Frame) (nowMs : UInt64) :
    Bool × SecureTransport :=
  if frame.header.trustLevel.isWeakerThan t.config.defaultTrustLevel then (false, t.countFailure)
  else if t.config.verifySignatures then
    match frame.header.trustLevel with
    | .full | .sig =>
      match FrameVerifier.verify V frame with
      | .ok true => (true, t)
      | .ok false => (false, t.countFailure)
      | .error _ => (true, t)
    | .compress =>
      match frame.auth with
      | .token token =>
        let (valid, sessions) := t.sessions.verifyToken frame.header.senderId token nowMs
        let t := { t with sessions := sessions }
        if valid then (true, t) else (false, t.countFailure)
      | _ => (true, t)
    | .raw => (true, t)
  else (true, t)

def ackDatagrams (t : SecureTransport) (traceId : TraceId) (addr : SocketAddr) : List Outgoing :=
  match encodeToBuffer t.config.sendBufferSize
      (t.signControlFrame (t.reliability.createAckFrame traceId)) with
  | .ok data => [(data, addr)]
  | .error _ => []

def handleRegular (t : SecureTransport) (frame : Frame) (addr : SocketAddr) (size : Nat)
    (readings : SecureReadings) : RecvOutcome × SecureTransport × List Outgoing :=
  let t := { t with
    stats := { t.stats with
      framesReceived := t.stats.framesReceived + 1
      bytesReceived := t.stats.bytesReceived + UInt64.ofNat size }
    flow := t.flow.recordReceive addr (UInt32.ofNat size) (some frame.header.intentHash) }
  match frame.traceId with
  | some traceId =>
    let (isDup, reliability) :=
      t.reliability.isDuplicate addr traceId readings.now readings.cleanupNow
    let t := { t with reliability := reliability }
    if isDup then (.next, t, t.ackDatagrams traceId addr)
    else (.returned (.ok (frame, addr)), t, t.ackDatagrams traceId addr)
  | none => (.returned (.ok (frame, addr)), t, [])

/-- What is done for a frame that passed the checks. -/
def dispatch (t : SecureTransport) (frame : Frame) (addr : SocketAddr) (size : Nat)
    (readings : SecureReadings) : RecvOutcome × SecureTransport × List Outgoing :=
  match frame.header.frameType with
  | .ack =>
    match AckPayload.decode frame.payload with
    | some ack =>
      (.next,
        { t with reliability := (t.reliability.processAck addr ack).getD t.reliability }, [])
    | none => (.next, t, [])
  | .nack =>
    match NackPayload.decode frame.payload with
    | some nack =>
      let (pending, reliability) := t.reliability.processNack addr nack readings.now
      (.next, { t with reliability := reliability },
        pending.toList.map fun pending => (pending.data, pending.dest))
    | none => (.next, t, [])
  | .flow => (.next, { t with flow := t.flow.processFlowFrame frame addr }, [])
  | _ => t.handleRegular frame addr size readings

/-- The rest of a round of `recv`, for what arrived. -/
def handleDatagram (V : Verify) (t : SecureTransport) (data : List UInt8) (addr : SocketAddr)
    (readings : SecureReadings) : RecvOutcome × SecureTransport × List Outgoing :=
  match decode data with
  | .error fault => (.returned (.error (.codec fault)), t, [])
  | .ok frame =>
    match t.admitted V frame readings.nowMs with
    | (false, t) => (.next, t, [])
    | (true, t) => t.dispatch frame addr data.length readings

def createSession (blake3 : List UInt8 → Digest) (t : SecureTransport) (peerId : NodeId)
    (sharedSecret : Vector UInt8 32) (nowMs : UInt64) : SecureTransport :=
  { t with
    sessions :=
      (t.sessions.createSession blake3 peerId sharedSecret t.config.sessionTtlMs nowMs).2 }

/-! ## Runs -/

inductive Event where
  /-- `send`, and with it `send_reliable` and `send_flow_control`. -/
  | send (frame : Frame) (dest : SocketAddr) (sendError : Option String)
  /-- `recv` starts a round. -/
  | poll
  /-- `recv` gets something. -/
  | datagram (data : List UInt8) (addr : SocketAddr)
  | createSession (peerId : NodeId) (sharedSecret : Vector UInt8 32)

def step (blake3 : List UInt8 → Digest) (V : Verify) (t : SecureTransport) :
    Event × SecureReadings → SecureTransport
  | (.send frame dest sendError, readings) => (t.send frame dest readings.now sendError).2.1
  | (.poll, readings) => (t.checkRetransmits readings.now).1
  | (.datagram data addr, readings) => (t.handleDatagram V data addr readings).2.1
  | (.createSession peerId sharedSecret, readings) =>
    t.createSession blake3 peerId sharedSecret readings.nowMs

variable (blake3 : List UInt8 → Digest)

/-! ## Authenticity -/

/-- The frame has a signature of its sender, or the token of a session with its sender that is not
expired. -/
def Authenticated (V : Verify) (t : SecureTransport) (frame : Frame) (nowMs : UInt64) : Prop :=
  (∃ sig, frame.auth = .signature sig ∧ V frame.header.senderId (signatureData frame) sig) ∨
    ∃ token info, frame.auth = .token token ∧
      t.sessions.sessions frame.header.senderId = some info ∧ ¬ info.isExpired nowMs ∧
      info.token = token

structure Untouched (t t' : SecureTransport) : Prop where
  config : t'.config = t.config
  reliability : t'.reliability = t.reliability
  flow : t'.flow = t.flow

variable {V : Verify} {t : SecureTransport} {frame : Frame} {nowMs : UInt64}

lemma Untouched.refl (t : SecureTransport) : t.Untouched t := ⟨rfl, rfl, rfl⟩

lemma untouched_countFailure (t : SecureTransport) : t.Untouched t.countFailure := ⟨rfl, rfl, rfl⟩

lemma untouched_admitted (V : Verify) (t : SecureTransport) (frame : Frame) (nowMs : UInt64) :
    t.Untouched (t.admitted V frame nowMs).2 := by
  unfold admitted
  split_ifs
  · exact t.untouched_countFailure
  · split
    · split
      · exact .refl t
      · exact t.untouched_countFailure
      · exact .refl t
    · split
      · exact .refl t
      · exact t.untouched_countFailure
      · exact .refl t
    · split
      · dsimp only
        split_ifs <;> exact ⟨rfl, rfl, rfl⟩
      · exact .refl t
    · exact .refl t
  · exact .refl t

lemma authenticated_of_verify
    (hlevel : frame.header.trustLevel = .full ∨ frame.header.trustLevel = .sig)
    (h : (match FrameVerifier.verify V frame with
      | .ok true => (true, t)
      | .ok false => (false, t.countFailure)
      | .error _ => (true, t)).1 = true) : t.Authenticated V frame nowMs := by
  obtain ⟨valid, hvalid⟩ : ∃ valid, FrameVerifier.verify V frame = .ok valid := by
    unfold FrameVerifier.verify
    rcases hlevel with hlevel | hlevel
    · rw [hlevel]
      cases frame.auth <;> exact ⟨_, rfl⟩
    · rw [hlevel]
      cases frame.auth <;> exact ⟨_, rfl⟩
  rw [hvalid] at h
  cases valid with
  | false => cases h
  | true =>
    obtain ⟨-, sig, hauth, hsig⟩ := FrameVerifier.verify_eq_true_iff.mp hvalid
    exact .inl ⟨sig, hauth, hsig⟩

variable {data : List UInt8} {addr : SocketAddr} {readings : SecureReadings}

lemma authenticated_of_admitted (hdecode : decode data = .ok frame)
    (hverify : t.config.verifySignatures) (hfloor : t.config.defaultTrustLevel ≠ .raw)
    (h : (t.admitted V frame nowMs).1 = true) :
    frame.header.trustLevel.isWeakerThan t.config.defaultTrustLevel = false ∧
      t.Authenticated V frame nowMs := by
  have hprescribed := (decode_eq_ok_iff.mp hdecode).1.auth
  unfold admitted at h
  by_cases hweak : frame.header.trustLevel.isWeakerThan t.config.defaultTrustLevel
  · rw [if_pos hweak] at h
    cases h
  rw [if_neg hweak, if_pos hverify] at h
  refine ⟨Bool.eq_false_of_not_eq_true hweak, ?_⟩
  cases hlevel : frame.header.trustLevel with
  | full =>
    simp only [hlevel] at h
    exact authenticated_of_verify (.inl hlevel) h
  | sig =>
    simp only [hlevel] at h
    exact authenticated_of_verify (.inr hlevel) h
  | compress =>
    rw [hlevel] at hprescribed
    cases hauth : frame.auth with
    | token token =>
      simp only [hlevel, hauth] at h
      have hvalid : (t.sessions.verifyToken frame.header.senderId token nowMs).1 := by
        by_contra hinvalid
        rw [if_neg hinvalid] at h
        cases h
      obtain ⟨info, hinfo, hfresh, htoken⟩ := SessionManager.verifyToken_iff.mp hvalid
      exact .inr ⟨token, info, hauth, hinfo, hfresh, htoken⟩
    | signature sig =>
      rw [hauth] at hprescribed
      cases hprescribed
    | none =>
      rw [hauth] at hprescribed
      cases hprescribed
  | raw =>
    -- every level but `Raw` itself is stronger
    rw [hlevel] at hweak
    cases hdefault : t.config.defaultTrustLevel with
    | raw => exact absurd hdefault hfloor
    | _ =>
      rw [hdefault] at hweak
      exact absurd rfl hweak

/-- **A round for one datagram.** If it is not authentic, it is skipped: nothing is returned,
nothing is sent, and the tables stay. -/
theorem handleDatagram_skips
    (hdecode : decode data = .ok frame) (hverify : t.config.verifySignatures)
    (hfloor : t.config.defaultTrustLevel ≠ .raw)
    (hbad : ¬ (frame.header.trustLevel.isWeakerThan t.config.defaultTrustLevel = false ∧
      t.Authenticated V frame readings.nowMs)) :
    (t.handleDatagram V data addr readings).1 = .next ∧
      t.Untouched (t.handleDatagram V data addr readings).2.1 ∧
      (t.handleDatagram V data addr readings).2.2 = [] := by
  have huntouched := untouched_admitted V t frame readings.nowMs
  have hrejected : (t.admitted V frame readings.nowMs).1 = false := by
    by_contra hpass
    exact hbad (authenticated_of_admitted hdecode hverify hfloor (Bool.eq_true_of_not_eq_false hpass))
  simp only [handleDatagram, hdecode]
  generalize t.admitted V frame readings.nowMs = checked at huntouched hrejected ⊢
  obtain ⟨passed, t'⟩ := checked
  subst hrejected
  exact ⟨rfl, huntouched, rfl⟩

/-! ### Runs keep the configuration -/

lemma config_dispatch (t : SecureTransport) (frame : Frame) (addr : SocketAddr) (size : Nat)
    (readings : SecureReadings) : (t.dispatch frame addr size readings).2.1.config = t.config := by
  unfold dispatch
  split
  · split <;> rfl
  · split <;> rfl
  · rfl
  unfold handleRegular
  dsimp only
  split
  · split_ifs <;> rfl
  · rfl

lemma prepareSend_keeps (t : SecureTransport) (frame : Frame) (dest : SocketAddr)
    (sendError : Option String) :
    (t.prepareSend frame dest sendError).1.config = t.config ∧
      ∀ addr, (t.prepareSend frame dest sendError).1.flow.getPeerFlow addr =
        t.flow.getPeerFlow addr := by
  have hflow : ∀ addr, (t.flow.canSend dest (.ofNat frame.wireSize)).2.getPeerFlow addr =
      t.flow.getPeerFlow addr := fun _ => getPeerFlow_canSend
  unfold prepareSend
  dsimp only
  split
  · exact ⟨rfl, hflow⟩
  split
  · exact ⟨rfl, hflow⟩
  split
  · exact ⟨rfl, hflow⟩
  split
  · exact ⟨rfl, hflow⟩
  split
  · exact ⟨rfl, hflow⟩
  · exact ⟨rfl, hflow⟩

lemma prepareSend_of_raw {dest : SocketAddr} (hlevel : frame.header.trustLevel = .raw)
    (hallowed : (t.flow.canSend dest (.ofNat frame.wireSize)).1) (hbound : t.bound)
    (hencode : encodeToBuffer t.config.sendBufferSize frame = .ok frame.wireBytes) :
    t.prepareSend frame dest none =
      ({ t with flow := (t.flow.canSend dest (.ofNat frame.wireSize)).2 },
        .ok (frame, frame.wireBytes)) := by
  unfold prepareSend
  dsimp only
  rw [if_neg (not_not_intro hallowed), authenticate, hlevel]
  dsimp only
  rw [hencode]
  dsimp only
  rw [if_neg (not_not_intro hbound)]

lemma send_keeps (t : SecureTransport) (frame : Frame) (dest : SocketAddr) (now : Nat)
    (sendError : Option String) :
    (t.send frame dest now sendError).2.1.config = t.config ∧
      ∀ addr, (t.send frame dest now sendError).2.1.flow.getPeerFlow addr =
        match (t.prepareSend frame dest sendError).2 with
        | .ok (_, data) =>
          if addr = dest then (t.flow.getPeerFlow dest).recordSend (.ofNat data.length)
          else t.flow.getPeerFlow addr
        | .error _ => t.flow.getPeerFlow addr := by
  have hkeeps := t.prepareSend_keeps frame dest sendError
  unfold send
  generalize t.prepareSend frame dest sendError = prepared at hkeeps ⊢
  obtain ⟨t', _ | ⟨frame', data⟩⟩ := prepared
  · exact hkeeps
  dsimp only at hkeeps ⊢
  have hrecord (addr : SocketAddr) : (t'.flow.recordSend dest (.ofNat data.length)
      (some frame'.header.intentHash)).getPeerFlow addr =
        if addr = dest then (t.flow.getPeerFlow dest).recordSend (.ofNat data.length)
        else t.flow.getPeerFlow addr := by
    rw [getPeerFlow_recordSend, hkeeps.2, hkeeps.2]
  split
  · exact ⟨hkeeps.1, hrecord⟩
  split
  · exact ⟨hkeeps.1, hrecord⟩
  · exact ⟨hkeeps.1, hrecord⟩

lemma config_step (V : Verify) (t : SecureTransport) (e : Event × SecureReadings) :
    (t.step blake3 V e).config = t.config := by
  obtain ⟨e, readings⟩ := e
  cases e with
  | send frame dest sendError => exact (t.send_keeps frame dest readings.now sendError).1
  | poll => rfl
  | createSession peerId sharedSecret => rfl
  | datagram data addr =>
    have huntouched (frame : Frame) := untouched_admitted V t frame readings.nowMs
    dsimp only [step, handleDatagram]
    rcases decode data with fault | frame
    · rfl
    dsimp only
    have hconfig := (huntouched frame).config
    generalize t.admitted V frame readings.nowMs = checked at hconfig ⊢
    obtain ⟨_ | _, t'⟩ := checked
    · exact hconfig
    · exact (config_dispatch ..).trans hconfig

/-- **Only authentic frames count.** In every state that a run of a transport leads to which checks
signatures and tokens and does not accept `Raw`: if `recv` returns a frame for a datagram, or the
tables for delivery or flow control change, then the datagram is a frame whose trust level is not
too weak and that has a valid signature or token; any other frame is skipped. -/
theorem acts_only_on_authenticated (blake3 : List UInt8 → Digest) (V : Verify) (t : SecureTransport)
    (hverify : t.config.verifySignatures)
    (hfloor : t.config.defaultTrustLevel.isWeakerThan .compress = false)
    (events : List (Event × SecureReadings)) (data : List UInt8) (addr : SocketAddr)
    (readings : SecureReadings) :
    let t' := run (step blake3 V) t events
    let round := t'.handleDatagram V data addr readings
    ((∃ result, round.1 = .returned (.ok result)) ∨ round.2.1.reliability ≠ t'.reliability ∨
        round.2.1.flow ≠ t'.flow → ∃ frame, decode data = .ok frame ∧
          frame.header.trustLevel.isWeakerThan t.config.defaultTrustLevel = false ∧
          t'.Authenticated V frame readings.nowMs) ∧
      ∀ frame, decode data = .ok frame →
        ¬ (frame.header.trustLevel.isWeakerThan t.config.defaultTrustLevel = false ∧
            t'.Authenticated V frame readings.nowMs) →
          round.1 = .next ∧ round.2.1.reliability = t'.reliability ∧
            round.2.1.flow = t'.flow ∧ round.2.2 = [] := by
  intro t' round
  have hconfig : t'.config = t.config :=
    run_invariant (I := fun s => s.config = t.config)
      (fun s e hs => (config_step blake3 V s e).trans hs) rfl events
  have hfloor' : t'.config.defaultTrustLevel ≠ .raw := by
    rw [hconfig]
    intro hraw
    rw [hraw] at hfloor
    cases hfloor
  rw [← hconfig] at hverify ⊢
  have hskips : ∀ frame, decode data = .ok frame →
      ¬ (frame.header.trustLevel.isWeakerThan t'.config.defaultTrustLevel = false ∧
          t'.Authenticated V frame readings.nowMs) →
        round.1 = .next ∧ round.2.1.reliability = t'.reliability ∧
          round.2.1.flow = t'.flow ∧ round.2.2 = [] := by
    intro frame hdecode hbad
    obtain ⟨hnext, huntouched, hsent⟩ := handleDatagram_skips hdecode hverify hfloor' hbad
    exact ⟨hnext, huntouched.reliability, huntouched.flow, hsent⟩
  refine ⟨fun hacts => ?_, hskips⟩
  rcases hdecode : decode data with fault | frame
  · have hround : round = (.returned (.error (.codec fault)), t', []) := by
      simp only [round, handleDatagram, hdecode]
    rw [hround] at hacts
    simp at hacts
  refine ⟨frame, rfl, ?_⟩
  by_contra hbad
  obtain ⟨hnext, hreliability, hflow, -⟩ := hskips frame hdecode hbad
  rw [hnext, hreliability, hflow] at hacts
  simp at hacts

/-! ## Credit -/

/-- The Flow frame that an authentic datagram is. -/
def grantOf (V : Verify) (t : SecureTransport) (data : List UInt8) (nowMs : UInt64) :
    Option FlowPayload :=
  match decode data with
  | .error _ => none
  | .ok frame =>
    if (t.admitted V frame nowMs).1 ∧ frame.header.frameType = .flow then
      FlowPayload.decode frame.payload
    else none

/-- What an event does to the window of a peer: a frame is on its way to it, or a Flow frame of it
arrives. -/
def creditMoves (V : Verify) (addr : SocketAddr) (t : SecureTransport) :
    Event × SecureReadings → List CreditMove
  | (.send frame dest sendError, _) =>
    match (t.prepareSend frame dest sendError).2 with
    | .ok (_, data) => if addr = dest then [.spent (UInt32.ofNat data.length).toNat] else []
    | .error _ => []
  | (.datagram data source, readings) =>
    match t.grantOf V data readings.nowMs with
    | some flow => if addr = source then [.granted ⟨flow.state, flow.window.toNat⟩] else []
    | none => []
  | _ => []

/-- The window of a peer. Source: `axiom-transport/src/flow.rs`, `FlowManager::get_peer_flow`. -/
def credit (t : SecureTransport) (addr : SocketAddr) : Credit := (t.flow.getPeerFlow addr).credit

lemma credit_handleRegular (t : SecureTransport) (frame : Frame) (source : SocketAddr)
    (size : Nat) (readings : SecureReadings) (addr : SocketAddr) :
    (t.handleRegular frame source size readings).2.1.credit addr = t.credit addr := by
  have hreceive : ((t.flow.recordReceive source (.ofNat size)
      (some frame.header.intentHash)).getPeerFlow addr).credit = t.credit addr := by
    rw [getPeerFlow_recordReceive]
    split_ifs with haddr
    · rw [haddr]
      exact FlowTracker.credit_recordReceive ..
    · rfl
  unfold handleRegular
  dsimp only
  split
  · split_ifs
    · exact hreceive
    · exact hreceive
  · exact hreceive

lemma credit_dispatch (t : SecureTransport) (frame : Frame) (source : SocketAddr) (size : Nat)
    (readings : SecureReadings) (addr : SocketAddr) :
    (t.dispatch frame source size readings).2.1.credit addr =
      match if frame.header.frameType = .flow then FlowPayload.decode frame.payload else none with
      | some flow => if addr = source then ⟨flow.state, flow.window.toNat⟩ else t.credit addr
      | none => t.credit addr := by
  unfold dispatch
  cases htype : frame.header.frameType with
  | ack =>
    dsimp only
    split <;> rfl
  | nack =>
    dsimp only
    split <;> rfl
  | flow =>
    rw [if_pos rfl]
    dsimp only [credit]
    rcases hflow : FlowPayload.decode frame.payload with _ | flow
    · simp only [processFlowFrame, hflow]
    rw [getPeerFlow_processFlowFrame hflow]
    dsimp only
    split_ifs
    · rfl
    · rfl
  | _ =>
    dsimp only
    rw [if_neg (by simp)]
    exact credit_handleRegular ..

lemma credit_step (V : Verify) (t : SecureTransport) (e : Event × SecureReadings)
    (addr : SocketAddr) :
    (t.step blake3 V e).credit addr = (t.credit addr).after (creditMoves V addr t e) := by
  obtain ⟨e, readings⟩ := e
  cases e with
  | send frame dest sendError =>
    have hkeeps := (t.send_keeps frame dest readings.now sendError).2 addr
    dsimp only [step, creditMoves, credit]
    rw [hkeeps]
    rcases (t.prepareSend frame dest sendError).2 with e | ⟨frame', data⟩
    · rfl
    dsimp only
    split_ifs with haddr
    · rw [haddr]
      exact FlowTracker.credit_recordSend ..
    · rfl
  | poll => rfl
  | createSession peerId sharedSecret => rfl
  | datagram data source =>
    have huntouched (frame : Frame) := untouched_admitted V t frame readings.nowMs
    dsimp only [step, creditMoves, handleDatagram, grantOf]
    rcases decode data with fault | frame
    · rfl
    dsimp only
    have hflow : ∀ addr, (t.admitted V frame readings.nowMs).2.credit addr = t.credit addr := by
      intro addr
      rw [credit, (huntouched frame).flow, credit]
    generalize t.admitted V frame readings.nowMs = checked at hflow ⊢
    obtain ⟨_ | _, t'⟩ := checked
    · exact hflow addr
    rw [credit_dispatch, hflow]
    simp only [true_and]
    split
    · split_ifs <;> rfl
    · rfl

/-- What a run does to the window of a peer. -/
def creditHistory (blake3 : List UInt8 → Digest) (V : Verify) (addr : SocketAddr) :
    SecureTransport → List (Event × SecureReadings) → List CreditMove
  | _, [] => []
  | t, e :: events =>
    creditMoves V addr t e ++ creditHistory blake3 V addr (t.step blake3 V e) events

lemma credit_run (V : Verify) (t : SecureTransport) (events : List (Event × SecureReadings))
    (addr : SocketAddr) :
    (run (step blake3 V) t events).credit addr =
      (t.credit addr).after (creditHistory blake3 V addr t events) := by
  induction events generalizing t with
  | nil => rfl
  | cons e events ih =>
    rw [run_cons, ih, credit_step, creditHistory, Credit.after_append]

/-- **When credit is given back.** What could be sent to a peer before a run can be sent to it after
the run, whatever it acknowledged, exactly if nothing could be sent or the last Flow frame of the
peer covers the window before the run and all that was sent since that frame; without a Flow frame,
exactly if nothing was sent or the window was empty. -/
theorem credit_restored_iff (blake3 : List UInt8 → Digest) (V : Verify) (t : SecureTransport)
    (events : List (Event × SecureReadings)) (addr : SocketAddr) :
    (∀ size, (t.flow.canSend addr size).1 →
        ((run (step blake3 V) t events).flow.canSend addr size).1) ↔
      (t.credit addr).Restored (creditHistory blake3 V addr t events) := by
  have hrun := credit_run blake3 V t events addr
  rw [← Credit.forall_usable_iff, ← hrun]
  exact FlowTracker.forall_canSend_iff

end SecureTransport

/-! ## A frame that is acknowledged -/

def sampleSecure : SecureTransport :=
  .new .default ⟨⟨Vector.replicate 32 7⟩, fun _ => ⟨Vector.replicate 64 0⟩⟩ 0

def samplePeerAddr : SocketAddr := .v4 #v[10, 0, 0, 2] 7777

def sampleReadings : SecureReadings := ⟨0, 0, 0⟩

def trackedFrame : Frame :=
  { Frame.new { FrameHeader.new .intent ⟨Vector.replicate 32 7⟩ with trustLevel := .raw } .raw
      [1, 2, 3] with
    traceId := some sampleTraceId }

def signedAck : Frame :=
  { Frame.new { FrameHeader.new .ack sampleOrigin with trustLevel := .sig } .raw
      (AckPayload.new sampleTraceId).encode with
    auth := .signature ⟨
      hex 64 (0xf001eda02a744f2370e68cb152ee1b93678733a4664019045912a51272cdbf64 <<< 256 +
      0x4a5f897e71519beb0ba37554ff4a6ef59cf7d7de5c5d638b6378324255497b09)⟩ }

def ackVerify : Verify := fun node message sig =>
  node = sampleOrigin && message = signatureData signedAck && .signature sig = signedAck.auth

def sendTracked : SecureTransport.Event × SecureReadings :=
  (.send trackedFrame samplePeerAddr none, sampleReadings)

def receiveAck : SecureTransport.Event × SecureReadings :=
  (.datagram signedAck.wireBytes samplePeerAddr, sampleReadings)

theorem unsigned_frame_skipped :
    let handled := sampleSecure.handleDatagram ackVerify trackedFrame.wireBytes samplePeerAddr
      sampleReadings
    handled.1 = .next ∧ handled.2.1.reliability = sampleSecure.reliability ∧
      handled.2.1.flow = sampleSecure.flow ∧ handled.2.2 = [] := by
  have hformed : trackedFrame.WellFormed :=
    ⟨⟨rfl, by decide, by decide⟩, ⟨by decide, by decide, by decide⟩, rfl, rfl, rfl⟩
  have hdecode := decode_wireBytes hformed []
  rw [List.append_nil] at hdecode
  have hweak : trackedFrame.header.trustLevel.isWeakerThan .sig = true := by decide
  apply (SecureTransport.acts_only_on_authenticated Blake3.hash ackVerify sampleSecure rfl rfl []
    trackedFrame.wireBytes samplePeerAddr sampleReadings).2 trackedFrame hdecode
  rintro ⟨hstrong, -⟩
  exact Bool.false_ne_true (hstrong.symm.trans hweak)

def afterTracked : SecureTransport :=
  { sampleSecure with
    reliability := { sampleSecure.reliability with
      pending := AList.insert sampleTraceId
        ⟨trackedFrame.wireBytes, trackedFrame, samplePeerAddr, 0, 1, 200⟩ ∅ }
    flow := (sampleSecure.flow.canSend samplePeerAddr (.ofNat trackedFrame.wireSize)).2.recordSend
      samplePeerAddr (.ofNat trackedFrame.wireBytes.length) (some trackedFrame.header.intentHash)
    stats := { sampleSecure.stats with
      framesSent := 0 + 1
      bytesSent := 0 + .ofNat trackedFrame.wireBytes.length } }

lemma step_sendTracked (blake3 : List UInt8 → Digest) (V : Verify) :
    sampleSecure.step blake3 V sendTracked = afterTracked := by
  have hprepare : sampleSecure.prepareSend trackedFrame samplePeerAddr none = _ :=
    SecureTransport.prepareSend_of_raw rfl (by decide) rfl
      (encodeToBuffer_eq_ok_iff.mpr ⟨by decide, by decide, rfl⟩)
  rw [sendTracked, SecureTransport.step, SecureTransport.send, hprepare]
  rfl

/-- **Acknowledged credit is lost.** A node sends a frame to a peer, and the peer acknowledges it,
so that nothing is pending. Before, the whole window could be sent to the peer; then it cannot. -/
theorem acknowledged_credit_lost :
    let after := run (SecureTransport.step Blake3.hash ackVerify) sampleSecure
    (sampleSecure.flow.canSend samplePeerAddr 65536).1 = true ∧
      (after [sendTracked]).reliability.pending.keys = [⟨#v[0, 0, 0, 0, 0, 0, 0, 1]⟩] ∧
      (after [sendTracked, receiveAck]).reliability.pending.keys = [] ∧
      ((after [sendTracked, receiveAck]).flow.canSend samplePeerAddr 65536).1 = false := by
  dsimp only
  rw [run_cons, run_cons, step_sendTracked]
  decide +kernel

end AxiomCore
