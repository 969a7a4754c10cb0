import AxiomCore.Lib.Run
import AxiomCore.Node.Build
import AxiomCore.Transport.Liveness

/-!
# Requests over the internet

`wan_accept_loop` takes connections as they come, up to 16 at a time. Each is handled by a task of
its own: handshake, allowlist and liveness (`handle_incoming`), at most two sessions per peer, and
then a session that serves one stream after the other. A stream carries one frame. It is dispatched
only if it is a signed Intent of the peer at the other end.

`WanServer` is the accept loop with all its tasks. One `WanEvent` is one step of the loop or of a
task, so that any list of events is an interleaving. What the library returns, and whether a timeout
comes first, is part of the event.

- `WanMove`, `wanMove_step`: what a step can do.

Source: `forge-node/src/node.rs`.
-/

namespace AxiomCore

open Lib Encoder Decoder List Function

/-! ## One request -/

def wanMaxConcurrentConnections : Nat := 16

def wanMaxFrameBytes : Nat := 65536

def wanMaxConnectionsPerPeer : Nat := 2

/-- A stream, by what the peer does with it. Source: crate `iroh`, `RecvStream`. -/
structure WanStream where
  content : List UInt8
  /-- Whether it is finished; if not, it is reset. -/
  finished : Bool

/-- `read_to_end`, which fails if the stream is reset or has more bytes than the limit. Source:
crate `iroh`, `RecvStream::read_to_end`. -/
def WanStream.readToEnd (stream : WanStream) (limit : Nat) : Option (List UInt8) :=
  if stream.finished ∧ stream.content.length ≤ limit then some stream.content else none

inductive WanRequestOutcome where
  | continueSession
  | closeConnection (code : Nat) (reason : String)
  deriving DecidableEq

/-- The arguments of `dispatch_intent` that come from the frame. Source:
`forge-node/src/network.rs`, `dispatch_intent`. -/
structure DispatchCall where
  intentHash : IntentHash
  traceId : TraceId
  payload : List UInt8
  senderId : NodeId
  deriving DecidableEq

/-- `handle_one_wan_request`, up to the call of `dispatch_intent`. -/
def handleOneWanRequest (V : Verify) (peer : NodeId) (stream : WanStream) :
    WanRequestOutcome ⊕ DispatchCall :=
  match stream.readToEnd wanMaxFrameBytes with
  | none => .inl .continueSession
  | some bytes =>
    match decodeVerifiedFrame V bytes with
    | none => .inl (.closeConnection 1 "bad frame signature")
    | some frame =>
      if frame.header.senderId ≠ peer then
        .inl (.closeConnection 1 "sender/channel mismatch")
      else if frame.header.frameType ≠ .intent then
        .inl (.closeConnection 1 "unexpected frame type")
      else
        match frame.traceId with
        | none => .inl .continueSession
        | some traceId =>
          .inr ⟨frame.header.intentHash, traceId, frame.payload, frame.header.senderId⟩

/-- What is written to the stream: the reply, unless it is empty or too long. -/
def replyToSend (reply : List UInt8) : Option (List UInt8) :=
  if reply = [] then none else if wanMaxFrameBytes < reply.length then none else some reply

/-- The bytes are a signed Intent of the peer, and `call` is what it asks for. -/
structure BoundIntent (V : Verify) (bytes : List UInt8) (call : DispatchCall) (frame : Frame) :
    Prop where
  decodes : decode bytes = .ok frame
  intent : frame.header.frameType = .intent
  sender : frame.header.senderId = call.senderId
  traceId : frame.traceId = some call.traceId
  intentHash : frame.header.intentHash = call.intentHash
  payload : frame.payload = call.payload
  /-- The sender's signature over the frame verifies. -/
  signed : ∃ sig, frame.auth = .signature sig ∧ V call.senderId (signatureData frame) sig

/-- The bytes fail verification, name another sender, or are of another type. -/
def BreaksBinding (V : Verify) (peer : NodeId) (bytes : List UInt8) : Prop :=
  ∀ frame, decodeVerifiedFrame V bytes = some frame →
    frame.header.senderId ≠ peer ∨ frame.header.frameType ≠ .intent

variable {V : Verify} {peer : NodeId} {stream : WanStream}

lemma exists_boundIntent_of_handleOneWanRequest
    {call : DispatchCall} (h : handleOneWanRequest V peer stream = .inr call) :
    call.senderId = peer ∧ ∃ bytes frame, stream.readToEnd wanMaxFrameBytes = some bytes ∧
      BoundIntent V bytes call frame := by
  unfold handleOneWanRequest at h
  rcases hread : stream.readToEnd wanMaxFrameBytes with _ | bytes
  · simp only [hread] at h
    cases h
  rcases hverified : decodeVerifiedFrame V bytes with _ | frame
  · simp only [hread, hverified] at h
    cases h
  simp only [hread, hverified] at h
  split_ifs at h with hsender htype
  rcases htrace : frame.traceId with _ | traceId
  · simp only [htrace] at h
    cases h
  simp only [htrace] at h
  obtain rfl := Sum.inr.inj h
  obtain ⟨hdecode, hverify⟩ := decodeVerifiedFrame_eq_some_iff.mp hverified
  obtain ⟨-, hsigned⟩ := FrameVerifier.verify_eq_true_iff.mp hverify
  exact ⟨not_not.mp hsender, bytes, frame, rfl, hdecode, not_not.mp htype, rfl, htrace, rfl,
    rfl, hsigned⟩

lemma exists_closeConnection_of_breaksBinding
    {bytes : List UInt8} (hread : stream.readToEnd wanMaxFrameBytes = some bytes)
    (hbreaks : BreaksBinding V peer bytes) :
    ∃ reason, handleOneWanRequest V peer stream = .inl (.closeConnection 1 reason) := by
  unfold handleOneWanRequest
  simp only [hread]
  rcases hverified : decodeVerifiedFrame V bytes with _ | frame
  · exact ⟨_, rfl⟩
  by_cases hsender : frame.header.senderId = peer
  · have htype : frame.header.frameType ≠ .intent :=
      (hbreaks frame hverified).resolve_left (not_not.mpr hsender)
    simp only [if_neg (not_not.mpr hsender), if_pos htype]
    exact ⟨_, rfl⟩
  · simp only [if_pos hsender]
    exact ⟨_, rfl⟩

/-! ## The server -/

inductive WanStage where
  /-- In `accept_bi`. -/
  | waiting
  | reading
  | dispatching
  | replying (reply : List UInt8)

/-- Where the task of a connection is. -/
inductive WanPhase where
  | handshaking
  | session (peer : NodeId) (stage : WanStage)
  /-- At its end, and what the connection was closed with; without a call of `close`, it is closed
  as it is dropped. -/
  | closed (close : Option (Nat × String))

structure WanConnection where
  /-- `remote_id`, known after the handshake. -/
  remoteId : Option NodeId
  phase : WanPhase

structure WanDispatch where
  connection : Nat
  stream : WanStream
  call : DispatchCall

structure WanServer where
  accepting : Bool
  permits : Nat
  peerConnections : NodeId → Option Nat
  /-- The connections that got a permit, in the order they came. -/
  connections : List WanConnection
  /-- The calls of `dispatch_intent`, oldest first. -/
  dispatched : List WanDispatch

inductive WanTaskEvent where
  /-- `handle_incoming` ends, within its time. -/
  | handled (incoming : Incoming) (nowUnix : UInt64)
  | inboundTimeout
  | streamOpened
  /-- `accept_bi` fails. -/
  | disconnected
  /-- `accept_bi` takes too long. -/
  | idleTimeout
  /-- The stream is read, and what it carries is looked at. -/
  | read (stream : WanStream)
  | answered (reply : List UInt8)
  /-- The reply is written, or writing it failed. -/
  | written
  | requestTimeout

inductive WanEvent where
  | accept
  | shutdown
  | task (connection : Nat) (event : WanTaskEvent)

def tryAcquirePeerSlot (counts : NodeId → Option Nat) (peer : NodeId) :
    Option (NodeId → Option Nat) :=
  let count := (counts peer).getD 0
  if wanMaxConnectionsPerPeer ≤ count then none
  else some (update counts peer (some (count + 1)))

/-- The drop of a `PeerConnectionGuard`. -/
def releasePeerSlot (counts : NodeId → Option Nat) (peer : NodeId) : NodeId → Option Nat :=
  match counts peer with
  | none => counts
  | some count =>
    update counts peer (if count - 1 = 0 then none else some (count - 1))

namespace WanServer

def start : WanServer := ⟨true, wanMaxConcurrentConnections, fun _ => none, [], []⟩

def setPhase (s : WanServer) (c : Nat) (conn : WanConnection) (phase : WanPhase) : WanServer :=
  { s with connections := s.connections.set c { conn with phase := phase } }

def finish (s : WanServer) (c : Nat) (conn : WanConnection) (close : Option (Nat × String)) :
    WanServer :=
  { s.setPhase c conn (.closed close) with
    permits := s.permits + 1
    peerConnections :=
      match conn.phase with
      | .session peer _ => releasePeerSlot s.peerConnections peer
      | _ => s.peerConnections }

def handled (allowlist : WanAllowlist) (keypair : Keypair) (s : WanServer) (c : Nat)
    (conn : WanConnection) (incoming : Incoming) (nowUnix : UInt64) : WanServer :=
  let conn := { conn with remoteId := incoming.handshake.toOption }
  match handleIncoming allowlist keypair incoming nowUnix with
  | .error _ => s.finish c conn none
  | .ok (peer, _) =>
    match tryAcquirePeerSlot s.peerConnections peer with
    | none => s.finish c conn (some (1, "per-peer connection limit"))
    | some counts =>
      { s.setPhase c conn (.session peer .waiting) with peerConnections := counts }

def handleStream (V : Verify) (s : WanServer) (c : Nat) (conn : WanConnection) (peer : NodeId)
    (stream : WanStream) : WanServer :=
  match handleOneWanRequest V peer stream with
  | .inl .continueSession => s.setPhase c conn (.session peer .waiting)
  | .inl (.closeConnection code reason) => s.finish c conn (some (code, reason))
  | .inr call =>
    { s.setPhase c conn (.session peer .dispatching) with
      dispatched := s.dispatched ++ [⟨c, stream, call⟩] }

/-- A step of a task. An event that does not fit its phase changes nothing. -/
def stepTask (V : Verify) (allowlist : WanAllowlist) (keypair : Keypair) (s : WanServer) (c : Nat)
    (conn : WanConnection) (e : WanTaskEvent) : WanServer :=
  match conn.phase, e with
  | .handshaking, .handled incoming nowUnix => s.handled allowlist keypair c conn incoming nowUnix
  | .handshaking, .inboundTimeout => s.finish c conn none
  | .session peer .waiting, .streamOpened => s.setPhase c conn (.session peer .reading)
  | .session _ .waiting, .disconnected => s.finish c conn none
  | .session _ .waiting, .idleTimeout => s.finish c conn (some (0, "idle timeout"))
  | .session peer .reading, .read stream => s.handleStream V c conn peer stream
  | .session peer .dispatching, .answered reply =>
    match replyToSend reply with
    | none => s.setPhase c conn (.session peer .waiting)
    | some reply => s.setPhase c conn (.session peer (.replying reply))
  | .session peer (.replying _), .written => s.setPhase c conn (.session peer .waiting)
  | .session _ .waiting, .requestTimeout => s
  | .session _ _, .requestTimeout => s.finish c conn (some (1, "request timeout"))
  | _, _ => s

def step (V : Verify) (allowlist : WanAllowlist) (keypair : Keypair) (s : WanServer) :
    WanEvent → WanServer
  | .accept =>
    match s.accepting, s.permits with
    | true, permits + 1 =>
      { s with permits := permits, connections := s.connections ++ [⟨none, .handshaking⟩] }
    -- at the cap the connection is refused
    | _, _ => s
  | .shutdown => { s with accepting := false }
  | .task c e =>
    match s.connections[c]? with
    | some conn => s.stepTask V allowlist keypair c conn e
    | none => s

/-! ## What a step can do -/

/-- **A step**, by what it does. -/
inductive WanMove (V : Verify) (allowlist : WanAllowlist) (s : WanServer) : WanServer → Prop
  | idle : WanMove V allowlist s s
  | shutdown : WanMove V allowlist s { s with accepting := false }
  | accepted {permits : Nat} (hpermits : s.permits = permits + 1) :
      WanMove V allowlist s
        { s with permits := permits, connections := s.connections ++ [⟨none, .handshaking⟩] }
  /-- A connection does not get as far as a session. -/
  | turnedAway {c : Nat} {conn : WanConnection} (remoteId : Option NodeId)
      (close : Option (Nat × String)) (hconn : s.connections[c]? = some conn)
      (hphase : conn.phase = .handshaking) :
      WanMove V allowlist s (s.finish c { conn with remoteId := remoteId } close)
  | began {c : Nat} {conn : WanConnection} {peer : NodeId} {counts : NodeId → Option Nat}
      (hconn : s.connections[c]? = some conn) (hphase : conn.phase = .handshaking)
      (hallowed : allowlist.isAllowed peer)
      (hslot : tryAcquirePeerSlot s.peerConnections peer = some counts) :
      WanMove V allowlist s
        { s.setPhase c { conn with remoteId := some peer } (.session peer .waiting) with
          peerConnections := counts }
  | wentOn {c : Nat} {conn : WanConnection} {peer : NodeId} {stage : WanStage} (stage' : WanStage)
      (hconn : s.connections[c]? = some conn) (hphase : conn.phase = .session peer stage) :
      WanMove V allowlist s (s.setPhase c conn (.session peer stage'))
  | dispatched {c : Nat} {conn : WanConnection} {peer : NodeId} {stream : WanStream}
      {call : DispatchCall} (hconn : s.connections[c]? = some conn)
      (hphase : conn.phase = .session peer .reading)
      (hcall : handleOneWanRequest V peer stream = .inr call) :
      WanMove V allowlist s
        { s.setPhase c conn (.session peer .dispatching) with
          dispatched := s.dispatched ++ [⟨c, stream, call⟩] }
  | ended {c : Nat} {conn : WanConnection} {peer : NodeId} {stage : WanStage}
      (close : Option (Nat × String)) (hconn : s.connections[c]? = some conn)
      (hphase : conn.phase = .session peer stage) : WanMove V allowlist s (s.finish c conn close)

section Moves

variable {V : Verify} {allowlist : WanAllowlist} {keypair : Keypair} {s : WanServer} {c : Nat}
  {conn : WanConnection}

lemma wanMove_handled (hconn : s.connections[c]? = some conn)
    (hphase : conn.phase = .handshaking) (incoming : Incoming) (nowUnix : UInt64) :
    WanMove V allowlist s (s.handled allowlist keypair c conn incoming nowUnix) := by
  unfold handled
  rcases hhandled : handleIncoming allowlist keypair incoming nowUnix with e | ⟨peer, sent⟩
  · exact .turnedAway _ none hconn hphase
  obtain ⟨hhandshake, hallowed, -, -⟩ := handleIncoming_eq_ok_iff.mp hhandled
  rcases hslot : tryAcquirePeerSlot s.peerConnections peer with _ | counts
  · simp only [hslot]
    exact .turnedAway _ _ hconn hphase
  · simp only [hslot, hhandshake]
    exact .began hconn hphase hallowed hslot

lemma wanMove_handleStream {peer : NodeId} (hconn : s.connections[c]? = some conn)
    (hphase : conn.phase = .session peer .reading) (stream : WanStream) :
    WanMove V allowlist s (s.handleStream V c conn peer stream) := by
  unfold handleStream
  rcases hcall : handleOneWanRequest V peer stream with outcome | call
  · cases outcome with
    | continueSession => exact .wentOn _ hconn hphase
    | closeConnection code reason => exact .ended _ hconn hphase
  · exact .dispatched hconn hphase hcall

lemma wanMove_stepTask (hconn : s.connections[c]? = some conn) (e : WanTaskEvent) :
    WanMove V allowlist s (s.stepTask V allowlist keypair c conn e) := by
  unfold stepTask
  split
  case h_1 incoming nowUnix hphase => exact wanMove_handled hconn hphase incoming nowUnix
  case h_2 hphase => exact .turnedAway _ none hconn hphase
  case h_3 hphase => exact .wentOn _ hconn hphase
  case h_4 hphase => exact .ended _ hconn hphase
  case h_5 hphase => exact .ended _ hconn hphase
  case h_6 stream hphase => exact wanMove_handleStream hconn hphase stream
  case h_7 reply hphase =>
    rcases replyToSend reply with _ | toSend
    · exact .wentOn _ hconn hphase
    · exact .wentOn _ hconn hphase
  case h_8 hphase => exact .wentOn _ hconn hphase
  case h_9 => exact .idle
  case h_10 hphase => exact .ended _ hconn hphase
  case h_11 => exact .idle

lemma wanMove_step (V : Verify) (allowlist : WanAllowlist) (keypair : Keypair) (s : WanServer)
    (e : WanEvent) : WanMove V allowlist s (s.step V allowlist keypair e) := by
  cases e with
  | accept =>
    rcases haccepting : s.accepting with _ | _
    · simp only [step, haccepting]
      exact .idle
    rcases hpermits : s.permits with _ | permits
    · simp only [step, haccepting, hpermits]
      exact .idle
    have hstep : s.step V allowlist keypair .accept = { s with
        permits := permits, connections := s.connections ++ [⟨none, .handshaking⟩] } := by
      simp only [step, haccepting, hpermits]
    rw [hstep]
    exact .accepted hpermits
  | shutdown => exact .shutdown
  | task c e =>
    rcases hconn : s.connections[c]? with _ | conn
    · simp only [step, hconn]
      exact .idle
    · simp only [step, hconn]
      exact wanMove_stepTask hconn e

end Moves

end WanServer

open WanServer

/-! ## Channel binding -/

namespace WanServer

/-- What every session and every call of `dispatch_intent` rests on. -/
structure SessionsBound (V : Verify) (allowlist : WanAllowlist) (s : WanServer) : Prop where
  /-- A session is with the key of the connection, and this is on the allowlist. -/
  sessions : ∀ (c : Nat) (conn : WanConnection) (peer : NodeId) (stage : WanStage),
    s.connections[c]? = some conn → conn.phase = .session peer stage →
      conn.remoteId = some peer ∧ allowlist.isAllowed peer
  /-- A call is for a signed Intent of the key of the connection. -/
  calls : ∀ d ∈ s.dispatched,
    (∃ conn, s.connections[d.connection]? = some conn ∧ conn.phase ≠ .handshaking ∧
      conn.remoteId = some d.call.senderId) ∧
    allowlist.isAllowed d.call.senderId ∧
    ∃ bytes frame, d.stream.readToEnd wanMaxFrameBytes = some bytes ∧
      BoundIntent V bytes d.call frame

lemma sessionsBound_start (V : Verify) (allowlist : WanAllowlist) :
    SessionsBound V allowlist start :=
  ⟨fun _ _ _ _ h => by simp [start] at h, fun _ h => absurd h not_mem_nil⟩

variable {V : Verify} {allowlist : WanAllowlist} {s s' : WanServer} {c : Nat}
  {conn : WanConnection}

lemma SessionsBound.set
    {conn' : WanConnection} (h : SessionsBound V allowlist s)
    (hconn : s.connections[c]? = some conn)
    (hconnections : s'.connections = s.connections.set c conn')
    (hsession : ∀ peer stage, conn'.phase = .session peer stage →
      conn'.remoteId = some peer ∧ allowlist.isAllowed peer)
    (hkey : conn.phase ≠ .handshaking →
      conn'.phase ≠ .handshaking ∧ conn'.remoteId = conn.remoteId)
    (hcalls : ∀ d ∈ s'.dispatched, d ∈ s.dispatched ∨
      d.connection = c ∧ conn.phase ≠ .handshaking ∧ conn.remoteId = some d.call.senderId ∧
        allowlist.isAllowed d.call.senderId ∧
        ∃ bytes frame, d.stream.readToEnd wanMaxFrameBytes = some bytes ∧
          BoundIntent V bytes d.call frame) : SessionsBound V allowlist s' := by
  have hkept : ∀ (i : Nat) (old : WanConnection), s.connections[i]? = some old →
      old.phase ≠ .handshaking → ∃ new, s'.connections[i]? = some new ∧
        new.phase ≠ .handshaking ∧ new.remoteId = old.remoteId := by
    intro i old hold hphase
    rw [hconnections]
    by_cases hi : i = c
    · subst hi
      cases hold.symm.trans hconn
      exact ⟨conn', getElem?_set_of_some hold, hkey hphase⟩
    · exact ⟨old, (getElem?_set_ne (Ne.symm hi)).trans hold, hphase, rfl⟩
  refine ⟨?_, ?_⟩
  · intro i other peer stage hother hphase
    rw [hconnections] at hother
    rcases getElem?_set_cases hother with ⟨-, rfl⟩ | ⟨-, hold⟩
    · exact hsession peer stage hphase
    · exact h.sessions i other peer stage hold hphase
  · intro d hd
    rcases hcalls d hd with hold | ⟨rfl, hphase, hremote, hallowed, hframe⟩
    · obtain ⟨⟨old, hget, hphase, hremote⟩, hrest⟩ := h.calls d hold
      obtain ⟨new, hnew, hphase', hremote'⟩ := hkept _ _ hget hphase
      exact ⟨⟨new, hnew, hphase', hremote'.trans hremote⟩, hrest⟩
    · obtain ⟨new, hnew, hphase', hremote'⟩ := hkept _ _ hconn hphase
      exact ⟨⟨new, hnew, hphase', hremote'.trans hremote⟩, hallowed, hframe⟩

lemma SessionsBound.move
    (h : SessionsBound V allowlist s) (hmove : WanMove V allowlist s s') :
    SessionsBound V allowlist s' := by
  cases hmove with
  | idle => exact h
  | shutdown => exact ⟨h.sessions, h.calls⟩
  | accepted hpermits =>
    refine ⟨?_, ?_⟩
    · intro c conn peer stage hconn hphase
      rcases getElem?_concat_cases hconn with ⟨-, rfl⟩ | hold
      · cases hphase
      · exact h.sessions c conn peer stage hold hphase
    · intro d hd
      obtain ⟨⟨conn, hconn, hkey⟩, hrest⟩ := h.calls d hd
      exact ⟨⟨conn, getElem?_concat_of_some hconn, hkey⟩, hrest⟩
  | turnedAway remoteId close hconn hphase =>
    apply h.set hconn rfl
    · rintro peer stage ⟨⟩
    · exact fun hne => absurd hphase hne
    · exact fun d hd => .inl hd
  | began hconn hphase hallowed hslot =>
    apply h.set hconn rfl
    · rintro peer stage ⟨⟩
      exact ⟨rfl, hallowed⟩
    · exact fun hne => absurd hphase hne
    · exact fun d hd => .inl hd
  | wentOn stage' hconn hphase =>
    have hbound := h.sessions _ _ _ _ hconn hphase
    apply h.set hconn rfl
    · rintro peer stage ⟨⟩
      exact hbound
    · exact fun _ => ⟨by simp, rfl⟩
    · exact fun d hd => .inl hd
  | dispatched hconn hphase hcall =>
    obtain ⟨hremote, hallowed⟩ := h.sessions _ _ _ _ hconn hphase
    apply h.set hconn rfl
    · rintro peer stage ⟨⟩
      exact ⟨hremote, hallowed⟩
    · exact fun _ => ⟨by simp, rfl⟩
    · intro d hd
      rcases mem_append.mp hd with hold | hnew
      · exact .inl hold
      obtain rfl := mem_singleton.mp hnew
      obtain ⟨hsender, hframe⟩ := exists_boundIntent_of_handleOneWanRequest hcall
      refine .inr ⟨rfl, ?_, ?_, ?_, hframe⟩
      · rw [hphase]
        exact WanPhase.noConfusion
      · rw [hremote, hsender]
      · rw [hsender]
        exact hallowed
  | ended close hconn hphase =>
    apply h.set hconn rfl
    · rintro peer stage ⟨⟩
    · exact fun _ => ⟨by simp, rfl⟩
    · exact fun d hd => .inl hd

variable {close : Option (Nat × String)}

lemma WanMove.closed
    (hmove : WanMove V allowlist s s')
    (hconn : s.connections[c]? = some conn) (hphase : conn.phase = .closed close) :
    s'.connections[c]? = some conn ∧
      s'.dispatched.filter (·.connection = c) = s.dispatched.filter (·.connection = c) := by
  have hother : ∀ {i : Nat} {other : WanConnection}, s.connections[i]? = some other →
      other.phase ≠ .closed close → i ≠ c := by
    rintro i other hother hne rfl
    cases hother.symm.trans hconn
    exact hne hphase
  cases hmove with
  | idle => exact ⟨hconn, rfl⟩
  | shutdown => exact ⟨hconn, rfl⟩
  | accepted _ => exact ⟨getElem?_concat_of_some hconn, rfl⟩
  | turnedAway remoteId close hi hrunning =>
    have hne := hother hi (by simp [hrunning])
    exact ⟨(getElem?_set_ne hne).trans hconn, rfl⟩
  | began hi hrunning _ _ =>
    have hne := hother hi (by simp [hrunning])
    exact ⟨(getElem?_set_ne hne).trans hconn, rfl⟩
  | wentOn stage' hi hrunning =>
    have hne := hother hi (by simp [hrunning])
    exact ⟨(getElem?_set_ne hne).trans hconn, rfl⟩
  | dispatched hi hrunning _ =>
    have hne := hother hi (by simp [hrunning])
    refine ⟨(getElem?_set_ne hne).trans hconn, ?_⟩
    simp [filter_append, hne]
  | ended close hi hrunning =>
    have hne := hother hi (by simp [hrunning])
    exact ⟨(getElem?_set_ne hne).trans hconn, rfl⟩

lemma closed_run (V : Verify) (allowlist : WanAllowlist) (keypair : Keypair)
    (hconn : s.connections[c]? = some conn) (hphase : conn.phase = .closed close)
    (es : List WanEvent) :
    let s' := run (step V allowlist keypair) s es
    s'.connections[c]? = some conn ∧
      s'.dispatched.filter (·.connection = c) = s.dispatched.filter (·.connection = c) := by
  refine run_invariant (I := fun s' : WanServer => s'.connections[c]? = some conn ∧
    s'.dispatched.filter (·.connection = c) = s.dispatched.filter (·.connection = c))
    ?_ ⟨hconn, rfl⟩ es
  rintro s' e ⟨hkept, hlog⟩
  obtain ⟨hkept', hlog'⟩ := (wanMove_step V allowlist keypair s' e).closed hkept hphase
  exact ⟨hkept', hlog'.trans hlog⟩

end WanServer

/-- **Channel binding.** In every run of the server: a frame is dispatched on behalf of a node only
if this node is the key of the connection it came on, is on the allowlist, and signed the frame, an
Intent with a trace id. And a stream read to its end whose bytes fail verification, name another
sender or are of another type closes the connection, and nothing is dispatched from it any more. -/
theorem wan_channel_binding (V : Verify) (allowlist : WanAllowlist) (keypair : Keypair)
    (es : List WanEvent) :
    let s := run (WanServer.step V allowlist keypair) .start es
    (∀ d ∈ s.dispatched,
      (∃ conn, s.connections[d.connection]? = some conn ∧
        conn.remoteId = some d.call.senderId) ∧
      allowlist.isAllowed d.call.senderId ∧
      ∃ bytes frame, d.stream.readToEnd wanMaxFrameBytes = some bytes ∧
        BoundIntent V bytes d.call frame) ∧
    ∀ (c : Nat) (conn : WanConnection) (peer session : NodeId) (stream : WanStream)
      (bytes : List UInt8) (later : List WanEvent),
      s.connections[c]? = some conn → conn.remoteId = some peer →
        conn.phase = .session session .reading →
          stream.readToEnd wanMaxFrameBytes = some bytes → BreaksBinding V peer bytes →
            let s' := run (WanServer.step V allowlist keypair) s (.task c (.read stream) :: later)
            (∃ reason, s'.connections[c]? =
              some ⟨some peer, .closed (some (1, reason))⟩) ∧
            s'.dispatched.filter (·.connection = c) =
              s.dispatched.filter (·.connection = c) := by
  intro s
  have hbound : WanServer.SessionsBound V allowlist s :=
    run_invariant (fun s e h => h.move (wanMove_step V allowlist keypair s e))
      (sessionsBound_start V allowlist) es
  refine ⟨?_, ?_⟩
  · intro d hd
    obtain ⟨⟨conn, hconn, -, hremote⟩, hrest⟩ := hbound.calls d hd
    exact ⟨⟨conn, hconn, hremote⟩, hrest⟩
  · intro c conn peer session stream bytes later hconn hremote hphase hread hbreaks s'
    -- the session's peer is the key of the connection
    obtain rfl : session = peer :=
      Option.some.inj ((hbound.sessions c conn session _ hconn hphase).1.symm.trans hremote)
    obtain ⟨reason, hclose⟩ := exists_closeConnection_of_breaksBinding hread hbreaks
    have hstep : s.step V allowlist keypair (.task c (.read stream)) =
        s.finish c conn (some (1, reason)) := by
      simp only [WanServer.step, hconn, stepTask, hphase, handleStream, hclose]
    have hclosed : (s.finish c conn (some (1, reason))).connections[c]? =
        some ⟨some session, .closed (some (1, reason))⟩ := by
      rw [← hremote]
      exact getElem?_set_of_some hconn
    obtain ⟨hkept, hlog⟩ := closed_run V allowlist keypair hclosed rfl later
    have hs' : s' = run (WanServer.step V allowlist keypair)
        (s.finish c conn (some (1, reason))) later := by
      rw [← hstep]
      rfl
    rw [hs']
    exact ⟨⟨reason, hkept⟩, hlog⟩

/-! ## Streams that are not read -/

namespace WanServer

variable {V : Verify} {allowlist : WanAllowlist} {keypair : Keypair} {s : WanServer} {c : Nat}
  {conn : WanConnection} {peer : NodeId}

def firstStream (peer : NodeId) (ping : SignedPing) (nowUnix : UInt64) : List WanEvent :=
  [.accept, .task 0 (.handled ⟨.ok peer, .done ping.toWire, .done ()⟩ nowUnix),
    .task 0 .streamOpened]

lemma run_firstStream (V : Verify) (keypair : Keypair) (hallowed : allowlist.isAllowed peer)
    (ping : SignedPing) (nowUnix : UInt64) :
    run (step V allowlist keypair) start (firstStream peer ping nowUnix) =
      ⟨true, 15, update (fun _ => none) peer (some 1),
        [⟨some peer, .session peer .reading⟩], []⟩ := by
  have hhandled : handleIncoming allowlist keypair ⟨.ok peer, .done ping.toWire, .done ()⟩
      nowUnix = .ok (peer, _) :=
    handleIncoming_eq_ok_iff.mpr ⟨rfl, hallowed, ⟨_, rfl, ping.length_toWire, rfl⟩, rfl⟩
  have haccepted : start.step V allowlist keypair .accept =
      ⟨true, 15, fun _ => none, [⟨none, .handshaking⟩], []⟩ := rfl
  rw [firstStream, run_cons, haccepted, run_cons]
  simp only [step, getElem?_cons_zero, stepTask, handled, hhandled]
  rfl

lemma dispatched_after_unread {unread stream : WanStream} {call : DispatchCall}
    (hconn : s.connections[c]? = some conn) (hphase : conn.phase = .session peer .reading)
    (hunread : unread.readToEnd wanMaxFrameBytes = none)
    (hcall : handleOneWanRequest V peer stream = .inr call) :
    (run (step V allowlist keypair) s
      [.task c (.read unread), .task c .streamOpened, .task c (.read stream)]).dispatched =
        s.dispatched ++ [⟨c, stream, call⟩] := by
  have hfirst : s.step V allowlist keypair (.task c (.read unread)) =
      s.setPhase c conn (.session peer .waiting) := by
    simp only [step, hconn, stepTask, hphase, handleStream, handleOneWanRequest, hunread]
  have hwaiting : (s.setPhase c conn (.session peer .waiting)).connections[c]? =
      some { conn with phase := .session peer .waiting } := getElem?_set_of_some hconn
  have hreading : ((s.setPhase c conn (.session peer .waiting)).setPhase c
      { conn with phase := .session peer .waiting } (.session peer .reading)).connections[c]? =
        some { conn with phase := .session peer .reading } := getElem?_set_of_some hwaiting
  rw [run_cons, hfirst, run_cons, run_cons, run_nil]
  simp only [step, hwaiting, stepTask, hreading, handleStream, hcall]
  rfl

end WanServer

lemma readToEnd_eq_none {limit : Nat} (h : limit < stream.content.length) :
    stream.readToEnd limit = none :=
  if_neg fun hread => absurd hread.2 (not_le.mpr h)

lemma decodeVerifiedFrame_replicate_zero (V : Verify) (n : Nat) :
    decodeVerifiedFrame V (List.replicate (n + 3) 0) = none := by
  rw [← Option.not_isSome_iff_eq_none, Option.isSome_iff_exists]
  rintro ⟨frame, hframe⟩
  obtain ⟨hwf, hbytes⟩ :=
    decode_eq_ok_iff.mp (decodeVerifiedFrame_eq_some_iff.mp hframe).1
  -- the first byte of a frame has the magic and the version in it
  have hversion := toNat_byte0 hwf.header.version
  have hfirst : byte0 frame.header = 0 := by
    obtain ⟨suffix, hsuffix⟩ := hbytes
    exact (List.cons.inj hsuffix).1
  rw [hfirst, UInt8.toNat_zero] at hversion
  omega

/-- The key of the sample request is on the allowlist. -/
def sampleAllowlist : WanAllowlist := ⟨{sampleOrigin}⟩

lemma handleOneWanRequest_signedRequest :
    handleOneWanRequest echoVerify sampleOrigin ⟨signedRequest.wireBytes, true⟩ =
      .inr ⟨echoHash, sampleTraceId, [104, 105], sampleOrigin⟩ := by
  decide +kernel

def oversizedStream : WanStream := ⟨List.replicate 65537 0, true⟩

/-- **A session outlives bytes that do not verify**, if there are too many of them: after a stream
of 65537 zero bytes the connection is open and the next stream is dispatched. -/
theorem oversized_stream_keeps_session :
    let server := WanServer.step echoVerify sampleAllowlist provider
    let s := run server .start (firstStream sampleOrigin ⟨Vector.replicate 16 0, 0⟩ 0)
    let s' := run server s [.task 0 (.read oversizedStream), .task 0 .streamOpened,
      .task 0 (.read ⟨signedRequest.wireBytes, true⟩)]
    s.connections = [⟨some sampleOrigin, .session sampleOrigin .reading⟩] ∧
      decodeVerifiedFrame echoVerify oversizedStream.content = none ∧
      s'.dispatched.map (·.call) = [⟨echoHash, sampleTraceId, [104, 105], sampleOrigin⟩] := by
  have hallowed : sampleAllowlist.isAllowed sampleOrigin :=
    decide_eq_true (Finset.mem_singleton_self sampleOrigin)
  have hlong : wanMaxFrameBytes < oversizedStream.content.length := by
    rw [oversizedStream, length_replicate]
    exact Nat.lt_succ_self 65536
  have hverified : decodeVerifiedFrame echoVerify oversizedStream.content = none := by
    rw [oversizedStream]
    exact decodeVerifiedFrame_replicate_zero echoVerify 65534
  simp only [run_firstStream echoVerify provider hallowed]
  refine ⟨trivial, hverified, ?_⟩
  rw [dispatched_after_unread rfl rfl (readToEnd_eq_none hlong)
    handleOneWanRequest_signedRequest]
  rfl

/-! ## The slots of a peer -/

structure PeerSlots where
  counts : NodeId → Option Nat
  guards : List NodeId

inductive SlotEvent where
  | acquire (peer : NodeId)
  | drop (peer : NodeId)

namespace PeerSlots

def start : PeerSlots := ⟨fun _ => none, []⟩

/-- A call of `try_acquire_peer_slot`, or the drop of a guard of the peer if there is one. -/
def step (s : PeerSlots) : SlotEvent → PeerSlots
  | .acquire peer =>
    match tryAcquirePeerSlot s.counts peer with
    | none => s
    | some counts => ⟨counts, peer :: s.guards⟩
  | .drop peer =>
    if peer ∈ s.guards then ⟨releasePeerSlot s.counts peer, s.guards.erase peer⟩ else s

structure Counted (s : PeerSlots) : Prop where
  counts : ∀ peer, s.counts peer =
    if s.guards.count peer = 0 then none else some (s.guards.count peer)
  few : ∀ peer, s.guards.count peer ≤ wanMaxConnectionsPerPeer

variable {s : PeerSlots}

lemma Counted.getD (h : s.Counted) (peer : NodeId) :
    (s.counts peer).getD 0 = s.guards.count peer := by
  rw [h.counts]
  split_ifs with hnone
  · exact hnone.symm
  · rfl

lemma Counted.step (h : s.Counted) (e : SlotEvent) : (s.step e).Counted := by
  cases e with
  | acquire peer =>
    unfold PeerSlots.step tryAcquirePeerSlot
    simp only [h.getD]
    split_ifs with hfull
    · exact h
    constructor
    · intro p
      by_cases hp : p = peer
      · simp [hp]
      · simp [hp, Ne.symm hp, h.counts p]
    · intro p
      have hfew := h.few p
      rw [count_cons]
      split_ifs with hp
      · obtain rfl := beq_iff_eq.mp hp
        omega
      · exact hfew
  | drop peer =>
    simp only [PeerSlots.step]
    split_ifs with hguard
    · constructor
      · intro p
        have hsome := count_pos_iff.mpr hguard
        rw [releasePeerSlot, h.counts peer, if_neg hsome.ne']
        by_cases hp : p = peer
        · simp [hp]
        · simp [hp, h.counts p]
      · intro p
        exact (erase_sublist.count_le p).trans (h.few p)
    · exact h

end PeerSlots

/-- **Slots are counted.** After any calls of `try_acquire_peer_slot` and drops of guards, the table
has the number of each peer's guards, at most two, and no entry for a peer without one; a call fails
only if the peer has two. -/
theorem peer_slots_counted (es : List SlotEvent) (peer : NodeId) :
    let s := run PeerSlots.step .start es
    s.counts peer = (if peer ∈ s.guards then some (s.guards.count peer) else none) ∧
      s.guards.count peer ≤ wanMaxConnectionsPerPeer ∧
      (tryAcquirePeerSlot s.counts peer = none →
        s.guards.count peer = wanMaxConnectionsPerPeer) := by
  intro s
  have hcounted : s.Counted :=
    run_invariant (fun s e h => h.step e) ⟨fun _ => rfl, fun _ => Nat.zero_le _⟩ es
  refine ⟨?_, hcounted.few peer, ?_⟩
  · simp only [hcounted.counts peer, count_eq_zero, ite_not]
  · intro hfails
    unfold tryAcquirePeerSlot at hfails
    simp only [hcounted.getD] at hfails
    split_ifs at hfails with hfull
    exact le_antisymm (hcounted.few peer) hfull

end AxiomCore
