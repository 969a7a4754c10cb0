import AxiomCore.Crypto.IntentHash
import AxiomCore.Lib.Blake3
import AxiomCore.Lib.Run

/-!
# RAW sessions

A RAW session is kept alive by heartbeats. Each has a sequence number, a time and a tag under the
session key; every so often it brings material for a new key, with a tag of its own. The other end
checks all of it and acknowledges.

- `RawSession`: one end, with `createHeartbeat`, `processHeartbeat` and `processAck`. The hash
  function and what the generator draws are parameters.
- `processHeartbeat_cases`: what a heartbeat does. Either it is refused, and nothing changes, or it
  passed every check, and this is the new state.

Source: `axiom-crypto/src/raw_session.rs`.
-/

namespace AxiomCore

open Lib

/-! ## Data -/

/-- The hash function and its keyed mode. Source: crate `blake3`. -/
structure Blake3Fns where
  hash : List UInt8 → Digest
  /-- `Hasher::new_keyed`. -/
  keyedHash : Digest → List UInt8 → Digest

/-- The real ones, on inputs of one chunk. -/
def blake3Fns : Blake3Fns := ⟨Blake3.hash, Blake3.keyedHash⟩

inductive RawSessionState where
  | active
  | degraded
  | terminated
  deriving DecidableEq

structure RawSessionConfig where
  heartbeatIntervalMs : UInt64
  /-- Missed heartbeats before termination. -/
  graceHeartbeats : UInt32
  keyRotationInterval : UInt32
  /-- Milliseconds by which clocks may differ. -/
  maxClockSkewMs : UInt64
  /-- How far a sequence number may be ahead. -/
  sequenceWindow : UInt64
  /-- Milliseconds between accepted rotations, at least. -/
  minRotationIntervalMs : UInt64
  maxRotationsPerSession : UInt32

def RawSessionConfig.default : RawSessionConfig where
  heartbeatIntervalMs := 1000
  graceHeartbeats := 3
  keyRotationInterval := 60
  maxClockSkewMs := 5000
  sequenceWindow := 100
  minRotationIntervalMs := 60000
  maxRotationsPerSession := 1000

structure KeyRotation where
  keyContribution : Digest
  contributionHmac : Digest
  deriving DecidableEq

structure Heartbeat where
  sessionId : Digest
  sequence : UInt64
  timestampMs : UInt64
  /-- Tag over session, number and time. -/
  hmac : Digest
  keyRotation : Option KeyRotation

structure HeartbeatAck where
  sessionId : Digest
  ackSequence : UInt64
  /-- Tag over session, "ACK" and number. -/
  hmac : Digest
  deriving DecidableEq

inductive RawSessionError where
  | invalidHmac
  | sequenceOutOfWindow
  | replayDetected
  | timestampOutOfRange
  | sessionNotFound
  | sessionTerminated
  | keyRotationFailed
  | rotationTooFrequent
  | rotationLimitExceeded
  deriving DecidableEq

structure RawSession where
  sessionId : Digest
  peerId : Digest
  sessionKey : Digest
  prevSessionKey : Option Digest
  /-- Number of the last heartbeat that was created. -/
  sequence : UInt64
  /-- Number of the last heartbeat that was accepted. -/
  peerSequence : UInt64
  establishedAtMs : UInt64
  lastHeartbeatSentMs : UInt64
  lastHeartbeatReceivedMs : UInt64
  missedHeartbeats : UInt32
  state : RawSessionState
  config : RawSessionConfig
  /-- Milliseconds; zero before the first rotation. -/
  lastRotationTimeMs : UInt64
  rotationCount : UInt32

/-! ## Tags -/

def heartbeatMessage (sessionId : Digest) (sequence timestampMs : UInt64) : List UInt8 :=
  sessionId.toList ++ (toLeBytes sequence ++ toLeBytes timestampMs)

def ackMessage (sessionId : Digest) (ackSequence : UInt64) : List UInt8 :=
  sessionId.toList ++ (utf8 "ACK" ++ toLeBytes ackSequence)

namespace RawSession

def new (sessionId peerId initialKey : Digest) (currentTimeMs : UInt64)
    (config : RawSessionConfig) : RawSession where
  sessionId := sessionId
  peerId := peerId
  sessionKey := initialKey
  prevSessionKey := none
  sequence := 0
  peerSequence := 0
  establishedAtMs := currentTimeMs
  lastHeartbeatSentMs := currentTimeMs
  lastHeartbeatReceivedMs := currentTimeMs
  missedHeartbeats := 0
  state := .active
  config := config
  lastRotationTimeMs := 0
  rotationCount := 0

variable (B : Blake3Fns)

def computeHeartbeatHmacWithKey (s : RawSession) (key : Digest) (sequence timestampMs : UInt64) :
    Digest :=
  B.keyedHash key (heartbeatMessage s.sessionId sequence timestampMs)

def computeAckHmacWithKey (s : RawSession) (key : Digest) (ackSequence : UInt64) : Digest :=
  B.keyedHash key (ackMessage s.sessionId ackSequence)

def hmac (s : RawSession) (data : List UInt8) : Digest := B.keyedHash s.sessionKey data

/-! ## Operations -/

def createKeyRotation (s : RawSession) (contribution : Digest) : KeyRotation :=
  ⟨contribution, s.hmac B contribution.toList⟩

def counted (s : RawSession) (currentTimeMs : UInt64) : RawSession :=
  { s with sequence := s.sequence + 1, lastHeartbeatSentMs := currentTimeMs }

/-- The heartbeat that was counted last. -/
def currentHeartbeat (s : RawSession) (currentTimeMs : UInt64) (contribution : Digest) :
    Heartbeat where
  sessionId := s.sessionId
  sequence := s.sequence
  timestampMs := currentTimeMs
  hmac := s.computeHeartbeatHmacWithKey B s.sessionKey s.sequence currentTimeMs
  keyRotation :=
    if s.sequence % s.config.keyRotationInterval.toUInt64 = 0 then
      some (s.createKeyRotation B contribution)
    else none

/-- `create_heartbeat`, where the generator draws `contribution` if it is asked. There is none if
the process ends with a division by zero. -/
def createHeartbeat (s : RawSession) (currentTimeMs : UInt64) (contribution : Digest) :
    Option (Heartbeat × RawSession) :=
  let s := s.counted currentTimeMs
  if s.config.keyRotationInterval = 0 then none
  else some (s.currentHeartbeat B currentTimeMs contribution, s)

lemma createHeartbeat_eq {s : RawSession} (h : s.config.keyRotationInterval ≠ 0)
    (currentTimeMs : UInt64) (contribution : Digest) :
    s.createHeartbeat B currentTimeMs contribution =
      some ((s.counted currentTimeMs).currentHeartbeat B currentTimeMs contribution,
        s.counted currentTimeMs) :=
  if_neg h

def rotatedKey (s : RawSession) (contribution : Digest) : Digest :=
  B.hash (s.sessionKey.toList ++ (contribution.toList ++ toLeBytes s.sequence))

def rotate (s : RawSession) (contribution : Digest) (currentTimeMs : UInt64) : RawSession :=
  { s with
    prevSessionKey := some s.sessionKey
    sessionKey := s.rotatedKey B contribution
    lastRotationTimeMs := currentTimeMs
    rotationCount := s.rotationCount + 1 }

def processKeyRotation (s : RawSession) (rotation : KeyRotation) (currentTimeMs : UInt64) :
    Except RawSessionError Unit × RawSession :=
  if s.lastRotationTimeMs > 0 ∧
      saturatingSub64 currentTimeMs s.lastRotationTimeMs < s.config.minRotationIntervalMs then
    (.error .rotationTooFrequent, s)
  else if s.rotationCount ≥ s.config.maxRotationsPerSession then
    (.error .rotationLimitExceeded, s)
  else if rotation.contributionHmac ≠ s.hmac B rotation.keyContribution.toList then
    (.error .keyRotationFailed, s)
  else (.ok (), s.rotate B rotation.keyContribution currentTimeMs)

def hmacValid (s : RawSession) (heartbeat : Heartbeat) : Bool :=
  heartbeat.hmac =
      s.computeHeartbeatHmacWithKey B s.sessionKey heartbeat.sequence heartbeat.timestampMs ||
    match s.prevSessionKey with
    | none => false
    | some prevKey =>
      heartbeat.hmac =
        s.computeHeartbeatHmacWithKey B prevKey heartbeat.sequence heartbeat.timestampMs

def createAck (s : RawSession) (ackSequence : UInt64) : HeartbeatAck :=
  ⟨s.sessionId, ackSequence, s.computeAckHmacWithKey B s.sessionKey ackSequence⟩

def timeDiff (timestampMs currentTimeMs : UInt64) : UInt64 :=
  if timestampMs > currentTimeMs then timestampMs - currentTimeMs else currentTimeMs - timestampMs

def heard (s : RawSession) (heartbeat : Heartbeat) (currentTimeMs : UInt64) : RawSession :=
  { s with
    peerSequence := heartbeat.sequence
    lastHeartbeatReceivedMs := currentTimeMs
    missedHeartbeats := 0
    state := .active }

def processHeartbeat (s : RawSession) (heartbeat : Heartbeat) (currentTimeMs : UInt64) :
    Except RawSessionError HeartbeatAck × RawSession :=
  if heartbeat.sessionId ≠ s.sessionId then (.error .sessionNotFound, s)
  else if s.state = .terminated then (.error .sessionTerminated, s)
  else if timeDiff heartbeat.timestampMs currentTimeMs > s.config.maxClockSkewMs then
    (.error .timestampOutOfRange, s)
  else if heartbeat.sequence ≤ s.peerSequence then (.error .replayDetected, s)
  else if heartbeat.sequence > s.peerSequence + s.config.sequenceWindow then
    (.error .sequenceOutOfWindow, s)
  else if !s.hmacValid B heartbeat then (.error .invalidHmac, s)
  else
    match heartbeat.keyRotation with
    | none =>
      let s := s.heard heartbeat currentTimeMs
      (.ok (s.createAck B heartbeat.sequence), s)
    | some rotation =>
      match s.processKeyRotation B rotation currentTimeMs with
      | (.error e, s) => (.error e, s)
      | (.ok (), s) =>
        let s := s.heard heartbeat currentTimeMs
        (.ok (s.createAck B heartbeat.sequence), s)

def processAck (s : RawSession) (ack : HeartbeatAck) : Except RawSessionError Unit :=
  if ack.sessionId ≠ s.sessionId then .error .sessionNotFound
  else if ack.hmac ≠ s.computeAckHmacWithKey B s.sessionKey ack.ackSequence then
    match s.prevSessionKey with
    | none => .error .invalidHmac
    | some prevKey =>
      if ack.hmac ≠ s.computeAckHmacWithKey B prevKey ack.ackSequence then .error .invalidHmac
      else .ok ()
  else .ok ()

/-! ## What a heartbeat does -/

variable {B} {s : RawSession} {rotation : KeyRotation} {heartbeat : Heartbeat}
variable {currentTimeMs : UInt64}

variable (B s rotation currentTimeMs) in
structure RotationPasses : Prop where
  spaced : s.lastRotationTimeMs > 0 →
    s.config.minRotationIntervalMs ≤ saturatingSub64 currentTimeMs s.lastRotationTimeMs
  few : s.rotationCount < s.config.maxRotationsPerSession
  tag : rotation.contributionHmac = s.hmac B rotation.keyContribution.toList

variable (B s heartbeat currentTimeMs) in
structure Passes : Prop where
  id : heartbeat.sessionId = s.sessionId
  running : s.state ≠ .terminated
  near : timeDiff heartbeat.timestampMs currentTimeMs ≤ s.config.maxClockSkewMs
  fresh : s.peerSequence < heartbeat.sequence
  window : heartbeat.sequence ≤ s.peerSequence + s.config.sequenceWindow
  tag : s.hmacValid B heartbeat
  rotation : ∀ r, heartbeat.keyRotation = some r → s.RotationPasses B r currentTimeMs

variable (B s heartbeat currentTimeMs) in
def rotated : RawSession :=
  match heartbeat.keyRotation with
  | none => s
  | some rotation => s.rotate B rotation.keyContribution currentTimeMs

variable (B s rotation currentTimeMs) in
lemma processKeyRotation_cases :
    (∃ e, s.processKeyRotation B rotation currentTimeMs = (.error e, s)) ∨
      s.RotationPasses B rotation currentTimeMs ∧
        s.processKeyRotation B rotation currentTimeMs =
          (.ok (), s.rotate B rotation.keyContribution currentTimeMs) := by
  unfold processKeyRotation
  split_ifs with hspaced hfew htag
  · exact .inl ⟨_, rfl⟩
  · exact .inl ⟨_, rfl⟩
  · exact .inl ⟨_, rfl⟩
  refine .inr ⟨⟨?_, UInt32.not_le.mp hfew, not_not.mp htag⟩, rfl⟩
  intro hpos
  apply UInt64.not_lt.mp
  intro hlt
  exact hspaced ⟨hpos, hlt⟩

lemma processKeyRotation_of_passes (h : s.RotationPasses B rotation currentTimeMs) :
    s.processKeyRotation B rotation currentTimeMs =
      (.ok (), s.rotate B rotation.keyContribution currentTimeMs) := by
  have hspaced : ¬ (s.lastRotationTimeMs > 0 ∧
      saturatingSub64 currentTimeMs s.lastRotationTimeMs < s.config.minRotationIntervalMs) :=
    fun hs => UInt64.not_lt.mpr (h.spaced hs.1) hs.2
  rw [processKeyRotation, if_neg hspaced, if_neg (UInt32.not_le.mpr h.few),
    if_neg (not_not.mpr h.tag)]

variable (B s heartbeat currentTimeMs) in
lemma processHeartbeat_cases :
    (∃ e, s.processHeartbeat B heartbeat currentTimeMs = (.error e, s)) ∨
      s.Passes B heartbeat currentTimeMs ∧
        s.processHeartbeat B heartbeat currentTimeMs =
          (.ok (((s.rotated B heartbeat currentTimeMs).heard heartbeat currentTimeMs).createAck B
              heartbeat.sequence),
            (s.rotated B heartbeat currentTimeMs).heard heartbeat currentTimeMs) := by
  unfold processHeartbeat
  split_ifs with hid hrunning hnear hfresh hwindow htag
  iterate 6 exact .inl ⟨_, rfl⟩
  -- All checks but those on a rotation were passed.
  have hpasses (hrotation : ∀ r, heartbeat.keyRotation = some r →
      s.RotationPasses B r currentTimeMs) : s.Passes B heartbeat currentTimeMs :=
    ⟨not_not.mp hid, hrunning, UInt64.not_lt.mp hnear, UInt64.not_le.mp hfresh,
      UInt64.not_lt.mp hwindow, by simpa using htag, hrotation⟩
  cases hr : heartbeat.keyRotation with
  | none =>
    refine .inr ⟨hpasses fun r hr' => ?_, ?_⟩
    · rw [hr] at hr'
      cases hr'
    · simp only [rotated, hr]
  | some rotation =>
    rcases s.processKeyRotation_cases B rotation currentTimeMs with ⟨e, he⟩ | ⟨hrotation, hok⟩
    · exact .inl ⟨e, by simp only [he]⟩
    refine .inr ⟨hpasses fun r hr' => ?_, ?_⟩
    · rw [hr] at hr'
      cases hr'
      exact hrotation
    · simp only [hok, rotated, hr]

lemma processHeartbeat_of_passes (h : s.Passes B heartbeat currentTimeMs) :
    s.processHeartbeat B heartbeat currentTimeMs =
      (.ok (((s.rotated B heartbeat currentTimeMs).heard heartbeat currentTimeMs).createAck B
          heartbeat.sequence),
        (s.rotated B heartbeat currentTimeMs).heard heartbeat currentTimeMs) := by
  rw [processHeartbeat, if_neg (not_not.mpr h.id), if_neg h.running,
    if_neg (UInt64.not_lt.mpr h.near), if_neg (UInt64.not_le.mpr h.fresh),
    if_neg (UInt64.not_lt.mpr h.window), if_neg (by simp [h.tag])]
  cases hr : heartbeat.keyRotation with
  | none => simp only [rotated, hr]
  | some rotation =>
    simp only [processKeyRotation_of_passes (h.rotation rotation hr), rotated, hr]

lemma config_rotated : (s.rotated B heartbeat currentTimeMs).config = s.config := by
  unfold rotated
  split <;> rfl

end RawSession

open RawSession

/-! ## Any sequence of heartbeats -/

/-- An end of a session and what it accepted: heartbeats, each with its time. -/
structure RawReceiver where
  session : RawSession
  /-- What was accepted, in order. -/
  accepted : List (Heartbeat × UInt64)

namespace RawReceiver

variable (B : Blake3Fns)

def step (n : RawReceiver) (e : Heartbeat × UInt64) : RawReceiver :=
  match n.session.processHeartbeat B e.1 e.2 with
  | (.error _, session) => { n with session }
  | (.ok _, session) => ⟨session, n.accepted ++ [e]⟩

/-- The end after a sequence of heartbeats. -/
def after (s : RawSession) (es : List (Heartbeat × UInt64)) : RawReceiver :=
  run (step B) ⟨s, []⟩ es

def sequences (n : RawReceiver) : List UInt64 := n.accepted.map (·.1.sequence)

def rotationTimes (n : RawReceiver) : List UInt64 :=
  (n.accepted.filter (·.1.keyRotation.isSome)).map (·.2)

variable {B} {n : RawReceiver} {e : Heartbeat × UInt64}

variable (B n e) in
lemma step_cases :
    step B n e = n ∨
      n.session.Passes B e.1 e.2 ∧
        step B n e = ⟨(n.session.rotated B e.1 e.2).heard e.1 e.2, n.accepted ++ [e]⟩ := by
  unfold step
  rcases n.session.processHeartbeat_cases B e.1 e.2 with ⟨err, herr⟩ | ⟨hpasses, hok⟩
  · exact .inl (by simp only [herr])
  · exact .inr ⟨hpasses, by simp only [hok]⟩

/-- What was accepted has increasing numbers, up to the one that the session remembers. -/
structure Ordered (n : RawReceiver) : Prop where
  increasing : n.sequences.Pairwise (· < ·)
  remembered : ∀ m ∈ n.sequences, m ≤ n.session.peerSequence

lemma Ordered.step (h : n.Ordered) : (step B n e).Ordered := by
  rcases step_cases B n e with hsame | ⟨hpasses, hstep⟩
  · rw [hsame]
    exact h
  rw [hstep]
  have hnew : ∀ m ∈ n.sequences, m < e.1.sequence :=
    fun m hm => UInt64.lt_of_le_of_lt (h.remembered m hm) hpasses.fresh
  constructor
  · simp only [sequences, List.map_append, List.map_cons, List.map_nil, List.pairwise_append]
    refine ⟨h.increasing, List.pairwise_singleton _ _, fun m hm m' hm' => ?_⟩
    rw [List.mem_singleton.mp hm']
    exact hnew m hm
  · intro m hm
    simp only [sequences, List.map_append, List.map_cons, List.map_nil, List.mem_append,
      List.mem_singleton] at hm
    rcases hm with hm | rfl
    · exact UInt64.le_of_lt (hnew m hm)
    · exact UInt64.le_refl _

/-- The accepted rotations are far apart and few; the session remembers their number and the time of
the last. -/
structure Paced (s : RawSession) (n : RawReceiver) : Prop where
  config : n.session.config = s.config
  counted : n.session.rotationCount.toNat = s.rotationCount.toNat + n.rotationTimes.length
  few : n.rotationTimes.length ≤ s.config.maxRotationsPerSession.toNat

variable {session s : RawSession} {r : KeyRotation} {es : List (Heartbeat × UInt64)}

lemma rotationTimes_of_none (h : e.1.keyRotation = none) :
    rotationTimes ⟨session, n.accepted ++ [e]⟩ = n.rotationTimes := by
  simp [rotationTimes, List.filter_append, h]

lemma rotationTimes_of_some
    (h : e.1.keyRotation = some r) :
    rotationTimes ⟨session, n.accepted ++ [e]⟩ = n.rotationTimes ++ [e.2] := by
  simp [rotationTimes, List.filter_append, h]

lemma Paced.step (h : Paced s n) : Paced s (step B n e) := by
  rcases step_cases B n e with hsame | ⟨hpasses, hstep⟩
  · rw [hsame]
    exact h
  rw [hstep]
  have hconfig : ((n.session.rotated B e.1 e.2).heard e.1 e.2).config = s.config :=
    config_rotated.trans h.config
  cases hr : e.1.keyRotation with
  | none =>
    refine ⟨hconfig, ?_, ?_⟩
    · rw [rotationTimes_of_none hr, ← h.counted]
      simp only [heard, rotated, hr]
    · rw [rotationTimes_of_none hr]
      exact h.few
  | some r =>
    have hfew := (hpasses.rotation r hr).few
    rw [h.config, UInt32.lt_iff_toNat_lt] at hfew
    have hcounted := h.counted
    have hadd : (n.session.rotationCount + 1).toNat = n.session.rotationCount.toNat + 1 := by
      rw [UInt32.toNat_add, UInt32.toNat_one]
      apply Nat.mod_eq_of_lt
      have := s.config.maxRotationsPerSession.toNat_lt
      omega
    refine ⟨hconfig, ?_, ?_⟩
    · rw [rotationTimes_of_some hr, List.length_append, List.length_singleton]
      simp only [heard, rotated, hr, rotate]
      omega
    · rw [rotationTimes_of_some hr, List.length_append, List.length_singleton]
      omega

structure Clocked (es : List (Heartbeat × UInt64)) : Prop where
  /-- None is zero. -/
  pos : ∀ e ∈ es, 0 < e.2
  mono : es.Pairwise (·.2 ≤ ·.2)

def Apart (config : RawSessionConfig) (t t' : UInt64) : Prop :=
  t.toNat + config.minRotationIntervalMs.toNat ≤ t'.toNat

/-- The accepted rotations of a run are apart, and the session remembers the time of the last. -/
structure Spaced (s : RawSession) (es : List (Heartbeat × UInt64)) (n : RawReceiver) : Prop where
  config : n.session.config = s.config
  apart : n.rotationTimes.Pairwise (Apart s.config)
  remembered : ∀ t ∈ n.rotationTimes, t ≤ n.session.lastRotationTimeMs ∧ 0 < t
  seen : n.rotationTimes ≠ [] → ∃ e ∈ es, e.2 = n.session.lastRotationTimeMs

lemma Spaced.apart_next
    (h : Spaced s es n) (hclock : Clocked (es ++ [e])) (hpasses : n.session.Passes B e.1 e.2)
    (hr : e.1.keyRotation = some r) : ∀ t ∈ n.rotationTimes, Apart s.config t e.2 := by
  intro t ht
  obtain ⟨e', he', heq⟩ := h.seen (List.ne_nil_of_mem ht)
  obtain ⟨hle, htpos⟩ := h.remembered t ht
  have hmono : e'.2 ≤ e.2 :=
    (List.pairwise_append.mp hclock.mono).2.2 e' he' e (List.mem_singleton_self e)
  have hspaced := (hpasses.rotation r hr).spaced (UInt64.lt_of_lt_of_le htpos hle)
  rw [h.config, UInt64.le_iff_toNat_le, toNat_saturatingSub64] at hspaced
  rw [heq, UInt64.le_iff_toNat_le] at hmono
  rw [UInt64.le_iff_toNat_le] at hle
  unfold Apart
  omega

lemma Spaced.step (h : Spaced s es n)
    (hclock : Clocked (es ++ [e])) : Spaced s (es ++ [e]) (step B n e) := by
  have hseen (hne : n.rotationTimes ≠ []) : ∃ e' ∈ es ++ [e],
      e'.2 = n.session.lastRotationTimeMs := by
    obtain ⟨e', he', heq⟩ := h.seen hne
    exact ⟨e', List.mem_append_left [e] he', heq⟩
  rcases step_cases B n e with hsame | ⟨hpasses, hstep⟩
  · rw [hsame]
    exact ⟨h.config, h.apart, h.remembered, hseen⟩
  rw [hstep]
  have hconfig : ((n.session.rotated B e.1 e.2).heard e.1 e.2).config = s.config :=
    config_rotated.trans h.config
  cases hr : e.1.keyRotation with
  | none =>
    have hlast : ((n.session.rotated B e.1 e.2).heard e.1 e.2).lastRotationTimeMs =
        n.session.lastRotationTimeMs := by
      simp only [heard, rotated, hr]
    refine ⟨hconfig, ?_, ?_, ?_⟩
    · rw [rotationTimes_of_none hr]
      exact h.apart
    · rw [rotationTimes_of_none hr, hlast]
      exact h.remembered
    · rw [rotationTimes_of_none hr, hlast]
      exact hseen
  | some r =>
    have hlast : ((n.session.rotated B e.1 e.2).heard e.1 e.2).lastRotationTimeMs = e.2 := by
      simp only [heard, rotated, hr, rotate]
    have hpos : 0 < e.2 := hclock.pos e (by simp)
    have hapart := h.apart_next hclock hpasses hr
    refine ⟨hconfig, ?_, ?_, ?_⟩
    · rw [rotationTimes_of_some hr, List.pairwise_append]
      refine ⟨h.apart, List.pairwise_singleton _ _, fun t ht t' ht' => ?_⟩
      rw [List.mem_singleton.mp ht']
      exact hapart t ht
    · rw [rotationTimes_of_some hr, hlast]
      intro t ht
      rcases List.mem_append.mp ht with ht | ht
      · have hlater := hapart t ht
        unfold Apart at hlater
        refine ⟨UInt64.le_iff_toNat_le.mpr ?_, (h.remembered t ht).2⟩
        omega
      · rw [List.mem_singleton.mp ht]
        exact ⟨UInt64.le_refl _, hpos⟩
    · rw [hlast]
      exact fun _ => ⟨e, by simp, rfl⟩

lemma spaced_after (hclock : Clocked es) :
    Spaced s es (after B s es) := by
  revert hclock
  apply run_induction (P := fun es n => Clocked es → Spaced s es n)
  · intro _
    exact ⟨rfl, List.Pairwise.nil, nofun, fun h => absurd rfl h⟩
  · intro es e ih hclock
    refine (ih ⟨fun e' he' => hclock.pos e' (List.mem_append_left [e] he'), ?_⟩).step hclock
    exact (List.pairwise_append.mp hclock.mono).1

lemma after_of_terminated (hs : s.state = .terminated)
    (es : List (Heartbeat × UInt64)) : after B s es = ⟨s, []⟩ := by
  have hstep : ∀ (n : RawReceiver) e, n = ⟨s, []⟩ → step B n e = ⟨s, []⟩ := by
    rintro n e rfl
    rcases step_cases B ⟨s, []⟩ e with hsame | ⟨hpasses, -⟩
    · exact hsame
    · exact absurd hs hpasses.running
  exact run_invariant hstep rfl es

end RawReceiver

/-- **No replay, and no change on errors.** In every sequence of heartbeats at any times, whatever
the session was before: the numbers of the accepted ones increase; a terminated session accepts none
and stays as it is; under a clock, accepted rotations are at least the minimal interval apart; there
are at most as many as configured; and a heartbeat that is refused changes nothing. -/
theorem heartbeats_safe (B : Blake3Fns) (s : RawSession) (es : List (Heartbeat × UInt64)) :
    (RawReceiver.after B s es).sequences.Pairwise (· < ·) ∧
      (s.state = .terminated → RawReceiver.after B s es = ⟨s, []⟩) ∧
      (RawReceiver.Clocked es →
        (RawReceiver.after B s es).rotationTimes.Pairwise (RawReceiver.Apart s.config)) ∧
      (RawReceiver.after B s es).rotationTimes.length ≤ s.config.maxRotationsPerSession.toNat ∧
      ∀ heartbeat currentTimeMs e,
        ((RawReceiver.after B s es).session.processHeartbeat B heartbeat currentTimeMs).1 =
            .error e →
          ((RawReceiver.after B s es).session.processHeartbeat B heartbeat currentTimeMs).2 =
            (RawReceiver.after B s es).session := by
  have hordered : (RawReceiver.after B s es).Ordered :=
    run_invariant (fun n e h => h.step) ⟨List.Pairwise.nil, nofun⟩ es
  have hpaced : RawReceiver.Paced s (RawReceiver.after B s es) :=
    run_invariant (fun n e h => h.step) ⟨rfl, rfl, Nat.zero_le _⟩ es
  refine ⟨hordered.increasing, fun hs => RawReceiver.after_of_terminated hs es,
    fun hclock => (RawReceiver.spaced_after hclock).apart, hpaced.few, ?_⟩
  intro heartbeat currentTimeMs e herr
  rcases (RawReceiver.after B s es).session.processHeartbeat_cases B heartbeat currentTimeMs with
    ⟨e', he'⟩ | ⟨-, hok⟩
  · rw [he']
  · rw [hok] at herr
    cases herr

def sampleRawSession (config : RawSessionConfig) : RawSession :=
  .new (.replicate 32 1) (.replicate 32 2) (.replicate 32 3) 1000 config

def briskConfig : RawSessionConfig := { RawSessionConfig.default with keyRotationInterval := 2 }

def sampleHeartbeats : List (Heartbeat × UInt64) :=
  match (sampleRawSession briskConfig).createHeartbeat blake3Fns 2000 (.replicate 32 4) with
  | none => []
  | some (first, s) =>
    match s.createHeartbeat blake3Fns 3000 (.replicate 32 5) with
    | none => [(first, 2000)]
    | some (second, _) => [(first, 2000), (second, 3000)]

theorem sample_heartbeats_safe :
    (RawReceiver.after blake3Fns (sampleRawSession briskConfig)
        (sampleHeartbeats ++ sampleHeartbeats)).sequences = [1, 2] ∧
      (RawReceiver.after blake3Fns (sampleRawSession briskConfig)
        sampleHeartbeats).rotationTimes = [3000] ∧
      (RawReceiver.after blake3Fns (sampleRawSession briskConfig)
        sampleHeartbeats).rotationTimes.Pairwise (RawReceiver.Apart briskConfig) := by
  have hclock : RawReceiver.Clocked sampleHeartbeats :=
    ⟨by decide +kernel, by decide +kernel⟩
  refine ⟨by decide +kernel, by decide +kernel, ?_⟩
  exact (heartbeats_safe blake3Fns (sampleRawSession briskConfig) sampleHeartbeats).2.2.1 hclock

/-! ## Two managers -/

structure RawSessionManager where
  sessions : Digest → Option RawSession
  peerSessions : Digest → Option Digest
  localId : Digest
  defaultConfig : RawSessionConfig
  defaultConfig_eq : defaultConfig = .default

/-- What the id of a session is the digest of. -/
def sessionIdMessage (sharedSecret localId peerId : Digest) : List UInt8 :=
  sharedSecret.toList ++ (localId.toList ++ (peerId.toList ++ utf8 "RAW_SESSION_ID"))

/-- What the first key of a session is the digest of. -/
def sessionKeyMessage (sharedSecret sessionId : Digest) : List UInt8 :=
  sharedSecret.toList ++ (sessionId.toList ++ utf8 "RAW_SESSION_KEY")

namespace RawSessionManager

def new (localId : Digest) : RawSessionManager :=
  ⟨fun _ => none, fun _ => none, localId, .default, rfl⟩

variable (B : Blake3Fns)

def newSession (m : RawSessionManager) (peerId sharedSecret : Digest) (currentTimeMs : UInt64) :
    RawSession :=
  let sessionId := B.hash (sessionIdMessage sharedSecret m.localId peerId)
  let initialKey := B.hash (sessionKeyMessage sharedSecret sessionId)
  .new sessionId peerId initialKey currentTimeMs m.defaultConfig

def establishSession (m : RawSessionManager) (peerId sharedSecret : Digest)
    (currentTimeMs : UInt64) : Digest × RawSessionManager :=
  let session := m.newSession B peerId sharedSecret currentTimeMs
  (session.sessionId,
    { m with
      sessions := Function.update m.sessions session.sessionId (some session)
      peerSessions := Function.update m.peerSessions peerId (some session.sessionId) })

def getSessionForPeer (m : RawSessionManager) (peerId : Digest) : Option RawSession :=
  match m.peerSessions peerId with
  | none => none
  | some sid => m.sessions sid

lemma getSessionForPeer_establishSession (m : RawSessionManager) (peerId sharedSecret : Digest)
    (currentTimeMs : UInt64) :
    (m.establishSession B peerId sharedSecret currentTimeMs).2.getSessionForPeer peerId =
      some (m.newSession B peerId sharedSecret currentTimeMs) := by
  simp [establishSession, getSessionForPeer]

end RawSessionManager

open RawSessionManager

/-- The first heartbeat that the one end creates is accepted at the other, whatever the generator
draws, if the clocks are close. -/
def FirstAccepted (B : Blake3Fns) (sender receiver : RawSession) : Prop :=
  ∀ sent received contribution,
    timeDiff sent received ≤ receiver.config.maxClockSkewMs →
      ∃ heartbeat sender' ack receiver',
        sender.createHeartbeat B sent contribution = some (heartbeat, sender') ∧
          receiver.processHeartbeat B heartbeat received = (.ok ack, receiver')

/-- Two nodes establish a session with each other, with one secret and at one time: both have a
session then, these have the same id and the same key, and each end accepts the first heartbeat of
the other. -/
def EndsAgree (B : Blake3Fns) (a b : RawSessionManager) (sharedSecret : Digest)
    (currentTimeMs : UInt64) : Prop :=
  ∃ s t,
    (a.establishSession B b.localId sharedSecret currentTimeMs).2.getSessionForPeer b.localId =
        some s ∧
      (b.establishSession B a.localId sharedSecret currentTimeMs).2.getSessionForPeer a.localId =
        some t ∧
      s.sessionId = t.sessionId ∧ s.sessionKey = t.sessionKey ∧
      FirstAccepted B s t ∧ FirstAccepted B t s

def Collides (f : List UInt8 → Digest) (x y : List UInt8) : Prop := x ≠ y ∧ f x = f y

lemma sessionIdMessage_ne {secret a b : Digest} (hab : a ≠ b) :
    sessionIdMessage secret a b ≠ sessionIdMessage secret b a := by
  intro h
  have hab' := (List.append_inj (List.append_cancel_left h) (by simp)).1
  exact hab (Vector.toList_inj.mp hab')

lemma firstAccepted_new (B : Blake3Fns) (id key peer peer' : Digest) (now : UInt64) :
    FirstAccepted B (.new id peer key now .default) (.new id peer' key now .default) := by
  intro sent received contribution hnear
  have hinterval : RawSessionConfig.default.keyRotationInterval ≠ 0 := by decide
  refine ⟨_, _, _, _, createHeartbeat_eq B hinterval sent contribution,
    processHeartbeat_of_passes ?_⟩
  refine ⟨rfl, nofun, hnear, ?_, ?_, ?_, nofun⟩
  · exact (by decide : (0 : UInt64) < 0 + 1)
  · exact (by decide : (0 : UInt64) + 1 ≤ 0 + 100)
  · simp [hmacValid, RawSession.new, RawSession.counted, currentHeartbeat,
      computeHeartbeatHmacWithKey]

/-- **When the ends of a session agree.** Each manager hashes its own id before the other's, so the
two sessions have one id, and with it one key, exactly if the hash collides on the two orders. -/
theorem ends_agree_iff (B : Blake3Fns) (a b : RawSessionManager) (sharedSecret : Digest)
    (currentTimeMs : UInt64) (hab : a.localId ≠ b.localId) :
    EndsAgree B a b sharedSecret currentTimeMs ↔
      Collides B.hash (sessionIdMessage sharedSecret a.localId b.localId)
        (sessionIdMessage sharedSecret b.localId a.localId) := by
  simp only [EndsAgree, getSessionForPeer_establishSession, Option.some.injEq]
  constructor
  · rintro ⟨_, _, rfl, rfl, hid, -⟩
    exact ⟨sessionIdMessage_ne hab, hid⟩
  · rintro ⟨-, hid⟩
    refine ⟨_, _, rfl, rfl, ?_⟩
    simp only [newSession, hid, a.defaultConfig_eq, b.defaultConfig_eq]
    exact ⟨rfl, rfl, firstAccepted_new B _ _ _ _ _, firstAccepted_new B _ _ _ _ _⟩

def sampleManager (id : UInt8) : RawSessionManager := .new (.replicate 32 id)

theorem sample_ends_disagree :
    (sampleManager 1).localId ≠ (sampleManager 2).localId ∧
      ¬ EndsAgree blake3Fns (sampleManager 1) (sampleManager 2) (.replicate 32 3) 1000 := by
  have hne : (sampleManager 1).localId ≠ (sampleManager 2).localId := by decide +kernel
  refine ⟨hne, ?_⟩
  rw [ends_agree_iff blake3Fns _ _ _ _ hne]
  rintro ⟨-, hcollides⟩
  revert hcollides
  decide +kernel

/-- Nodes 1 and 2 establish a session with each other; the first heartbeat of the one names a
session that the other does not have. -/
theorem first_heartbeat_not_found :
    ∃ s t heartbeat s',
      ((sampleManager 1).establishSession blake3Fns (sampleManager 2).localId (.replicate 32 3)
          1000).2.getSessionForPeer (sampleManager 2).localId = some s ∧
        ((sampleManager 2).establishSession blake3Fns (sampleManager 1).localId (.replicate 32 3)
          1000).2.getSessionForPeer (sampleManager 1).localId = some t ∧
        s.sessionId ≠ t.sessionId ∧
        s.createHeartbeat blake3Fns 2000 (.replicate 32 4) = some (heartbeat, s') ∧
        t.processHeartbeat blake3Fns heartbeat 2000 = (.error .sessionNotFound, t) := by
  simp only [getSessionForPeer_establishSession, Option.some.injEq]
  refine ⟨_, _, _, _, rfl, rfl, ?_, by rfl, ?_⟩
  · decide +kernel
  · rw [processHeartbeat, if_pos]
    decide +kernel

end AxiomCore
