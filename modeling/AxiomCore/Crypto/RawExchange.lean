import AxiomCore.Crypto.RawSession

/-!
# Heartbeats both ways

Two ends with one session id and one key exchange heartbeats and acknowledgements, which arrive in
order and may be under way for as long as the clocks allow.

Source: `axiom-crypto/src/raw_session.rs`.
-/

namespace AxiomCore

open Lib RawSession List Function

/-! ## The exchange -/

/-- Two ends and what is under way between them. -/
@[ext]
structure RawExchange where
  ends : Bool → RawSession
  /-- Heartbeats that an end created, oldest first. -/
  heartbeats : Bool → List Heartbeat
  /-- Acknowledgements for an end, oldest first. -/
  acks : Bool → List HeartbeatAck
  rejected : List RawSessionError

inductive RawExchangeEvent where
  /-- An end creates a heartbeat, where the generator draws the contribution. -/
  | create (side : Bool) (now : UInt64) (contribution : Digest)
  /-- The oldest heartbeat of an end reaches the other end. -/
  | deliver (side : Bool) (now : UInt64)
  /-- The oldest acknowledgement for an end reaches it. -/
  | acknowledge (side : Bool)

namespace RawExchange

def start (sessionId initialKey : Digest) (peerId : Bool → Digest) (now : Bool → UInt64) :
    RawExchange where
  ends b := .new sessionId (peerId b) initialKey (now b) .default
  heartbeats _ := []
  acks _ := []
  rejected := []

variable (B : Blake3Fns)

/-- An event. The process of an end that would divide by zero takes no step. -/
def step (x : RawExchange) : RawExchangeEvent → RawExchange
  | .create side now contribution =>
    match (x.ends side).createHeartbeat B now contribution with
    | none => x
    | some (heartbeat, s) =>
      { x with
        ends := update x.ends side s
        heartbeats := update x.heartbeats side (x.heartbeats side ++ [heartbeat]) }
  | .deliver side now =>
    match x.heartbeats side with
    | [] => x
    | heartbeat :: rest =>
      match (x.ends !side).processHeartbeat B heartbeat now with
      | (.error e, s) =>
        { x with
          ends := update x.ends (!side) s
          heartbeats := update x.heartbeats side rest
          rejected := x.rejected ++ [e] }
      | (.ok ack, s) =>
        { x with
          ends := update x.ends (!side) s
          heartbeats := update x.heartbeats side rest
          acks := update x.acks side (x.acks side ++ [ack]) }
  | .acknowledge side =>
    match x.acks side with
    | [] => x
    | ack :: rest =>
      match (x.ends side).processAck B ack with
      | .error e =>
        { x with
          acks := update x.acks side rest
          rejected := x.rejected ++ [e] }
      | .ok () => { x with acks := update x.acks side rest }

/-- Heartbeats are created one per interval and arrive while the clocks are close. -/
def Punctual (x : RawExchange) : RawExchangeEvent → Prop
  | .create side now _ =>
    (x.ends side).lastHeartbeatSentMs.toNat + (x.ends side).config.heartbeatIntervalMs.toNat ≤
      now.toNat
  | .deliver side now =>
    ∀ heartbeat ∈ (x.heartbeats side).head?,
      timeDiff heartbeat.timestampMs now ≤ (x.ends !side).config.maxClockSkewMs
  | .acknowledge _ => True

def Unrotated (x : RawExchange) : RawExchangeEvent → Prop
  | .deliver side _ => ∀ heartbeat ∈ (x.heartbeats side).head?, heartbeat.keyRotation = none
  | _ => True

/-! ## Both ends in step -/

structure Keyed (id key : Digest) (s : RawSession) : Prop where
  sessionId : s.sessionId = id
  sessionKey : s.sessionKey = key
  config : s.config = .default
  running : s.state ≠ .terminated
  early : s.peerSequence.toNat < 60

/-- A heartbeat of this session. -/
structure Tagged (id key : Digest) (heartbeat : Heartbeat) : Prop where
  sessionId : heartbeat.sessionId = id
  hmac : heartbeat.hmac =
    B.keyedHash key (heartbeatMessage id heartbeat.sequence heartbeat.timestampMs)
  /-- It brings a rotation if its number says so. -/
  rotation : heartbeat.keyRotation = none → heartbeat.sequence % 60 ≠ 0

/-- What is under way continues the numbers of the receiver up to those of the sender. -/
def Waiting (id key : Digest) : UInt64 → List Heartbeat → UInt64 → Prop
  | received, [], sent => received = sent
  | received, heartbeat :: rest, sent =>
    Tagged B id key heartbeat ∧ heartbeat.sequence = received + 1 ∧
      Waiting id key (received + 1) rest sent

/-- Both ends have the key, and what is under way fits. -/
structure InStep (id key : Digest) (x : RawExchange) : Prop where
  ends : ∀ b, Keyed id key (x.ends b)
  waiting : ∀ b, Waiting B id key (x.ends !b).peerSequence (x.heartbeats b) (x.ends b).sequence
  acks : ∀ b, ∀ ack ∈ x.acks b,
    ack.sessionId = id ∧ ack.hmac = B.keyedHash key (ackMessage id ack.ackSequence)
  accepted : x.rejected = []

variable {B} {id key : Digest}

variable {heartbeat : Heartbeat} {s : RawSession} {ends : Bool → RawSession} {side : Bool}
  {x : RawExchange}

lemma Waiting.concat {hs : List Heartbeat} {received sent : UInt64}
    (h : Waiting B id key received hs sent) (htagged : Tagged B id key heartbeat)
    (hnext : heartbeat.sequence = sent + 1) :
    Waiting B id key received (hs ++ [heartbeat]) (sent + 1) := by
  induction hs generalizing received with
  | nil =>
    have hempty : received = sent := h
    subst hempty
    exact ⟨htagged, hnext, rfl⟩
  | cons first rest ih => exact ⟨h.1, h.2.1, ih h.2.2⟩

lemma inStep_start (id key : Digest) (peerId : Bool → Digest) (now : Bool → UInt64) :
    InStep B id key (start id key peerId now) :=
  ⟨fun _ => ⟨rfl, rfl, rfl, nofun, Nat.zero_lt_succ _⟩, fun _ => rfl, nofun, rfl⟩

lemma createHeartbeat_keyed (h : Keyed id key s) (now : UInt64)
    (contribution : Digest) :
    ∃ heartbeat s',
      s.createHeartbeat B now contribution = some (heartbeat, s') ∧
        Tagged B id key heartbeat ∧ heartbeat.sequence = s.sequence + 1 ∧
        Keyed id key s' ∧ s'.sequence = s.sequence + 1 ∧ s'.peerSequence = s.peerSequence := by
  have hinterval : s.config.keyRotationInterval ≠ 0 := by
    rw [h.config]
    decide
  have hsixty : (s.counted now).config.keyRotationInterval.toUInt64 = 60 := by
    rw [RawSession.counted, h.config]
    rfl
  refine ⟨_, _, createHeartbeat_eq B hinterval now contribution,
    ⟨h.sessionId, ?_, ?_⟩, rfl, ⟨h.1, h.2, h.3, h.4, h.5⟩, rfl, rfl⟩
  · simp only [currentHeartbeat, RawSession.counted,
      computeHeartbeatHmacWithKey, h.sessionId, h.sessionKey]
  · intro hnone hmultiple
    simp only [currentHeartbeat, hsixty] at hnone hmultiple
    rw [if_pos hmultiple] at hnone
    cases hnone

lemma passes_of_tagged {now : UInt64}
    (h : Keyed id key s) (htagged : Tagged B id key heartbeat)
    (hnext : heartbeat.sequence = s.peerSequence + 1) (hrotation : heartbeat.keyRotation = none)
    (hnear : timeDiff heartbeat.timestampMs now ≤ s.config.maxClockSkewMs) :
    s.Passes B heartbeat now ∧ heartbeat.sequence.toNat < 60 := by
  have hearly := h.early
  have hsucc : heartbeat.sequence.toNat = s.peerSequence.toNat + 1 := by
    rw [hnext, UInt64.toNat_add, UInt64.toNat_one]
    omega
  have hlt : heartbeat.sequence.toNat < 60 := by
    -- The only multiple of sixty up to sixty that is not zero brings a rotation.
    by_contra hge
    apply htagged.rotation hrotation
    apply UInt64.toNat_inj.mp
    have hsixty : heartbeat.sequence.toNat = 60 := by omega
    rw [UInt64.toNat_mod, hsixty]
    rfl
  refine ⟨⟨htagged.sessionId.trans h.sessionId.symm, h.running, hnear, ?_, ?_, ?_, ?_⟩, hlt⟩
  · rw [UInt64.lt_iff_toNat_lt]
    omega
  · rw [h.config, UInt64.le_iff_toNat_le, UInt64.toNat_add]
    have hwindow : RawSessionConfig.default.sequenceWindow.toNat = 100 := rfl
    omega
  · simp [hmacValid, computeHeartbeatHmacWithKey, h.sessionKey, h.sessionId,
      htagged.hmac]
  · intro r hr
    rw [hrotation] at hr
    cases hr

lemma processAck_keyed {ack : HeartbeatAck} (h : Keyed id key s)
    (hid : ack.sessionId = id)
    (hmac : ack.hmac = B.keyedHash key (ackMessage id ack.ackSequence)) :
    s.processAck B ack = .ok () := by
  simp [RawSession.processAck, hid, hmac, h.sessionId, h.sessionKey,
    computeAckHmacWithKey]

lemma field_update
    (f : RawSession → UInt64) (hs : f s = f (ends side)) (b : Bool) :
    f (update ends side s b) = f (ends b) := by
  by_cases hb : b = side
  · rw [hb, update_self, hs]
  · rw [update_of_ne hb]

lemma keyed_update
    (h : ∀ b, Keyed id key (ends b)) (hs : Keyed id key s) (b : Bool) :
    Keyed id key (update ends side s b) := by
  by_cases hb : b = side
  · rw [hb, update_self]
    exact hs
  · rw [update_of_ne hb]
    exact h b

lemma InStep.create (h : InStep B id key x) (side : Bool) (now : UInt64)
    (contribution : Digest) : InStep B id key (step B x (.create side now contribution)) := by
  obtain ⟨heartbeat, s', hcreate, htagged, hnext, hkeyed, hsequence, hpeer⟩ :=
    createHeartbeat_keyed (B := B) (h.ends side) now contribution
  simp only [step, hcreate]
  refine ⟨keyed_update h.ends hkeyed, fun b => ?_, h.acks, h.accepted⟩
  have hreceived := field_update (·.peerSequence) hpeer (!b)
  dsimp only at hreceived ⊢
  rw [hreceived]
  by_cases hb : b = side
  · subst hb
    rw [update_self, update_self, hsequence]
    exact (h.waiting b).concat htagged hnext
  · rw [update_of_ne hb, update_of_ne hb]
    exact h.waiting b

lemma InStep.deliver (h : InStep B id key x) (side : Bool) (now : UInt64)
    (hpunctual : Punctual x (.deliver side now)) (hunrotated : Unrotated x (.deliver side now)) :
    InStep B id key (step B x (.deliver side now)) := by
  cases hqueue : x.heartbeats side with
  | nil =>
    simp only [step, hqueue]
    exact h
  | cons heartbeat rest =>
    have hwaiting := h.waiting side
    rw [hqueue] at hwaiting
    obtain ⟨htagged, hnext, hrest⟩ := hwaiting
    have hrotation : heartbeat.keyRotation = none := hunrotated heartbeat (by simp [hqueue])
    have hnear := hpunctual heartbeat (by simp [hqueue])
    have hs := h.ends !side
    obtain ⟨hpasses, hlt⟩ := passes_of_tagged hs htagged hnext hrotation hnear
    have hsame : (x.ends !side).rotated B heartbeat now = x.ends !side := by
      simp only [rotated, hrotation]
    have hprocess := processHeartbeat_of_passes hpasses
    rw [hsame] at hprocess
    simp only [step, hqueue, hprocess]
    refine ⟨keyed_update h.ends ?_, fun b => ?_, fun b ack hack => ?_, h.accepted⟩
    · exact ⟨hs.1, hs.2, hs.3, by simp [heard], hlt⟩
    · have hheard : ((x.ends !side).heard heartbeat now).sequence = (x.ends !side).sequence := rfl
      have hsent := field_update (·.sequence) hheard b
      dsimp only at hsent ⊢
      rw [hsent]
      by_cases hb : b = side
      · subst hb
        rw [update_self, update_self, heard, hnext]
        exact hrest
      have hother : (!b) ≠ !side := fun heq => hb (Bool.not_inj heq)
      rw [update_of_ne hother, update_of_ne hb]
      exact h.waiting b
    · dsimp only at hack
      by_cases hb : b = side
      · subst hb
        rw [update_self] at hack
        rcases mem_append.mp hack with hold | hnew
        · exact h.acks b ack hold
        rw [mem_singleton.mp hnew]
        refine ⟨hs.sessionId, ?_⟩
        simp only [RawSession.createAck, computeAckHmacWithKey, heard,
          hs.sessionId, hs.sessionKey]
      · rw [update_of_ne hb] at hack
        exact h.acks b ack hack

lemma InStep.acknowledge (h : InStep B id key x) (side : Bool) :
    InStep B id key (step B x (.acknowledge side)) := by
  cases hqueue : x.acks side with
  | nil =>
    simp only [step, hqueue]
    exact h
  | cons ack rest =>
    obtain ⟨hid, hmac⟩ := h.acks side ack (by simp [hqueue])
    simp only [step, hqueue, processAck_keyed (h.ends side) hid hmac]
    refine ⟨h.ends, h.waiting, fun b ack' hack' => ?_, h.accepted⟩
    apply h.acks b ack'
    dsimp only at hack'
    by_cases hb : b = side
    · subst hb
      rw [update_self] at hack'
      rw [hqueue]
      exact mem_cons_of_mem ack hack'
    · rw [update_of_ne hb] at hack'
      exact hack'

lemma InStep.step (h : InStep B id key x) (e : RawExchangeEvent)
    (hpunctual : Punctual x e) (hunrotated : Unrotated x e) :
    InStep B id key (step B x e) := by
  cases e with
  | create side now contribution => exact h.create side now contribution
  | deliver side now => exact h.deliver side now hpunctual hunrotated
  | acknowledge side => exact h.acknowledge side

end RawExchange

/-- **Everything is accepted until a rotation arrives.** In every exchange between two new ends with
one id and one key, in which heartbeats are created one per interval, and arrive in order and while
the clocks are close, and none of those that arrive brings a rotation: every heartbeat is accepted
and every acknowledgement passes. -/
theorem exchange_accepted (B : Blake3Fns) (sessionId initialKey : Digest) (peerId : Bool → Digest)
    (now : Bool → UInt64) (es : List RawExchangeEvent)
    (hes : Guarded (RawExchange.step B) (fun x e => x.Punctual e ∧ x.Unrotated e)
      (RawExchange.start sessionId initialKey peerId now) es) :
    (run (RawExchange.step B) (RawExchange.start sessionId initialKey peerId now) es).rejected =
      [] := by
  have hstep : ∀ x e, RawExchange.InStep B sessionId initialKey x →
      (x.Punctual e ∧ x.Unrotated e) →
        RawExchange.InStep B sessionId initialKey (RawExchange.step B x e) :=
    fun x e h he => h.step e he.1 he.2
  exact (run_invariant_of_guarded hstep
    (RawExchange.inStep_start sessionId initialKey peerId now) hes).accepted

/-! ## The sixtieth heartbeat -/

def roundTime (n : ℕ) : UInt64 := UInt64.ofNat (1000 * n)

/-- One end creates a heartbeat, which arrives at once, and so does its acknowledgement. -/
def heartbeatRound (n : ℕ) : List RawExchangeEvent :=
  [.create false (roundTime n) (.replicate 32 4), .deliver false (roundTime n), .acknowledge false]

def heartbeatRounds : ℕ → List RawExchangeEvent
  | 0 => []
  | n + 1 => heartbeatRounds n ++ heartbeatRound (n + 1)

def rawEnd : RawSession := .new (.replicate 32 1) (.replicate 32 2) (.replicate 32 3) 0 .default

def rawSenderAt (n : ℕ) : RawSession :=
  { rawEnd with sequence := UInt64.ofNat n, lastHeartbeatSentMs := roundTime n }

def rawReceiverAt (n : ℕ) : RawSession :=
  { rawEnd with peerSequence := UInt64.ofNat n, lastHeartbeatReceivedMs := roundTime n }

def rawExchangeAt (n : ℕ) : RawExchange where
  ends b := if b then rawReceiverAt n else rawSenderAt n
  heartbeats _ := []
  acks _ := []
  rejected := []

def rawHeartbeatAt (B : Blake3Fns) (n : ℕ) : Heartbeat :=
  (rawSenderAt n).currentHeartbeat B (roundTime n) (.replicate 32 4)

namespace RawExchange

variable (B : Blake3Fns)

lemma counted_rawSenderAt (n : ℕ) :
    (rawSenderAt n).counted (roundTime (n + 1)) = rawSenderAt (n + 1) := by
  simp [RawSession.counted, rawSenderAt]

lemma create_rawExchangeAt (n : ℕ) :
    step B (rawExchangeAt n) (.create false (roundTime (n + 1)) (.replicate 32 4)) =
      { rawExchangeAt n with
        ends := update (rawExchangeAt n).ends false (rawSenderAt (n + 1))
        heartbeats := update (rawExchangeAt n).heartbeats false
          [rawHeartbeatAt B (n + 1)] } := by
  have hinterval : rawEnd.config.keyRotationInterval ≠ 0 := by decide
  have hcreate := createHeartbeat_eq B (s := rawSenderAt n) hinterval
    (roundTime (n + 1)) (.replicate 32 4)
  rw [counted_rawSenderAt] at hcreate
  have hend : (rawExchangeAt n).ends false = rawSenderAt n := rfl
  simp only [step, hend, hcreate]
  rfl

lemma timeDiff_self (t : UInt64) : timeDiff t t = 0 := by
  simp [timeDiff]

variable {n : ℕ}

lemma punctual_heartbeatRound (hn : n < 60) :
    Guarded (step B) Punctual (rawExchangeAt n) (heartbeatRound (n + 1)) := by
  refine ⟨?_, ?_, trivial, trivial⟩
  · have hsent : (roundTime n).toNat = 1000 * n := by
      rw [roundTime, UInt64.toNat_ofNat']
      omega
    have hnow : (roundTime (n + 1)).toNat = 1000 * (n + 1) := by
      rw [roundTime, UInt64.toNat_ofNat']
      omega
    have hinterval : RawSessionConfig.default.heartbeatIntervalMs.toNat = 1000 := rfl
    change (roundTime n).toNat + RawSessionConfig.default.heartbeatIntervalMs.toNat ≤ _
    omega
  · rw [create_rawExchangeAt]
    intro heartbeat hhead
    simp only [update_self, head?_cons, Option.mem_some_iff] at hhead
    subst hhead
    change timeDiff (roundTime (n + 1)) (roundTime (n + 1)) ≤ _
    rw [timeDiff_self]
    exact UInt64.zero_le

lemma rawHeartbeatAt_passes (hn : n + 1 < 60) :
    (rawHeartbeatAt B (n + 1)).keyRotation = none ∧
      (rawReceiverAt n).Passes B (rawHeartbeatAt B (n + 1)) (roundTime (n + 1)) := by
  have hsequence (m : ℕ) (hm : m < 60) : (UInt64.ofNat m).toNat = m := by
    rw [UInt64.toNat_ofNat']
    omega
  have hrotation : (rawHeartbeatAt B (n + 1)).keyRotation = none := by
    apply if_neg
    intro hmultiple
    have hmod := congrArg UInt64.toNat hmultiple
    have hsixty : rawEnd.config.keyRotationInterval.toUInt64.toNat = 60 := rfl
    simp only [rawSenderAt, UInt64.toNat_mod, hsequence (n + 1) hn, hsixty,
      UInt64.toNat_zero] at hmod
    omega
  refine ⟨hrotation, rfl, nofun, ?_, ?_, ?_, ?_, ?_⟩
  · change timeDiff (roundTime (n + 1)) (roundTime (n + 1)) ≤ _
    rw [timeDiff_self]
    exact UInt64.zero_le
  · change UInt64.ofNat n < UInt64.ofNat (n + 1)
    rw [UInt64.lt_iff_toNat_lt, hsequence n (by omega), hsequence (n + 1) hn]
    omega
  · change UInt64.ofNat (n + 1) ≤ UInt64.ofNat n + 100
    rw [UInt64.le_iff_toNat_le, UInt64.toNat_add, hsequence n (by omega), hsequence (n + 1) hn]
    have hwindow : (100 : UInt64).toNat = 100 := rfl
    omega
  · have htag : (rawHeartbeatAt B (n + 1)).hmac =
        (rawReceiverAt n).computeHeartbeatHmacWithKey B (rawReceiverAt n).sessionKey
          (rawHeartbeatAt B (n + 1)).sequence (rawHeartbeatAt B (n + 1)).timestampMs := rfl
    simp [hmacValid, htag]
  · intro r hr
    rw [hrotation] at hr
    cases hr

lemma run_heartbeatRound (hn : n + 1 < 60) :
    run (step B) (rawExchangeAt n) (heartbeatRound (n + 1)) = rawExchangeAt (n + 1) := by
  obtain ⟨hrotation, hpasses⟩ := rawHeartbeatAt_passes B hn
  have hprocess := processHeartbeat_of_passes hpasses
  have hheard : ((rawReceiverAt n).rotated B (rawHeartbeatAt B (n + 1))
      (roundTime (n + 1))).heard (rawHeartbeatAt B (n + 1)) (roundTime (n + 1)) =
        rawReceiverAt (n + 1) := by
    simp only [rotated, hrotation]
    rfl
  have hend : (update (rawExchangeAt n).ends false (rawSenderAt (n + 1)) true) =
      rawReceiverAt n := rfl
  rw [hheard] at hprocess
  have hack : (rawSenderAt (n + 1)).processAck B
      ((rawReceiverAt (n + 1)).createAck B (rawHeartbeatAt B (n + 1)).sequence) = .ok () := by
    have hkeyed : Keyed rawEnd.sessionId rawEnd.sessionKey (rawSenderAt (n + 1)) :=
      ⟨rfl, rfl, rfl, by simp [rawSenderAt, rawEnd, new], Nat.zero_lt_succ _⟩
    exact processAck_keyed hkeyed rfl rfl
  simp only [heartbeatRound, run_cons, run_nil, create_rawExchangeAt]
  simp only [step, update_self, Bool.not_false, hend, hprocess]
  simp only [update_of_ne Bool.false_ne_true, update_self, rawExchangeAt,
    nil_append, hack, update_idem]
  apply RawExchange.ext
  · funext b
    cases b <;> simp
  · funext b
    cases b <;> simp
  · funext b
    cases b <;> simp
  · rfl

lemma run_heartbeatRounds (hn : n < 60) :
    run (step B) (rawExchangeAt 0) (heartbeatRounds n) = rawExchangeAt n := by
  induction n with
  | zero => rfl
  | succ n ih => rw [heartbeatRounds, run_append, ih (by omega), run_heartbeatRound B hn]

lemma punctual_heartbeatRounds (hn : n ≤ 60) :
    Guarded (step B) Punctual (rawExchangeAt 0) (heartbeatRounds n) := by
  induction n with
  | zero => exact trivial
  | succ n ih =>
    rw [heartbeatRounds, guarded_append, run_heartbeatRounds B (by omega)]
    exact ⟨ih (by omega), punctual_heartbeatRound B (by omega)⟩

end RawExchange

def newRawExchange : RawExchange :=
  .start (.replicate 32 1) (.replicate 32 3) (fun _ => .replicate 32 2) fun _ => 0

lemma newRawExchange_eq : newRawExchange = rawExchangeAt 0 := by
  apply RawExchange.ext
  · funext b
    cases b <;> rfl
  · rfl
  · rfl
  · rfl

/-- **The sixtieth acknowledgement is refused.** One end sends a heartbeat per second, each arrives
at once and so does its acknowledgement. The sixtieth brings a rotation; its receiver acknowledges
it under the new key, which the sender does not have. -/
theorem sixtieth_ack_rejected :
    Guarded (RawExchange.step blake3Fns) RawExchange.Punctual newRawExchange (heartbeatRounds 60) ∧
      (run (RawExchange.step blake3Fns) newRawExchange (heartbeatRounds 60)).rejected =
        [.invalidHmac] := by
  rw [newRawExchange_eq]
  refine ⟨RawExchange.punctual_heartbeatRounds blake3Fns (by decide), ?_⟩
  rw [heartbeatRounds, run_append, RawExchange.run_heartbeatRounds blake3Fns (by decide)]
  decide +kernel

def bothWays : List RawExchangeEvent :=
  [.create false 1000 (.replicate 32 4), .create true 1000 (.replicate 32 4), .deliver false 1200,
    .deliver true 1200, .acknowledge false, .acknowledge true]

instance decidablePunctual (x : RawExchange) :
    (e : RawExchangeEvent) → Decidable (x.Punctual e)
  | .create _ _ _ => inferInstanceAs (Decidable (_ ≤ _))
  | .deliver side now =>
    inferInstanceAs (Decidable (∀ heartbeat ∈ (x.heartbeats side).head?,
      timeDiff heartbeat.timestampMs now ≤ (x.ends !side).config.maxClockSkewMs))
  | .acknowledge _ => .isTrue trivial

instance decidableUnrotated (x : RawExchange) :
    (e : RawExchangeEvent) → Decidable (x.Unrotated e)
  | .create _ _ _ => .isTrue trivial
  | .deliver side _ =>
    inferInstanceAs (Decidable (∀ heartbeat ∈ (x.heartbeats side).head?,
      heartbeat.keyRotation = none))
  | .acknowledge _ => .isTrue trivial

theorem both_ways_accepted :
    (run (RawExchange.step blake3Fns) newRawExchange bothWays).acks = (fun _ => []) ∧
      (run (RawExchange.step blake3Fns) newRawExchange bothWays).rejected = [] := by
  have hguarded : Guarded (RawExchange.step blake3Fns) (fun x e => x.Punctual e ∧ x.Unrotated e)
      newRawExchange bothWays := by
    decide +kernel
  rw [newRawExchange] at hguarded ⊢
  exact ⟨by decide +kernel, exchange_accepted blake3Fns _ _ _ _ bothWays hguarded⟩

end AxiomCore
