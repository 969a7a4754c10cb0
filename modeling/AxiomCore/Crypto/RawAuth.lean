import AxiomCore.Crypto.RawSession

/-!
# Who made an accepted heartbeat

Two ends of a session, and an attacker who may bring either of them any heartbeat whatever. That the
keyed hash cannot be forged is an assumption on runs (`Unforged`): a tag that verifies under a key
of the receiver was computed by one of the ends before, under that key and on that text.

- The three uses of a key have texts of different lengths, and the text of a heartbeat determines
  its session, number and time (`heartbeatMessage_inj`).

Source: `axiom-crypto/src/raw_session.rs`.
-/

namespace AxiomCore

open Lib RawSession List Function

/-! ## Texts -/

lemma heartbeatMessage_inj {id : Digest} {n n' t t' : UInt64}
    (h : heartbeatMessage id n t = heartbeatMessage id n' t') : n = n' ∧ t = t' := by
  have htail := append_cancel_left h
  obtain ⟨hn, ht⟩ := append_inj htail (by simp)
  exact ⟨toLeBytes_inj hn, toLeBytes_inj ht⟩

lemma length_heartbeatMessage (id : Digest) (n t : UInt64) :
    (heartbeatMessage id n t).length = 48 := by
  simp [heartbeatMessage]

lemma length_ackMessage (id : Digest) (n : UInt64) : (ackMessage id n).length = 43 := by
  have htag : (utf8 "ACK").length = 3 := by decide +kernel
  simp [ackMessage, htag]

/-! ## Two ends and an attacker -/

/-- Two ends of a session, with what happened. -/
structure RawNetwork where
  ends : Bool → RawSession
  created : List (Bool × Heartbeat)
  /-- The keys and texts that the ends computed tags for. -/
  macs : List (Digest × List UInt8)
  accepted : List (Bool × Heartbeat)

inductive RawNetworkEvent where
  | create (side : Bool) (now : UInt64) (contribution : Digest)
  /-- The attacker brings an end a heartbeat. -/
  | deliver (side : Bool) (heartbeat : Heartbeat) (now : UInt64)

namespace RawNetwork

def start (sessionId initialKey : Digest) (peerId : Bool → Digest) (now : Bool → UInt64)
    (config : Bool → RawSessionConfig) : RawNetwork where
  ends b := .new sessionId (peerId b) initialKey (now b) (config b)
  created := []
  macs := []
  accepted := []

/-- What a key is used for when a heartbeat is created. -/
def heartbeatMacs (key : Digest) (heartbeat : Heartbeat) : List (Digest × List UInt8) :=
  (key, heartbeatMessage heartbeat.sessionId heartbeat.sequence heartbeat.timestampMs) ::
    match heartbeat.keyRotation with
    | none => []
    | some rotation => [(key, rotation.keyContribution.toList)]

variable (B : Blake3Fns)

def step (x : RawNetwork) : RawNetworkEvent → RawNetwork
  | .create side now contribution =>
    match (x.ends side).createHeartbeat B now contribution with
    | none => x
    | some (heartbeat, s) =>
      { x with
        ends := update x.ends side s
        created := x.created ++ [(side, heartbeat)]
        macs := x.macs ++ heartbeatMacs s.sessionKey heartbeat }
  | .deliver side heartbeat now =>
    match (x.ends side).processHeartbeat B heartbeat now with
    | (.error _, s) => { x with ends := update x.ends side s }
    | (.ok ack, s) =>
      { x with
        ends := update x.ends side s
        macs := x.macs ++ [(s.sessionKey, ackMessage ack.sessionId ack.ackSequence)]
        accepted := x.accepted ++ [(side, heartbeat)] }

/-- The keys under which an end accepts a heartbeat. -/
def keys (s : RawSession) : List Digest := s.sessionKey :: s.prevSessionKey.toList

/-- The keyed hash is not forged: a tag that verifies under a key of the receiver was computed by
one of the ends, with that key and on that text. -/
def Unforged (x : RawNetwork) : RawNetworkEvent → Prop
  | .create _ _ _ => True
  | .deliver side heartbeat _ =>
    (∀ key ∈ keys (x.ends side),
      heartbeat.hmac = (x.ends side).computeHeartbeatHmacWithKey B key heartbeat.sequence
          heartbeat.timestampMs →
        (key, heartbeatMessage (x.ends side).sessionId heartbeat.sequence
          heartbeat.timestampMs) ∈ x.macs) ∧
    ∀ rotation ∈ heartbeat.keyRotation,
      rotation.contributionHmac = (x.ends side).hmac B rotation.keyContribution.toList →
        ((x.ends side).sessionKey, rotation.keyContribution.toList) ∈ x.macs

/-! ## What the ends computed -/

def RotationCreated (x : RawNetwork) (rotation : KeyRotation) : Prop :=
  ∃ p ∈ x.created, p.2.keyRotation = some rotation

/-- What a tag was computed for: a heartbeat, an acknowledgement or a rotation. -/
inductive Recorded (id : Digest) (x : RawNetwork) (key : Digest) : List UInt8 → Prop where
  | heartbeat (p : Bool × Heartbeat) (hp : p ∈ x.created) (hid : p.2.sessionId = id)
      (hmac : p.2.hmac = B.keyedHash key (heartbeatMessage id p.2.sequence p.2.timestampMs)) :
      Recorded id x key (heartbeatMessage id p.2.sequence p.2.timestampMs)
  | ack (n : UInt64) : Recorded id x key (ackMessage id n)
  | rotation (r : KeyRotation) (hr : x.RotationCreated r)
      (hmac : r.contributionHmac = B.keyedHash key r.keyContribution.toList) :
      Recorded id x key r.keyContribution.toList

/-- A heartbeat agrees with one that an end created, in all that its tag covers. -/
structure Agrees (heartbeat created : Heartbeat) : Prop where
  sessionId : heartbeat.sessionId = created.sessionId
  sequence : heartbeat.sequence = created.sequence
  timestampMs : heartbeat.timestampMs = created.timestampMs
  hmac : heartbeat.hmac = created.hmac

/-- One of the ends created what the heartbeat says and the rotation that it brings. -/
structure Authentic (x : RawNetwork) (heartbeat : Heartbeat) : Prop where
  said : ∃ p ∈ x.created, Agrees heartbeat p.2
  brought : ∀ rotation ∈ heartbeat.keyRotation, x.RotationCreated rotation

/-- The ends have this session; what they computed is recorded; what they accepted is authentic. -/
structure Sound (id : Digest) (x : RawNetwork) : Prop where
  session : ∀ b, (x.ends b).sessionId = id
  recorded : ∀ p ∈ x.macs, Recorded B id x p.1 p.2
  authentic : ∀ p ∈ x.accepted, x.Authentic p.2

variable {B} {id key : Digest} {x y : RawNetwork} {heartbeat : Heartbeat}

variable {r : KeyRotation} {message : List UInt8} {s : RawSession} {side : Bool}

lemma RotationCreated.mono (h : x.RotationCreated r)
    (hxy : x.created ⊆ y.created) : y.RotationCreated r := by
  obtain ⟨p, hp, hr⟩ := h
  exact ⟨p, hxy hp, hr⟩

lemma Recorded.mono (h : Recorded B id x key message)
    (hxy : x.created ⊆ y.created) : Recorded B id y key message := by
  cases h with
  | heartbeat p hp hid hmac => exact .heartbeat p (hxy hp) hid hmac
  | ack n => exact .ack n
  | rotation r hr hmac => exact .rotation r (hr.mono hxy) hmac

lemma Authentic.mono (h : x.Authentic heartbeat) (hxy : x.created ⊆ y.created) :
    y.Authentic heartbeat := by
  obtain ⟨p, hp, hagrees⟩ := h.said
  exact ⟨⟨p, hxy hp, hagrees⟩, fun r hr => (h.brought r hr).mono hxy⟩

lemma Recorded.of_heartbeatMessage {n t : UInt64}
    (h : Recorded B id x key message) (hm : message = heartbeatMessage id n t) :
    ∃ p ∈ x.created, p.2.sessionId = id ∧ p.2.sequence = n ∧ p.2.timestampMs = t ∧
      p.2.hmac = B.keyedHash key (heartbeatMessage id n t) := by
  have hlength := congrArg List.length hm
  rw [length_heartbeatMessage] at hlength
  cases h with
  | heartbeat p hp hid hmac =>
    obtain ⟨rfl, rfl⟩ := heartbeatMessage_inj hm
    exact ⟨p, hp, hid, rfl, rfl, hmac⟩
  | ack m =>
    rw [length_ackMessage] at hlength
    exact absurd hlength (by decide)
  | rotation r hr hmac =>
    rw [Vector.length_toList] at hlength
    exact absurd hlength (by decide)

lemma Recorded.of_contribution
    (h : Recorded B id x key message) (hm : message = r.keyContribution.toList)
    (hmac : r.contributionHmac = B.keyedHash key r.keyContribution.toList) :
    x.RotationCreated r := by
  have hlength := congrArg List.length hm
  rw [Vector.length_toList] at hlength
  cases h with
  | heartbeat p hp hid hmac =>
    rw [length_heartbeatMessage] at hlength
    exact absurd hlength (by decide)
  | ack m =>
    rw [length_ackMessage] at hlength
    exact absurd hlength (by decide)
  | rotation r' hr' hmac' =>
    have hcontribution : r'.keyContribution = r.keyContribution := Vector.toList_inj.mp hm
    have heq : r' = r := by
      cases r
      cases r'
      simp_all
    exact heq ▸ hr'

lemma exists_key_of_hmacValid (h : s.hmacValid B heartbeat) :
    ∃ key ∈ keys s, heartbeat.hmac =
      s.computeHeartbeatHmacWithKey B key heartbeat.sequence heartbeat.timestampMs := by
  unfold hmacValid at h
  rw [Bool.or_eq_true] at h
  rcases h with hcurrent | hprev
  · exact ⟨s.sessionKey, mem_cons_self, of_decide_eq_true hcurrent⟩
  cases hkey : s.prevSessionKey with
  | none =>
    rw [hkey] at hprev
    cases hprev
  | some prevKey =>
    rw [hkey] at hprev
    exact ⟨prevKey, by simp [keys, hkey], of_decide_eq_true hprev⟩

lemma Sound.authentic_of_passes (h : Sound B id x) {now : UInt64}
    (hpasses : (x.ends side).Passes B heartbeat now)
    (hunforged : Unforged B x (.deliver side heartbeat now)) : x.Authentic heartbeat := by
  have hid := h.session side
  constructor
  · obtain ⟨key, hkey, hmac⟩ := exists_key_of_hmacValid hpasses.tag
    have hmem := hunforged.1 key hkey hmac
    obtain ⟨p, hp, hpid, hsequence, htimestamp, hphmac⟩ :=
      (h.recorded _ hmem).of_heartbeatMessage (by rw [hid])
    refine ⟨p, hp, ?_, hsequence.symm, htimestamp.symm, ?_⟩
    · rw [hpid, ← hid]
      exact hpasses.id
    · rw [hphmac, hmac, computeHeartbeatHmacWithKey, hid]
  · intro r hr
    have htag := (hpasses.rotation r hr).tag
    exact (h.recorded _ (hunforged.2 r hr htag)).of_contribution rfl htag

lemma sessionId_update {ends : Bool → RawSession}
    (h : ∀ b, (ends b).sessionId = id) (hs : s.sessionId = (ends side).sessionId) (b : Bool) :
    (update ends side s b).sessionId = id := by
  by_cases hb : b = side
  · rw [hb, update_self, hs, h]
  · rw [update_of_ne hb, h]

lemma Sound.create (h : Sound B id x) (side : Bool) (now : UInt64) (contribution : Digest) :
    Sound B id (step B x (.create side now contribution)) := by
  by_cases hinterval : (x.ends side).config.keyRotationInterval = 0
  · have hnone : (x.ends side).createHeartbeat B now contribution = none := if_pos hinterval
    simp only [step, hnone]
    exact h
  simp only [step, createHeartbeat_eq B hinterval]
  generalize hnew : ((x.ends side).counted now).currentHeartbeat B now contribution = heartbeat
  have hid : heartbeat.sessionId = id := by
    rw [← hnew]
    exact h.session side
  have hsub : x.created ⊆ x.created ++ [(side, heartbeat)] := subset_append_left _ _
  have hcreated : (side, heartbeat) ∈ x.created ++ [(side, heartbeat)] := by simp
  refine ⟨sessionId_update h.session rfl, ?_, fun p hp => (h.authentic p hp).mono hsub⟩
  intro p hp
  rcases mem_append.mp hp with hold | hmac
  · exact (h.recorded p hold).mono hsub
  rcases mem_cons.mp hmac with rfl | hrotation
  · rw [hid]
    apply Recorded.heartbeat (side, heartbeat) hcreated hid
    rw [← hnew]
    simp only [currentHeartbeat, computeHeartbeatHmacWithKey]
    rw [← h.session side]
    rfl
  · cases hr : heartbeat.keyRotation with
    | none =>
      rw [hr] at hrotation
      cases hrotation
    | some r =>
      rw [hr] at hrotation
      rw [mem_singleton.mp hrotation]
      apply Recorded.rotation r ⟨_, hcreated, hr⟩
      rw [← hnew] at hr
      simp only [currentHeartbeat] at hr
      split_ifs at hr with hmultiple
      cases hr
      rfl

lemma Sound.deliver (h : Sound B id x) (side : Bool) (now : UInt64)
    (hunforged : Unforged B x (.deliver side heartbeat now)) :
    Sound B id (step B x (.deliver side heartbeat now)) := by
  rcases (x.ends side).processHeartbeat_cases B heartbeat now with ⟨e, he⟩ | ⟨hpasses, hok⟩
  · simp only [step, he]
    exact ⟨sessionId_update h.session rfl,
      fun p hp => (h.recorded p hp).mono (List.Subset.refl _),
      fun p hp => (h.authentic p hp).mono (List.Subset.refl _)⟩
  have hid : (((x.ends side).rotated B heartbeat now).heard heartbeat now).sessionId =
      (x.ends side).sessionId := by
    unfold rotated
    split <;> rfl
  simp only [step, hok]
  refine ⟨sessionId_update h.session hid, ?_, ?_⟩
  · intro p hp
    rcases mem_append.mp hp with hold | hack
    · exact (h.recorded p hold).mono (List.Subset.refl _)
    · rw [mem_singleton.mp hack, RawSession.createAck, hid, h.session side]
      exact .ack _
  · intro p hp
    rcases mem_append.mp hp with hold | hnew
    · exact (h.authentic p hold).mono (List.Subset.refl _)
    · rw [mem_singleton.mp hnew]
      exact (h.authentic_of_passes hpasses hunforged).mono (List.Subset.refl _)

lemma Sound.step (h : Sound B id x) (e : RawNetworkEvent) (he : Unforged B x e) :
    Sound B id (step B x e) := by
  cases e with
  | create side now contribution => exact h.create side now contribution
  | deliver side heartbeat now => exact h.deliver side now he

lemma Sound.rotation_of_key_ne (h : Sound B id x) (e : RawNetworkEvent) (he : Unforged B x e)
    (b : Bool) (hkey : ((RawNetwork.step B x e).ends b).sessionKey ≠ (x.ends b).sessionKey) :
    ∃ heartbeat now rotation,
      e = .deliver b heartbeat now ∧ heartbeat.keyRotation = some rotation ∧
        x.RotationCreated rotation ∧
        ((RawNetwork.step B x e).ends b).sessionKey =
          (x.ends b).rotatedKey B rotation.keyContribution := by
  cases e with
  | create side now contribution =>
    exfalso
    apply hkey
    by_cases hinterval : (x.ends side).config.keyRotationInterval = 0
    · have hnone : (x.ends side).createHeartbeat B now contribution = none := if_pos hinterval
      simp only [RawNetwork.step, hnone]
    simp only [RawNetwork.step, createHeartbeat_eq B hinterval]
    by_cases hb : b = side
    · rw [hb, update_self, RawSession.counted]
    · rw [update_of_ne hb]
  | deliver side heartbeat now =>
    rcases (x.ends side).processHeartbeat_cases B heartbeat now with ⟨e, he⟩ | ⟨hpasses, hok⟩
    · simp only [RawNetwork.step, he, update_eq_self] at hkey
      exact absurd rfl hkey
    simp only [RawNetwork.step, hok] at hkey ⊢
    by_cases hb : b = side
    · subst hb
      rw [update_self] at hkey ⊢
      cases hr : heartbeat.keyRotation with
      | none =>
        simp only [rotated, hr] at hkey
        exact absurd rfl hkey
      | some rotation =>
        refine ⟨heartbeat, now, rotation, rfl, hr, ?_, ?_⟩
        · exact (h.authentic_of_passes hpasses he).brought rotation hr
        · simp only [rotated, hr]
          rfl
    · rw [update_of_ne hb] at hkey
      exact absurd rfl hkey

end RawNetwork

/-- **What is accepted was made by an end.** In every run in which the keyed hash is not forged,
whatever an attacker brings: every heartbeat that an end accepted agrees in session, number, time
and tag with one that an end created for this session, and so does the rotation that it brings, if
any; and the key of an end changes only when it takes such a rotation. -/
theorem heartbeats_authentic (B : Blake3Fns) (sessionId initialKey : Digest)
    (peerId : Bool → Digest) (now : Bool → UInt64) (config : Bool → RawSessionConfig)
    (es : List RawNetworkEvent)
    (hes : Guarded (RawNetwork.step B) (RawNetwork.Unforged B)
      (RawNetwork.start sessionId initialKey peerId now config) es) (x : RawNetwork)
    (hx : x = run (RawNetwork.step B)
      (RawNetwork.start sessionId initialKey peerId now config) es) :
    (∀ p ∈ x.accepted, x.Authentic p.2) ∧
      ∀ e b, RawNetwork.Unforged B x e →
        ((RawNetwork.step B x e).ends b).sessionKey ≠ (x.ends b).sessionKey →
          ∃ heartbeat now rotation,
            e = .deliver b heartbeat now ∧ heartbeat.keyRotation = some rotation ∧
              x.RotationCreated rotation ∧
              ((RawNetwork.step B x e).ends b).sessionKey =
                (x.ends b).rotatedKey B rotation.keyContribution := by
  have hstart : RawNetwork.Sound B sessionId
      (RawNetwork.start sessionId initialKey peerId now config) :=
    ⟨fun _ => rfl, nofun, nofun⟩
  have hsound : RawNetwork.Sound B sessionId x := by
    rw [hx]
    exact run_invariant_of_guarded (fun x e h he => h.step e he) hstart hes
  exact ⟨hsound.authentic, fun e b he hkey => hsound.rotation_of_key_ne e he b hkey⟩

/-! ## Reflected and stripped -/

instance decidableUnforged (B : Blake3Fns) (x : RawNetwork) :
    (e : RawNetworkEvent) → Decidable (RawNetwork.Unforged B x e)
  | .create _ _ _ => .isTrue trivial
  | .deliver _ _ _ => inferInstanceAs (Decidable ((∀ key ∈ _, _) ∧ ∀ rotation ∈ _, _))

def sampleNetwork (config : RawSessionConfig) : RawNetwork :=
  .start (.replicate 32 1) (.replicate 32 3) (fun _ => .replicate 32 2) (fun _ => 1000)
    fun _ => config

def eagerConfig : RawSessionConfig := { RawSessionConfig.default with keyRotationInterval := 1 }

def firstHeartbeat (config : RawSessionConfig) : Heartbeat :=
  ((sampleRawSession config).counted 2000).currentHeartbeat blake3Fns 2000 (.replicate 32 4)

/-- The end that created a heartbeat gets it back. -/
def reflectedRun : List RawNetworkEvent :=
  [.create false 2000 (.replicate 32 4), .deliver false (firstHeartbeat .default) 2000]

def strippedRun : List RawNetworkEvent :=
  [.create false 2000 (.replicate 32 4),
    .deliver true { firstHeartbeat eagerConfig with keyRotation := none } 2000]

/-- The heartbeat of one end, with the rotation of the other one's. -/
def splicedHeartbeat : Heartbeat :=
  { firstHeartbeat eagerConfig with
    keyRotation := (((sampleRawSession eagerConfig).counted 2000).currentHeartbeat blake3Fns 2000
      (.replicate 32 5)).keyRotation }

def splicedRun : List RawNetworkEvent :=
  [.create false 2000 (.replicate 32 4), .create true 2000 (.replicate 32 5),
    .deliver true splicedHeartbeat 2000]

def deliveredRun : List RawNetworkEvent :=
  [.create false 2000 (.replicate 32 4), .deliver true (firstHeartbeat eagerConfig) 2000]

theorem delivered_authentic :
    Guarded (RawNetwork.step blake3Fns) (RawNetwork.Unforged blake3Fns) (sampleNetwork eagerConfig)
        deliveredRun ∧
      (run (RawNetwork.step blake3Fns) (sampleNetwork eagerConfig) deliveredRun).accepted.map
        (·.1) = [true] ∧
      ∀ p ∈ (run (RawNetwork.step blake3Fns) (sampleNetwork eagerConfig) deliveredRun).accepted,
        (run (RawNetwork.step blake3Fns) (sampleNetwork eagerConfig) deliveredRun).Authentic
          p.2 := by
  have hguarded : Guarded (RawNetwork.step blake3Fns) (RawNetwork.Unforged blake3Fns)
      (sampleNetwork eagerConfig) deliveredRun := by
    decide +kernel
  refine ⟨hguarded, by decide +kernel, ?_⟩
  rw [sampleNetwork] at hguarded ⊢
  exact (heartbeats_authentic blake3Fns _ _ _ _ _ deliveredRun hguarded _ rfl).1

/-- **Reflected, stripped and spliced.** With nothing forged, an end accepts the heartbeat that it
created itself, when the other has created none; an end accepts a heartbeat without a rotation when
the only one that was created has one; and an end accepts the other one's heartbeat with its own
rotation in it. -/
theorem reflected_and_stripped :
    (Guarded (RawNetwork.step blake3Fns) (RawNetwork.Unforged blake3Fns) (sampleNetwork .default)
        reflectedRun ∧
      (run (RawNetwork.step blake3Fns) (sampleNetwork .default) reflectedRun).accepted.map (·.1) =
        [false] ∧
      (run (RawNetwork.step blake3Fns) (sampleNetwork .default) reflectedRun).created.map (·.1) =
        [false]) ∧
    (Guarded (RawNetwork.step blake3Fns) (RawNetwork.Unforged blake3Fns) (sampleNetwork eagerConfig)
        strippedRun ∧
      (run (RawNetwork.step blake3Fns) (sampleNetwork eagerConfig) strippedRun).accepted.map
        (·.2.keyRotation.isSome) = [false] ∧
      (run (RawNetwork.step blake3Fns) (sampleNetwork eagerConfig) strippedRun).created.map
        (·.2.keyRotation.isSome) = [true]) ∧
    Guarded (RawNetwork.step blake3Fns) (RawNetwork.Unforged blake3Fns) (sampleNetwork eagerConfig)
        splicedRun ∧
      (run (RawNetwork.step blake3Fns) (sampleNetwork eagerConfig) splicedRun).accepted.map
        (fun p => (p.1, p.2.hmac, p.2.keyRotation)) =
          [(true, (firstHeartbeat eagerConfig).hmac, splicedHeartbeat.keyRotation)] ∧
      splicedHeartbeat.keyRotation ≠ (firstHeartbeat eagerConfig).keyRotation := by
  refine ⟨⟨?_, ?_, ?_⟩, ⟨?_, ?_, ?_⟩, ?_, ?_, ?_⟩
  all_goals decide +kernel

end AxiomCore
