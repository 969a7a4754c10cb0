import AxiomCore.Crypto.FrameSign

/-!
# Capability announcements

A node announces its capabilities in a frame that it signs twice: the frame as the hop that sends
it, and inside the payload the claim (origin, origin clock, capabilities) as the one it is about.
Relays pass the claim on unchanged, with one hop less to live. A receiver accepts a claim if the
origin's signature verifies, the origin clock is close to the wall clock, and some capability of it
is new or newer than what the receiver has seen from that origin.

- `AnnouncePayload.encode`, `AnnouncePayload.decode`: the wire format, with the round trip
  `decode_encode`.

Source: `axiom-router/src/announce.rs`.
-/

namespace AxiomCore

open Lib HybridClock
open List (append_inj drop_drop drop_left' length_cons)

/-! ## Constants -/

def maxAnnounceTtl : UInt8 := 16

def maxRouteIndirection : UInt8 := 2

def maxAcceptedAnnounceTtl : UInt8 := maxRouteIndirection

/-- `MAX_ANNOUNCE_CLOCK_SKEW`, in seconds. -/
def maxAnnounceClockSkew : Nat := 300

def originSigDomain : List UInt8 := utf8 "AXIOM/announce-origin/v1"

/-! ## Payload -/

structure AnnouncedCapability where
  intentHash : IntentHash
  category : Vector UInt8 4
  load : UInt8
  latencyMs : UInt16
  deriving DecidableEq

namespace AnnouncedCapability

def new (intentHash : IntentHash) (category : Vector UInt8 4) : AnnouncedCapability :=
  ⟨intentHash, category, 128, 0⟩

def encode (c : AnnouncedCapability) : List UInt8 :=
  c.intentHash.bytes.toList ++ (c.category.toList ++ (c.load :: beBytes 2 c.latencyMs.toNat))

def decode (data : List UInt8) : Option AnnouncedCapability :=
  if data.length < 23 then none
  else some
    ⟨⟨takeVec 16 data⟩, takeVec 4 (data.drop 16), data.getD 20 0,
      UInt16.ofNat (beNat ((data.drop 21).take 2))⟩

@[simp] lemma length_encode (c : AnnouncedCapability) : c.encode.length = 23 := by
  simp [encode]

lemma decode_encode (c : AnnouncedCapability) : decode c.encode = some c := by
  have hlatency := c.latencyMs.toNat_lt
  have hcategory : c.encode.drop 16 =
      c.category.toList ++ (c.load :: beBytes 2 c.latencyMs.toNat) := by
    rw [encode, drop_left' (by simp)]
  have hload : c.encode.drop 20 = c.load :: beBytes 2 c.latencyMs.toNat := by
    rw [show 20 = 16 + 4 from rfl, ← drop_drop, hcategory, drop_left' (by simp)]
  have hlatencyBytes : c.encode.drop 21 = beBytes 2 c.latencyMs.toNat := by
    rw [show 21 = 20 + 1 from rfl, ← drop_drop, hload, List.drop_one, List.tail_cons]
  have hget : c.encode.getD 20 0 = c.load := by
    rw [List.getD_eq_getElem?_getD, ← List.head?_drop, hload]
    rfl
  rw [decode, if_neg (by simp), hcategory, hlatencyBytes, hget, takeVec_append,
    List.take_of_length_le (by simp), beNat_beBytes, Nat.mod_eq_of_lt (by omega),
    UInt16.ofNat_toNat, encode, takeVec_append]

end AnnouncedCapability

open AnnouncedCapability

structure AnnouncePayload where
  ttl : UInt8
  capabilities : List AnnouncedCapability
  origin : Option NodeId
  originClock : Option HybridClock
  originSignature : Option Signature

namespace AnnouncePayload

def originSigningBytesFor (origin : NodeId) (originClock : HybridClock)
    (capabilities : List AnnouncedCapability) : List UInt8 :=
  originSigDomain ++ origin.bytes.toList ++ originClock.toBytes ++
    beBytes 2 capabilities.length ++ capabilities.flatMap AnnouncedCapability.encode

/-- What trails the capabilities: nothing, origin and clock, or these and the signature. -/
def trailer (p : AnnouncePayload) : List UInt8 :=
  match p.origin, p.originClock with
  | some origin, some originClock =>
    origin.bytes.toList ++ (originClock.toBytes ++
      match p.originSignature with
      | some signature => signature.bytes.toList
      | none => [])
  | _, _ => []

def encode (p : AnnouncePayload) : List UInt8 :=
  p.ttl :: (beBytes 2 p.capabilities.length ++
    (p.capabilities.flatMap AnnouncedCapability.encode ++ p.trailer))

def decodeCapabilities : (count : Nat) → List UInt8 → List AnnouncedCapability
  | 0, _ => []
  | count + 1, data =>
    match AnnouncedCapability.decode (data.take 23) with
    | some capability => capability :: decodeCapabilities count (data.drop 23)
    | none => decodeCapabilities count (data.drop 23)

def decode (data : List UInt8) : Option AnnouncePayload :=
  if data.length < 3 then none
  else
    let ttl := data.getD 0 0
    let capCount := beNat ((data.drop 1).take 2)
    let capsEnd := 3 + capCount * 23
    if data.length < capsEnd then none
    else
      let capabilities := decodeCapabilities capCount (data.drop 3)
      let tail := data.drop capsEnd
      let origin : NodeId := ⟨takeVec 32 tail⟩
      let originClock := fromBytes (tail.drop 32)
      if data.length = capsEnd + 32 + 7 + 64 then
        some ⟨ttl, capabilities, some origin, some originClock, some ⟨takeVec 64 (tail.drop 39)⟩⟩
      else if data.length = capsEnd + 32 + 7 then
        some ⟨ttl, capabilities, some origin, some originClock, none⟩
      else some ⟨ttl, capabilities, none, none, none⟩

/-! ### Round trip -/

lemma length_flatMap_encode (capabilities : List AnnouncedCapability) :
    (capabilities.flatMap AnnouncedCapability.encode).length = capabilities.length * 23 := by
  induction capabilities with
  | nil => rfl
  | cons capability capabilities ih =>
    rw [List.flatMap_cons, List.length_append, ih, length_encode,
      length_cons]
    ring

lemma decodeCapabilities_encode (capabilities : List AnnouncedCapability) (rest : List UInt8) :
    decodeCapabilities capabilities.length
      (capabilities.flatMap AnnouncedCapability.encode ++ rest) = capabilities := by
  induction capabilities with
  | nil => rfl
  | cons capability capabilities ih =>
    rw [List.flatMap_cons, List.append_assoc, length_cons, decodeCapabilities,
      List.take_left' (length_encode capability),
      drop_left' (length_encode capability),
      AnnouncedCapability.decode_encode]
    exact congrArg _ ih

/-- A payload that the format can carry: the count and the clock fit, and a part of the trailer is
there only with what comes before it. -/
structure Encodable (p : AnnouncePayload) : Prop where
  count : p.capabilities.length < 2 ^ 16
  clock : ∀ c, p.originClock = some c → c.physical.toNat < 2 ^ 40
  origin : p.origin.isSome = p.originClock.isSome
  signature : p.originSignature.isSome → p.origin.isSome

variable {p : AnnouncePayload}

lemma decode_encode (h : p.Encodable) : decode p.encode = some p := by
  have hcount : beNat ((p.encode.drop 1).take 2) = p.capabilities.length := by
    rw [encode, List.drop_one, List.tail_cons, List.take_left' (by simp), beNat_beBytes,
      Nat.mod_eq_of_lt (show _ < 256 ^ 2 from h.count)]
  have hcaps : p.encode.drop 3 =
      p.capabilities.flatMap AnnouncedCapability.encode ++ p.trailer := by
    rw [encode, show 3 = 2 + 1 from rfl, List.drop_succ_cons, drop_left' (by simp)]
  have htail : p.encode.drop (3 + p.capabilities.length * 23) = p.trailer := by
    rw [← drop_drop, hcaps, drop_left' (length_flatMap_encode _)]
  have hlength : p.encode.length = 3 + p.capabilities.length * 23 + p.trailer.length := by
    simp only [encode, length_cons, List.length_append, length_beBytes,
      length_flatMap_encode]
    omega
  have httl : p.encode.getD 0 0 = p.ttl := rfl
  rw [decode, if_neg (by omega)]
  simp only [hcount, hcaps, htail, hlength, httl, decodeCapabilities_encode]
  rw [if_neg (by omega)]
  -- the three shapes of the trailer differ in length
  obtain ⟨ttl, capabilities, origin, originClock, originSignature⟩ := p
  cases origin with
  | none =>
    obtain rfl : originClock = none := by simpa using h.origin
    obtain rfl : originSignature = none := by simpa using h.signature
    have hlen : (trailer ⟨ttl, capabilities, none, none, none⟩).length = 0 := rfl
    rw [if_neg (by omega), if_neg (by omega)]
  | some origin =>
    obtain ⟨clock, rfl⟩ : ∃ clock, originClock = some clock :=
      Option.isSome_iff_exists.mp (by simpa using h.origin)
    have hclock : clock.physical.toNat < 2 ^ 40 := h.clock clock rfl
    cases originSignature with
    | none =>
      have hlen : (trailer ⟨ttl, capabilities, some origin, some clock, none⟩).length = 39 := by
        simp [trailer]
      rw [if_neg (by omega), if_pos (by omega)]
      simp only [trailer, takeVec_append]
      rw [drop_left' (by simp), fromBytes_toBytes hclock]
    | some signature =>
      have hlen : (trailer
          ⟨ttl, capabilities, some origin, some clock, some signature⟩).length = 103 := by
        simp [trailer]
      rw [if_pos (by omega)]
      simp only [trailer, takeVec_append]
      rw [drop_left' (by simp), fromBytes_toBytes hclock,
        show 39 = 32 + 7 from rfl, ← drop_drop, drop_left' (by simp),
        drop_left' (by simp)]
      have hsignature := takeVec_append signature.bytes []
      rw [List.append_nil] at hsignature
      rw [hsignature]

lemma length_decodeCapabilities_le (count : Nat) (data : List UInt8) :
    (decodeCapabilities count data).length ≤ count := by
  induction count generalizing data with
  | zero => exact Nat.le_refl 0
  | succ count ih =>
    have hrest := ih (data.drop 23)
    unfold decodeCapabilities
    split
    · exact Nat.succ_le_succ hrest
    · exact Nat.le_succ_of_le hrest

lemma encodable_of_decode {data : List UInt8} (h : decode data = some p) :
    p.Encodable := by
  have hcount : beNat ((data.drop 1).take 2) < 2 ^ 16 := by
    have hlt := beNat_lt ((data.drop 1).take 2)
    have hle : 256 ^ ((data.drop 1).take 2).length ≤ 256 ^ 2 :=
      Nat.pow_le_pow_right (by decide) (List.length_take_le _ _)
    exact hlt.trans_le hle
  have hcaps := length_decodeCapabilities_le (beNat ((data.drop 1).take 2)) (data.drop 3)
  have hclock : ∀ {bs : List UInt8} {c : HybridClock}, some (fromBytes bs) = some c →
      c.physical.toNat < 2 ^ 40 := by
    rintro bs c ⟨⟩
    exact physical_fromBytes_lt
  unfold decode at h
  dsimp only at h
  split_ifs at h
  all_goals cases h
  · exact ⟨hcaps.trans_lt hcount, fun c => hclock, rfl, fun _ => rfl⟩
  · exact ⟨hcaps.trans_lt hcount, fun c => hclock, rfl, nofun⟩
  · exact ⟨hcaps.trans_lt hcount, nofun, rfl, nofun⟩

end AnnouncePayload

open AnnouncePayload

/-! ## The manager -/

structure SeenAnnouncement where
  firstSeen : Nat
  clock : HybridClock
  /-- How often it was new. It wraps, as in a release build. -/
  count : UInt32

/-- What was seen, by origin and intent. -/
abbrev SeenMap := NodeId × IntentHash → Option SeenAnnouncement

structure AnnouncementManager where
  identity : Keypair
  localCapabilities : List AnnouncedCapability
  seen : SeenMap
  clock : ClockManager

namespace AnnouncementManager

/-- `AnnouncementManager::new`, from the wall clock's reading. -/
def new (identity : Keypair) (secs : Nat) : AnnouncementManager :=
  ⟨identity, [], fun _ => none, .new secs⟩

def registerCapability (m : AnnouncementManager) (cap : AnnouncedCapability) :
    AnnouncementManager :=
  { m with localCapabilities := m.localCapabilities ++ [cap] }

def unregisterCapability (m : AnnouncementManager) (intentHash : IntentHash) :
    AnnouncementManager :=
  { m with localCapabilities := m.localCapabilities.filter (·.intentHash ≠ intentHash) }

/-- `AnnouncementManager::create_announcement`, from the wall clock's reading. -/
def createAnnouncement (m : AnnouncementManager) (ttl : UInt8) (secs : Nat) :
    Frame × AnnouncementManager :=
  let (clock, clockManager) := (m.clock.syncPhysical secs).tick
  let nodeId := m.identity.nodeId
  let header : FrameHeader :=
    { FrameHeader.new .announce nodeId with trustLevel := .sig, clock := clock }
  let signature := m.identity.sign
    (originSigningBytesFor nodeId clock m.localCapabilities)
  let payload : AnnouncePayload :=
    ⟨min ttl maxAnnounceTtl, m.localCapabilities, some nodeId, some clock, some signature⟩
  (Frame.new header .raw payload.encode, { m with clock := clockManager })

def absDiff (a b : Nat) : Nat := (a - b) + (b - a)

def withinSkew (secs : Nat) (clock : HybridClock) : Bool :=
  absDiff secs clock.physical.toNat ≤ maxAnnounceClockSkew

lemma withinSkew_iff {secs : Nat} {clock : HybridClock} :
    withinSkew secs clock ↔ secs ≤ clock.physical.toNat + maxAnnounceClockSkew ∧
      clock.physical.toNat ≤ secs + maxAnnounceClockSkew := by
  rw [withinSkew, decide_eq_true_iff, absDiff]
  omega

def touchSeen (seen : SeenMap) (key : NodeId × IntentHash) (originClock : HybridClock)
    (now : Nat) : Bool × SeenMap :=
  match seen key with
  | some e =>
    if e.clock.happensBefore originClock then
      (true, Function.update seen key (some ⟨now, originClock, e.count + 1⟩))
    else (false, Function.update seen key (some { e with firstSeen := now }))
  | none => (true, Function.update seen key (some ⟨now, originClock, 1⟩))

/-- The loop: is any capability new? The monotonic clock reads `instants i` at the `i`-th. -/
def touchCapabilities (origin : NodeId) (originClock : HybridClock) :
    (instants : Nat → Nat) → List AnnouncedCapability → SeenMap → Bool × SeenMap
  | _, [], seen => (false, seen)
  | instants, cap :: caps, seen =>
    let (fresh, seen) := touchSeen seen (origin, cap.intentHash) originClock (instants 0)
    let (anyFresh, seen) :=
      touchCapabilities origin originClock (fun i => instants (i + 1)) caps seen
    (fresh || anyFresh, seen)

/-- The frame to pass on, and the clock after that. The relay's own clock takes the header's only if
that is close to the wall clock. -/
def forwardFrame (m : AnnouncementManager) (frame : Frame) (payload : AnnouncePayload)
    (secs : Nat) : Option Frame × ClockManager :=
  let ttl := min payload.ttl maxAcceptedAnnounceTtl
  if ttl > 0 then
    let clockManager :=
      if withinSkew secs frame.header.clock then m.clock.update frame.header.clock else m.clock
    let (clock, clockManager) := clockManager.tick
    let header : FrameHeader :=
      { FrameHeader.new .announce m.identity.nodeId with
        trustLevel := frame.header.trustLevel
        clock := clock }
    (some (Frame.new header .raw { payload with ttl := ttl - 1 }.encode), clockManager)
  else (none, m.clock)

/-- `AnnouncementManager::process_announcement`: the wall clock reads `secs`, the monotonic clock
`instants i` at the `i`-th capability. -/
def processAnnouncement (V : Verify) (m : AnnouncementManager) (frame : Frame) (secs : Nat)
    (instants : Nat → Nat) :
    Option (List AnnouncedCapability × Option Frame) × AnnouncementManager :=
  match AnnouncePayload.decode frame.payload with
  | none => (none, m)
  | some payload =>
    match payload.origin, payload.originClock, payload.originSignature with
    | some origin, some originClock, some originSignature =>
      let signingBytes :=
        originSigningBytesFor origin originClock payload.capabilities
      if ¬ V origin signingBytes originSignature then (none, m)
      else if ¬ withinSkew secs originClock then (none, m)
      else if origin = m.identity.nodeId then (none, m)
      else
        let (anyFresh, seen) :=
          touchCapabilities origin originClock instants payload.capabilities m.seen
        if ¬ anyFresh then (none, { m with seen := seen })
        else
          let (forward, clock) := m.forwardFrame frame payload secs
          (some (payload.capabilities, forward), { m with seen := seen, clock := clock })
    | _, _, _ => (none, m)

/-- `AnnouncementManager::cleanup_stale`, from the monotonic clock's reading. -/
def cleanupStale (m : AnnouncementManager) (now maxAge : Nat) : AnnouncementManager :=
  { m with seen := fun key => (m.seen key).filter fun e => now - e.firstSeen < maxAge }

end AnnouncementManager

/-! ## What a delivery does -/

/-- What an origin signs. -/
structure Claim where
  origin : NodeId
  clock : HybridClock
  capabilities : List AnnouncedCapability
  deriving DecidableEq

namespace Claim

def signingBytes (c : Claim) : List UInt8 :=
  originSigningBytesFor c.origin c.clock c.capabilities

def hashes (c : Claim) : List IntentHash := c.capabilities.map (·.intentHash)

def payload (c : Claim) (signature : Signature) (ttl : UInt8) : AnnouncePayload :=
  ⟨ttl, c.capabilities, some c.origin, some c.clock, some signature⟩

/-- The count and the clock fit into the format. -/
def Encodable (c : Claim) : Prop :=
  c.capabilities.length < 2 ^ 16 ∧ c.clock.physical.toNat < 2 ^ 40

lemma eq_of_signingBytes_eq {c d : Claim} (h : c.signingBytes = d.signingBytes) :
    c.origin = d.origin ∧ c.clock.toBytes = d.clock.toBytes ∧ c.capabilities = d.capabilities := by
  unfold signingBytes originSigningBytesFor at h
  -- everything before the capabilities has a fixed length
  obtain ⟨hfixed, hcaps⟩ := append_inj h (by simp)
  obtain ⟨hfixed, -⟩ := append_inj hfixed (by simp)
  obtain ⟨hfixed, hclock⟩ := append_inj hfixed (by simp)
  obtain ⟨-, horigin⟩ := append_inj hfixed rfl
  refine ⟨congrArg NodeId.mk (Vector.toList_inj.mp horigin), hclock, ?_⟩
  have hlength := congrArg List.length hcaps
  rw [length_flatMap_encode, length_flatMap_encode] at hlength
  have hcount : c.capabilities.length = d.capabilities.length := by omega
  have hdecode := decodeCapabilities_encode c.capabilities []
  rw [hcaps, hcount, decodeCapabilities_encode] at hdecode
  exact hdecode.symm

lemma Encodable.eq_of_signingBytes_eq {c d : Claim} (hc : c.Encodable) (hd : d.Encodable)
    (h : c.signingBytes = d.signingBytes) : c = d := by
  obtain ⟨horigin, hclock, hcaps⟩ := Claim.eq_of_signingBytes_eq h
  have hread := fromBytes_toBytes hc.2 []
  rw [hclock, fromBytes_toBytes hd.2] at hread
  cases c
  cases d
  simp_all

end Claim

/-- **The announcement format is exact.** A payload that fits the format is read back as it was
written. The signed bytes determine origin, clock and capabilities. So where a signature verifies
for nothing but the bytes of one claim, and it arrives in a payload and verifies there, the payload
has that claim. -/
theorem announcement_format_exact (V : Verify) :
    (∀ p : AnnouncePayload, p.Encodable → AnnouncePayload.decode p.encode = some p) ∧
    (∀ c d : Claim, c.Encodable → d.Encodable → c.signingBytes = d.signingBytes → c = d) ∧
    ∀ (data : List UInt8) (ttl : UInt8) (signature : Signature) (claim signed : Claim),
      AnnouncePayload.decode data = some (claim.payload signature ttl) → signed.Encodable →
      (∀ message, V claim.origin message signature → message = signed.signingBytes) →
      V claim.origin claim.signingBytes signature → claim = signed := by
  refine ⟨fun p => AnnouncePayload.decode_encode, fun c d => Claim.Encodable.eq_of_signingBytes_eq,
    ?_⟩
  intro data ttl signature claim signed hdecode hsigned hbinds hverifies
  have hp := encodable_of_decode hdecode
  have hclaim : claim.Encodable := ⟨hp.count, hp.clock _ rfl⟩
  exact hclaim.eq_of_signingBytes_eq hsigned (hbinds _ hverifies)

def twoCapabilities (first second : UInt8) : Claim where
  origin := ⟨Vector.replicate 32 7⟩
  clock := ⟨5, 1⟩
  capabilities := [first, second].map fun b =>
    .new ⟨Vector.replicate 16 b⟩ (Vector.replicate 4 b)

/-- Two capabilities are read back, and are signed in their order; the payload shows nothing but the
claim that was signed. -/
theorem two_capabilities_announced :
    let claim := twoCapabilities 1 2
    let signature : Signature := ⟨Vector.replicate 64 3⟩
    let payload := claim.payload signature 2
    let V : Verify := fun _ message _ => decide (message = claim.signingBytes)
    AnnouncePayload.decode payload.encode = some payload ∧
      claim.signingBytes ≠ (twoCapabilities 2 1).signingBytes ∧
      V claim.origin claim.signingBytes signature ∧
      ∀ claim', AnnouncePayload.decode payload.encode = some (claim'.payload signature 2) →
        V claim'.origin claim'.signingBytes signature → claim' = claim := by
  intro claim signature payload V
  have hclaim (first second : UInt8) : (twoCapabilities first second).Encodable :=
    ⟨by simp [twoCapabilities], by simp [twoCapabilities]⟩
  obtain ⟨hread, hinjective, hbound⟩ := announcement_format_exact V
  refine ⟨hread payload ⟨(hclaim 1 2).1, ?_, rfl, fun _ => rfl⟩, fun hsame => ?_,
    decide_eq_true rfl, fun claim' hdecode hverifies => ?_⟩
  · rintro c ⟨⟩
    decide
  · have hswapped := hinjective _ _ (hclaim 1 2) (hclaim 2 1) hsame
    exact absurd hswapped (by decide)
  · exact hbound _ 2 signature claim' claim hdecode (hclaim 1 2)
      (fun message h => of_decide_eq_true h) hverifies

def verifiedClaim (V : Verify) (frame : Frame) : Option Claim :=
  match AnnouncePayload.decode frame.payload with
  | none => none
  | some payload =>
    match payload.origin, payload.originClock, payload.originSignature with
    | some origin, some originClock, some originSignature =>
      let claim : Claim := ⟨origin, originClock, payload.capabilities⟩
      if V origin claim.signingBytes originSignature then some claim else none
    | _, _, _ => none

variable {V : Verify} {claim : Claim}

lemma verifiedClaim_payload {signature : Signature}
    (hcount : claim.capabilities.length < 2 ^ 16) (hclock : claim.clock.physical.toNat < 2 ^ 40)
    (hsigned : V claim.origin claim.signingBytes signature) (header : FrameHeader) (ttl : UInt8) :
    verifiedClaim V (Frame.new header .raw (claim.payload signature ttl).encode) = some claim := by
  have hencodable : (claim.payload signature ttl).Encodable :=
    ⟨hcount, fun c hc => Option.some.inj hc ▸ hclock, rfl, fun _ => rfl⟩
  have hdecode : AnnouncePayload.decode
      (Frame.new header .raw (claim.payload signature ttl).encode).payload =
        some (claim.payload signature ttl) := AnnouncePayload.decode_encode hencodable
  rw [verifiedClaim, hdecode]
  exact if_pos hsigned

lemma exists_payload_of_verifiedClaim {frame : Frame}
    (h : verifiedClaim V frame = some claim) :
    ∃ ttl signature, AnnouncePayload.decode frame.payload = some (claim.payload signature ttl) ∧
      V claim.origin claim.signingBytes signature := by
  unfold verifiedClaim at h
  rcases hdecode : AnnouncePayload.decode frame.payload with _ | payload
  · simp [hdecode] at h
  obtain ⟨ttl, capabilities, origin, originClock, originSignature⟩ := payload
  simp only [hdecode] at h
  split at h
  · rename_i origin originClock signature
    split_ifs at h with hV
    cases h
    exact ⟨ttl, signature, rfl, hV⟩
  · cases h

namespace AnnouncementManager

variable {V : Verify} {m : AnnouncementManager} {frame : Frame} {secs : Nat} {claim : Claim}

/-- The frame gets as far as the loop. -/
structure Admits (V : Verify) (m : AnnouncementManager) (frame : Frame) (secs : Nat)
    (claim : Claim) : Prop where
  verified : verifiedClaim V frame = some claim
  /-- The claim's clock is close to the wall clock. -/
  skew : withinSkew secs claim.clock
  foreign : claim.origin ≠ m.identity.nodeId

lemma processAnnouncement_of_admits (h : m.Admits V frame secs claim) (instants : Nat → Nat) :
    ∃ forward clock, m.processAnnouncement V frame secs instants =
      (if (touchCapabilities claim.origin claim.clock instants claim.capabilities m.seen).1 then
          some (claim.capabilities, forward) else none,
        { m with
          seen := (touchCapabilities claim.origin claim.clock instants claim.capabilities m.seen).2
          clock := clock }) := by
  obtain ⟨hverified, hskew, hforeign⟩ := h
  unfold verifiedClaim at hverified
  unfold processAnnouncement
  rcases hdecode : AnnouncePayload.decode frame.payload with _ | payload
  · simp [hdecode] at hverified
  simp only [hdecode] at hverified
  split at hverified
  · rename_i origin originClock originSignature horigin hclock hsignature
    split_ifs at hverified with hV
    have hclaim := Option.some.inj hverified
    subst hclaim
    simp only [horigin, hclock, hsignature]
    have hsigned : ¬ ¬ V origin (originSigningBytesFor origin originClock
        payload.capabilities) originSignature := not_not_intro hV
    rw [if_neg hsigned, if_neg (not_not_intro hskew), if_neg hforeign]
    rcases htouch : touchCapabilities origin originClock instants payload.capabilities m.seen with
      ⟨fresh, seen⟩
    cases fresh with
    | false => exact ⟨none, m.clock, rfl⟩
    | true => exact ⟨_, _, rfl⟩
  · simp at hverified

lemma processAnnouncement_of_not_admits (h : ∀ claim, ¬ m.Admits V frame secs claim)
    (instants : Nat → Nat) : m.processAnnouncement V frame secs instants = (none, m) := by
  unfold processAnnouncement
  rcases hdecode : AnnouncePayload.decode frame.payload with _ | payload
  · rfl
  simp only
  split
  · rename_i origin originClock originSignature horigin hclock hsignature
    by_cases hV : ¬ V origin (originSigningBytesFor origin originClock
        payload.capabilities) originSignature
    · exact if_pos hV
    rw [if_neg hV]
    by_cases hskew : ¬ withinSkew secs originClock
    · exact if_pos hskew
    rw [if_neg hskew]
    by_cases hforeign : origin = m.identity.nodeId
    · exact if_pos hforeign
    refine absurd ?_ (h ⟨origin, originClock, payload.capabilities⟩)
    refine ⟨?_, not_not.mp hskew, hforeign⟩
    simp only [verifiedClaim, hdecode, horigin, hclock, hsignature]
    exact if_pos (not_not.mp hV)
  · rfl

end AnnouncementManager

end AxiomCore
