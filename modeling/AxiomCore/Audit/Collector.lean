import AxiomCore.Lib.Run
import AxiomCore.Lib.Blake3
import AxiomCore.Crypto.FrameSign
import AxiomCore.Crypto.IntentHash

/-!
# The external audit collector

A node chains its entries, hashes each and signs the hash. The collector checks the signature over
the hash that the entry carries, that the entry's previous hash is the one it stored last, and that
entry ids count up. It does not compute the entry's hash, so whoever relays an entry can change its
content and keep hash and signature.

`CollectorRun` is the writer of one node and a collector; entries may arrive in any order, changed in
any way.

Source: `axiom-audit/src/external.rs`.
-/

namespace AxiomCore

open Lib List Function

/-! ## Entries -/

inductive AuditEventType where
  | hdlLoaded
  | trustLevelChange
  | keyTrustAdded
  | keyRevoked
  | authAttempt
  | sessionEstablished
  | sessionTerminated
  | securityAlert
  | dataRead
  | dataWrite
  | dataDelete
  | capabilityGranted
  | capabilityRevoked
  | legacyTranslation
  | macClaimed
  | gatewayTraffic
  | attackDetected
  | nodeStartup
  | nodeShutdown
  | configChange
  | softwareUpdate
  | phiAccess
  | consentChange
  | retentionAction
  | unknown
  deriving DecidableEq

namespace AuditEventType

def toU16 : AuditEventType → UInt16
  | .hdlLoaded => 0x0001
  | .trustLevelChange => 0x0002
  | .keyTrustAdded => 0x0003
  | .keyRevoked => 0x0004
  | .authAttempt => 0x0005
  | .sessionEstablished => 0x0006
  | .sessionTerminated => 0x0007
  | .securityAlert => 0x0008
  | .dataRead => 0x0100
  | .dataWrite => 0x0101
  | .dataDelete => 0x0102
  | .capabilityGranted => 0x0103
  | .capabilityRevoked => 0x0104
  | .legacyTranslation => 0x0200
  | .macClaimed => 0x0201
  | .gatewayTraffic => 0x0202
  | .attackDetected => 0x0203
  | .nodeStartup => 0x0300
  | .nodeShutdown => 0x0301
  | .configChange => 0x0302
  | .softwareUpdate => 0x0303
  | .phiAccess => 0x0400
  | .consentChange => 0x0401
  | .retentionAction => 0x0402
  | .unknown => 0xffff

def fromU16 : UInt16 → AuditEventType
  | 0x0001 => .hdlLoaded
  | 0x0002 => .trustLevelChange
  | 0x0003 => .keyTrustAdded
  | 0x0004 => .keyRevoked
  | 0x0005 => .authAttempt
  | 0x0006 => .sessionEstablished
  | 0x0007 => .sessionTerminated
  | 0x0008 => .securityAlert
  | 0x0100 => .dataRead
  | 0x0101 => .dataWrite
  | 0x0102 => .dataDelete
  | 0x0103 => .capabilityGranted
  | 0x0104 => .capabilityRevoked
  | 0x0200 => .legacyTranslation
  | 0x0201 => .macClaimed
  | 0x0202 => .gatewayTraffic
  | 0x0203 => .attackDetected
  | 0x0300 => .nodeStartup
  | 0x0301 => .nodeShutdown
  | 0x0302 => .configChange
  | 0x0303 => .softwareUpdate
  | 0x0400 => .phiAccess
  | 0x0401 => .consentChange
  | 0x0402 => .retentionAction
  | _ => .unknown

lemma fromU16_toU16 (t : AuditEventType) : fromU16 t.toU16 = t := by
  cases t <;> rfl

end AuditEventType

structure EntryContent where
  entryId : UInt64
  nodeId : NodeId
  timestampMs : UInt64
  prevHash : Digest
  eventType : AuditEventType
  payload : List UInt8
  deriving DecidableEq

structure ExternalAuditEntry extends EntryContent where
  entryHash : Digest
  /-- The node's signature over the hash. -/
  signature : Signature
  deriving DecidableEq

def EntryContent.toBytes (c : EntryContent) : List UInt8 :=
  beBytes 8 c.entryId.toNat ++ (c.nodeId.bytes.toList ++ (beBytes 8 c.timestampMs.toNat ++
    (c.prevHash.toList ++ (beBytes 2 c.eventType.toU16.toNat ++ c.payload))))

lemma EntryContent.toBytes_inj {c d : EntryContent} (h : c.toBytes = d.toBytes) : c = d := by
  unfold toBytes at h
  obtain ⟨hid, h⟩ := append_inj h (by simp)
  obtain ⟨hnode, h⟩ := append_inj h (by simp)
  obtain ⟨htime, h⟩ := append_inj h (by simp)
  obtain ⟨hprev, h⟩ := append_inj h (by simp)
  obtain ⟨htype, hpayload⟩ := append_inj h (by simp)
  have hid' := UInt64.toNat_inj.mp (beBytes_inj c.entryId.toNat_lt d.entryId.toNat_lt hid)
  have htime' :=
    UInt64.toNat_inj.mp (beBytes_inj c.timestampMs.toNat_lt d.timestampMs.toNat_lt htime)
  have htype' := UInt16.toNat_inj.mp
    (beBytes_inj c.eventType.toU16.toNat_lt d.eventType.toU16.toNat_lt htype)
  have htype'' := congrArg AuditEventType.fromU16 htype'
  rw [AuditEventType.fromU16_toU16, AuditEventType.fromU16_toU16] at htype''
  obtain ⟨id, ⟨node⟩, time, prev, type, payload⟩ := c
  obtain ⟨id', ⟨node'⟩, time', prev', type', payload'⟩ := d
  dsimp only at hid' htime' htype'' hpayload hnode hprev
  rw [Vector.toList_inj] at hnode hprev
  subst hid' hnode htime' hprev htype'' hpayload
  rfl

inductive ExternalAuditError where
  | noCollectors
  | queueFull
  | invalidReceipt
  | chainError
  | storageError

/-! ## The writer -/

structure ExternalAuditWriter where
  nodeId : NodeId
  nextEntryId : UInt64
  prevHash : Digest
  /-- Entries without a receipt. -/
  pending : List ExternalAuditEntry
  collectors : Nat
  maxPending : Nat

namespace ExternalAuditWriter

variable (blake3 : List UInt8 → Digest) (sign : Digest → Signature)

def nextEntry (w : ExternalAuditWriter) (eventType : AuditEventType) (payload : List UInt8)
    (timestampMs : UInt64) : ExternalAuditEntry :=
  let content : EntryContent :=
    ⟨w.nextEntryId, w.nodeId, timestampMs, w.prevHash, eventType, payload⟩
  ⟨content, blake3 content.toBytes, sign (blake3 content.toBytes)⟩

/-- `ExternalAuditWriter::log`; no result is the panic of the counter. -/
def log (w : ExternalAuditWriter) (eventType : AuditEventType) (payload : List UInt8)
    (timestampMs : UInt64) : Option (Except ExternalAuditError UInt64 × ExternalAuditWriter) :=
  if w.collectors = 0 then some (.error .noCollectors, w)
  else if w.pending.length ≥ w.maxPending then some (.error .queueFull, w)
  else if w.nextEntryId = 0xffffffffffffffff then none
  else
    let entry := w.nextEntry blake3 sign eventType payload timestampMs
    some (.ok entry.entryId, { w with
      nextEntryId := w.nextEntryId + 1
      prevHash := entry.entryHash
      pending := w.pending ++ [entry] })

end ExternalAuditWriter

/-! ## The collector -/

structure NodeChain where
  lastEntryId : UInt64
  lastHash : Digest

structure ExternalAuditCollector where
  /-- The chain of each node; it starts with zeros. -/
  chainState : NodeId → NodeChain
  store : List ExternalAuditEntry

namespace ExternalAuditCollector

def new : ExternalAuditCollector := ⟨fun _ => ⟨0, .replicate 32 0⟩, []⟩

/-- `ExternalAuditCollector::receive_entry`; `appended` is whether the store took the entry. -/
def receiveEntry (V : Verify) (c : ExternalAuditCollector) (entry : ExternalAuditEntry)
    (appended : Bool) : Except ExternalAuditError Unit × ExternalAuditCollector :=
  let state := c.chainState entry.nodeId
  if V entry.nodeId entry.entryHash.toList entry.signature = false then (.error .invalidReceipt, c)
  else if entry.prevHash ≠ state.lastHash then (.error .chainError, c)
  else if entry.entryId ≠ state.lastEntryId + 1 ∧ ¬ (state.lastEntryId = 0 ∧ entry.entryId = 1) then
    (.error .chainError, c)
  else if appended then
    (.ok (), {
      chainState :=
        update c.chainState entry.nodeId ⟨entry.entryId, entry.entryHash⟩
      store := c.store ++ [entry] })
  else (.error .storageError, c)

lemma receiveEntry_cases (V : Verify) (c : ExternalAuditCollector) (entry : ExternalAuditEntry)
    (appended : Bool) :
    (c.receiveEntry V entry appended).2 = c ∨
      V entry.nodeId entry.entryHash.toList entry.signature = true ∧
        entry.entryId = (c.chainState entry.nodeId).lastEntryId + 1 ∧
        (c.receiveEntry V entry appended).2 =
          ⟨update c.chainState entry.nodeId ⟨entry.entryId, entry.entryHash⟩,
            c.store ++ [entry]⟩ := by
  unfold receiveEntry
  dsimp only
  split_ifs with hsigned hprev hid happended
  · exact .inl rfl
  · exact .inl rfl
  · exact .inl rfl
  · refine .inr ⟨Bool.eq_true_of_not_eq_false hsigned, ?_, rfl⟩
    by_contra hne
    refine hid ⟨hne, fun hfirst => hne ?_⟩
    rw [hfirst.1, hfirst.2]
    rfl
  · exact .inl rfl

end ExternalAuditCollector

/-! ## One node and the collector -/

/-- A node logs, its queue of pending entries changes, or an entry arrives, whoever sent it. -/
inductive CollectorEvent where
  | log (eventType : AuditEventType) (payload : List UInt8) (timestampMs : UInt64)
  | settle (pending : List ExternalAuditEntry)
  | receive (entry : ExternalAuditEntry) (appended : Bool)

/-- The writer with all it logged, and the collector. -/
structure CollectorRun where
  writer : ExternalAuditWriter
  created : List ExternalAuditEntry
  collector : ExternalAuditCollector

namespace CollectorRun

variable (blake3 : List UInt8 → Digest) (sign : Digest → Signature) (V : Verify)

def start (nodeId : NodeId) (collectors maxPending : Nat) : CollectorRun :=
  ⟨⟨nodeId, 1, .replicate 32 0, [], collectors, maxPending⟩, [], .new⟩

def step (r : CollectorRun) : CollectorEvent → CollectorRun
  | .log eventType payload timestampMs =>
    match r.writer.log blake3 sign eventType payload timestampMs with
    | some (.ok _, writer) => { r with
        writer := writer
        created := r.created ++ [r.writer.nextEntry blake3 sign eventType payload timestampMs] }
    | _ => r
  | .settle pending => { r with writer := { r.writer with pending := pending } }
  | .receive entry appended =>
    { r with collector := (r.collector.receiveEntry V entry appended).2 }

/-- **Ed25519 is unforgeable**: what verifies for the node is a hash it signed. -/
def Unforged (r : CollectorRun) (nodeId : NodeId) : CollectorEvent → Prop
  | .receive entry _ => entry.nodeId = nodeId →
      V entry.nodeId entry.entryHash.toList entry.signature = true →
      ∃ logged ∈ r.created, logged.entryHash = entry.entryHash
  | _ => True

/-- **BLAKE3 does not collide** on an entry that arrives and those that were logged. -/
def CollisionFree (r : CollectorRun) : CollectorEvent → Prop
  | .receive entry _ => ∀ logged ∈ r.created,
      blake3 entry.toBytes = blake3 logged.toBytes → entry.toBytes = logged.toBytes
  | _ => True

def CarriesHash (nodeId : NodeId) : CollectorEvent → Prop
  | .receive entry _ => entry.nodeId = nodeId → entry.entryHash = blake3 entry.toBytes
  | _ => True

structure InOrder (nodeId : NodeId) (r : CollectorRun) : Prop where
  next : r.writer.nextEntryId.toNat = r.created.length + 1
  /-- The numbers of the others, and their hashes. -/
  numbered : ∀ i logged, r.created[i]? = some logged →
    logged.entryId.toNat = i + 1 ∧ logged.entryHash = blake3 logged.toBytes
  stored : ((r.collector.store.filter (·.nodeId = nodeId)).map (·.toEntryContent)) =
    (r.created.take (r.collector.chainState nodeId).lastEntryId.toNat).map (·.toEntryContent)
  last_le : (r.collector.chainState nodeId).lastEntryId.toNat ≤ r.created.length

variable {blake3 sign V} {nodeId : NodeId} {r : CollectorRun}

lemma InOrder.log (h : r.InOrder blake3 nodeId) (eventType : AuditEventType)
    (payload : List UInt8) (timestampMs : UInt64) :
    (r.step blake3 sign V (.log eventType payload timestampMs)).InOrder blake3 nodeId := by
  simp only [step, ExternalAuditWriter.log]
  split_ifs with hnone hfull hmax
  · exact h
  · exact h
  · exact h
  refine ⟨?_, fun i logged hlogged => ?_, ?_, ?_⟩
  · have hlt := r.writer.nextEntryId.toNat_lt
    have hne : r.writer.nextEntryId.toNat ≠ 2 ^ 64 - 1 := fun heq =>
      hmax (UInt64.toNat_inj.mp heq)
    dsimp only
    rw [UInt64.toNat_add, length_append, length_singleton, h.next, UInt64.toNat_one]
    rw [h.next] at hlt hne
    exact Nat.mod_eq_of_lt (by omega)
  · rcases getElem?_concat_cases hlogged with ⟨rfl, rfl⟩ | hold
    · exact ⟨h.next, rfl⟩
    · exact h.numbered i logged hold
  · dsimp only
    rw [take_append_of_le_length h.last_le]
    exact h.stored
  · dsimp only
    rw [length_append]
    exact Nat.le_add_right_of_le h.last_le

lemma InOrder.receive (h : r.InOrder blake3 nodeId) {entry : ExternalAuditEntry} {appended : Bool}
    (hunforged : r.Unforged V nodeId (.receive entry appended))
    (hcollision : r.CollisionFree blake3 (.receive entry appended))
    (hcarries : CarriesHash blake3 nodeId (.receive entry appended)) :
    (r.step blake3 sign V (.receive entry appended)).InOrder blake3 nodeId := by
  simp only [step]
  rcases r.collector.receiveEntry_cases V entry appended with hsame | ⟨hsigned, hid, hnew⟩
  · rw [hsame]
    exact h
  rw [hnew]
  by_cases hnode : entry.nodeId = nodeId
  · subst hnode
    obtain ⟨logged, hlogged, hhash⟩ := hunforged rfl hsigned
    obtain ⟨i, hi⟩ := mem_iff_getElem?.mp hlogged
    obtain ⟨hlt, -⟩ := List.getElem?_eq_some_iff.mp hi
    obtain ⟨hnumber, hown⟩ := h.numbered i logged hi
    have hcontent : entry.toEntryContent = logged.toEntryContent := by
      apply EntryContent.toBytes_inj
      apply hcollision logged hlogged
      rw [← hcarries rfl, ← hhash, hown]
    -- The number that is expected is the one at this position.
    have hposition : i = (r.collector.chainState entry.nodeId).lastEntryId.toNat := by
      have hnext := r.writer.nextEntryId.toNat_lt
      rw [h.next] at hnext
      have hle := h.last_le
      have hnat := congrArg UInt64.toNat hid
      rw [UInt64.toNat_add, congrArg EntryContent.entryId hcontent, hnumber] at hnat
      change i + 1 = (_ + 1) % 2 ^ 64 at hnat
      rw [Nat.mod_eq_of_lt (by omega)] at hnat
      omega
    have hlast : entry.entryId.toNat = i + 1 := by
      rw [congrArg EntryContent.entryId hcontent, hnumber]
    refine ⟨h.next, h.numbered, ?_, ?_⟩
    · dsimp only
      rw [update_self, hlast, take_add_one, hi, filter_append, map_append,
        h.stored, ← hposition]
      simp [hcontent]
    · dsimp only
      rw [update_self, hlast]
      exact hlt
  · refine ⟨h.next, h.numbered, ?_, ?_⟩
    · dsimp only
      rw [update_of_ne (Ne.symm hnode), filter_append]
      simpa [hnode] using h.stored
    · dsimp only
      rw [update_of_ne (Ne.symm hnode)]
      exact h.last_le

end CollectorRun

/-- **What is stored for a node is what it logged, in order.** For every node, and any entries that
arrive at the collector, in any order: if those in the node's name carry the hash of their content,
then what the collector stores for the node agrees, entry by entry and in all fields, with the
first entries that the node logged. -/
theorem stored_prefix (blake3 : List UInt8 → Digest) (sign : Digest → Signature) (V : Verify)
    (nodeId : NodeId) (collectors maxPending : Nat) (events : List CollectorEvent)
    (h : Guarded (CollectorRun.step blake3 sign V)
      (fun r e => r.Unforged V nodeId e ∧ r.CollisionFree blake3 e ∧
        CollectorRun.CarriesHash blake3 nodeId e)
      (.start nodeId collectors maxPending) events) :
    let r := run (CollectorRun.step blake3 sign V) (.start nodeId collectors maxPending) events
    (r.collector.store.filter (·.nodeId = nodeId)).map (·.toEntryContent) <+:
      r.created.map (·.toEntryContent) := by
  intro r
  have hstart : (CollectorRun.start nodeId collectors maxPending).InOrder blake3 nodeId :=
    ⟨rfl, nofun, rfl, Nat.le_refl _⟩
  have hr : r.InOrder blake3 nodeId := by
    refine run_invariant_of_guarded (fun r e hr hguard => ?_) hstart h
    cases e with
    | log eventType payload timestampMs => exact hr.log eventType payload timestampMs
    | settle pending => exact ⟨hr.next, hr.numbered, hr.stored, hr.last_le⟩
    | receive entry appended => exact hr.receive hguard.1 hguard.2.1 hguard.2.2
  rw [hr.stored]
  exact (List.take_prefix _ _).map _

/-! ## Samples -/

def firstContent : EntryContent := ⟨1, sampleOrigin, 1000, .replicate 32 0, .securityAlert, [1]⟩

def secondContent : EntryContent :=
  ⟨2, sampleOrigin, 2000, Blake3.hash firstContent.toBytes, .securityAlert, [2]⟩

/-- The signatures of the two entries' hashes under the key of `sampleOrigin`. -/
def sampleEntrySign (hash : Digest) : Signature :=
  if hash = Blake3.hash firstContent.toBytes then
    ⟨hex 64 (0xab42bb4e477242a7c83d47ea032e3dcf16cebfb8c9dd83d4c603959e66c79f03 <<< 256 +
      0x9b825a81ca74596f64c84b6ba242ea5dbc98aaefb6ee13629cd7d3928f55e703)⟩
  else
    ⟨hex 64 (0xd7817916789682361afb7660581fd30ad3047e6ef1d8b186a6e41ee23b74414c <<< 256 +
      0xbe03aea9e824a31d9f8508e1a75f0868beca08639dcd9277b5f29a103926f604)⟩

/-- The entry that the node makes of a content. -/
def signedEntry (content : EntryContent) : ExternalAuditEntry :=
  ⟨content, Blake3.hash content.toBytes, sampleEntrySign (Blake3.hash content.toBytes)⟩

def sampleEntryVerify : Verify := fun node message sig =>
  node = sampleOrigin && [firstContent, secondContent].any fun content =>
    message = (signedEntry content).entryHash.toList && sig = (signedEntry content).signature

/-- The node logs two entries, and two arrive. -/
def sampleArrivals (first second : ExternalAuditEntry) : List CollectorEvent :=
  [.log .securityAlert [1] 1000, .log .securityAlert [2] 2000, .receive first true,
    .receive second true]

def sampleCollectorRun (events : List CollectorEvent) : CollectorRun :=
  run (CollectorRun.step Blake3.hash sampleEntrySign sampleEntryVerify) (.start sampleOrigin 1 10)
    events

theorem stored_prefix_sample :
    let r := sampleCollectorRun (sampleArrivals (signedEntry firstContent)
      (signedEntry secondContent))
    r.collector.store = [signedEntry firstContent, signedEntry secondContent] ∧
      (r.collector.store.filter (·.nodeId = sampleOrigin)).map (·.toEntryContent) <+:
        r.created.map (·.toEntryContent) := by
  have hfree : ∀ content ∈ [firstContent, secondContent],
      ∀ logged ∈ [firstContent, secondContent],
        Blake3.hash content.toBytes = Blake3.hash logged.toBytes →
          content.toBytes = logged.toBytes := by
    decide +kernel
  have harrives : ∀ r : CollectorRun, r.created = [firstContent, secondContent].map signedEntry →
      ∀ content ∈ [firstContent, secondContent],
        r.Unforged sampleEntryVerify sampleOrigin (.receive (signedEntry content) true) ∧
          r.CollisionFree Blake3.hash (.receive (signedEntry content) true) ∧
          CollectorRun.CarriesHash Blake3.hash sampleOrigin
            (.receive (signedEntry content) true) := by
    intro r hlogged content hcontent
    refine ⟨fun _ _ => ⟨signedEntry content, ?_, rfl⟩, ?_, fun _ => rfl⟩
    · rw [hlogged]
      exact mem_map_of_mem hcontent
    · intro logged hmem
      rw [hlogged] at hmem
      obtain ⟨other, hother, rfl⟩ := mem_map.mp hmem
      exact hfree content hcontent other hother
  refine ⟨by decide +kernel, stored_prefix _ _ _ _ _ _ _ ⟨⟨trivial, trivial, trivial⟩,
    ⟨trivial, trivial, trivial⟩, harrives _ ?_ _ ?_, harrives _ ?_ _ ?_, trivial⟩⟩
  · decide +kernel
  · simp
  · decide +kernel
  · simp

/-- **Altered data is stored.** The first entry arrives with other data, and with hash and signature
as they were. -/
theorem altered_payload_stored :
    let altered := { signedEntry firstContent with payload := [7] }
    let r := sampleCollectorRun (sampleArrivals altered (signedEntry secondContent))
    r.created = [signedEntry firstContent, signedEntry secondContent] ∧
      r.collector.store = [altered, signedEntry secondContent] := by
  decide +kernel

end AxiomCore
