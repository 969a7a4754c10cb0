import AxiomCore.Lib.Walk
import AxiomCore.Lib.Run
import AxiomCore.Lib.Blake3
import AxiomCore.Crypto.FrameSign
import AxiomCore.Crypto.IntentHash

/-!
# The compliance log

A list of records, each with the hash of the record before it and a hash of its own. The hash covers
the sequence number, the previous hash and the event's timestamp, subject, resource, action and
outcome. It leaves out the event's type, sensitivity, source location and context, and it writes a
resource without saying that there is one.

`content_inj`: what the hash covers determines the covered fields, once it is known whether there is
a resource.

Source: `axiom-audit/src/log.rs`.
-/

namespace AxiomCore

open Lib

/-! ## Events -/

/-- Source: `axiom-audit/src/event.rs`, `EventType`. -/
inductive EventType where
  | access
  | authentication
  | authorization
  | configChange
  | security
  | system
  | network
  | keyManagement
  | dataLifecycle
  | compliance
  deriving DecidableEq

/-- Source: `axiom-audit/src/event.rs`, `AccessOutcome`. -/
inductive AccessOutcome where
  | success
  | deniedPrivilege
  | deniedNotFound
  | deniedPolicy
  | deniedRateLimit
  | failed
  | pending
  deriving DecidableEq

/-- The discriminant, `outcome as u8`. -/
def AccessOutcome.toU8 : AccessOutcome → UInt8
  | .success => 0
  | .deniedPrivilege => 1
  | .deniedNotFound => 2
  | .deniedPolicy => 3
  | .deniedRateLimit => 4
  | .failed => 5
  | .pending => 6

lemma AccessOutcome.toU8_inj {o o' : AccessOutcome} (h : o.toU8 = o'.toU8) : o = o' := by
  cases o <;> cases o' <;> first | rfl | exact absurd h (by decide)

/-- Source: `axiom-audit/src/sensitivity.rs`, `Sensitivity`. -/
inductive Sensitivity where
  | «public»
  | internal
  | confidential
  | phi
  | pii
  | restricted
  deriving DecidableEq

/-- Source: `axiom-audit/src/event.rs`, `AuditEvent`. -/
@[ext] structure AuditEvent where
  eventType : EventType
  /-- Microseconds since the epoch. -/
  timestamp : UInt64
  subject : Vector UInt8 32
  resource : Option (Vector UInt8 32)
  action : String
  outcome : AccessOutcome
  sensitivity : Option Sensitivity
  sourceLocation : Option String
  context : List (String × String)
  deriving DecidableEq

/-! ## Records -/

structure AuditRecord where
  sequence : UInt64
  event : AuditEvent
  prevHash : Digest
  hash : Digest
  signature : Option Signature

namespace AuditRecord

def content (r : AuditRecord) : List UInt8 :=
  toLeBytes r.sequence ++ r.prevHash.toList ++ toLeBytes r.event.timestamp ++
      r.event.subject.toList ++
    -- `if let Some(ref resource)`: no tag and no length
    (r.event.resource.elim [] Vector.toList ++ (utf8 r.event.action ++ [r.event.outcome.toU8]))

variable (H : List UInt8 → Digest)

def computeHash (r : AuditRecord) : Digest := H r.content

def verify (r : AuditRecord) : Bool := r.hash == r.computeHash H

def new (sequence : UInt64) (event : AuditEvent) (prevHash : Digest) : AuditRecord :=
  let record : AuditRecord := ⟨sequence, event, prevHash, Vector.replicate 32 0, none⟩
  { record with hash := record.computeHash H }

end AuditRecord

/-- What `record` refuses with; the other errors are those of the queries. -/
inductive AuditError where
  | logSealed
  deriving DecidableEq

structure ChainVerification where
  valid : Bool
  recordsVerified : UInt64
  firstInvalid : Option UInt64
  finalHash : Digest

/-- The log; the indexes and the alert handler are left out. -/
structure AuditLog where
  records : List AuditRecord
  headHash : Digest
  «sealed» : Bool
  signingKey : Option (Digest → Signature)

namespace AuditLog

/-- The hash before the first record, `[0u8; 32]`. -/
def genesisHash : Digest := Vector.replicate 32 0

variable (H : List UInt8 → Digest)

def new (signingKey : Option (Digest → Signature)) : AuditLog :=
  ⟨[], genesisHash, false, signingKey⟩

def shouldSign (event : AuditEvent) : Bool :=
  match event.eventType with
  | .security => true
  | .keyManagement => true
  | .access => event.sensitivity == some .phi || event.sensitivity == some .restricted
  | _ => false

/-- The signature of a new record, if there is a key and the event is one to sign. -/
def signatureOf (signingKey : Option (Digest → Signature)) (record : AuditRecord) :
    Option Signature :=
  match signingKey with
  | some sign => if shouldSign record.event then some (sign record.hash) else record.signature
  | none => record.signature

def record (log : AuditLog) (event : AuditEvent) : Except AuditError UInt64 × AuditLog :=
  if log.sealed then (.error .logSealed, log)
  else
    let sequence := UInt64.ofNat log.records.length
    let record := AuditRecord.new H sequence event log.headHash
    let record := { record with signature := signatureOf log.signingKey record }
    (.ok sequence, { log with records := log.records ++ [record], headHash := record.hash })

/-- The loop of `verify_chain` from record `i` on. -/
def verifyFrom (headHash prevHash : Digest) (i : UInt64) : List AuditRecord → ChainVerification
  | [] => ⟨true, i, none, headHash⟩
  | record :: records =>
    if record.prevHash ≠ prevHash then ⟨false, i, some i, prevHash⟩
    else if !record.verify H then ⟨false, i, some i, prevHash⟩
    else verifyFrom headHash record.hash (i + 1) records

def verifyChain (log : AuditLog) : ChainVerification :=
  verifyFrom H log.headHash genesisHash 0 log.records

def lastHash (log : AuditLog) : Option Digest := log.records.getLast?.map AuditRecord.hash

def events (log : AuditLog) : List AuditEvent := log.records.map AuditRecord.event

end AuditLog

open AuditLog

/-! ## Chains -/

section Chain

variable {H : List UInt8 → Digest} {prev u : Digest} {records : List AuditRecord}

/-- One link of the chain: what the loop checks, and the hash it goes on with. -/
def checkLink (H : List UInt8 → Digest) (prev : Digest) (record : AuditRecord) :
    Except Unit Digest :=
  if record.prevHash = prev ∧ record.verify H = true then .ok record.hash else .error ()

lemma checkLink_ok_iff {record : AuditRecord} : checkLink H prev record = .ok u ↔
    record.prevHash = prev ∧ record.hash = H record.content ∧ record.hash = u := by
  unfold checkLink
  split_ifs with h
  · simpa [h.1] using fun _ => by simpa [AuditRecord.verify, AuditRecord.computeHash] using h.2
  simp only [false_iff]
  rintro ⟨hprev, hhash, -⟩
  exact h ⟨hprev, by simpa [AuditRecord.verify, AuditRecord.computeHash] using hhash⟩

lemma verifyFrom_valid_iff {head : Digest} {i : UInt64} :
    (verifyFrom H head prev i records).valid = true ↔
      ∃ u, walk (checkLink H) prev records = .ok u := by
  induction records generalizing prev i with
  | nil => simp [verifyFrom]
  | cons record records ih =>
    rw [verifyFrom, walk]
    by_cases hprev : record.prevHash = prev
    · by_cases hverify : record.verify H = true
      · simp [checkLink, hprev, hverify, ih]
      · simp [checkLink, hprev, hverify]
    · simp [checkLink, hprev]

lemma walk_checkLink_end (h : walk (checkLink H) prev records = .ok u) :
    u = (records.getLast?.map AuditRecord.hash).getD prev := by
  rcases List.eq_nil_or_concat records with rfl | ⟨init, last, rfl⟩
  · exact (walk_nil_ok_iff.mp h).symm
  rw [List.concat_eq_append] at h
  obtain ⟨t, -, hlast⟩ := walk_append_ok_iff.mp h
  obtain ⟨-, -, hu⟩ := checkLink_ok_iff.mp (walk_singleton_ok_iff.mp hlast)
  simp [hu]

end Chain

/-! ## What the hash covers -/

variable {H : List UInt8 → Digest} {log : AuditLog} {r r' : AuditRecord}

/-- Two events agree in what the hash leaves out. -/
structure AuditEvent.AlikeUncovered (e e' : AuditEvent) : Prop where
  eventType : e.eventType = e'.eventType
  sensitivity : e.sensitivity = e'.sensitivity
  sourceLocation : e.sourceLocation = e'.sourceLocation
  context : e.context = e'.context
  isSome : e.resource.isSome = e'.resource.isSome

lemma content_inj_fixed (h : r.content = r'.content) :
    r.prevHash = r'.prevHash ∧ r.event.timestamp = r'.event.timestamp ∧
      r.event.subject = r'.event.subject ∧
      r.event.resource.elim [] Vector.toList ++ (utf8 r.event.action ++ [r.event.outcome.toU8]) =
        r'.event.resource.elim [] Vector.toList ++
          (utf8 r'.event.action ++ [r'.event.outcome.toU8]) := by
  unfold AuditRecord.content at h
  obtain ⟨h, htail⟩ := List.append_inj h (by simp)
  obtain ⟨h, hsubject⟩ := List.append_inj h (by simp)
  obtain ⟨h, htime⟩ := List.append_inj h (by simp)
  obtain ⟨-, hprev⟩ := List.append_inj h (by simp)
  exact ⟨Vector.toList_inj.mp hprev, toLeBytes_inj htime, Vector.toList_inj.mp hsubject, htail⟩

lemma resource_inj {x x' : Option (Vector UInt8 32)} {s s' : List UInt8}
    (hsome : x.isSome = x'.isSome)
    (h : x.elim [] Vector.toList ++ s = x'.elim [] Vector.toList ++ s') : x = x' ∧ s = s' := by
  cases x with
  | none =>
    obtain rfl : x' = none := Option.not_isSome_iff_eq_none.mp (by simp [← hsome])
    exact ⟨rfl, h⟩
  | some x =>
    obtain ⟨x', rfl⟩ := Option.isSome_iff_exists.mp hsome.symm
    obtain ⟨hx, hs⟩ := List.append_inj h (by simp)
    exact ⟨congrArg some (Vector.toList_inj.mp hx), hs⟩

lemma content_inj (h : r.content = r'.content)
    (halike : r.event.AlikeUncovered r'.event) : r.event = r'.event := by
  obtain ⟨-, htime, hsubject, htail⟩ := content_inj_fixed h
  obtain ⟨hresource, haction⟩ := resource_inj halike.isSome htail
  obtain ⟨haction, houtcome⟩ := List.append_inj' haction rfl
  exact AuditEvent.ext halike.eventType htime hsubject hresource (utf8_inj haction)
    (AccessOutcome.toU8_inj (List.singleton_inj.mp houtcome)) halike.sensitivity
    halike.sourceLocation halike.context

/-! ## Tamper evidence -/

/-- BLAKE3 does not collide on what the records of two logs have hashed. Source: crate `blake3`
(documentation). -/
def AuditLog.CollisionFree (H : List UInt8 → Digest) (log log' : AuditLog) : Prop :=
  ∀ r ∈ log.records, ∀ r' ∈ log'.records, H r.content = H r'.content → r.content = r'.content

lemma same_end_same_content {log' : AuditLog}
    (hvalid : (log.verifyChain H).valid = true) (hvalid' : (log'.verifyChain H).valid = true)
    (hlen : log.records.length = log'.records.length) (hlast : log.lastHash = log'.lastHash)
    (hfree : log.CollisionFree H log') :
    List.Forall₂ (fun r r' => r.content = r'.content) log.records log'.records := by
  obtain ⟨u, hu⟩ := verifyFrom_valid_iff.mp hvalid
  obtain ⟨u', hu'⟩ := verifyFrom_valid_iff.mp hvalid'
  have huu : u' = u := by
    rw [walk_checkLink_end hu, walk_checkLink_end hu']
    exact congrArg (Option.getD · AuditLog.genesisHash) hlast.symm
  rw [huu] at hu'
  refine (walk_backward ?_ hlen hu hu').2
  intro t t' v r r' hr hr' hmem hmem'
  obtain ⟨hprev, hhash, hv⟩ := checkLink_ok_iff.mp hr
  obtain ⟨hprev', hhash', hv'⟩ := checkLink_ok_iff.mp hr'
  have hcontent : r.content = r'.content := by
    apply hfree r hmem r' hmem'
    rw [← hhash, ← hhash', hv, hv']
  refine ⟨?_, hcontent⟩
  rw [← hprev, ← hprev']
  exact (content_inj_fixed hcontent).1

/-- **What the chain vouches for.** Two logs that verify with the same length and the same last hash
hold the same events in the same order exactly when their events agree, one by one, in type,
sensitivity, source location, context and in whether there is a resource. -/
theorem same_events_iff (H : List UInt8 → Digest) (log log' : AuditLog)
    (hvalid : (log.verifyChain H).valid = true) (hvalid' : (log'.verifyChain H).valid = true)
    (hlen : log.records.length = log'.records.length) (hlast : log.lastHash = log'.lastHash)
    (hfree : log.CollisionFree H log') :
    log.events = log'.events ↔ List.Forall₂ AuditEvent.AlikeUncovered log.events log'.events := by
  constructor
  · intro h
    rw [h]
    exact List.forall₂_same.mpr fun e _ => ⟨rfl, rfl, rfl, rfl, rfl⟩
  · intro halike
    have hcontent := same_end_same_content hvalid hvalid' hlen hlast hfree
    unfold events at halike ⊢
    rw [List.forall₂_map_left_iff, List.forall₂_map_right_iff] at halike
    generalize log.records = records at halike hcontent ⊢
    generalize log'.records = records' at halike hcontent ⊢
    induction halike with
    | nil => rfl
    | cons hr _ ih =>
      obtain ⟨hc, hrest⟩ := List.forall₂_cons.mp hcontent
      rw [List.map_cons, List.map_cons, content_inj hc hr, ih hrest]

def login : AuditEvent :=
  ⟨.authentication, 1699999999, Vector.ofFn fun i => UInt8.ofNat i, none, "login", .success, none,
    none, []⟩

def phiRead : AuditEvent :=
  ⟨.access, 1700000000, Vector.ofFn fun i => UInt8.ofNat i, some (Vector.replicate 32 97), "read",
    .success, some .phi, some "10.0.0.7", []⟩

/-- The same bytes under the hash: a system event on public data from elsewhere. -/
def publicSystem : AuditEvent :=
  { phiRead with
    eventType := .system, sensitivity := some .public, sourceLocation := none
    context := [("k", "v")] }

/-- The same bytes under the hash: no resource, and its bytes at the front of the action. -/
def longAction : AuditEvent :=
  { phiRead with resource := none, action := "aaaaaaaaaaaaaaaaaaaaaaaaaaaaaaaaread" }

/-- A log of two records, the second for the event `e`. -/
def loginThen (e : AuditEvent) : AuditLog :=
  (((AuditLog.new none).record Blake3.hash login).2.record Blake3.hash e).2

theorem same_events_iff_sample :
    ((loginThen phiRead).verifyChain Blake3.hash).valid = true ∧
      ((loginThen publicSystem).verifyChain Blake3.hash).valid = true ∧
      ((loginThen phiRead).events = (loginThen publicSystem).events ↔
        List.Forall₂ AuditEvent.AlikeUncovered (loginThen phiRead).events
          (loginThen publicSystem).events) := by
  have hvalid : ((loginThen phiRead).verifyChain Blake3.hash).valid = true := by decide +kernel
  have hvalid' : ((loginThen publicSystem).verifyChain Blake3.hash).valid = true := by
    decide +kernel
  have hlast : (loginThen phiRead).lastHash = (loginThen publicSystem).lastHash := by
    decide +kernel
  refine ⟨hvalid, hvalid', same_events_iff Blake3.hash _ _ hvalid hvalid' rfl hlast ?_⟩
  unfold AuditLog.CollisionFree
  decide +kernel

/-- Rewriting the type, sensitivity, source location and context of an event, or moving its resource
into its action, leaves the log valid with the same length and last hash. -/
theorem event_type_not_covered :
    ((loginThen phiRead).verifyChain Blake3.hash).valid = true ∧
    ∀ e ∈ [publicSystem, longAction],
      ((loginThen e).verifyChain Blake3.hash).valid = true ∧
      (loginThen phiRead).records.length = (loginThen e).records.length ∧
      (loginThen phiRead).lastHash = (loginThen e).lastHash ∧
      (∀ r ∈ (loginThen phiRead).records, ∀ r' ∈ (loginThen e).records,
        Blake3.hash r.content = Blake3.hash r'.content → r.content = r'.content) ∧
      (loginThen phiRead).events ≠ (loginThen e).events := by
  decide +kernel

end AxiomCore
