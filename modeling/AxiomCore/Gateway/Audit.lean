import AxiomCore.Gateway.Approval
import AxiomCore.Lib.JsonShape
import AxiomCore.Lib.Lines
import AxiomCore.Lib.Walk

/-!
# The hash-chained audit log

The audit log is a file of JSON lines. Each entry carries a hash of its own content and the hash of
the entry before it; `verify_chain` walks the file and checks both, and the sequence numbers.
`AuditLog` appends: it keeps the last hash and the next sequence number in memory, writes a line,
syncs, and only then advances.

- `AuditLog.open`, `record` and the three logging calls, on a file that is a list of bytes. What the
  operating system does to a write or a sync is an argument (`IoOutcome`).

Serialisation is modelled in full (`AuditEntry.toText`, `HashableContent.toVec`): `serde_json`
writes compact JSON with the fields in declaration order. Parsing (`serde_json::from_str`), BLAKE3
and the rendering of a parameter value are parameters. `LawfulFromStr` states what is used of the
parser: it reads back what was written, and it accepts no text that is not a JSON container.

Source: `axiom-gateway/src/audit.rs`.
-/

namespace AxiomCore

open Lib

/-! ## Entries -/

structure AuditParam where
  key : String
  /-- Its rendered value, or the redaction marker. -/
  value : String
  /-- Whether the value was kept out of the log. -/
  redacted : Bool

structure AuditDecision where
  allowed : Bool
  reason : String

inductive AuditOutcome where
  | success (detail : Option String)
  | failure (detail : String)

/-- Everything an entry's hash covers: all fields but the hash itself. -/
structure HashableContent where
  sequence : UInt64
  timestampMs : UInt64
  caller : String
  capability : String
  tier : String
  parameters : List AuditParam
  decision : AuditDecision
  outcome : Option AuditOutcome
  durationMs : UInt64
  /-- The Tier 2 intent, in hexadecimal. -/
  intentId : Option String
  /-- Hash of the entry before, in hexadecimal. -/
  prevHash : String

/-- An entry: content and its hash, in hexadecimal. -/
structure AuditEntry extends HashableContent where
  entryHash : String

/-! ## Serialisation -/

/-- An optional text. Source: crate `serde_json`, `Serialize` of `Option<String>`. -/
def optText : Option String → Json
  | none => .null
  | some s => .str s

def AuditParam.toJson (p : AuditParam) : Json :=
  .obj [("key", .str p.key), ("value", .str p.value), ("redacted", .bool p.redacted)]

def AuditDecision.toJson (d : AuditDecision) : Json :=
  .obj [("allowed", .bool d.allowed), ("reason", .str d.reason)]

/-- The variant name is a field `status` in front. -/
def AuditOutcome.toJson : AuditOutcome → Json
  | .success detail => .obj [("status", .str "success"), ("detail", optText detail)]
  | .failure detail => .obj [("status", .str "failure"), ("detail", .str detail)]

def optOutcome : Option AuditOutcome → Json
  | none => .null
  | some o => o.toJson

/-- The fields behind the first, which is `sequence`. -/
def HashableContent.laterFields (c : HashableContent) : List (String × Json) :=
  [("timestamp_ms", .num c.timestampMs.toNat), ("caller", .str c.caller),
    ("capability", .str c.capability), ("tier", .str c.tier),
    ("parameters", .arr (c.parameters.map AuditParam.toJson)), ("decision", c.decision.toJson),
    ("outcome", optOutcome c.outcome), ("duration_ms", .num c.durationMs.toNat),
    ("intent_id", optText c.intentId), ("prev_hash", .str c.prevHash)]

def HashableContent.toJson (c : HashableContent) : Json :=
  .obj (("sequence", .num c.sequence.toNat) :: c.laterFields)

def AuditEntry.toJson (e : AuditEntry) : Json :=
  .obj (("sequence", .num e.sequence.toNat) ::
    (e.toHashableContent.laterFields ++ [("entry_hash", .str e.entryHash)]))

/-- `serde_json::to_vec(&hashable)`. -/
def HashableContent.toVec (c : HashableContent) : List UInt8 := charBytes c.toJson.render

/-- `serde_json::to_string(&entry)`. -/
def AuditEntry.toText (e : AuditEntry) : String := String.ofList e.toJson.render

/-! ## Verification -/

/-- Library functions the audit log calls whose bodies are not part of the repository, and the
rendering of a parameter value (Rust's `Debug` and `Display`), on which nothing depends. Source:
crates `blake3` and `serde_json`; `axiom-gateway/src/approval.rs`, `format_constraint_value`. -/
structure AuditExternals where
  blake3 : List UInt8 → Digest
  fromStr : String → Except String AuditEntry
  formatConstraintValue : ConstraintValue → String

/-- What is used of `serde_json::from_str`: it reads back what `to_string` wrote, and what it reads
as an entry is, lexically, one JSON array or object. Source: crate `serde_json` (documentation); RFC
8259 grammar. -/
structure LawfulFromStr (fromStr : String → Except String AuditEntry) : Prop where
  read_written : ∀ e : AuditEntry, fromStr e.toText = .ok e
  container : ∀ s e, fromStr s = .ok e → shape .start s.toList = .done

def genesisHash : Digest := Vector.replicate 32 0

def recomputeEntryHash (A : AuditExternals) (c : HashableContent) : Digest := A.blake3 c.toVec

def decodeHash (s : String) : Option Digest :=
  match hexDecode s with
  | none => none
  | some bs => if h : bs.length = 32 then some ⟨bs.toArray, by simpa using h⟩ else none

inductive AuditChainBreak where
  | corruptEntry (index : UInt64) (detail : String)
  | contentTampered (index : UInt64)
  /-- The entry does not follow the one before. -/
  | chainLinkBroken (index : UInt64) (expectedPrev foundPrev : String)
  /-- The sequence number is not the next one. -/
  | sequenceGap (index expected found : UInt64)

structure ChainState where
  entries : UInt64
  lastHash : Digest

def ChainState.initial : ChainState := ⟨0, genesisHash⟩

def parseLine (A : AuditExternals) (index : UInt64) (line : List UInt8) :
    Except AuditChainBreak AuditEntry :=
  match ofUtf8 line with
  | none =>
    .error (.corruptEntry index "I/O error reading line: stream did not contain valid UTF-8")
  | some text =>
    match A.fromStr text with
    | .error e => .error (.corruptEntry index ("not a complete/valid audit entry: " ++ e))
    | .ok entry => .ok entry

def checkEntry (A : AuditExternals) (s : ChainState) (entry : AuditEntry) :
    Except AuditChainBreak ChainState :=
  match decodeHash entry.entryHash with
  | none => .error (.corruptEntry s.entries "entry_hash is not valid 64-char hex")
  | some recorded =>
    if recomputeEntryHash A entry.toHashableContent ≠ recorded then
      .error (.contentTampered s.entries)
    else
      match decodeHash entry.prevHash with
      | none => .error (.corruptEntry s.entries "prev_hash is not valid 64-char hex")
      | some found =>
        if found ≠ s.lastHash then
          .error (.chainLinkBroken s.entries (hexEncode s.lastHash.toList) entry.prevHash)
        else if entry.sequence ≠ s.entries then
          .error (.sequenceGap s.entries s.entries entry.sequence)
        else .ok ⟨s.entries + 1, recorded⟩

def verifyLine (A : AuditExternals) (s : ChainState) (line : List UInt8) :
    Except AuditChainBreak ChainState :=
  match parseLine A s.entries line with
  | .error e => .error e
  | .ok entry => checkEntry A s entry

/-- `verify_chain` on a file's bytes; a file that does not exist verifies as an empty one. -/
def verifyChain (A : AuditExternals) (file : List UInt8) : Except AuditChainBreak ChainState :=
  walk (verifyLine A) .initial (lines file)

def entriesOf (A : AuditExternals) (file : List UInt8) : List AuditEntry :=
  (lines file).filterMap fun line => (parseLine A 0 line).toOption

/-! ## Appending -/

/-- Source: `AuditLogError`. `Serialize` is left out: the derived serialiser of an entry cannot
fail. -/
inductive AuditLogError where
  /-- The operating system refused a write or a sync. -/
  | io
  | existingLogCorrupt (b : AuditChainBreak)
  /-- The intent is not settled yet. -/
  | notTerminal

structure WriterState where
  /-- Hash of the last entry, as far as the writer knows. -/
  lastHash : Digest
  nextSequence : UInt64

def openLog (A : AuditExternals) (file : List UInt8) : Except AuditLogError WriterState :=
  match verifyChain A file with
  | .error b => .error (.existingLogCorrupt b)
  | .ok s => .ok ⟨s.lastHash, s.entries⟩

/-- The names that keep a value out of the log. -/
def sensitiveParamKeyMarkers : List String :=
  ["password", "passwd", "secret", "token", "credential", "cred", "api_key", "apikey",
    "private_key", "privatekey", "access_key", "auth", "pin", "ssn"]

def isSensitiveParamKey (key : String) : Bool :=
  sensitiveParamKeyMarkers.any fun marker =>
    decide (marker.toList <:+: key.toList.map Char.toLower)

def AuditParam.fromConstraint (A : AuditExternals) (c : Constraint) : AuditParam :=
  let redacted := isSensitiveParamKey c.key
  { key := c.key
    value := if redacted then "[REDACTED]" else A.formatConstraintValue c.value
    redacted := redacted }

/-- The arguments of `AuditLog::record`. Durations are nanoseconds. -/
structure RecordArgs where
  caller : String
  capability : String
  tier : String
  parameters : List Constraint
  decision : AuditDecision
  outcome : Option AuditOutcome
  duration : Nat
  intentId : Option String

def RecordArgs.content (A : AuditExternals) (args : RecordArgs) (w : WriterState)
    (nowMs : UInt64) : HashableContent where
  sequence := w.nextSequence
  timestampMs := nowMs
  caller := args.caller
  capability := args.capability
  tier := args.tier
  parameters := args.parameters.map (AuditParam.fromConstraint A)
  decision := args.decision
  outcome := args.outcome
  durationMs := UInt64.ofNat (args.duration / 10 ^ 6)
  intentId := args.intentId
  prevHash := hexEncode w.lastHash.toList

def RecordArgs.entry (A : AuditExternals) (args : RecordArgs) (w : WriterState) (nowMs : UInt64) :
    AuditEntry where
  toHashableContent := args.content A w nowMs
  entryHash := hexEncode (recomputeEntryHash A (args.content A w nowMs)).toList

/-- The bytes of a line with its newline: `writeln!(state.file, "{line}")`. -/
def AuditEntry.line (e : AuditEntry) : List UInt8 := utf8 e.toText ++ [10]

def WriterState.advance (A : AuditExternals) (w : WriterState) (e : AuditEntry) : WriterState :=
  ⟨recomputeEntryHash A e.toHashableContent, w.nextSequence + 1⟩

/-- What the operating system does to one append. -/
inductive IoOutcome where
  /-- The line is written and synced. -/
  | done
  /-- The write fails after this many bytes of the line have reached the file. -/
  | writeFails (written : Nat)
  /-- The line is written, `sync_all` fails. -/
  | syncFails
  deriving DecidableEq

/-- What a logging call returns and leaves behind. -/
structure LogResult where
  result : Except AuditLogError Unit
  file : List UInt8
  writer : WriterState

def record (A : AuditExternals) (w : WriterState) (file : List UInt8) (args : RecordArgs)
    (nowMs : UInt64) (io : IoOutcome) : LogResult :=
  let entry := args.entry A w nowMs
  match io with
  | .writeFails written => ⟨.error .io, file ++ entry.line.take written, w⟩
  | .syncFails => ⟨.error .io, file ++ entry.line, w⟩
  | .done => ⟨.ok (), file ++ entry.line, w.advance A entry⟩

/-! ## The logging calls -/

inductive LogCall where
  | tier1 (caller : NodeId) (capability : String) (parameters : List Constraint)
      (outcome : Except String (Option String)) (duration : Nat)
  /-- `log_tier2_linked_record`, at instant `now`. -/
  | tier2 (record : LinkedRecord) (now : Nat)
  | admin (action : String) (detail : Option String) (duration : Nat)

def tier1Args (caller : NodeId) (capability : String) (parameters : List Constraint)
    (outcome : Except String (Option String)) (duration : Nat) : RecordArgs where
  caller := hexEncode caller.bytes.toList
  capability := capability
  tier := Tier.tier1.asStr
  parameters := parameters
  decision :=
    ⟨true, "capability policy allowlist/rate-limit/concurrency check already passed; Tier 1 " ++
      "requires mandatory full-context audit logging on every call, with no separate " ++
      "approval gate"⟩
  outcome := some <|
    match outcome with
    | .ok detail => .success detail
    | .error detail => .failure detail
  duration := duration
  intentId := none

def adminArgs (action : String) (detail : Option String) (duration : Nat) : RecordArgs where
  caller := "local-admin"
  capability := action
  tier := "admin"
  parameters := []
  decision :=
    ⟨true, "local admin action '" ++ action ++ "' via forge-node's control socket " ++
      "(physical/SSH access to the box is the authentication boundary)"⟩
  outcome := some (.success detail)
  duration := duration
  intentId := none

def LinkedRecord.channelName (r : LinkedRecord) : String :=
  (r.decision.map (·.channelName)).getD "unknown channel"

def tier2Verdict (r : LinkedRecord) (now : Nat) :
    Except AuditLogError (AuditDecision × Option AuditOutcome × Nat) :=
  match r.status with
  | .pending | .inProgress => .error .notTerminal
  | .denied => .ok (⟨false, "denied by " ++ r.channelName⟩, none, now - r.intent.submittedAt)
  | .expired =>
    .ok (⟨false, "expired before an approval decision was reached"⟩, none,
      now - r.intent.submittedAt)
  | .parameterHashMismatch =>
    .ok (⟨false, "parameters drifted from the hash captured at proposal time - rejected " ++
      "rather than approved against parameters that no longer match what was " ++
      "hashed"⟩, none, now - r.intent.submittedAt)
  | .executed | .executionFailed =>
    match r.execution with
    | none => .error .notTerminal
    | some execution =>
      let outcome : AuditOutcome :=
        match execution.outcome with
        | .ok detail => .success (some detail)
        | .error detail => .failure detail
      .ok (⟨true, "approved by " ++ r.channelName⟩, some outcome,
        execution.executedAt - r.intent.submittedAt)

def tier2Args (r : LinkedRecord) (now : Nat) : Except AuditLogError RecordArgs :=
  match tier2Verdict r now with
  | .error e => .error e
  | .ok (decision, outcome, duration) =>
    .ok
      { caller := hexEncode r.intent.proposer.bytes.toList
        capability := r.intent.capability
        tier := Tier.tier2.asStr
        parameters := r.intent.parameters
        decision := decision
        outcome := outcome
        duration := duration
        intentId := some (hexEncode r.intent.id.bytes.toList) }

def LogCall.args : LogCall → Except AuditLogError RecordArgs
  | .tier1 caller capability parameters outcome duration =>
    .ok (tier1Args caller capability parameters outcome duration)
  | .tier2 record now => tier2Args record now
  | .admin action detail duration => .ok (adminArgs action detail duration)

def logCall (A : AuditExternals) (w : WriterState) (file : List UInt8) (call : LogCall)
    (nowMs : UInt64) (io : IoOutcome) : LogResult :=
  match call.args with
  | .error e => ⟨.error e, file, w⟩
  | .ok args => record A w file args nowMs io

end AxiomCore
