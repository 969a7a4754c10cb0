import AxiomCore.Gateway.Audit

/-!
# Reading audit entries

A reader for the texts `record` writes, by inverting the serialisation step by step.

- `HashableContent.ofJson_toJson`: the serialised content determines the content. So what an entry's
  hash is taken of (`toVec`) determines every field it covers (`toVec_inj`).
- `lawful_readEntry`: the reader meets what is assumed of `serde_json::from_str`.

Source: `axiom-gateway/src/audit.rs`.
-/

namespace AxiomCore

open Lib List

/-! ## From JSON back -/

def AuditParam.ofJson : Json → Option AuditParam
  | .obj [(_, .str key), (_, .str value), (_, .bool redacted)] => some ⟨key, value, redacted⟩
  | _ => none

def AuditDecision.ofJson : Json → Option AuditDecision
  | .obj [(_, .bool allowed), (_, .str reason)] => some ⟨allowed, reason⟩
  | _ => none

/-- Source: crate `serde_json`, `Deserialize` of `Option<String>`. -/
def readOptText : Json → Option (Option String)
  | .null => some none
  | .str s => some (some s)
  | _ => none

def AuditOutcome.ofJson : Json → Option AuditOutcome
  | .obj [(_, .str status), (_, detail)] =>
    if status = "success" then (readOptText detail).map .success
    else (readOptText detail).bind fun d => d.map .failure
  | _ => none

def readOptOutcome : Json → Option (Option AuditOutcome)
  | .null => some none
  | j => (AuditOutcome.ofJson j).map some

def HashableContent.ofJson : Json → Option HashableContent
  | .obj [(_, .num sequence), (_, .num timestampMs), (_, .str caller), (_, .str capability),
      (_, .str tier), (_, .arr parameters), (_, decision), (_, outcome), (_, .num durationMs),
      (_, intentId), (_, .str prevHash)] => do
      let parameters ← parameters.mapM AuditParam.ofJson
      let decision ← AuditDecision.ofJson decision
      let outcome ← readOptOutcome outcome
      let intentId ← readOptText intentId
      some
        { sequence := UInt64.ofNat sequence
          timestampMs := UInt64.ofNat timestampMs
          caller, capability, tier, parameters, decision, outcome
          durationMs := UInt64.ofNat durationMs
          intentId, prevHash }
  | _ => none

def AuditEntry.ofJson : Json → Option AuditEntry
  | .obj fields =>
    match fields.getLast? with
    | some (_, .str entryHash) =>
      (HashableContent.ofJson (.obj fields.dropLast)).map fun c => ⟨c, entryHash⟩
    | _ => none
  | _ => none

@[simp] lemma AuditParam.ofJson_toJson (p : AuditParam) :
    AuditParam.ofJson p.toJson = some p := rfl

@[simp] lemma AuditDecision.ofJson_toJson (d : AuditDecision) :
    AuditDecision.ofJson d.toJson = some d := rfl

@[simp] lemma readOptText_optText (s : Option String) : readOptText (optText s) = some s := by
  cases s <;> rfl

@[simp] lemma readOptOutcome_optOutcome (o : Option AuditOutcome) :
    readOptOutcome (optOutcome o) = some o := by
  rcases o with _ | detail | detail
  · rfl
  · simp [optOutcome, AuditOutcome.toJson, readOptOutcome, AuditOutcome.ofJson]
  · simp [optOutcome, AuditOutcome.toJson, readOptOutcome, AuditOutcome.ofJson, readOptText]

lemma mapM_ofJson_toJson (ps : List AuditParam) :
    (ps.map AuditParam.toJson).mapM AuditParam.ofJson = some ps := by
  induction ps with
  | nil => rfl
  | cons p ps ih => simp [ih]

lemma HashableContent.ofJson_toJson (c : HashableContent) :
    HashableContent.ofJson c.toJson = some c := by
  simp [HashableContent.toJson, HashableContent.laterFields, HashableContent.ofJson,
    mapM_ofJson_toJson, -mapM_map]

lemma AuditEntry.ofJson_toJson (e : AuditEntry) : AuditEntry.ofJson e.toJson = some e := by
  have hdrop : (("sequence", Json.num e.sequence.toNat) ::
      (e.toHashableContent.laterFields ++ [("entry_hash", Json.str e.entryHash)])).dropLast =
      ("sequence", Json.num e.sequence.toNat) :: e.toHashableContent.laterFields := by
    rw [← cons_append, dropLast_concat]
  have hlast : (("sequence", Json.num e.sequence.toNat) ::
      (e.toHashableContent.laterFields ++ [("entry_hash", Json.str e.entryHash)])).getLast? =
      some ("entry_hash", Json.str e.entryHash) := by
    rw [← cons_append, getLast?_concat]
  have hcontent := HashableContent.ofJson_toJson e.toHashableContent
  rw [HashableContent.toJson] at hcontent
  simp only [AuditEntry.toJson, AuditEntry.ofJson, hlast, hdrop, hcontent, Option.map_some]

lemma toVec_inj {c c' : HashableContent} (h : c.toVec = c'.toVec) : c = c' := by
  have hchars : String.ofList c.toJson.render = String.ofList c'.toJson.render := by
    apply utf8_inj
    rw [utf8_eq_flatMap, utf8_eq_flatMap, String.toList_ofList, String.toList_ofList]
    exact h
  have hjson : c.toJson = c'.toJson := render_inj (String.ofList_injective hchars)
  have hc := HashableContent.ofJson_toJson c
  rw [hjson, HashableContent.ofJson_toJson] at hc
  exact (Option.some.inj hc).symm

/-! ## A reader -/

/-- Read a text exactly as `record` writes it. -/
def readEntry (s : String) : Except String AuditEntry :=
  match (read s.toList.length s.toList).bind fun p => AuditEntry.ofJson p.1 with
  | none => .error "not an entry"
  | some e => if e.toText = s then .ok e else .error "not as written"

lemma lawful_readEntry : LawfulFromStr readEntry where
  read_written e := by
    have hread := read_render e.toJson (s := []) (le_refl _) (by simp [Delimited])
    rw [append_nil] at hread
    have hlist : e.toText.toList = e.toJson.render := String.toList_ofList
    simp only [readEntry, hlist, hread, Option.bind_some, AuditEntry.ofJson_toJson, if_true]
  container s e h := by
    unfold readEntry at h
    split at h
    · exact absurd h (by simp)
    split_ifs at h with htext
    rw [← htext, AuditEntry.toText, String.toList_ofList]
    exact shape_rendered_record _

/-! ## Sample data -/

/-- What the kill switch logs when an admin freezes the node, as entry `sequence` behind `prev`. -/
def sampleContent (sequence : UInt64) (prev : Digest) : HashableContent where
  sequence := sequence
  timestampMs := 1700000000000
  caller := "local-admin"
  capability := "kill_switch_freeze"
  tier := "admin"
  parameters := []
  decision :=
    ⟨true, "local admin action 'kill_switch_freeze' via forge-node's control socket " ++
      "(physical/SSH access to the box is the authentication boundary)"⟩
  outcome := some (.success (some "all Tier1+ execution frozen"))
  durationMs := 1
  intentId := none
  prevHash := hexEncode prev.toList

/-- BLAKE3 of the first three such entries in a row. -/
def sampleDigest : Nat → Digest
  | 0 => hex 32 0x85bced796783287f6e828e4cf5d3c557a594f182dd59042d254700ebb74dc1b6
  | 1 => hex 32 0x7a2ace6e42309c4eddce5744f6d9b6248a4387f71db799956016d2744d3ba16b
  | _ => hex 32 0x62b73d98b3259fb4a15dde7bfcc75b81806aacba965dbc0c490033f1f15a4990

def sampleAudit : AuditExternals where
  blake3 input :=
    if input = (sampleContent 0 genesisHash).toVec then sampleDigest 0
    else if input = (sampleContent 1 (sampleDigest 0)).toVec then sampleDigest 1
    else if input = (sampleContent 2 (sampleDigest 1)).toVec then sampleDigest 2
    else Vector.replicate 32 0
  fromStr := readEntry
  formatConstraintValue _ := ""

def sampleCall : LogCall :=
  .admin "kill_switch_freeze" (some "all Tier1+ execution frozen") 1000000

def sampleArgs : RecordArgs :=
  adminArgs "kill_switch_freeze" (some "all Tier1+ execution frozen") 1000000

def sampleEntry : AuditEntry := sampleArgs.entry sampleAudit ⟨genesisHash, 0⟩ 1700000000000

end AxiomCore
