import AxiomCore.Crypto.IntentHash
import AxiomCore.Lib.Hex
import AxiomCore.Lib.Scan
import AxiomCore.Lib.Text

/-!
# The capability policy

The parsed policy file and the checks made on the parameters of an intent: the scan for protected
devices and the per-capability denylist. The gate every capability call passes is in `Gate`.

A `CapabilityPolicy` is what the checks read of a policy that has been loaded (`PolicyLoad`).

Source: `axiom-gateway/src/policy.rs`.
-/

namespace AxiomCore

open Lib

/-- Library functions the gateway calls whose bodies are not part of the repository: BLAKE3, and
Unicode lower-casing (`str::to_lowercase`). Source: crate `blake3`; Rust standard library. -/
structure Externals where
  blake3 : List UInt8 → Digest
  toLowercase : String → String

/-! ## Policy data -/

inductive Tier where
  /-- Read-only, no external target. -/
  | tier0
  /-- Acts at once, under policy. -/
  | tier1
  /-- Acts only after a human approved the very intent. -/
  | tier2
  deriving DecidableEq

def Tier.asStr : Tier → String
  | .tier0 => "tier0"
  | .tier1 => "tier1"
  | .tier2 => "tier2"

/-- A six-byte MAC address. Source: `[u8; 6]` in `axiom-gateway/src/policy.rs`. -/
abbrev Mac := Vector UInt8 6

/-- `format_mac`: lower-case, colon-separated. -/
def formatMac (mac : Mac) : String :=
  String.ofList (List.intercalate [':'] (mac.toList.map hexPair))

/-- A protected device. Its fields are private to the module and `ProtectedResource::new` is the
only constructor, so the display form is always that of the bytes. -/
structure ProtectedResource where
  name : Option String
  mac : Mac
  /-- Display form, computed once at load time. -/
  macDisplay : String
  /-- Secondary, informational address. -/
  ip : Option String
  macDisplay_eq : macDisplay = formatMac mac

/-- One capability's policy entry, without its semaphore (see `GateState.permits`). -/
structure CapabilityEntry where
  /-- Allowed peers, each with an optional expiry in unix seconds. -/
  allowedPeers : NodeId → Option (Option Nat)
  /-- Least gap between two served requests of one peer. -/
  rateLimit : Nat
  /-- Permits the entry's semaphore is created with. -/
  concurrency : Nat
  tier : Tier
  /-- Lower-cased patterns no parameter may contain. -/
  deniedParamSubstrings : List String

/-- A loaded policy, without its mutable parts (see `GateState`). -/
structure CapabilityPolicy where
  entries : String → Option CapabilityEntry
  /-- The protected-resource section, if the file has one. -/
  protectedResources : Option (List ProtectedResource)

/-! ## Scanning for addresses -/

/-- `parse_mac_window` on a 17-byte window: two hex digits per octet, one separator throughout. -/
def parseMacWindow (w : List UInt8) : Option Mac :=
  let sep := w.getD 2 0
  if sep ≠ 58 ∧ sep ≠ 45 then none
  else
    let octet (i : Nat) : Option UInt8 :=
      if i < 5 ∧ w.getD (3 * i + 2) 0 ≠ sep then none
      else do
        let hi ← hexVal (w.getD (3 * i) 0)
        let lo ← hexVal (w.getD (3 * i + 1) 0)
        some ((hi <<< 4) ||| lo)
    do
      let o0 ← octet 0
      let o1 ← octet 1
      let o2 ← octet 2
      let o3 ← octet 3
      let o4 ← octet 4
      let o5 ← octet 5
      some #v[o0, o1, o2, o3, o4, o5]

def macWidth : Nat := 17

/-- `scan_mac_candidates`: slide a 17-byte window; a hit is reported and stepped over whole. -/
def scanMacCandidates (haystack : String) : List Mac :=
  scanSkip macWidth parseMacWindow 0 (utf8 haystack)

def stripWhitespace (haystack : String) : String :=
  String.ofList (haystack.toList.filter fun c => !isWhitespace c)

/-- The scan `find_protected_match` uses: the text as written, then, if that differs, the text
without its whitespace. -/
def scanMacCandidatesIncludingWhitespaceObfuscated (haystack : String) : List Mac :=
  let stripped := stripWhitespace haystack
  if stripped ≠ haystack then scanMacCandidates haystack ++ scanMacCandidates stripped
  else scanMacCandidates haystack

/-- The maximal runs of digits and dots that start with a digit; `run` is the current one. -/
def ipv4Tokens : List Char → List Char → List (List Char)
  | run, [] => if run = [] then [] else [run]
  | run, c :: cs =>
    if run = [] then
      if c.isDigit then ipv4Tokens [c] cs else ipv4Tokens [] cs
    else if c.isDigit || c = '.' then ipv4Tokens (run ++ [c]) cs
    else run :: ipv4Tokens [] cs

/-- `str::parse::<u16>` on a text of digits, before the range check of the caller. Source: Rust
standard library, `u16::from_str`. -/
def decimalValue (p : List Char) : Option Nat :=
  if p ≠ [] ∧ p.all Char.isDigit then
    some (p.foldl (fun n c => 10 * n + (c.toNat - 48)) 0)
  else none

/-- `is_ipv4_shaped`: four dot-separated parts of at most three digits, each at most 255. -/
def isIpv4Shaped (token : List Char) : Bool :=
  let parts := token.splitOn '.'
  parts.length == 4 && parts.all fun p =>
    p.length ≤ 3 && (decimalValue p).any (· ≤ 255)

def scanIpv4Candidates (haystack : String) : List String :=
  ((ipv4Tokens [] haystack.toList).filter isIpv4Shaped).map String.ofList

/-- `scannable_strings`: the texts inside a value. -/
def scannableStrings : ConstraintValue → List String
  | .string s => [s]
  | .oneOf values => values
  | .int _ | .float _ | .bool _ | .range _ _ => []

/-! ## Matching against the policy -/

/-- What `find_protected_match` reports. -/
structure ProtectedMatch where
  resourceName : Option String
  resourceMac : String
  resourceIp : Option String
  matchedValue : String
  parameterKey : String

namespace CapabilityPolicy

variable (policy : CapabilityPolicy)

def protectedList : List ProtectedResource := policy.protectedResources.getD []

def protectedResourcesConfigured : Bool := policy.protectedResources.isSome

/-- The match reported for a device found as `matched` in the parameter `key`. -/
def matchOf (key matched : String) (pr : ProtectedResource) : ProtectedMatch where
  resourceName := pr.name
  resourceMac := pr.macDisplay
  resourceIp := pr.ip
  matchedValue := matched
  parameterKey := key

/-- The body of the two outer loops of `find_protected_match`: MACs before IPs in one text. -/
def matchText (key text : String) : Option ProtectedMatch :=
  let protected_ := policy.protectedList
  ((scanMacCandidatesIncludingWhitespaceObfuscated text).findSome? fun mac =>
      (protected_.find? fun p => p.mac = mac).map (matchOf key (formatMac mac))).or
    ((scanIpv4Candidates text).findSome? fun ip =>
      (protected_.find? fun p => p.ip = some ip).map (matchOf key ip))

/-- `find_protected_match`: the first protected device some parameter refers to. -/
def findProtectedMatch (parameters : List Constraint) : Option ProtectedMatch :=
  if policy.protectedList.isEmpty then none
  else
    parameters.findSome? fun c =>
      (scannableStrings c.value).findSome? fun text => policy.matchText c.key text

/-- `check_denied_param_substrings`: the first denied pattern some parameter contains. -/
def checkDeniedParamSubstrings (X : Externals) (capability : String)
    (parameters : List Constraint) : Option String := do
  let entry ← policy.entries capability
  if entry.deniedParamSubstrings.isEmpty then none
  else
    parameters.findSome? fun c =>
      (scannableStrings c.value).findSome? fun text =>
        (entry.deniedParamSubstrings.find? fun pattern =>
          decide (pattern.toList <:+: (X.toLowercase text).toList)).map fun pattern =>
            "parameter '" ++ c.key ++ "' value matches denied pattern '" ++ pattern ++
              "' configured for capability '" ++ capability ++ "'"

def tier (capability : String) : Option Tier := (policy.entries capability).map (·.tier)

end CapabilityPolicy

end AxiomCore
