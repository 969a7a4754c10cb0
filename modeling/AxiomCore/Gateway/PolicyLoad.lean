import Mathlib.Data.List.AList
import AxiomCore.Gateway.Gate
import AxiomCore.Gateway.MacParse
import AxiomCore.Lib.Run

/-!
# Loading the capability policy

`CapabilityPolicy::load` reads the policy file once, when the node starts. It is meant to fail
closed: a file that cannot be used gives a policy that denies everything, an entry that cannot be
used is left out, and the node runs on.

- `tryLoad`, `load`: the file becomes a `LoadedPolicy`, the tables of which the functions of
  `Policy` and `Gate` read through `LoadedPolicy.policy`. `none` is a panic: `Semaphore::new` has
  one.
- `allows`, `capabilitySummary`: the two readers that only report.
- `load_isSome_iff`: the load panics if an entry that is registered asks for more permits than a
  semaphore can have.

The TOML parser is a parameter, a map from the text to the raw tables.

Source: `axiom-gateway/src/policy.rs`.
-/

namespace AxiomCore

open Lib List

/-! ## The raw file -/

inductive RawAllowedPeer where
  | bare (peer : String)
  | withExpiry (peer : String) (expires : Option UInt64)

namespace RawAllowedPeer

def peerStr : RawAllowedPeer → String
  | bare peer => peer
  | withExpiry peer _ => peer

def expires : RawAllowedPeer → Option UInt64
  | bare _ => none
  | withExpiry _ expires => expires

/-- 64 hexadecimal digits. -/
def nodeId (raw : RawAllowedPeer) : Option NodeId :=
  (hexDecode raw.peerStr).bind fun bytes =>
    if bytes.length = 32 then some ⟨takeVec 32 bytes⟩ else none

end RawAllowedPeer

structure RawCapabilityEntry where
  allowedPeers : List RawAllowedPeer
  rateLimitSecs : UInt64
  concurrency : UInt64
  tier : Option String
  deniedParamSubstrings : List String

structure RawProtectedResource where
  name : Option String
  mac : String
  ip : Option String

structure RawPolicyFile where
  version : UInt32
  capability : AList fun _ : String => RawCapabilityEntry
  /-- `none` if the file has no such key. -/
  protectedResource : Option (List RawProtectedResource)

/-! ## The loaded policy -/

structure LoadedEntry where
  allowedPeers : AList fun _ : NodeId => Option UInt64
  rateLimitSecs : UInt64
  concurrency : UInt64
  tier : Tier
  deniedParamSubstrings : List String

structure LoadedPolicy where
  entries : AList fun _ : String => LoadedEntry
  protectedResources : Option (List ProtectedResource)

def LoadedEntry.peers (e : LoadedEntry) (peer : NodeId) : Option (Option Nat) :=
  (e.allowedPeers.lookup peer).map (Option.map UInt64.toNat)

def LoadedEntry.entry (e : LoadedEntry) : CapabilityEntry where
  allowedPeers := e.peers
  rateLimit := e.rateLimitSecs.toNat * 10 ^ 9
  concurrency := e.concurrency.toNat
  tier := e.tier
  deniedParamSubstrings := e.deniedParamSubstrings

def LoadedPolicy.policy (l : LoadedPolicy) : CapabilityPolicy where
  entries capability := (l.entries.lookup capability).map LoadedEntry.entry
  protectedResources := l.protectedResources

def policySchemaVersion : UInt32 := 2

def Tier.fromTomlStr : String → Option Tier
  | "tier0" => some .tier0
  | "tier1" => some .tier1
  | "tier2" => some .tier2
  | _ => none

/-- `Semaphore::MAX_PERMITS`, that is `usize::MAX >> 3`. Source: crate `tokio`. -/
def maxPermits : Nat := 2 ^ 61 - 1

/-- `Semaphore::new`: more permits than that are a panic. -/
def semaphoreNew (permits : UInt64) : Option UInt64 :=
  if permits.toNat ≤ maxPermits then some permits else none

def loadPeers (raws : List RawAllowedPeer) : AList fun _ : NodeId => Option UInt64 :=
  raws.foldl (fun peers raw =>
    match raw.nodeId with
    | some peer => peers.insert peer raw.expires
    | none => peers) ∅

def loadEntry (X : Externals) (configured : Bool) (raw : RawCapabilityEntry) :
    Option (Option LoadedEntry) :=
  match raw.tier.bind Tier.fromTomlStr with
  | none => some none
  | some tier =>
    if tier ≠ .tier0 ∧ configured = false then some none
    else (semaphoreNew raw.concurrency).map fun permits => some
      { allowedPeers := loadPeers raw.allowedPeers
        rateLimitSecs := raw.rateLimitSecs
        concurrency := permits
        tier
        deniedParamSubstrings := raw.deniedParamSubstrings.map X.toLowercase }

def loadEntries (X : Externals) (configured : Bool) :
    List (Σ _ : String, RawCapabilityEntry) → (AList fun _ : String => LoadedEntry) →
      Option (AList fun _ : String => LoadedEntry)
  | [], entries => some entries
  | ⟨name, raw⟩ :: rest, entries => do
    match ← loadEntry X configured raw with
    | none => loadEntries X configured rest entries
    | some entry => loadEntries X configured rest (entries.insert name entry)

inductive LoadError where
  | unreadable
  | notToml
  | version (declared : UInt32)

/-- `contents` is `none` if the file cannot be read. -/
def tryLoad (X : Externals) (fromStr : String → Option RawPolicyFile) (contents : Option String) :
    Option (Except LoadError LoadedPolicy) :=
  match contents with
  | none => some (.error .unreadable)
  | some text =>
    match fromStr text with
    | none => some (.error .notToml)
    | some raw =>
      if raw.version ≠ policySchemaVersion then some (.error (.version raw.version))
      else
        let protectedResources := raw.protectedResource.map fun list =>
          list.filterMap fun pr => ProtectedResource.new pr.name pr.mac pr.ip
        (loadEntries X protectedResources.isSome raw.capability.entries ∅).map fun entries =>
          .ok ⟨entries, protectedResources⟩

namespace LoadedPolicy

def denyAll : LoadedPolicy := ⟨∅, none⟩

def load (X : Externals) (fromStr : String → Option RawPolicyFile) (contents : Option String) :
    Option LoadedPolicy :=
  (tryLoad X fromStr contents).map fun
    | .ok policy => policy
    | .error _ => denyAll

def allows (l : LoadedPolicy) (capability : String) (identity : NodeId) (nowSecs : Nat) : Bool :=
  (l.entries.lookup capability).any fun entry => peerCurrentlyAllowed entry.peers identity nowSecs

end LoadedPolicy

open LoadedPolicy

structure CapabilitySummary where
  tier : Tier
  rateLimitSecs : UInt64
  concurrency : UInt64
  allowedPeers : List (String × Option UInt64)

/-- The unexpired peers in hexadecimal, sorted by that. -/
def LoadedPolicy.capabilitySummary (l : LoadedPolicy) (capability : String) (nowSecs : Nat) :
    Option CapabilitySummary :=
  (l.entries.lookup capability).map fun entry =>
    { tier := entry.tier
      rateLimitSecs := entry.rateLimitSecs
      concurrency := entry.concurrency
      allowedPeers :=
        ((entry.allowedPeers.entries.filter fun p => p.2.all fun e => nowSecs < e.toNat).map
          fun p => (hexEncode p.1.bytes.toList, p.2)).insertionSort fun a b => a.1 ≤ b.1 }

/-! ## What the file says -/

def Accepts (fromStr : String → Option RawPolicyFile) (contents : Option String)
    (raw : RawPolicyFile) : Prop :=
  contents.bind fromStr = some raw ∧ raw.version = policySchemaVersion

/-- The entry has a valid tier, and the file a protected section unless the tier is 0. -/
structure Valid (configured : Bool) (entry : RawCapabilityEntry) : Prop where
  tier : entry.tier = some "tier0" ∨ entry.tier = some "tier1" ∨ entry.tier = some "tier2"
  resources : entry.tier ≠ some "tier0" → configured

def Registers (raw : RawPolicyFile) (capability : String) (entry : RawCapabilityEntry) : Prop :=
  raw.capability.lookup capability = some entry ∧ Valid raw.protectedResource.isSome entry

/-- The last element of `allowed_peers` that decodes to the peer is not expired. -/
def Lists (entry : RawCapabilityEntry) (peer : NodeId) (nowSecs : Nat) : Prop :=
  ∃ before raw after, entry.allowedPeers = before ++ raw :: after ∧ raw.nodeId = some peer ∧
    (∀ later ∈ after, later.nodeId ≠ some peer) ∧ ∀ e, raw.expires = some e → nowSecs < e.toNat

/-- **The file grants the capability to the peer.** -/
def Grants (fromStr : String → Option RawPolicyFile) (contents : Option String)
    (capability : String) (peer : NodeId) (nowSecs : Nat) : Prop :=
  ∃ raw, Accepts fromStr contents raw ∧ ∃ entry, Registers raw capability entry ∧
    Lists entry peer nowSecs

/-- **Some capability that would be registered asks for too many permits.** -/
def Overloads (fromStr : String → Option RawPolicyFile) (contents : Option String) : Prop :=
  ∃ raw, Accepts fromStr contents raw ∧ ∃ capability entry, Registers raw capability entry ∧
    maxPermits < entry.concurrency.toNat

/-! ## The loops -/

section Load

variable {X : Externals} {fromStr : String → Option RawPolicyFile} {contents : Option String}
  {configured : Bool} {raw : RawCapabilityEntry} {file : RawPolicyFile} {capability : String}
  {peer : NodeId} {nowSecs : Nat} {policy : LoadedPolicy}

lemma loadPeers_concat (raws : List RawAllowedPeer) (last : RawAllowedPeer) :
    loadPeers (raws ++ [last]) =
      match last.nodeId with
      | some peer => (loadPeers raws).insert peer last.expires
      | none => loadPeers raws := by
  rw [loadPeers, foldl_append]
  rfl

lemma lookup_loadPeers {raws : List RawAllowedPeer} {expires : Option UInt64} :
    (loadPeers raws).lookup peer = some expires ↔
      ∃ before last after, raws = before ++ last :: after ∧ last.nodeId = some peer ∧
        (∀ later ∈ after, later.nodeId ≠ some peer) ∧ last.expires = expires := by
  induction raws using List.reverseRecOn with
  | nil => simp [loadPeers]
  | append_singleton raws new ih =>
    have hsplit : (∃ before last after, raws ++ [new] = before ++ last :: after ∧
        last.nodeId = some peer ∧ (∀ later ∈ after, later.nodeId ≠ some peer) ∧
          last.expires = expires) ↔
        (new.nodeId = some peer ∧ new.expires = expires) ∨
          (new.nodeId ≠ some peer ∧ (loadPeers raws).lookup peer = some expires) := by
      rw [ih]
      constructor
      · rintro ⟨before, last, after, heq, hlast, hafter, rfl⟩
        rcases concat_eq_append_cons heq with ⟨-, rfl, -⟩ | ⟨earlier, rfl, hold⟩
        · exact .inl ⟨hlast, rfl⟩
        · refine .inr ⟨hafter new (by simp), before, last, earlier, hold, hlast, ?_, rfl⟩
          exact fun later hlater => hafter later (mem_append_left _ hlater)
      · rintro (⟨hnew, rfl⟩ | ⟨hnew, before, last, after, rfl, hlast, hafter, rfl⟩)
        · exact ⟨raws, new, [], rfl, hnew, by simp, rfl⟩
        · refine ⟨before, last, after ++ [new], by simp, hlast, ?_, rfl⟩
          intro later hlater
          rcases mem_append.mp hlater with hlater | hlater
          · exact hafter later hlater
          · rw [mem_singleton.mp hlater]
            exact hnew
    rw [hsplit, loadPeers_concat]
    rcases hid : new.nodeId with _ | id
    · simp
    by_cases hpeer : peer = id
    · subst hpeer
      simp
    · simp [AList.lookup_insert_ne hpeer, Ne.symm hpeer]

lemma fromTomlStr_eq_some_iff {s : String} {t : Tier} :
    Tier.fromTomlStr s = some t ↔ s = t.asStr := by
  unfold Tier.fromTomlStr
  cases t <;> split <;> simp_all [Tier.asStr]

lemma loadEntry_cases (X : Externals) (configured : Bool) (raw : RawCapabilityEntry) :
    (¬ Valid configured raw ∧ loadEntry X configured raw = some none) ∨
      (Valid configured raw ∧ maxPermits < raw.concurrency.toNat ∧
        loadEntry X configured raw = none) ∨
      (Valid configured raw ∧ raw.concurrency.toNat ≤ maxPermits ∧
        ∃ entry, loadEntry X configured raw = some (some entry) ∧
          entry.allowedPeers = loadPeers raw.allowedPeers) := by
  unfold loadEntry
  rcases htier : raw.tier.bind Tier.fromTomlStr with _ | tier
  · refine .inl ⟨fun hvalid => ?_, rfl⟩
    rcases hvalid.tier with h | h | h <;> simp [h, Tier.fromTomlStr] at htier
  obtain ⟨s, hs, hparse⟩ := Option.bind_eq_some_iff.mp htier
  obtain rfl := fromTomlStr_eq_some_iff.mp hparse
  have hzero : raw.tier ≠ some "tier0" ↔ tier ≠ .tier0 := by
    rw [hs]
    cases tier <;> decide
  have hnamed : raw.tier = some "tier0" ∨ raw.tier = some "tier1" ∨ raw.tier = some "tier2" := by
    rw [hs]
    cases tier <;> simp [Tier.asStr]
  by_cases hskip : tier ≠ .tier0 ∧ configured = false
  · simp only [if_pos hskip]
    refine .inl ⟨fun hvalid => ?_, trivial⟩
    have := hvalid.resources (hzero.mpr hskip.1)
    simp [hskip.2] at this
  have hvalid : Valid configured raw := by
    refine ⟨hnamed, fun hne => ?_⟩
    by_contra hconf
    exact hskip ⟨hzero.mp hne, by simpa using hconf⟩
  simp only [if_neg hskip, semaphoreNew]
  by_cases hpermits : raw.concurrency.toNat ≤ maxPermits
  · rw [if_pos hpermits]
    exact .inr (.inr ⟨hvalid, hpermits, _, rfl, rfl⟩)
  · rw [if_neg hpermits]
    exact .inr (.inl ⟨hvalid, by omega, rfl⟩)

section Entries

variable {l : List (Σ _ : String, RawCapabilityEntry)}
  {entries entries' : AList fun _ : String => LoadedEntry}

lemma loadEntries_cons {name : String} : loadEntries X configured (⟨name, raw⟩ :: l) entries =
    (loadEntry X configured raw).bind fun
      | none => loadEntries X configured l entries
      | some entry => loadEntries X configured l (entries.insert name entry) := rfl

lemma loadEntries_eq_none_iff : loadEntries X configured l entries = none ↔
    ∃ x ∈ l, loadEntry X configured x.2 = none := by
  induction l generalizing entries with
  | nil => simp [loadEntries]
  | cons x l ih =>
    obtain ⟨name, raw⟩ := x
    rw [loadEntries_cons]
    rcases hentry : loadEntry X configured raw with _ | _ | entry <;> simp [hentry, ih]

lemma lookup_loadEntries (hkeys : l.NodupKeys)
    (h : loadEntries X configured l entries = some entries') :
    entries'.lookup capability =
      ((l.dlookup capability).bind fun raw => (loadEntry X configured raw).join).or
        (entries.lookup capability) := by
  induction l generalizing entries with
  | nil =>
    cases h
    simp
  | cons x l ih =>
    obtain ⟨name, raw⟩ := x
    obtain ⟨hname, htail⟩ := nodupKeys_cons.mp hkeys
    have hnone : l.dlookup name = none := dlookup_eq_none.mpr hname
    rw [loadEntries_cons] at h
    obtain ⟨loaded, hloaded, h⟩ := Option.bind_eq_some_iff.mp h
    by_cases hcap : capability = name
    · subst hcap
      rw [dlookup_cons_eq, Option.bind_some, hloaded]
      rcases loaded with _ | entry
      · rw [ih htail h, hnone]
        rfl
      · rw [ih htail h, hnone, AList.lookup_insert]
        rfl
    · rw [dlookup_cons_ne _ _ hcap]
      rcases loaded with _ | entry
      · exact ih htail h
      · rw [ih htail h, AList.lookup_insert_ne hcap]

end Entries

/-! ## The load -/

lemma load_cases (X : Externals) (fromStr : String → Option RawPolicyFile)
    (contents : Option String) :
    ((¬ ∃ raw, Accepts fromStr contents raw) ∧
        LoadedPolicy.load X fromStr contents = some .denyAll) ∨
      ∃ raw resources, Accepts fromStr contents raw ∧ LoadedPolicy.load X fromStr contents =
        (loadEntries X raw.protectedResource.isSome raw.capability.entries ∅).map
          fun entries => ⟨entries, resources⟩ := by
  unfold LoadedPolicy.load tryLoad Accepts
  rcases contents with _ | text
  · exact .inl ⟨by simp, rfl⟩
  rcases hraw : fromStr text with _ | raw
  · exact .inl ⟨by simp [hraw], by simp [hraw]⟩
  by_cases hversion : raw.version = policySchemaVersion
  · refine .inr ⟨raw, raw.protectedResource.map fun list =>
      list.filterMap fun pr => ProtectedResource.new pr.name pr.mac pr.ip,
      ⟨hraw, hversion⟩, ?_⟩
    simp only [hraw, if_neg (not_not.mpr hversion), Option.isSome_map, Option.map_map]
    rfl
  · refine .inl ⟨?_, by simp [hraw, hversion]⟩
    rintro ⟨raw', hraw', hversion'⟩
    cases hraw.symm.trans hraw'
    exact hversion hversion'

lemma Accepts.unique {raw raw' : RawPolicyFile} (h : Accepts fromStr contents raw)
    (h' : Accepts fromStr contents raw') : raw = raw' :=
  Option.some.inj (h.1.symm.trans h'.1)

lemma load_isSome_iff :
    (LoadedPolicy.load X fromStr contents).isSome ↔ ¬ Overloads fromStr contents := by
  rcases load_cases X fromStr contents with ⟨hnone, hload⟩ | ⟨raw, resources, hraw, hload⟩
  · rw [hload]
    exact iff_of_true rfl fun ⟨raw, hraw, _⟩ => hnone ⟨raw, hraw⟩
  have hpanic : loadEntries X raw.protectedResource.isSome raw.capability.entries ∅ = none ↔
      Overloads fromStr contents := by
    rw [loadEntries_eq_none_iff]
    constructor
    · rintro ⟨⟨capability, entry⟩, hmem, hentry⟩
      have hlookup := mem_dlookup raw.capability.nodupKeys hmem
      rcases loadEntry_cases X raw.protectedResource.isSome entry with
        ⟨-, h⟩ | ⟨hvalid, hpermits, -⟩ | ⟨-, -, e, h, -⟩
      · simp [h] at hentry
      · exact ⟨raw, hraw, capability, entry, ⟨hlookup, hvalid⟩, hpermits⟩
      · simp [h] at hentry
    · rintro ⟨raw', hraw', capability, entry, ⟨hlookup, hvalid⟩, hpermits⟩
      obtain rfl := hraw.unique hraw'
      refine ⟨⟨capability, entry⟩, of_mem_dlookup hlookup, ?_⟩
      rcases loadEntry_cases X raw.protectedResource.isSome entry with
        ⟨hnot, -⟩ | ⟨-, -, h⟩ | ⟨-, hle, -⟩
      · exact absurd hvalid hnot
      · exact h
      · omega
  rw [hload, Option.isSome_map, ← hpanic, Option.isSome_iff_ne_none]

variable {entry : LoadedEntry}

lemma peerCurrentlyAllowed_iff
    (h : entry.allowedPeers = loadPeers raw.allowedPeers) :
    peerCurrentlyAllowed entry.peers peer nowSecs ↔ Lists raw peer nowSecs := by
  have hallowed : peerCurrentlyAllowed entry.peers peer nowSecs ↔
      ∃ expires, (loadPeers raw.allowedPeers).lookup peer = some expires ∧
        ∀ e, expires = some e → nowSecs < e.toNat := by
    unfold peerCurrentlyAllowed LoadedEntry.peers
    rw [h]
    rcases (loadPeers raw.allowedPeers).lookup peer with _ | _ | e <;> simp
  rw [hallowed]
  simp only [lookup_loadPeers]
  constructor
  · rintro ⟨_, ⟨before, last, after, heq, hlast, hafter, rfl⟩, hlive⟩
    exact ⟨before, last, after, heq, hlast, hafter, hlive⟩
  · rintro ⟨before, last, after, heq, hlast, hafter, hlive⟩
    exact ⟨_, ⟨before, last, after, heq, hlast, hafter, rfl⟩, hlive⟩

lemma allows_iff_grants (h : LoadedPolicy.load X fromStr contents = some policy) :
    policy.allows capability peer nowSecs ↔ Grants fromStr contents capability peer nowSecs := by
  rcases load_cases X fromStr contents with ⟨hnone, hload⟩ | ⟨raw, resources, hraw, hload⟩
  · cases hload.symm.trans h
    refine iff_of_false (by simp [LoadedPolicy.allows, denyAll]) ?_
    rintro ⟨raw, hraw, -⟩
    exact hnone ⟨raw, hraw⟩
  rw [hload] at h
  obtain ⟨entries, hentries, rfl⟩ := Option.map_eq_some_iff.mp h
  have hlookup : entries.lookup capability = _ :=
    lookup_loadEntries raw.capability.nodupKeys hentries
  rw [AList.lookup_empty, Option.or_none] at hlookup
  have hgrants : Grants fromStr contents capability peer nowSecs ↔
      ∃ entry, Registers raw capability entry ∧ Lists entry peer nowSecs := by
    constructor
    · rintro ⟨raw', hraw', hentry⟩
      obtain rfl := hraw.unique hraw'
      exact hentry
    · exact fun hentry => ⟨raw, hraw, hentry⟩
  rw [hgrants, LoadedPolicy.allows, hlookup]
  rcases htable : raw.capability.lookup capability with _ | entry
  · rw [show raw.capability.entries.dlookup capability = none from htable]
    refine iff_of_false (by simp) ?_
    rintro ⟨entry, hreg, -⟩
    exact absurd (htable.symm.trans hreg.1) (by simp)
  have hentry : (∃ entry, Registers raw capability entry ∧ Lists entry peer nowSecs) ↔
      Valid raw.protectedResource.isSome entry ∧ Lists entry peer nowSecs := by
    constructor
    · rintro ⟨entry', hreg, hlists⟩
      cases htable.symm.trans hreg.1
      exact ⟨hreg.2, hlists⟩
    · rintro ⟨hvalid, hlists⟩
      exact ⟨entry, ⟨htable, hvalid⟩, hlists⟩
  rw [hentry, show raw.capability.entries.dlookup capability = some entry from htable,
    Option.bind_some]
  rcases loadEntry_cases X raw.protectedResource.isSome entry with
    ⟨hnot, h⟩ | ⟨-, -, h⟩ | ⟨hvalid, -, loaded, h, hpeers⟩
  · rw [h]
    exact iff_of_false (by simp) fun hvalid => hnot hvalid.1
  · have hreturns := Option.isSome_iff_ne_none.mp (Option.isSome_of_eq_some hentries)
    refine absurd (loadEntries_eq_none_iff.mpr ?_) hreturns
    exact ⟨⟨capability, entry⟩, of_mem_dlookup htable, h⟩
  · rw [h, and_iff_right hvalid]
    exact peerCurrentlyAllowed_iff hpeers

/-! ## The readers of the table -/

def LoadedPolicy.summaryPeers (l : LoadedPolicy) (capability : String) (nowSecs : Nat) :
    List String :=
  ((l.capabilitySummary capability nowSecs).elim [] (·.allowedPeers)).map Prod.fst

lemma hexEncode_nodeId_injective :
    Function.Injective fun id : NodeId => hexEncode id.bytes.toList := by
  intro id id' h
  have hbytes := congrArg hexDecode h
  simp only [hexDecode_hexEncode, Option.some.injEq] at hbytes
  obtain ⟨bytes⟩ := id
  obtain ⟨bytes'⟩ := id'
  rw [NodeId.mk.injEq]
  exact Vector.toList_inj.mp hbytes

lemma peerCurrentlyAllowed_iff_mem :
    peerCurrentlyAllowed entry.peers peer nowSecs ↔
      ∃ expires, ⟨peer, expires⟩ ∈ entry.allowedPeers.entries ∧
        expires.all fun e => nowSecs < e.toNat := by
  simp only [← AList.mem_lookup_iff, Option.mem_def]
  unfold peerCurrentlyAllowed LoadedEntry.peers
  rcases entry.allowedPeers.lookup peer with _ | _ | e <;> simp

lemma summaryPeers_exact (l : LoadedPolicy) (capability : String) (nowSecs : Nat) :
    (l.summaryPeers capability nowSecs).Nodup ∧
      ∀ name, name ∈ l.summaryPeers capability nowSecs ↔
        ∃ peer, l.allows capability peer nowSecs ∧ name = hexEncode peer.bytes.toList := by
  unfold summaryPeers capabilitySummary LoadedPolicy.allows
  rcases l.entries.lookup capability with _ | entry
  · simp
  simp only [Option.map_some, Option.elim_some, Option.any_some]
  constructor
  · have hkeys : (entry.allowedPeers.entries.map Sigma.fst).Nodup := entry.allowedPeers.nodupKeys
    have hlive := hkeys.sublist ((filter_sublist
      (p := fun p => p.2.all fun e => nowSecs < e.toNat)).map Sigma.fst)
    have hnames := hlive.map hexEncode_nodeId_injective
    apply ((perm_insertionSort _ _).map Prod.fst).nodup_iff.mpr
    simpa [map_map, Function.comp_def] using hnames
  · intro name
    simp only [mem_map, mem_insertionSort, mem_filter,
      peerCurrentlyAllowed_iff_mem]
    constructor
    · rintro ⟨_, ⟨⟨peer, expires⟩, ⟨hmem, hlive⟩, rfl⟩, rfl⟩
      exact ⟨peer, ⟨expires, hmem, hlive⟩, rfl⟩
    · rintro ⟨peer, ⟨expires, hmem, hlive⟩, rfl⟩
      exact ⟨_, ⟨⟨peer, expires⟩, ⟨hmem, hlive⟩, rfl⟩, rfl⟩

lemma allows_of_allowed {l : LoadedPolicy} {g : GateState} {now : Nat}
    (h : (checkAndAcquire l.policy g capability peer now nowSecs).1 = .allowed) :
    l.allows capability peer nowSecs := by
  unfold checkAndAcquire LoadedPolicy.policy at h
  unfold LoadedPolicy.allows
  rcases hlookup : l.entries.lookup capability with _ | entry
  · simp [hlookup] at h
  simp only [hlookup, Option.map_some] at h
  split_ifs at h with h₁ h₂ h₃
  exact h₃

end Load

/-! ## Fail-closed loading -/

/-- **The load returns a policy**, one that denies everything when the file cannot be used, if and
only if no capability that would be registered asks for more permits than a semaphore can have. -/
theorem load_returns_iff (X : Externals) (fromStr : String → Option RawPolicyFile)
    (contents : Option String) :
    (∃ policy, LoadedPolicy.load X fromStr contents = some policy ∧
        ((¬ ∃ raw, Accepts fromStr contents raw) →
          ∀ g capability peer now nowSecs,
            checkAndAcquire policy.policy g capability peer now nowSecs = (.notAuthorized, g))) ↔
      ¬ Overloads fromStr contents := by
  rw [← load_isSome_iff (X := X)]
  constructor
  · rintro ⟨policy, hload, -⟩
    exact Option.isSome_of_eq_some hload
  · intro hsome
    obtain ⟨policy, hload⟩ := Option.isSome_iff_exists.mp hsome
    refine ⟨policy, hload, fun hunusable g capability peer now nowSecs => ?_⟩
    rcases load_cases X fromStr contents with ⟨-, hdeny⟩ | ⟨raw, -, hraw, -⟩
    · cases hload.symm.trans hdeny
      rfl
    · exact absurd ⟨raw, hraw⟩ hunusable

/-- **Who is allowed is what the file says**, for the three readers of the table: exactly if the
file does not both grant the call and ask for too many permits. -/
theorem allows_iff_grants_iff (X : Externals) (fromStr : String → Option RawPolicyFile)
    (contents : Option String) (capability : String) (peer : NodeId) (nowSecs : Nat) :
    (((∃ policy, LoadedPolicy.load X fromStr contents = some policy ∧
          policy.allows capability peer nowSecs) ↔
        Grants fromStr contents capability peer nowSecs) ∧
      ∀ policy, LoadedPolicy.load X fromStr contents = some policy →
        ((policy.summaryPeers capability nowSecs).Nodup ∧
          ∀ name, name ∈ policy.summaryPeers capability nowSecs ↔
            ∃ listed, policy.allows capability listed nowSecs ∧
              name = hexEncode listed.bytes.toList) ∧
        ∀ g now, (checkAndAcquire policy.policy g capability peer now nowSecs).1 = .allowed →
          policy.allows capability peer nowSecs) ↔
      ¬ (Grants fromStr contents capability peer nowSecs ∧ Overloads fromStr contents) := by
  -- the other two readers never differ from the table
  refine Iff.trans (and_iff_left fun policy _ =>
    ⟨summaryPeers_exact policy capability nowSecs, fun _ _ => allows_of_allowed⟩) ?_
  rcases hload : LoadedPolicy.load X fromStr contents with _ | policy
  · have hover : Overloads fromStr contents := by
      by_contra hnot
      have hsome := load_isSome_iff (X := X).mpr hnot
      rw [hload] at hsome
      cases hsome
    simp [hover]
  · have hnot := load_isSome_iff.mp (Option.isSome_of_eq_some hload)
    simp [hnot, allows_iff_grants hload]

def wideOpenFile : String :=
  "version = 2\n\n[capability.echo]\nallowed_peers = [\"" ++
    hexEncode (List.replicate 32 1) ++
    "\"]\nrate_limit_secs = 0\nconcurrency = 2305843009213693952\ntier = \"tier0\"\n"

def wideOpenRaw : RawPolicyFile where
  version := 2
  capability := (∅ : AList fun _ : String => RawCapabilityEntry).insert "echo"
    ⟨[.bare (hexEncode (List.replicate 32 1))], 0, 2305843009213693952, some "tier0", []⟩
  protectedResource := none

def readWideOpen (text : String) : Option RawPolicyFile :=
  if text = wideOpenFile then some wideOpenRaw else none

lemma wideOpen_accepted : Accepts readWideOpen (some wideOpenFile) wideOpenRaw := by
  have hread : readWideOpen wideOpenFile = some wideOpenRaw := by
    rw [readWideOpen, if_pos rfl]
  rw [Accepts, Option.bind_some, hread]
  exact ⟨rfl, rfl⟩

lemma wideOpen_registers : Registers wideOpenRaw "echo"
    ⟨[.bare (hexEncode (List.replicate 32 1))], 0, 2305843009213693952, some "tier0", []⟩ :=
  ⟨AList.lookup_insert _, .inl rfl, fun h => absurd rfl h⟩

lemma load_wideOpen (X : Externals) :
    LoadedPolicy.load X readWideOpen (some wideOpenFile) = none := by
  have hover : Overloads readWideOpen (some wideOpenFile) :=
    ⟨_, wideOpen_accepted, _, _, wideOpen_registers, by decide⟩
  apply Option.not_isSome_iff_eq_none.mp
  exact fun hsome => load_isSome_iff.mp hsome hover

/-- **A number too large for the semaphore is a panic.** -/
theorem too_many_permits :
    Accepts readWideOpen (some wideOpenFile) wideOpenRaw ∧
      ∀ X, LoadedPolicy.load X readWideOpen (some wideOpenFile) = none :=
  ⟨wideOpen_accepted, load_wideOpen⟩

/-- **A peer the file grants a capability to, and no policy that allows it.** -/
theorem granted_and_refused :
    Grants readWideOpen (some wideOpenFile) "echo" ⟨.replicate 32 1⟩ 1700000000 ∧
      ∀ X, ¬ ∃ policy, LoadedPolicy.load X readWideOpen (some wideOpenFile) = some policy ∧
        policy.allows "echo" ⟨.replicate 32 1⟩ 1700000000 := by
  constructor
  · refine ⟨_, wideOpen_accepted, _, wideOpen_registers, [], _, [], rfl, ?_, by simp, ?_⟩
    · rw [RawAllowedPeer.nodeId, RawAllowedPeer.peerStr, hexDecode_hexEncode]
      decide
    · intro e he
      cases he
  · rintro X ⟨policy, hload, -⟩
    rw [load_wideOpen] at hload
    cases hload

end AxiomCore
