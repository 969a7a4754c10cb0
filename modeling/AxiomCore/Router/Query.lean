import AxiomCore.Lib.Pieces
import AxiomCore.Lib.Run
import AxiomCore.Lib.Text
import AxiomCore.Router.Semantic
import AxiomCore.Types.Frame

/-!
# What the registry of capabilities answers

The queries of `SemanticRouter`, and what they answer after any calls of `register` and
`unregister_node`.

- `findByCategory`, `findByTag`, `discover`, `SemanticQuery.execute`. The reputation table is an
  argument, and so is the order in which a hash set or a hash map is iterated.

Source: `axiom-router/src/semantic.rs`.
-/

namespace AxiomCore

open Lib List Function

/-! ## Queries -/

def Category.matches (c other : Category) : Bool :=
  if c.path.length > other.path.length then false
  else (c.path.zip other.path).all fun (a, b) => a = b

def SemanticCapability.withTag (cap : SemanticCapability) (tag : String) : SemanticCapability :=
  { cap with tags := cap.tags ++ [tag] }

/-- Source: `axiom-router/src/ai.rs`, `Constraint`. -/
inductive SemanticRouter.Constraint where
  | minTrust (level : TrustLevel)
  | maxLatency (maxMs : UInt16)
  | maxLoad (maxLoad : UInt8)
  | preferAgent (agent : NodeId)
  | excludeAgent (agent : NodeId)
  | custom (text : String)

/-- Source: `axiom-router/src/ai.rs`, `Intent`. -/
structure SemanticRouter.Intent where
  hash : IntentHash
  constraints : List SemanticRouter.Constraint

/-- Source: `axiom-router/src/ai.rs`, `Intent::from_str`. -/
def SemanticRouter.Intent.fromStr (blake3 : List UInt8 → Digest) (capability : String) :
    SemanticRouter.Intent :=
  ⟨capabilityHash blake3 capability, []⟩

/-- Source: `axiom-router/src/ai.rs`, `Intent::with_constraint`. -/
def SemanticRouter.Intent.withConstraint (intent : SemanticRouter.Intent)
    (constraint : SemanticRouter.Constraint) : SemanticRouter.Intent :=
  { intent with constraints := intent.constraints ++ [constraint] }

/-- Source: `axiom-router/src/ai.rs`, `DiscoveryResult`. -/
structure DiscoveryResult where
  agent : NodeId
  trustLevel : TrustLevel
  latencyMs : UInt16
  load : UInt8
  score : UInt32

structure SemanticRoute where
  agent : NodeId
  capability : SemanticCapability
  trustLevel : TrustLevel
  matchScore : UInt32
  latencyMs : UInt16
  load : UInt8

/-- The reputation of the nodes that have one, as `(rep * 100.0) as u32`. -/
abbrev Reputation := NodeId → Option UInt32

/-- `(rep * 100.0) as u32`, where an unknown node has the reputation 0.5. -/
def Reputation.bonus (reputation : Reputation) (node : NodeId) : UInt32 :=
  (reputation node).getD 50

namespace SemanticRouter

def findByCategory (r : SemanticRouter) (categoryPrefix : String) : List SemanticCapability :=
  ((r.categoryIndex categoryPrefix).getD []).flatMap fun hash =>
    ((r.capabilities hash).getD []).map Prod.snd

def findByTag (r : SemanticRouter) (tag : String) : List SemanticCapability :=
  ((r.tagIndex tag).getD []).flatMap fun hash =>
    (((r.capabilities hash).getD []).map Prod.snd).filter fun cap => tag ∈ cap.tags

def evaluateConstraints (reputation : Reputation) (node : NodeId) :
    List Constraint → UInt32 → Bool × UInt32
  | [], bonusScore => (true, bonusScore)
  | .minTrust minLevel :: rest, bonusScore =>
    if (reputation node).isNone ∧ minLevel = .full then (false, 0)
    else evaluateConstraints reputation node rest bonusScore
  | .preferAgent preferred :: rest, bonusScore =>
    evaluateConstraints reputation node rest
      (if preferred = node then bonusScore + 500 else bonusScore)
  | .excludeAgent excluded :: rest, bonusScore =>
    if excluded = node then (false, 0)
    else evaluateConstraints reputation node rest bonusScore
  -- left to the routing table, or not evaluated
  | .maxLatency _ :: rest, bonusScore
  | .maxLoad _ :: rest, bonusScore
  | .custom _ :: rest, bonusScore => evaluateConstraints reputation node rest bonusScore

/-- The result for a node's capability, unless a constraint turns the node away. -/
def offer (reputation : Reputation) (intent : Intent) :
    NodeId × SemanticCapability → Option DiscoveryResult
  | (node, cap) =>
    let score := UInt32.ofNat cap.category.path.length * 100 + reputation.bonus node
    match evaluateConstraints reputation node intent.constraints 0 with
    | (false, _) => none
    | (true, constraintScore) => some ⟨node, .raw, 0, 128, score + constraintScore⟩

def discover (r : SemanticRouter) (reputation : Reputation) (intent : Intent) :
    List DiscoveryResult :=
  let results := ((r.capabilities intent.hash).getD []).filterMap (offer reputation intent)
  results.insertionSort fun a b => b.score ≤ a.score

end SemanticRouter

structure SemanticQuery where
  intent : Option SemanticRouter.Intent
  categoryPrefix : Option String
  requiredTags : List String
  optionalTags : List String
  minVersion : Option UInt32
  limit : Nat

namespace SemanticQuery

def new : SemanticQuery := ⟨none, none, [], [], none, 10⟩

def category (q : SemanticQuery) (categoryPrefix : String) : SemanticQuery :=
  { q with categoryPrefix := some categoryPrefix }

def selects (q : SemanticQuery) (cap : SemanticCapability) : Bool :=
  q.requiredTags.all (· ∈ cap.tags) && q.minVersion.all (· ≤ cap.version)

def route (q : SemanticQuery) (reputation : Reputation) :
    NodeId × SemanticCapability → SemanticRoute
  | (node, cap) =>
    let score := q.optionalTags.foldl
      (fun score tag => if tag ∈ cap.tags then score + 50 else score)
      (UInt32.ofNat cap.category.path.length * 100)
    ⟨node, cap, .raw, score + reputation.bonus node, 0, 128⟩

/-- What the query looks at. A hash set is iterated in the order `setOrder`, the map of all
capabilities in the order `mapOrder`. -/
def candidates (q : SemanticQuery) (r : SemanticRouter)
    (setOrder : List IntentHash → List IntentHash) (mapOrder : List IntentHash) :
    List (NodeId × SemanticCapability) :=
  match q.intent, q.categoryPrefix with
  | some intent, _ => (r.capabilities intent.hash).getD []
  | none, some categoryPrefix =>
    (setOrder ((r.categoryIndex categoryPrefix).getD [])).flatMap fun hash =>
      (r.capabilities hash).getD []
  | none, none => mapOrder.flatMap fun hash => (r.capabilities hash).getD []

def execute (q : SemanticQuery) (r : SemanticRouter) (reputation : Reputation)
    (setOrder : List IntentHash → List IntentHash) (mapOrder : List IntentHash) :
    List SemanticRoute :=
  let results := ((q.candidates r setOrder mapOrder).filter fun (_, cap) => q.selects cap).map
    (q.route reputation)
  (results.insertionSort fun a b => b.matchScore ≤ a.matchScore).take q.limit

end SemanticQuery

/-! ## Categories as paths -/

namespace Category

lemma matches_iff {c other : Category} : c.matches other ↔ c.path <+: other.path := by
  unfold Category.matches
  split_ifs with hlength
  · simp only [false_iff]
    intro hprefix
    exact Nat.not_lt.mpr hprefix.length_le hlength
  rw [all_eq_true]
  constructor
  · intro hall
    rw [prefix_iff_getElem]
    refine ⟨Nat.le_of_not_gt hlength, fun i hi => ?_⟩
    have hzip : i < (c.path.zip other.path).length := by
      rw [length_zip]
      omega
    have hpair := hall _ (getElem_mem hzip)
    simpa using hpair
  · rintro ⟨rest, hrest⟩ ⟨a, b⟩ hmem
    obtain ⟨i, hi, hget⟩ := mem_iff_getElem.mp hmem
    have hlt : i < c.path.length := by
      rw [length_zip] at hi
      omega
    simp only [getElem_zip, Prod.mk.injEq] at hget
    obtain ⟨rfl, rfl⟩ := hget
    simp [← hrest, getElem_append_left hlt]

lemma colon_notMem {s part : String} (h : part ∈ (fromStr s).path) : ':' ∉ part.toList := by
  obtain ⟨cs, hcs, rfl⟩ := mem_map.mp h
  rw [String.toList_ofList]
  exact notMem_of_mem_splitOn hcs

lemma path_fromStr_ne_nil (s : String) : (fromStr s).path ≠ [] := by
  simp [fromStr, splitOn_ne_nil]

lemma intercalate_fromStr (s : String) : String.intercalate ":" (fromStr s).path = s := by
  apply String.toList_inj.mp
  rw [String.toList_intercalate, fromStr, map_map]
  have hid : String.toList ∘ String.ofList = id := by
    funext cs
    exact String.toList_ofList
  rw [hid, map_id]
  exact intercalate_splitOn ':'

lemma fromStr_intercalate {parts : List String} (hne : parts ≠ [])
    (hparts : ∀ part ∈ parts, ':' ∉ part.toList) :
    (fromStr (String.intercalate ":" parts)).path = parts := by
  rw [fromStr, String.toList_intercalate]
  have hsplit : List.splitOn ':' ([':'].intercalate (parts.map String.toList)) =
      parts.map String.toList := by
    apply splitOn_intercalate
    · simpa using hparts
    · simpa using hne
  have hlist : ":".toList = [':'] := rfl
  rw [hlist, hsplit, map_map]
  simp

lemma mem_prefixes_iff {p name : String} :
    p ∈ (fromStr name).prefixes ↔ (fromStr p).matches (fromStr name) := by
  rw [matches_iff, prefixes, mem_map]
  constructor
  · rintro ⟨i, hi, rfl⟩
    rw [fromStr_intercalate]
    · exact take_prefix _ _
    · simpa using path_fromStr_ne_nil name
    · intro part hpart
      exact colon_notMem (mem_of_mem_take hpart)
  · intro hprefix
    have hlength : 0 < (fromStr p).path.length :=
      length_pos_iff.mpr (path_fromStr_ne_nil p)
    refine ⟨(fromStr p).path.length - 1, ?_, ?_⟩
    · rw [mem_range]
      have hle := hprefix.length_le
      omega
    · rw [Nat.sub_add_cancel hlength, ← prefix_iff_eq_take.mp hprefix, intercalate_fromStr]

end Category

/-! ## The indexes -/

namespace HashIndex

variable {index : HashIndex} {hash hash' : IntentHash} {key : String} {keys : List String}

abbrev listed (index : HashIndex) (key : String) : List IntentHash := (index key).getD []

lemma mem_listed_add {key' : String} :
    hash' ∈ (index.add hash key).listed key' ↔
      key' = key ∧ hash' = hash ∨ hash' ∈ index.listed key' := by
  unfold HashIndex.listed add
  by_cases hkey : key' = key
  · subst hkey
    rw [update_self, Option.getD_some]
    split_ifs with hmem
    · constructor
      · exact .inr
      · rintro (⟨-, rfl⟩ | hold)
        · exact hmem
        · exact hold
    · simp [or_comm]
  · simp [hkey]

lemma nodup_listed_add (h : ∀ key, (index.listed key).Nodup) (key' : String) :
    ((index.add hash key).listed key').Nodup := by
  have hold := h key'
  unfold HashIndex.listed add at *
  by_cases hkey : key' = key
  · subst hkey
    rw [update_self, Option.getD_some]
    split_ifs with hmem
    · exact hold
    rw [nodup_append]
    refine ⟨hold, nodup_singleton _, ?_⟩
    rintro a ha b hb rfl
    exact hmem (mem_singleton.mp hb ▸ ha)
  · rwa [update_of_ne hkey]

lemma mem_listed_foldl_add :
    hash' ∈ HashIndex.listed (keys.foldl (·.add hash) index) key ↔
      key ∈ keys ∧ hash' = hash ∨ hash' ∈ index.listed key := by
  induction keys generalizing index with
  | nil => simp
  | cons first rest ih =>
    rw [foldl_cons, ih, mem_listed_add, mem_cons, or_and_right, or_assoc, or_left_comm]

lemma nodup_listed_foldl_add (h : ∀ key, (index.listed key).Nodup) (key : String) :
    (HashIndex.listed (keys.foldl (·.add hash) index) key).Nodup := by
  induction keys generalizing index with
  | nil => exact h key
  | cons first rest ih => exact ih (nodup_listed_add h)

lemma listed_prune (index : HashIndex) (orphaned : IntentHash → Bool) (key : String) :
    (index.prune orphaned).listed key = (index.listed key).filter (!orphaned ·) := by
  unfold HashIndex.listed prune
  rw [SemanticRouter.getD_filter_nonempty]
  rcases index key with _ | hashes
  · rfl
  · rfl

end HashIndex

open HashIndex

/-! ## The set of registrations -/

abbrev Registrations := Finset (NodeId × SemanticCapability)

namespace Registrations

def register (S : Registrations) (node : NodeId) (cap : SemanticCapability) : Registrations :=
  insert (node, cap) (S.filter fun x => ¬ (x.1 = node ∧ x.2.name = cap.name))

def unregisterNode (S : Registrations) (node : NodeId) : Registrations := S.filter (·.1 ≠ node)

variable {S : Registrations} {node : NodeId} {x : NodeId × SemanticCapability}

lemma mem_register {cap : SemanticCapability} :
    x ∈ S.register node cap ↔
      x = (node, cap) ∨ x ∈ S ∧ ¬ (x.1 = node ∧ x.2.name = cap.name) := by
  simp [register]

lemma mem_unregisterNode :
    x ∈ S.unregisterNode node ↔ x ∈ S ∧ x.1 ≠ node := by
  simp [unregisterNode]

end Registrations

open Registrations

/-- What is made of a name with `SemanticCapability::new`, whatever the tags. -/
structure SemanticCapability.Named (blake3 : List UInt8 → Digest) (names : Set String)
    (cap : SemanticCapability) : Prop where
  name_mem : cap.name ∈ names
  intentHash_eq : cap.intentHash = capabilityHash blake3 cap.name
  category_eq : cap.category = .fromStr cap.name

/-- The three tables are those of a set of registrations. A tag may be listed for a hash that no
longer has it, but for no hash that nobody provides. -/
structure SemanticRouter.Holds (blake3 : List UInt8 → Digest) (names : Set String)
    (r : SemanticRouter) (S : Registrations) : Prop where
  named : ∀ x ∈ S, x.2.Named blake3 names
  unique : ∀ x ∈ S, ∀ y ∈ S, x.1 = y.1 → x.2.name = y.2.name → x = y
  entries : ∀ hash, (((r.capabilities hash).getD [] : List (NodeId × SemanticCapability)) :
    Multiset (NodeId × SemanticCapability)) = (S.filter fun x => x.2.intentHash = hash).val
  /-- The index of categories has the prefixes of what is stored. -/
  category : ∀ key hash, hash ∈ r.categoryIndex.listed key ↔
    ∃ x ∈ S, x.2.intentHash = hash ∧ key ∈ x.2.category.prefixes
  /-- The index of tags has the tags of what is stored. -/
  tag : ∀ x ∈ S, ∀ key ∈ x.2.tags, x.2.intentHash ∈ r.tagIndex.listed key
  tag_provided : ∀ key, ∀ hash ∈ r.tagIndex.listed key, ∃ x ∈ S, x.2.intentHash = hash
  category_nodup : ∀ key, (r.categoryIndex.listed key).Nodup
  tag_nodup : ∀ key, (r.tagIndex.listed key).Nodup

namespace SemanticRouter.Holds

variable {blake3 : List UInt8 → Digest} {names : Set String} {r : SemanticRouter}
  {S : Registrations} {node : NodeId} {cap : SemanticCapability}

lemma new : SemanticRouter.new.Holds blake3 names ∅ where
  named := by simp
  unique := by simp
  entries := by simp [SemanticRouter.new]
  category := by simp [SemanticRouter.new, HashIndex.listed]
  tag := by simp
  tag_provided := by simp [SemanticRouter.new, HashIndex.listed]
  category_nodup := by simp [SemanticRouter.new, HashIndex.listed]
  tag_nodup := by simp [SemanticRouter.new, HashIndex.listed]

variable {x : NodeId × SemanticCapability} {hash : IntentHash}

lemma name_eq (h : r.Holds blake3 names S) (hinj : Set.InjOn (capabilityHash blake3) names)
    (hx : x ∈ S) (hcap : cap.Named blake3 names)
    (hhash : x.2.intentHash = cap.intentHash) : x.2.name = cap.name := by
  have hnamed := h.named x hx
  apply hinj hnamed.name_mem hcap.name_mem
  rw [← hnamed.intentHash_eq, hhash, hcap.intentHash_eq]

lemma mem_entries (h : r.Holds blake3 names S) :
    x ∈ (r.capabilities hash).getD [] ↔ x ∈ S ∧ x.2.intentHash = hash := by
  rw [← Multiset.mem_coe, h.entries, Finset.mem_val, Finset.mem_filter]

lemma entries_register (h : r.Holds blake3 names S)
    (hinj : Set.InjOn (capabilityHash blake3) names) (hcap : cap.Named blake3 names)
    (hash : IntentHash) :
    ((((r.register node cap).capabilities hash).getD [] : List (NodeId × SemanticCapability)) :
      Multiset (NodeId × SemanticCapability)) =
        ((S.register node cap).filter fun x => x.2.intentHash = hash).val := by
  rw [getD_register]
  split_ifs with hhash
  · subst hhash
    -- of the capabilities with this hash, the one of the node is replaced
    have hkept : (S.register node cap).filter (fun x => x.2.intentHash = cap.intentHash) =
        insert (node, cap) ((S.filter fun x => x.2.intentHash = cap.intentHash).filter
          fun x => x.1 ≠ node) := by
      ext x
      simp only [Finset.mem_filter, mem_register, Finset.mem_insert]
      constructor
      · rintro ⟨rfl | ⟨hx, hother⟩, hhash⟩
        · exact .inl rfl
        · exact .inr ⟨⟨hx, hhash⟩, fun hnode => hother ⟨hnode, h.name_eq hinj hx hcap hhash⟩⟩
      · rintro (rfl | ⟨⟨hx, hhash⟩, hnode⟩)
        · exact ⟨.inl rfl, rfl⟩
        · exact ⟨.inr ⟨hx, fun hsame => hnode hsame.1⟩, hhash⟩
    have hnew : (node, cap) ∉ (S.filter fun x => x.2.intentHash = cap.intentHash).filter
        fun x => x.1 ≠ node := by
      simp
    rw [hkept, Finset.insert_val_of_notMem hnew, Finset.filter_val, ← h.entries,
      ← Multiset.singleton_add, add_comm, ← Multiset.coe_add, Multiset.filter_coe,
      Multiset.coe_singleton]
  · rw [h.entries]
    congr 1
    ext x
    simp only [Finset.mem_filter, mem_register]
    constructor
    · rintro ⟨hx, rfl⟩
      refine ⟨.inr ⟨hx, fun hsame => hhash ?_⟩, rfl⟩
      rw [(h.named x hx).intentHash_eq, hcap.intentHash_eq, hsame.2]
    · rintro ⟨rfl | ⟨hx, -⟩, rfl⟩
      · exact absurd rfl hhash
      · exact ⟨hx, rfl⟩

lemma register (h : r.Holds blake3 names S) (hinj : Set.InjOn (capabilityHash blake3) names)
    (hcap : cap.Named blake3 names) :
    (r.register node cap).Holds blake3 names (S.register node cap) where
  named := by
    intro x hx
    rcases mem_register.mp hx with rfl | ⟨hold, -⟩
    · exact hcap
    · exact h.named x hold
  unique := by
    intro x hx y hy hnode hname
    rcases mem_register.mp hx with rfl | ⟨hx, hxother⟩
    · rcases mem_register.mp hy with rfl | ⟨hy, hyother⟩
      · rfl
      · exact absurd ⟨hnode.symm, hname.symm⟩ hyother
    rcases mem_register.mp hy with rfl | ⟨hy, -⟩
    · exact absurd ⟨hnode, hname⟩ hxother
    · exact h.unique x hx y hy hnode hname
  entries := h.entries_register hinj hcap
  category := by
    intro key hash
    refine mem_listed_foldl_add.trans ?_
    constructor
    · rintro (⟨hkey, rfl⟩ | hold)
      · exact ⟨(node, cap), mem_register.mpr (.inl rfl), rfl, hkey⟩
      · obtain ⟨x, hx, rfl, hkey⟩ := (h.category key hash).mp hold
        by_cases hsame : x.1 = node ∧ x.2.name = cap.name
        · -- what is replaced has the category of what replaces it
          have hnamed := h.named x hx
          refine ⟨(node, cap), mem_register.mpr (.inl rfl), ?_, ?_⟩
          · rw [hcap.intentHash_eq, hnamed.intentHash_eq, hsame.2]
          · rwa [hcap.category_eq, ← hsame.2, ← hnamed.category_eq]
        · exact ⟨x, mem_register.mpr (.inr ⟨hx, hsame⟩), rfl, hkey⟩
    · rintro ⟨x, hx, rfl, hkey⟩
      rcases mem_register.mp hx with rfl | ⟨hold, -⟩
      · exact .inl ⟨hkey, rfl⟩
      · exact .inr ((h.category key _).mpr ⟨x, hold, rfl, hkey⟩)
  tag := by
    intro x hx key hkey
    refine mem_listed_foldl_add.mpr ?_
    rcases mem_register.mp hx with rfl | ⟨hold, -⟩
    · exact .inl ⟨hkey, rfl⟩
    · exact .inr (h.tag x hold key hkey)
  tag_provided := by
    intro key hash hmem
    rcases mem_listed_foldl_add.mp hmem with ⟨-, rfl⟩ | hold
    · exact ⟨(node, cap), mem_register.mpr (.inl rfl), rfl⟩
    obtain ⟨x, hx, rfl⟩ := h.tag_provided key hash hold
    by_cases hsame : x.1 = node ∧ x.2.name = cap.name
    · refine ⟨(node, cap), mem_register.mpr (.inl rfl), ?_⟩
      rw [hcap.intentHash_eq, (h.named x hx).intentHash_eq, hsame.2]
    · exact ⟨x, mem_register.mpr (.inr ⟨hx, hsame⟩), rfl⟩
  category_nodup := nodup_listed_foldl_add h.category_nodup
  tag_nodup := nodup_listed_foldl_add h.tag_nodup

lemma isNone_filter_nonempty {α : Type*} (entries : Option (List α)) :
    (entries.filter (!·.isEmpty)).isNone ↔ (entries.filter (!·.isEmpty)).getD [] = [] := by
  rcases entries with _ | ⟨_ | ⟨entry, rest⟩⟩
  · simp
  · simp [Option.filter]
  · simp [Option.filter]

lemma isNone_unregisterNode (h : r.Holds blake3 names S) (hash : IntentHash) :
    ((r.unregisterNode node).capabilities hash).isNone ↔
      ¬ ∃ x ∈ S.unregisterNode node, x.2.intentHash = hash := by
  have hnone : ((r.unregisterNode node).capabilities hash).isNone ↔
      ((r.unregisterNode node).capabilities hash).getD [] = [] :=
    isNone_filter_nonempty _
  rw [hnone, getD_unregisterNode, filter_eq_nil_iff]
  constructor
  · rintro hall ⟨x, hx, hhash⟩
    obtain ⟨hx, hnode⟩ := mem_unregisterNode.mp hx
    exact hall x (h.mem_entries.mpr ⟨hx, hhash⟩) (by simpa using hnode)
  · intro hnot x hx hnode
    obtain ⟨hx, hhash⟩ := h.mem_entries.mp hx
    exact hnot ⟨x, mem_unregisterNode.mpr ⟨hx, by simpa using hnode⟩, hhash⟩

lemma mem_listed_prune (h : r.Holds blake3 names S) {index : HashIndex} {key : String}
    (hstored : ∀ hash ∈ index.listed key, ∃ x ∈ S, x.2.intentHash = hash) :
    hash ∈ (index.prune fun hash => ((r.capabilities hash).getD []).any (·.1 = node) &&
        ((r.unregisterNode node).capabilities hash).isNone).listed key ↔
      hash ∈ index.listed key ∧ ∃ x ∈ S.unregisterNode node, x.2.intentHash = hash := by
  rw [listed_prune, mem_filter]
  refine and_congr_right fun hmem => ?_
  rw [Bool.not_eq_true', Bool.and_eq_false_iff, any_eq_false]
  constructor
  · rintro (hforeign | hsome)
    · obtain ⟨x, hx, rfl⟩ := hstored hash hmem
      have hnode := hforeign x (h.mem_entries.mpr ⟨hx, rfl⟩)
      exact ⟨x, mem_unregisterNode.mpr ⟨hx, by simpa using hnode⟩, rfl⟩
    · by_contra hnot
      rw [(h.isNone_unregisterNode hash).mpr hnot] at hsome
      cases hsome
  · intro hleft
    refine .inr (Bool.eq_false_iff.mpr fun hnone => ?_)
    exact (h.isNone_unregisterNode hash).mp hnone hleft

lemma unregisterNode (h : r.Holds blake3 names S)
    (hinj : Set.InjOn (capabilityHash blake3) names) (node : NodeId) :
    (r.unregisterNode node).Holds blake3 names (S.unregisterNode node) where
  named x hx := h.named x (mem_unregisterNode.mp hx).1
  unique x hx y hy := h.unique x (mem_unregisterNode.mp hx).1 y
    (mem_unregisterNode.mp hy).1
  entries := by
    intro hash
    rw [getD_unregisterNode, ← Multiset.filter_coe, h.entries, ← Finset.filter_val,
      Finset.filter_comm]
    rfl
  category := by
    intro key hash
    have hstored : ∀ hash ∈ r.categoryIndex.listed key, ∃ x ∈ S, x.2.intentHash = hash := by
      intro hash hmem
      obtain ⟨x, hx, hhash, -⟩ := (h.category key hash).mp hmem
      exact ⟨x, hx, hhash⟩
    refine (h.mem_listed_prune hstored).trans ?_
    constructor
    · rintro ⟨hmem, y, hy, hhash⟩
      -- another provider has the same name, and so the same category
      obtain ⟨x, hx, rfl, hkey⟩ := (h.category key hash).mp hmem
      obtain ⟨hyold, -⟩ := mem_unregisterNode.mp hy
      have hname := h.name_eq hinj hyold (h.named x hx) hhash
      refine ⟨y, hy, hhash, ?_⟩
      rwa [(h.named y hyold).category_eq, hname, ← (h.named x hx).category_eq]
    · rintro ⟨x, hx, hhash, hkey⟩
      have hxold := (mem_unregisterNode.mp hx).1
      exact ⟨(h.category key hash).mpr ⟨x, hxold, hhash, hkey⟩, x, hx, hhash⟩
  tag := by
    intro x hx key hkey
    have hxold := (mem_unregisterNode.mp hx).1
    exact (h.mem_listed_prune (h.tag_provided key)).mpr ⟨h.tag x hxold key hkey, x, hx, rfl⟩
  tag_provided key hash hmem := ((h.mem_listed_prune (h.tag_provided key)).mp hmem).2
  category_nodup key := by
    refine List.Nodup.sublist ?_ (h.category_nodup key)
    exact listed_prune r.categoryIndex _ key ▸ filter_sublist
  tag_nodup key := by
    refine List.Nodup.sublist ?_ (h.tag_nodup key)
    exact listed_prune r.tagIndex _ key ▸ filter_sublist

end SemanticRouter.Holds

/-! ## Calls -/

/-- A call on the router, with a capability that is made with `SemanticCapability::new` and
`SemanticCapability::with_tag`. -/
inductive RouterCall where
  | register (node : NodeId) (name : String) (tags : List String)
  | unregisterNode (node : NodeId)

def RouterCall.names (calls : List RouterCall) : Set String :=
  {name | ∃ node tags, RouterCall.register node name tags ∈ calls}

def SemanticCapability.tagged (blake3 : List UInt8 → Digest) (name : String) (tags : List String) :
    SemanticCapability :=
  tags.foldl SemanticCapability.withTag (.new blake3 name)

variable {names : Set String} {blake3 : List UInt8 → Digest}

lemma SemanticCapability.named_tagged (blake3 : List UInt8 → Digest)
    {name : String} (hname : name ∈ names) (tags : List String) :
    (tagged blake3 name tags).Named blake3 names := by
  induction tags using List.reverseRecOn with
  | nil => exact ⟨hname, rfl, rfl⟩
  | append_singleton tags tag ih =>
    have hlast : tagged blake3 name (tags ++ [tag]) = (tagged blake3 name tags).withTag tag := by
      simp [tagged]
    rw [hlast]
    exact ⟨ih.name_mem, ih.intentHash_eq, ih.category_eq⟩

def SemanticRouter.call (blake3 : List UInt8 → Digest) (r : SemanticRouter) :
    RouterCall → SemanticRouter
  | .register node name tags => r.register node (.tagged blake3 name tags)
  | .unregisterNode node => r.unregisterNode node

def Registrations.call (blake3 : List UInt8 → Digest) (S : Registrations) :
    RouterCall → Registrations
  | .register node name tags => S.register node (.tagged blake3 name tags)
  | .unregisterNode node => S.unregisterNode node

def SemanticRouter.after (blake3 : List UInt8 → Digest) (calls : List RouterCall) :
    SemanticRouter :=
  run (SemanticRouter.call blake3) .new calls

def Registrations.after (blake3 : List UInt8 → Digest) (calls : List RouterCall) : Registrations :=
  run (Registrations.call blake3) ∅ calls

lemma SemanticRouter.holds_after
    (hinj : Set.InjOn (capabilityHash blake3) names) {calls : List RouterCall}
    (hnames : RouterCall.names calls ⊆ names) :
    (SemanticRouter.after blake3 calls).Holds blake3 names (Registrations.after blake3 calls) := by
  unfold SemanticRouter.after Registrations.after
  induction calls using List.reverseRecOn with
  | nil => exact .new
  | append_singleton calls call ih =>
    have hbefore : RouterCall.names calls ⊆ names := by
      rintro name ⟨node, tags, hmem⟩
      exact hnames ⟨node, tags, mem_append_left _ hmem⟩
    have hholds := ih hbefore
    rw [run_append, run_append]
    cases call with
    | register node name tags =>
      refine hholds.register hinj (SemanticCapability.named_tagged blake3 ?_ tags)
      exact hnames ⟨node, tags, by simp⟩
    | unregisterNode node => exact hholds.unregisterNode hinj node

/-! ## Answers -/

/-- A node that the constraint turns away. -/
def SemanticRouter.Constraint.rejects (reputation : Reputation) (node : NodeId) :
    SemanticRouter.Constraint → Bool
  | .minTrust level => (reputation node).isNone ∧ level = .full
  | .excludeAgent excluded => excluded = node
  | _ => false

/-- A node that no constraint turns away. -/
def SemanticRouter.Intent.allows (intent : SemanticRouter.Intent) (reputation : Reputation)
    (node : NodeId) : Bool :=
  intent.constraints.all fun constraint => !constraint.rejects reputation node

namespace SemanticRouter

variable {blake3 : List UInt8 → Digest} {names : Set String} {r : SemanticRouter}
  {S : Registrations}

variable (reputation : Reputation) (intent : Intent)

lemma evaluateConstraints_fst (node : NodeId) (constraints : List Constraint)
    (bonusScore : UInt32) :
    (evaluateConstraints reputation node constraints bonusScore).1 =
      constraints.all fun constraint => !constraint.rejects reputation node := by
  induction constraints generalizing bonusScore with
  | nil => rfl
  | cons constraint rest ih =>
    rw [all_cons]
    cases constraint with
    | minTrust level =>
      have hrejects : (Constraint.minTrust level).rejects reputation node =
          decide ((reputation node).isNone ∧ level = .full) := rfl
      unfold evaluateConstraints
      split_ifs with h
      · rw [hrejects, decide_eq_true h]
        rfl
      · rw [hrejects, decide_eq_false h, ih]
        rfl
    | excludeAgent excluded =>
      unfold evaluateConstraints
      split_ifs with h
      · simp [Constraint.rejects, h]
      · simp [Constraint.rejects, h, ih]
    | preferAgent preferred => simp [evaluateConstraints, Constraint.rejects, ih]
    | maxLatency maxMs => simp [evaluateConstraints, Constraint.rejects, ih]
    | maxLoad maxLoad => simp [evaluateConstraints, Constraint.rejects, ih]
    | custom text => simp [evaluateConstraints, Constraint.rejects, ih]

lemma Holds.mem_categoryIndex (h : r.Holds blake3 names S)
    (hinj : Set.InjOn (capabilityHash blake3) names) {x : NodeId × SemanticCapability} (hx : x ∈ S)
    (p : String) :
    x.2.intentHash ∈ r.categoryIndex.listed p ↔ (Category.fromStr p).matches x.2.category := by
  have hnamed := h.named x hx
  rw [h.category, hnamed.category_eq, ← Category.mem_prefixes_iff]
  constructor
  · rintro ⟨y, hy, hhash, hkey⟩
    rwa [(h.named y hy).category_eq, h.name_eq hinj hy hnamed hhash] at hkey
  · intro hkey
    exact ⟨x, hx, rfl, by rwa [hnamed.category_eq]⟩

lemma Holds.coe_candidates (h : r.Holds blake3 names S)
    (hinj : Set.InjOn (capabilityHash blake3) names) (p : String) {hashes : List IntentHash}
    (hperm : hashes.Perm (r.categoryIndex.listed p)) :
    (hashes.flatMap fun hash => (r.capabilities hash).getD [] :
      Multiset (NodeId × SemanticCapability)) =
        (S.filter fun x => (Category.fromStr p).matches x.2.category).val := by
  rw [coe_flatMap_fibers h.entries (hperm.nodup_iff.mpr (h.category_nodup p))]
  congr 1
  apply Finset.filter_congr
  intro x hx
  rw [hperm.mem_iff]
  exact h.mem_categoryIndex hinj hx p

lemma Holds.coe_findByCategory (h : r.Holds blake3 names S)
    (hinj : Set.InjOn (capabilityHash blake3) names) (p : String) :
    (r.findByCategory p : Multiset SemanticCapability) =
      (S.filter fun x => (Category.fromStr p).matches x.2.category).val.map Prod.snd := by
  rw [← h.coe_candidates hinj p (.refl _), Multiset.map_coe, map_flatMap]
  rfl

lemma Holds.coe_findByTag (h : r.Holds blake3 names S) (t : String) :
    (r.findByTag t : Multiset SemanticCapability) =
      (S.filter fun x => t ∈ x.2.tags).val.map Prod.snd := by
  have hflat : r.findByTag t = (((r.tagIndex.listed t).flatMap fun hash =>
      (r.capabilities hash).getD []).filter fun x => decide (t ∈ x.2.tags)).map Prod.snd := by
    unfold findByTag
    rw [filter_flatMap, map_flatMap]
    congr 1
    funext hash
    rw [filter_map]
    rfl
  rw [hflat, ← Multiset.map_coe,
    coe_filter_eq_val (coe_flatMap_fibers h.entries (h.tag_nodup t)), Finset.filter_filter]
  congr 2
  apply Finset.filter_congr
  intro x hx
  rw [decide_eq_true_iff]
  exact and_iff_right_of_imp fun htag => h.tag x hx t htag

lemma map_agent_offer (x : NodeId × SemanticCapability) :
    (offer reputation intent x).map (·.agent) =
      if intent.allows reputation x.1 then some x.1 else none := by
  obtain ⟨node, cap⟩ := x
  have hpasses := evaluateConstraints_fst reputation node intent.constraints 0
  unfold offer Intent.allows
  dsimp only
  rw [← hpasses]
  rcases evaluateConstraints reputation node intent.constraints 0 with ⟨_ | _, score⟩
  · rfl
  · rfl

lemma map_agent_offers (entries : List (NodeId × SemanticCapability)) :
    (entries.filterMap (offer reputation intent)).map (·.agent) =
      (entries.filter fun x => intent.allows reputation x.1).map Prod.fst := by
  rw [map_filterMap]
  simp only [map_agent_offer]
  induction entries with
  | nil => rfl
  | cons entry rest ih =>
    by_cases hallows : intent.allows reputation entry.1
    · simp [hallows, ih]
    · simp [hallows, ih]

lemma Holds.coe_discover (h : r.Holds blake3 names S) (reputation : Reputation)
    (intent : Intent) :
    ((r.discover reputation intent).map (·.agent) : Multiset NodeId) =
      (S.filter fun x => x.2.intentHash = intent.hash ∧ intent.allows reputation x.1).val.map
        Prod.fst := by
  have hperm : ((r.discover reputation intent).map (·.agent)).Perm
      ((((r.capabilities intent.hash).getD []).filterMap (offer reputation intent)).map
        (·.agent)) :=
    (perm_insertionSort _ _).map _
  rw [Multiset.coe_eq_coe.mpr hperm, map_agent_offers, ← Multiset.map_coe,
    coe_filter_eq_val (h.entries intent.hash), Finset.filter_filter]

lemma Holds.nodup_discover (h : r.Holds blake3 names S)
    (hinj : Set.InjOn (capabilityHash blake3) names) (reputation : Reputation) (intent : Intent) :
    ((r.discover reputation intent).map (·.agent)).Nodup := by
  rw [← Multiset.coe_nodup, h.coe_discover]
  apply Multiset.Nodup.map_on
  · intro x hx y hy hnode
    simp only [Finset.mem_val, Finset.mem_filter] at hx hy
    refine h.unique x hx.1 y hy.1 hnode (h.name_eq hinj hx.1 (h.named y hy.1) ?_)
    rw [hx.2.1, hy.2.1]
  · exact Finset.nodup _

end SemanticRouter

lemma SemanticQuery.execute_category
    {r : SemanticRouter} {S : Registrations} (h : r.Holds blake3 names S)
    (hinj : Set.InjOn (capabilityHash blake3) names) (reputation : Reputation)
    {setOrder : List IntentHash → List IntentHash}
    (hsetOrder : ∀ hashes, (setOrder hashes).Perm hashes.dedup) (mapOrder : List IntentHash)
    {q : SemanticQuery} {p : String} (hintent : q.intent = none)
    (hcategory : q.categoryPrefix = some p) :
    ∃ ranked : List SemanticRoute, ranked.Pairwise (fun a b => b.matchScore ≤ a.matchScore) ∧
      (ranked : Multiset SemanticRoute) =
        (S.filter fun x => (Category.fromStr p).matches x.2.category ∧ q.selects x.2).val.map
          (q.route reputation) ∧
      q.execute r reputation setOrder mapOrder = ranked.take q.limit := by
  have : Std.Total fun a b : SemanticRoute => b.matchScore ≤ a.matchScore :=
    ⟨fun a b => UInt32.le_total b.matchScore a.matchScore⟩
  have : IsTrans SemanticRoute fun a b => b.matchScore ≤ a.matchScore :=
    ⟨fun a b c hab hbc => UInt32.le_trans hbc hab⟩
  refine ⟨_, pairwise_insertionSort _ _, ?_, rfl⟩
  have hcandidates : q.candidates r setOrder mapOrder =
      (setOrder (r.categoryIndex.listed p)).flatMap fun hash => (r.capabilities hash).getD [] := by
    simp [SemanticQuery.candidates, hintent, hcategory]
  have hperm : (setOrder (r.categoryIndex.listed p)).Perm (r.categoryIndex.listed p) := by
    have hdedup := hsetOrder (r.categoryIndex.listed p)
    rwa [(h.category_nodup p).dedup] at hdedup
  rw [Multiset.coe_eq_coe.mpr (perm_insertionSort _ _), ← Multiset.map_coe, hcandidates,
    coe_filter_eq_val (h.coe_candidates hinj p hperm), Finset.filter_filter]

/-- **The registry answers from the plain set of registrations.** After any calls of `register` and
`unregister_node`, under names whose hashes do not collide: the queries by category and by tag
return what is stored under them, and `discover` the nodes registered for the intent that its
constraints allow, each once. A query by category is the first `limit` of the filtered set, best
first. The indexes mention no hash that nobody provides. -/
theorem capability_indexes_exact (blake3 : List UInt8 → Digest) (calls : List RouterCall)
    (hinj : Set.InjOn (capabilityHash blake3) (RouterCall.names calls)) (reputation : Reputation)
    (setOrder : List IntentHash → List IntentHash)
    (hsetOrder : ∀ hashes, (setOrder hashes).Perm hashes.dedup) (mapOrder : List IntentHash) :
    (∀ p, ((SemanticRouter.after blake3 calls).findByCategory p : Multiset SemanticCapability) =
      ((Registrations.after blake3 calls).filter fun x =>
        (Category.fromStr p).matches x.2.category).val.map Prod.snd) ∧
    (∀ t, ((SemanticRouter.after blake3 calls).findByTag t : Multiset SemanticCapability) =
      ((Registrations.after blake3 calls).filter fun x => t ∈ x.2.tags).val.map Prod.snd) ∧
    (∀ intent,
      (((SemanticRouter.after blake3 calls).discover reputation intent).map (·.agent) :
        Multiset NodeId) =
      ((Registrations.after blake3 calls).filter fun x =>
        x.2.intentHash = intent.hash ∧ intent.allows reputation x.1).val.map Prod.fst ∧
      (((SemanticRouter.after blake3 calls).discover reputation intent).map (·.agent)).Nodup) ∧
    (∀ (q : SemanticQuery) p, q.intent = none → q.categoryPrefix = some p →
      ∃ ranked : List SemanticRoute, ranked.Pairwise (fun a b => b.matchScore ≤ a.matchScore) ∧
        (ranked : Multiset SemanticRoute) =
          ((Registrations.after blake3 calls).filter fun x =>
            (Category.fromStr p).matches x.2.category ∧ q.selects x.2).val.map
              (q.route reputation) ∧
        q.execute (SemanticRouter.after blake3 calls) reputation setOrder mapOrder =
          ranked.take q.limit) ∧
    ∀ key hash, hash ∈ (SemanticRouter.after blake3 calls).categoryIndex.listed key ∨
        hash ∈ (SemanticRouter.after blake3 calls).tagIndex.listed key →
      ∃ node, (SemanticRouter.after blake3 calls).provides node hash := by
  have h := SemanticRouter.holds_after hinj (Set.Subset.refl (RouterCall.names calls))
  refine ⟨h.coe_findByCategory hinj, h.coe_findByTag, fun intent =>
    ⟨h.coe_discover reputation intent, h.nodup_discover hinj reputation intent⟩,
    fun q p hintent hcategory => ?_, fun key hash hmem => ?_⟩
  · exact SemanticQuery.execute_category h hinj reputation hsetOrder mapOrder hintent hcategory
  · have hstored : ∃ x ∈ Registrations.after blake3 calls, x.2.intentHash = hash := by
      rcases hmem with hcategory | htag
      · obtain ⟨x, hx, hhash, -⟩ := (h.category key hash).mp hcategory
        exact ⟨x, hx, hhash⟩
      · exact h.tag_provided key hash htag
    obtain ⟨x, hx, hhash⟩ := hstored
    refine ⟨x.1, any_eq_true.mpr ⟨x, h.mem_entries.mpr ⟨hx, hhash⟩, ?_⟩⟩
    exact decide_eq_true rfl

/-! ### Samples -/

def namesBlake3 (input : List UInt8) : Digest :=
  if input = utf8 "llm:completion" then
    hex 32 0xa123dff7e0f11654ae6a239ac95449c0477984a042d124522f4663d8d25389f4
  else if input = utf8 "llm:embedding" then
    hex 32 0x2db9b4822ee6ee9c060aa6abffece32f52f66775f491da4939d4c445c72c4773
  else Vector.replicate 32 0

def providerId (byte : UInt8) : NodeId := ⟨Vector.replicate 32 byte⟩

def retaggedCalls : List RouterCall :=
  [.register (providerId 1) "llm:completion" ["fast"], .register (providerId 2) "llm:embedding" [],
    .register (providerId 1) "llm:completion" ["slow"], .unregisterNode (providerId 2)]

theorem retagged_capability_found :
    let router := SemanticRouter.after namesBlake3 retaggedCalls
    (router.findByCategory "llm" : Multiset SemanticCapability) =
        ((Registrations.after namesBlake3 retaggedCalls).filter fun x =>
          (Category.fromStr "llm").matches x.2.category).val.map Prod.snd ∧
      router.findByCategory "llm" = [.tagged namesBlake3 "llm:completion" ["slow"]] ∧
      router.findByCategory "llm:embedding" = [] ∧ router.findByTag "fast" = [] := by
  have hnames : RouterCall.names retaggedCalls ⊆ {"llm:completion", "llm:embedding"} := by
    rintro name ⟨node, tags, hmem⟩
    simp only [retaggedCalls, mem_cons, RouterCall.register.injEq, reduceCtorEq,
      not_mem_nil, or_false] at hmem
    rcases hmem with ⟨-, rfl, -⟩ | ⟨-, rfl, -⟩ | ⟨-, rfl, -⟩
    · simp
    · simp
    · simp
  have hne : capabilityHash namesBlake3 "llm:completion" ≠
      capabilityHash namesBlake3 "llm:embedding" := by
    decide +kernel
  have hinj : Set.InjOn (capabilityHash namesBlake3) (RouterCall.names retaggedCalls) := by
    refine Set.InjOn.mono hnames (Set.injOn_pair.mpr fun heq => ?_)
    exact absurd heq hne
  refine ⟨(capability_indexes_exact namesBlake3 retaggedCalls hinj (fun _ => none) List.dedup
    (fun _ => .refl _) []).1 "llm", ?_⟩
  decide +kernel

/-- **Not every registered node is offered.** `discover` drops a node that the intent excludes, and
a query by category drops what is beyond its limit. -/
theorem registered_nodes_dropped :
    ((providerId 1, SemanticCapability.tagged namesBlake3 "llm:completion" []) ∈
        Registrations.after namesBlake3 [.register (providerId 1) "llm:completion" []] ∧
      (SemanticRouter.after namesBlake3 [.register (providerId 1) "llm:completion" []]).discover
        (fun _ => none) ((SemanticRouter.Intent.fromStr namesBlake3 "llm:completion").withConstraint
          (.excludeAgent (providerId 1))) = []) ∧
    (((Registrations.after namesBlake3 ((List.range 11).map fun i =>
        .register (providerId (.ofNat i)) "llm:completion" [])).filter fun x =>
          (Category.fromStr "llm").matches x.2.category).card = 11 ∧
      ((SemanticQuery.new.category "llm").execute (SemanticRouter.after namesBlake3
        ((List.range 11).map fun i => .register (providerId (.ofNat i)) "llm:completion" []))
        (fun _ => none) List.dedup []).length = 10) := by
  decide +kernel

end AxiomCore
