import AxiomCore.Crypto.IntentHash

/-!
# The registry of capabilities

`SemanticRouter` maps the hash of a capability's name to the nodes that provide it, with two
indexes over the hashes: by prefixes of the colon-separated name, and by tags.

- `register` replaces the node's entry for the capability, `unregisterNode` drops all entries of a
  node and every index entry that nobody provides any more.

The router's reputation table and the id of its own node are left out: neither operation reads
them.

Source: `axiom-router/src/semantic.rs`.
-/

namespace AxiomCore

open Lib

/-! ## Capabilities -/

/-- `Intent::from_str(name).hash`. Source: `axiom-router/src/ai.rs`, `Intent::from_str`. -/
def capabilityHash (blake3 : List UInt8 → Digest) (name : String) : IntentHash :=
  ⟨Vector.ofFn fun i : Fin 16 => (blake3 (utf8 name)).get (i.castLE hash_le_digest)⟩

def echoDigest : Digest :=
  hex 32 0x54eed4460d7248c40158faa659cd0b6dbdb99cdd87221218783da7c227e5d0f8

def wgPeerManageDigest : Digest :=
  hex 32 0xe82403bc2f18c7871554433785b45ee2a90f049b7cef377156ccb26cf9bc871c

structure Category where
  path : List String
  deriving DecidableEq

namespace Category

def fromStr (s : String) : Category := ⟨(s.toList.splitOn ':').map String.ofList⟩

def prefixes (c : Category) : List String :=
  (List.range c.path.length).map fun i => String.intercalate ":" (c.path.take (i + 1))

end Category

structure SemanticCapability where
  intentHash : IntentHash
  name : String
  category : Category
  tags : List String
  version : UInt32
  deriving DecidableEq

def SemanticCapability.new (blake3 : List UInt8 → Digest) (name : String) : SemanticCapability :=
  ⟨capabilityHash blake3 name, name, .fromStr name, [], 10000⟩

/-! ## The router -/

abbrev HashIndex := String → Option (List IntentHash)

def HashIndex.add (index : HashIndex) (hash : IntentHash) (key : String) : HashIndex :=
  let hashes := (index key).getD []
  Function.update index key (some (if hash ∈ hashes then hashes else hashes ++ [hash]))

/-- Keep the hashes that are still provided. -/
def HashIndex.prune (index : HashIndex) (orphaned : IntentHash → Bool) : HashIndex := fun key =>
  ((index key).map (·.filter (!orphaned ·))).filter (!·.isEmpty)

structure SemanticRouter where
  capabilities : IntentHash → Option (List (NodeId × SemanticCapability))
  categoryIndex : HashIndex
  tagIndex : HashIndex

namespace SemanticRouter

def new : SemanticRouter := ⟨fun _ => none, fun _ => none, fun _ => none⟩

def register (r : SemanticRouter) (node : NodeId) (cap : SemanticCapability) : SemanticRouter where
  capabilities := Function.update r.capabilities cap.intentHash
    (some (((r.capabilities cap.intentHash).getD []).filter (·.1 ≠ node) ++ [(node, cap)]))
  categoryIndex := cap.category.prefixes.foldl (·.add cap.intentHash) r.categoryIndex
  tagIndex := cap.tags.foldl (·.add cap.intentHash) r.tagIndex

/-- `SemanticRouter::unregister_node`. A hash is orphaned if the node provided it and nobody does
now. -/
def unregisterNode (r : SemanticRouter) (node : NodeId) : SemanticRouter :=
  let capabilities := fun hash =>
    ((r.capabilities hash).map (·.filter (·.1 ≠ node))).filter (!·.isEmpty)
  let orphaned := fun hash =>
    ((r.capabilities hash).getD []).any (·.1 = node) && (capabilities hash).isNone
  ⟨capabilities, r.categoryIndex.prune orphaned, r.tagIndex.prune orphaned⟩

def provides (r : SemanticRouter) (node : NodeId) (hash : IntentHash) : Bool :=
  ((r.capabilities hash).getD []).any (·.1 = node)

variable (r : SemanticRouter) (node node' : NodeId) (cap : SemanticCapability)

lemma provides_new (hash : IntentHash) : new.provides node hash = false := rfl

lemma getD_register (hash : IntentHash) :
    ((r.register node cap).capabilities hash).getD [] =
      if hash = cap.intentHash then
        ((r.capabilities hash).getD []).filter (·.1 ≠ node) ++ [(node, cap)]
      else (r.capabilities hash).getD [] := by
  unfold register
  by_cases hhash : hash = cap.intentHash
  · subst hhash
    simp
  · simp [hhash]

lemma provides_register (hash : IntentHash) :
    (r.register node cap).provides node' hash ↔
      (node' = node ∧ hash = cap.intentHash) ∨ r.provides node' hash := by
  unfold provides register
  by_cases hhash : hash = cap.intentHash
  · subst hhash
    by_cases hnode : node' = node
    · subst hnode
      simp
    have hother : ∀ entry : NodeId × SemanticCapability, entry.1 ≠ node ∧ entry.1 = node' ↔
        entry.1 = node' := fun entry => ⟨fun h => h.2, fun h => ⟨fun h' => hnode (h ▸ h'), h⟩⟩
    simp [List.any_append, List.any_filter, hnode, Ne.symm hnode, hother]
  · simp [hhash]

lemma getD_filter_nonempty {α : Type*} (entries : Option (List α)) :
    (entries.filter (!·.isEmpty)).getD [] = entries.getD [] := by
  rcases entries with _ | ⟨_ | ⟨entry, rest⟩⟩
  · rfl
  · rfl
  · rfl

lemma getD_unregisterNode (hash : IntentHash) :
    ((r.unregisterNode node).capabilities hash).getD [] =
      ((r.capabilities hash).getD []).filter (·.1 ≠ node) := by
  unfold unregisterNode
  rw [getD_filter_nonempty]
  rcases r.capabilities hash with _ | entries
  · rfl
  · rfl

lemma provides_unregisterNode (hash : IntentHash) :
    (r.unregisterNode node).provides node' hash ↔ node' ≠ node ∧ r.provides node' hash := by
  rw [provides, getD_unregisterNode, List.any_filter, provides, List.any_eq_true, List.any_eq_true]
  constructor
  · rintro ⟨entry, hmem, hentry⟩
    simp only [Bool.and_eq_true, decide_eq_true_eq] at hentry
    exact ⟨fun h => hentry.1 (hentry.2.trans h), entry, hmem, decide_eq_true hentry.2⟩
  · rintro ⟨hne, entry, hmem, hentry⟩
    have hnode := of_decide_eq_true hentry
    exact ⟨entry, hmem, by simp [hnode, hne]⟩

end SemanticRouter

end AxiomCore
