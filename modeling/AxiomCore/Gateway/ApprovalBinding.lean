import AxiomCore.Gateway.Approval
import AxiomCore.Lib.Blake3
import AxiomCore.Lib.StableSort

/-!
# What an approval is bound to

A human approves the parameters shown on the channel; `verify_parameter_hash` is meant to reject
any others. The hash is taken over `hashInput`, which writes no lengths, so it binds the approval to
a byte string and not to a parameter list. `parameterHash_binds_iff_sameFraming` says exactly how
much is missing: the hash tells two parameter lists apart if and only if they are not two different
ways to cut one byte string.

`oneOf_parameters_share_a_hash` is a pair that is not told apart.

The parameters are sorted by key before they are hashed, with a stable sort: those of one key are
hashed in the caller's order. `parameterHash_perm_iff` says when the order does not show, and
`repeated_key_order_shows` is a list for which it does.
-/

namespace AxiomCore

open Lib Constraint List

lemma verifyParameterHash_of_hashInput_eq {X : Externals} {i : Intent} {c : String}
    {p : List Constraint} (hhash : i.parameterHash = computeParameterHash X c p)
    (h : hashInput (parameterDescriptor c p) =
      hashInput (parameterDescriptor i.capability i.parameters)) :
    i.verifyParameterHash X = true := by
  unfold Intent.verifyParameterHash
  rw [hhash, decide_eq_true_eq]
  unfold computeParameterHash hashIntent
  rw [h]

/-- **The parameter hash binds exactly what is framed alike.** Capability `c` with parameters `p`
was approved, and an intent with the approved hash is about to be executed; BLAKE3, cut to 16 bytes,
does not collide on the two pre-images. Then equal pre-images mean equal capabilities and equal
parameters up to order, and `verify_parameter_hash` rejects whatever differs from what was approved,
if and only if equal pre-images mean equal framing. -/
theorem parameterHash_binds_iff_sameFraming (X : Externals) (c : String) (p : List Constraint)
    (i : Intent) (hhash : i.parameterHash = computeParameterHash X c p)
    (hcoll : computeParameterHash X i.capability i.parameters = computeParameterHash X c p →
      hashInput (parameterDescriptor i.capability i.parameters) =
        hashInput (parameterDescriptor c p)) :
    let approved := parameterDescriptor c p
    let stored := parameterDescriptor i.capability i.parameters
    ((hashInput approved = hashInput stored → c = i.capability ∧ p.Perm i.parameters) ↔
      (hashInput approved = hashInput stored → SameFraming approved stored)) ∧
    ((¬ (c = i.capability ∧ p.Perm i.parameters) → i.verifyParameterHash X = false) ↔
      (hashInput approved = hashInput stored → SameFraming approved stored)) := by
  intro approved stored
  have hbinds : hashInput approved = hashInput stored →
      ((c = i.capability ∧ p.Perm i.parameters) ↔ SameFraming approved stored) :=
    fun h => binds_iff_sameFraming h
  refine ⟨?_, ?_⟩
  · constructor
    · intro h hsame
      exact (hbinds hsame).mp (h hsame)
    · intro h hsame
      exact (hbinds hsame).mpr (h hsame)
  · constructor
    · intro h hsame
      by_contra hframe
      -- a differing intent with the same pre-image passes the check
      have hdiff : ¬ (c = i.capability ∧ p.Perm i.parameters) :=
        fun heq => hframe ((hbinds hsame).mp heq)
      rw [verifyParameterHash_of_hashInput_eq hhash hsame] at h
      exact absurd (h hdiff) (by simp)
    · intro h hdiff
      by_contra hpass
      have hverify : computeParameterHash X i.capability i.parameters = i.parameterHash := by
        simpa [Intent.verifyParameterHash] using hpass
      have hsame := (hcoll (hverify.trans hhash)).symm
      exact hdiff ((hbinds hsame).mpr (h hsame))

/-- An intent approved with `sampleParameters` whose stored parameters were reordered. -/
def reorderedIntent : Intent :=
  { Intent.propose sampleExternals ⟨Vector.replicate 16 7⟩ 0 ⟨Vector.replicate 32 1⟩
      "mock_destructive_action" sampleParameters none defaultExpiry with
    parameters := sampleParameters.reverse }

theorem reorderedIntent_sameFraming :
    reorderedIntent.verifyParameterHash sampleExternals = true ∧
      SameFraming (parameterDescriptor "mock_destructive_action" sampleParameters)
        (parameterDescriptor reorderedIntent.capability reorderedIntent.parameters) := by
  have hsame : hashInput (parameterDescriptor "mock_destructive_action" sampleParameters) =
      hashInput (parameterDescriptor reorderedIntent.capability reorderedIntent.parameters) := by
    decide
  have h := parameterHash_binds_iff_sameFraming sampleExternals "mock_destructive_action"
    sampleParameters reorderedIntent rfl (fun _ => hsame.symm)
  refine ⟨by decide, h.1.mp (fun _ => ⟨rfl, ?_⟩) hsame⟩
  exact (reverse_perm sampleParameters).symm

/-- An intent approved with one allowed value whose stored parameters allow two others. -/
def splitOneOfIntent (X : Externals) : Intent :=
  { Intent.propose X ⟨Vector.replicate 16 7⟩ 0 ⟨Vector.replicate 32 1⟩ "wg_peer_manage"
      [⟨"target", .oneOf ["alicebob"]⟩] none defaultExpiry with
    parameters := [⟨"target", .oneOf ["alice", "bob"]⟩] }

/-- **Two parameter lists, one hash.** Approving the one value `alicebob` approves the two values
`alice` and `bob`: the pre-images are equal, the lists are not, and `verify_parameter_hash` accepts
the exchange whatever the hash function is. -/
theorem oneOf_parameters_share_a_hash :
    hashInput (parameterDescriptor "wg_peer_manage" [⟨"target", .oneOf ["alicebob"]⟩]) =
        hashInput (parameterDescriptor "wg_peer_manage" [⟨"target", .oneOf ["alice", "bob"]⟩]) ∧
      ¬ [(⟨"target", .oneOf ["alicebob"]⟩ : Constraint)].Perm
          [⟨"target", .oneOf ["alice", "bob"]⟩] ∧
      ∀ X : Externals, (splitOneOfIntent X).verifyParameterHash X = true := by
  refine (and_iff_left_of_imp fun hsame => ⟨by decide, fun X => ?_⟩).mpr (by decide)
  exact verifyParameterHash_of_hashInput_eq (i := splitOneOfIntent X) rfl hsame

/-! ## The order of the parameters -/

instance : Std.Total keyLe := ⟨fun a b => List.le_total (utf8 a.key) (utf8 b.key)⟩

instance : IsTrans Constraint keyLe := ⟨fun _ _ _ => List.le_trans⟩

lemma keyLe_antisymm_iff {c d : Constraint} : (c.keyLe d ∧ d.keyLe c) ↔ c.key = d.key := by
  constructor
  · exact fun h => utf8_inj (List.le_antisymm h.1 h.2)
  · intro h
    unfold keyLe
    rw [h]
    exact ⟨List.le_refl _, List.le_refl _⟩

/-- BLAKE3, cut to 16 bytes, does not collide on the orders of one parameter list. -/
def OrdersDoNotCollide (X : Externals) (capability : String) (ps : List Constraint) : Prop :=
  ∀ ps', ps'.Perm ps →
    computeParameterHash X capability ps' = computeParameterHash X capability ps →
      hashInput (parameterDescriptor capability ps') = hashInput (parameterDescriptor capability ps)

/-- **When the order of the parameters does not show.** Every order of a parameter list has one
hash exactly if the bytes of any two of its parameters with one key can be exchanged. -/
theorem parameterHash_perm_iff (X : Externals) (capability : String) (ps : List Constraint)
    (hcoll : OrdersDoNotCollide X capability ps) :
    (∀ ps', ps'.Perm ps →
      computeParameterHash X capability ps' = computeParameterHash X capability ps) ↔
      ∀ c ∈ ps, ∀ d ∈ ps, c.key = d.key →
        c.hashBytes ++ d.hashBytes = d.hashBytes ++ c.hashBytes := by
  have hties : TiesCommute keyLe Constraint.hashBytes ps ↔ ∀ c ∈ ps, ∀ d ∈ ps,
      c.key = d.key → c.hashBytes ++ d.hashBytes = d.hashBytes ++ c.hashBytes := by
    simp only [TiesCommute, ← and_imp, keyLe_antisymm_iff]
  have hinput : ∀ ps', hashInput (parameterDescriptor capability ps') =
      hashInput (parameterDescriptor capability ps) ↔ (sortByKey ps').flatMap Constraint.hashBytes =
        (sortByKey ps).flatMap Constraint.hashBytes := fun ps' =>
    append_right_inj _ |>.trans (append_left_inj _)
  rw [← hties, ← flatMap_insertionSort_perm_iff]
  constructor
  · exact fun h ps' hperm => (hinput ps').mp (hcoll ps' hperm (h ps' hperm))
  · intro h ps' hperm
    unfold computeParameterHash hashIntent
    rw [(hinput ps').mpr (h ps' hperm)]

theorem sampleParameters_order_irrelevant :
    computeParameterHash sampleExternals "mock_destructive_action" sampleParameters.reverse =
      computeParameterHash sampleExternals "mock_destructive_action" sampleParameters := by
  have hsame : ∀ ps' ∈ sampleParameters.permutations',
      hashInput (parameterDescriptor "mock_destructive_action" ps') =
        hashInput (parameterDescriptor "mock_destructive_action" sampleParameters) := by
    decide
  refine (parameterHash_perm_iff _ _ _ fun ps' hperm _ => ?_).mpr (by decide) _
    (reverse_perm _)
  exact hsame ps' (mem_permutations'.mpr hperm)

/-- **The order of two parameters with one key shows.** -/
theorem repeated_key_order_shows :
    [(⟨"peer", .string "bob"⟩ : Constraint), ⟨"peer", .string "alice"⟩].Perm
        [⟨"peer", .string "alice"⟩, ⟨"peer", .string "bob"⟩] ∧
      computeParameterHash { sampleExternals with blake3 := Blake3.hash } "wg_peer_manage"
          [⟨"peer", .string "bob"⟩, ⟨"peer", .string "alice"⟩] ≠
        computeParameterHash { sampleExternals with blake3 := Blake3.hash } "wg_peer_manage"
          [⟨"peer", .string "alice"⟩, ⟨"peer", .string "bob"⟩] :=
  ⟨List.Perm.swap _ _ _, by decide +kernel⟩

end AxiomCore
