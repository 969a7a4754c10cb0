import AxiomCore.Types.Basic

/-!
# The intent hash and the framing of its pre-image

`IntentHasher::hash_intent` feeds BLAKE3 one byte string, `hashInput`: the capability name, then
for each constraint in key order its key, a one-byte type tag and the value, then priority and
time-to-live. No length is written anywhere, so the pre-image is a plain concatenation of
variable-length parts. This module says exactly when that concatenation still determines what was
hashed.

- `Constraint.layout`: the lengths a reader would need to cut a constraint's bytes out.
- `hashBytes_list_inj`: constraint lists of one layout are determined by their bytes.
- `binds_iff_sameFraming`: for two descriptors with one pre-image, equality (up to the order of
  constraints) and equal framing are the same condition.

Injectivity of BLAKE3 is not assumed here: everything is about the pre-image.

Source: `axiom-crypto/src/hash.rs`.
-/

namespace AxiomCore

open Lib Constraint ConstraintValue

/-- A BLAKE3 output. -/
abbrev Digest := Vector UInt8 32

/-! ## The pre-image -/

def ConstraintValue.hashBytes : ConstraintValue → List UInt8
  | .string s => 0x00 :: utf8 s
  | .int i => 0x01 :: beBytes 8 i.toUInt64.toNat
  | .float f => 0x02 :: beBytes 8 f.toNat
  | .bool b => [0x03, if b then 1 else 0]
  | .range min max => 0x04 :: (beBytes 8 min.toNat ++ beBytes 8 max.toNat)
  | .oneOf values => 0x05 :: values.flatMap utf8

/-- The bytes hashed for a constraint. -/
def Constraint.hashBytes (c : Constraint) : List UInt8 := utf8 c.key ++ c.value.hashBytes

/-- `a.key.cmp(&b.key)` is not `Greater`: Rust compares strings by their bytes. -/
def Constraint.keyLe (a b : Constraint) : Prop := utf8 a.key ≤ utf8 b.key

instance : DecidableRel keyLe := fun _ _ => inferInstanceAs (Decidable (_ ≤ _))

/-- `sort_by(|a, b| a.key.cmp(&b.key))`. Both `sort_by` and insertion sort are stable. -/
def sortByKey (cs : List Constraint) : List Constraint := cs.insertionSort keyLe

def hashInput (d : IntentDescriptor) : List UInt8 :=
  utf8 d.capability ++ ((sortByKey d.constraints).flatMap Constraint.hashBytes ++
    ([d.priority] ++ beBytes 4 d.ttlMs.toNat))

lemma hash_le_digest : 16 ≤ 32 := by decide

/-- `IntentHasher::hash_intent`: BLAKE3 of the pre-image, cut to 16 bytes. -/
def hashIntent (blake3 : List UInt8 → Digest) (d : IntentDescriptor) : IntentHash :=
  ⟨Vector.ofFn fun i : Fin 16 => (blake3 (hashInput d)).get (i.castLE hash_le_digest)⟩

lemma sortByKey_perm (cs : List Constraint) : (sortByKey cs).Perm cs :=
  List.perm_insertionSort _ cs

/-! ## Layouts -/

def ConstraintValue.tag : ConstraintValue → UInt8
  | .string _ => 0x00
  | .int _ => 0x01
  | .float _ => 0x02
  | .bool _ => 0x03
  | .range _ _ => 0x04
  | .oneOf _ => 0x05

/-- The byte lengths of a value's texts: one for a `String`, one per element for a `OneOf`. -/
def ConstraintValue.textLengths : ConstraintValue → List Nat
  | .string s => [(utf8 s).length]
  | .oneOf values => values.map fun v => (utf8 v).length
  | _ => []

/-- What a reader of the pre-image would have to be told to cut one constraint out of it. -/
structure Layout where
  keyLength : Nat
  tag : UInt8
  /-- Byte lengths of the value's texts. -/
  textLengths : List Nat

def Constraint.layout (c : Constraint) : Layout where
  keyLength := (utf8 c.key).length
  tag := c.value.tag
  textLengths := c.value.textLengths

variable {v w : ConstraintValue}

lemma ConstraintValue.length_hashBytes_eq (ht : v.tag = w.tag)
    (hl : v.textLengths = w.textLengths) : v.hashBytes.length = w.hashBytes.length := by
  cases v <;> cases w <;> simp_all [tag, textLengths, hashBytes, List.length_flatMap]

lemma ConstraintValue.hashBytes_inj (ht : v.tag = w.tag)
    (hl : v.textLengths = w.textLengths) (h : v.hashBytes = w.hashBytes) : v = w := by
  have hword : ∀ {x y : UInt64}, beBytes 8 x.toNat = beBytes 8 y.toNat → x = y :=
    fun {x y} hxy => UInt64.toNat_inj.mp (beBytes_inj x.toNat_lt y.toNat_lt hxy)
  -- different types carry different tags; on the diagonal the tag drops out of the bytes
  cases v <;> cases w <;> simp [tag] at ht <;>
    simp only [hashBytes, List.cons.injEq, true_and, and_true] at h
  case string s t => rw [utf8_inj h]
  case int i j => 
    cases i; cases j
    exact congrArg (fun u => int ⟨u⟩) (hword h)
  case float f g => rw [hword h]
  case bool a b => cases a <;> cases b <;> simp_all
  case range a b c d =>
    obtain ⟨hmin, hmax⟩ := List.append_inj h (by simp)
    rw [hword hmin, hword hmax]
  case oneOf ss ts => rw [utf8_flatMap_inj_of_lengths h (by simpa [textLengths] using hl)]

lemma hashBytes_list_inj {cs ds : List Constraint} {s t : List UInt8}
    (hl : cs.map layout = ds.map layout)
    (h : cs.flatMap Constraint.hashBytes ++ s = ds.flatMap Constraint.hashBytes ++ t) :
    cs = ds ∧ s = t := by
  induction cs generalizing ds with
  | nil =>
    cases ds with
    | nil => exact ⟨rfl, by simpa using h⟩
    | cons d ds => simp at hl
  | cons c cs ih =>
    cases ds with
    | nil => simp at hl
    | cons d ds =>
      simp only [List.map_cons, List.cons.injEq] at hl
      obtain ⟨hcd, hrest⟩ := hl
      simp only [layout, Layout.mk.injEq] at hcd
      obtain ⟨hkey, htag, htexts⟩ := hcd
      simp only [List.flatMap_cons, List.append_assoc, Constraint.hashBytes] at h
      obtain ⟨hk, h⟩ := List.append_inj h hkey
      obtain ⟨hv, h⟩ :=
        List.append_inj h (length_hashBytes_eq htag htexts)
      obtain ⟨hds, hst⟩ := ih hrest h
      have hc : c = d := by
        cases c; cases d
        rw [Constraint.mk.injEq]
        exact ⟨utf8_inj hk, hashBytes_inj htag htexts hv⟩
      exact ⟨by rw [hc, hds], hst⟩

/-! ## When the pre-image binds -/

/-- Two descriptors are framed alike: capability names of one length and constraint lists of one
layout, where constraints of the second descriptor may first be exchanged as long as the hashed
bytes stay what they are (constraints under one key are hashed in the caller's order, so such an
exchange can be invisible). -/
def SameFraming (d d' : IntentDescriptor) : Prop :=
  (utf8 d.capability).length = (utf8 d'.capability).length ∧
    ∃ cs : List Constraint, cs.Perm d'.constraints ∧
      cs.flatMap Constraint.hashBytes = (sortByKey d'.constraints).flatMap Constraint.hashBytes ∧
      (sortByKey d.constraints).map layout = cs.map layout

lemma binds_iff_sameFraming {d d' : IntentDescriptor} (h : hashInput d = hashInput d') :
    (d.capability = d'.capability ∧ d.constraints.Perm d'.constraints) ↔ SameFraming d d' := by
  constructor
  · rintro ⟨hcap, hperm⟩
    -- equal capabilities leave equal constraint bytes: the trailer has a fixed length
    have hbytes : (sortByKey d.constraints).flatMap Constraint.hashBytes =
        (sortByKey d'.constraints).flatMap Constraint.hashBytes := by
      unfold hashInput at h
      rw [hcap] at h
      exact (List.append_inj' (List.append_cancel_left h) (by simp)).1
    exact ⟨by rw [hcap], sortByKey d.constraints, (sortByKey_perm _).trans hperm, hbytes, rfl⟩
  · rintro ⟨hcap, cs, hperm, hbytes, hlayout⟩
    unfold hashInput at h
    obtain ⟨hname, h⟩ := List.append_inj h hcap
    rw [← hbytes] at h
    obtain ⟨hcs, -⟩ := hashBytes_list_inj hlayout h
    refine ⟨utf8_inj hname, ?_⟩
    exact (sortByKey_perm _).symm.trans (hcs ▸ hperm)

end AxiomCore
