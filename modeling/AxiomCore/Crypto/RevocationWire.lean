import AxiomCore.Crypto.Revocation

/-!
# Revocations on the wire and under the signature

Certificates are sent and signed in two formats, with an optional key at the end that a flag
announces; witness votes are signed in a third. The reader is at the front of what is left of the
data.

Source: `axiom-crypto/src/revocation.rs`.
-/

namespace AxiomCore

open Lib List

/-- The errors of `deserialize_revocation`. Source: `axiom-crypto/src/revocation.rs`,
`RevocationError`. -/
inductive RevocationFormatError where
  | malformedData
  | invalidHeader
  deriving DecidableEq

def RevocationReason.fromByte : UInt8 → RevocationReason
  | 0x01 => .keyHolderRevoked
  | 0x02 => .keyCompromised
  | 0x03 => .keySuperseded
  | 0x04 => .affiliationChanged
  | 0x05 => .caRevoked
  | 0x06 => .thresholdRevoked
  | 0x07 => .securityEvent
  | _ => .unspecified

def serializeRevocation (c : RevocationCertificate) : List UInt8 :=
  (utf8 "AXIOM-REV" ++ [0x00, 0x01]) ++ (c.revokedKeyId.toList ++ (toLeBytes c.timestampMs ++
    (toLeBytes c.sequence ++ (c.reason.toU8 :: (c.revokerId.toList ++ (c.signature.bytes.toList ++
    match c.supersededBy with
    | some newKey => 0x01 :: newKey.toList
    | none => [0x00]))))))

/-- The optional key at the end. -/
def readSupersededBy (rest : List UInt8) : Checked RevocationFormatError (Option KeyId) := do
  let (flag, rest) ← readByte rest
  if flag = 0x01 then
    require .malformedData 32 rest
    let (newKey, _) ← readBytes 32 rest
    .ok (some (takeVec 32 newKey))
  else .ok none

def deserializeRevocation (data : List UInt8) :
    Checked RevocationFormatError RevocationCertificate :=
  if data.length < 11 + 32 + 8 + 8 + 1 + 32 + 64 + 1 then .error (.error .malformedData)
  else do
    let (header, rest) ← readBytes 11 data
    if header ≠ utf8 "AXIOM-REV" ++ [0x00, 0x01] then .error (.error .invalidHeader)
    else
      let (revokedKeyId, rest) ← readBytes 32 rest
      let (timestamp, rest) ← readBytes 8 rest
      let (sequence, rest) ← readBytes 8 rest
      let (reason, rest) ← readByte rest
      let (revokerId, rest) ← readBytes 32 rest
      let (signature, rest) ← readBytes 64 rest
      let supersededBy ← readSupersededBy rest
      .ok
        { revokedKeyId := takeVec 32 revokedKeyId
          timestampMs := UInt64.ofNat (leNat timestamp)
          sequence := UInt64.ofNat (leNat sequence)
          reason := .fromByte reason
          revokerId := takeVec 32 revokerId
          signature := ⟨takeVec 64 signature⟩
          supersededBy }

lemma RevocationReason.fromByte_toU8 (r : RevocationReason) : fromByte r.toU8 = r := by
  cases r <;> rfl

lemma RevocationReason.toU8_inj {r r' : RevocationReason} (h : [r.toU8] = [r'.toU8]) : r = r' := by
  rw [← r.fromByte_toU8, head_eq_of_cons_eq h, fromByte_toU8]

lemma readSupersededBy_append (key : Option KeyId) :
    readSupersededBy (match key with
      | some newKey => 0x01 :: newKey.toList
      | none => [0x00]) = .ok key := by
  rcases key with _ | newKey
  · rfl
  · dsimp only
    rw [← append_nil newKey.toList]
    simp only [readSupersededBy, readByte, ok_bind, if_true, require_append, readBytes_append,
      Vector.length_toList, takeVec_toList]

lemma deserializeRevocation_serializeRevocation (c : RevocationCertificate) :
    deserializeRevocation (serializeRevocation c) = .ok c := by
  have hheader : (utf8 "AXIOM-REV" ++ [0x00, 0x01]).length = 11 := by decide +kernel
  have hkey : 1 ≤ (match c.supersededBy with
      | some newKey => 0x01 :: newKey.toList
      | none => [(0x00 : UInt8)]).length := by
    rcases c.supersededBy with _ | newKey <;> simp
  have hlength : ¬ (serializeRevocation c).length < 11 + 32 + 8 + 8 + 1 + 32 + 64 + 1 := by
    rw [serializeRevocation, length_append, hheader]
    simp only [length_append, length_cons, Vector.length_toList, length_toLeBytes]
    omega
  rw [deserializeRevocation, if_neg hlength, serializeRevocation, readBytes_append _ hheader]
  simp only [ne_eq, not_true_eq_false, if_false, readBytes_append, Vector.length_toList,
    length_toLeBytes, readByte, ok_bind, readSupersededBy_append]
  simp only [takeVec_toList, ofNat_leNat_toLeBytes, RevocationReason.fromByte_toU8]

lemma deserializeRevocation_inBounds (data : List UInt8) :
    InBounds (deserializeRevocation data) := by
  apply InBounds.ite
  · exact fun _ => inBounds_error _
  intro hlength
  rw [readBytes_of_le (by omega), ok_bind]
  apply InBounds.ite
  · exact fun _ => inBounds_error _
  intro _
  have hreason : 11 + 32 + 8 + 8 < data.length := by omega
  -- the flag is the last byte that the length was checked for
  have hflag : 11 + 32 + 8 + 8 + 1 + 32 + 64 < data.length := by omega
  simp (disch := omega) only [readBytes_drop]
  rw [drop_eq_getElem_cons hreason, readByte, ok_bind]
  simp (disch := omega) only [readBytes_drop]
  rw [drop_eq_getElem_cons hflag, readSupersededBy, readByte, ok_bind]
  refine InBounds.bind ?_ fun _ => inBounds_ok _
  refine InBounds.ite (fun _ => InBounds.guarded fun _ => inBounds_ok _) fun _ => inBounds_ok _

lemma RevocationCertificate.eq_of_canonicalBytes {c c' : RevocationCertificate}
    (h : c.canonicalBytes = c'.canonicalBytes) : { c with signature := c'.signature } = c' := by
  obtain ⟨h, hkey⟩ := append_inj h (by simp)
  obtain ⟨h, hrevoker⟩ := append_inj h (by simp)
  obtain ⟨h, hreason⟩ := append_inj h (by simp)
  obtain ⟨h, hsequence⟩ := append_inj h (by simp)
  obtain ⟨h, htimestamp⟩ := append_inj h (by simp)
  have hrevoked := append_cancel_left h
  have hread := (readSupersededBy_append c.supersededBy).symm.trans
    ((congrArg readSupersededBy hkey).trans (readSupersededBy_append c'.supersededBy))
  rw [Vector.toList_inj.mp hrevoked, toLeBytes_inj htimestamp, toLeBytes_inj hsequence,
    RevocationReason.toU8_inj hreason, Vector.toList_inj.mp hrevoker, Except.ok.inj hread]

lemma RevocationWitness.eq_of_canonicalBytes {w w' : RevocationWitness}
    (h : w.canonicalBytes = w'.canonicalBytes) : { w with signature := w'.signature } = w' := by
  obtain ⟨h, hreason⟩ := append_inj h (by simp)
  obtain ⟨h, htimestamp⟩ := append_inj h (by simp)
  obtain ⟨h, hwitness⟩ := append_inj h (by simp)
  have hrevoked := append_cancel_left h
  rw [Vector.toList_inj.mp hrevoked, Vector.toList_inj.mp hwitness, toLeBytes_inj htimestamp,
    RevocationReason.toU8_inj hreason]

/-- **Revocation encodings are faithful and separate.** A certificate that is written is read back,
and no data make the reader leave them; what is signed determines a certificate, and a vote, up to
the signature, and no certificate has the signed bytes of a vote. -/
theorem revocation_encodings_faithful :
    (∀ c : RevocationCertificate, deserializeRevocation (serializeRevocation c) = .ok c) ∧
    (∀ data : List UInt8, InBounds (deserializeRevocation data)) ∧
    (∀ c c' : RevocationCertificate, c.canonicalBytes = c'.canonicalBytes →
      { c with signature := c'.signature } = c') ∧
    (∀ w w' : RevocationWitness, w.canonicalBytes = w'.canonicalBytes →
      { w with signature := w'.signature } = w') ∧
    ∀ (c : RevocationCertificate) (w : RevocationWitness), c.canonicalBytes ≠ w.canonicalBytes := by
  refine ⟨deserializeRevocation_serializeRevocation, deserializeRevocation_inBounds,
    fun _ _ => RevocationCertificate.eq_of_canonicalBytes,
    fun _ _ => RevocationWitness.eq_of_canonicalBytes, fun c w h => ?_⟩
  -- the names in front differ in their seventh letter
  have hnames := congrArg (List.take 7) h
  simp only [RevocationCertificate.canonicalBytes, RevocationWitness.canonicalBytes,
    append_assoc] at hnames
  rw [take_append_of_le_length (by decide +kernel),
    take_append_of_le_length (by decide +kernel)] at hnames
  exact absurd hnames (by decide +kernel)

end AxiomCore
