import AxiomCore.Transport.CrossTier

/-!
# Tokens on the wire

`serialize_token` writes the fields that are signed, with the signature before the last of them.
`deserialize_token` checks the length once for a token without capabilities and without a parent,
and before most reads that follow the capabilities; before it reads whether there is a parent it
does not check. The reader here is at the front of what is left of the data.

Source: `axiom-transport/src/cross_tier_auth.rs`.
-/

namespace AxiomCore

open Lib List

def TrustTier.fromByte : UInt8 → Option TrustTier
  | 0 => some .root
  | 1 => some .firmware
  | 2 => some .kernel
  | 3 => some .driver
  | 4 => some .application
  | _ => none

/-- The capability with that discriminant. -/
def Capability.fromU16 (v : UInt16) : Option Capability := all.find? fun cap => cap.toU16 == v

/-- The one error of `deserialize_token`. Source: `axiom-transport/src/cross_tier_auth.rs`,
`TokenError`. -/
inductive TokenFormatError where
  | malformedData
  deriving DecidableEq

def parentBytes : Option TokenId → List UInt8
  | some parent => 0x01 :: parent.toList
  | none => [0x00]

/-- The fields from the token's id to the nonce, as they are signed and sent. -/
def AuthToken.fieldBytes (token : AuthToken) : List UInt8 :=
  token.tokenId.toList ++ (token.issuerId.toList ++ (token.subjectId.toList ++
    (token.tier.toU8 :: (leBytes 2 token.sortedCapabilities.length ++
    (token.sortedCapabilities.flatMap (fun cap => leBytes 2 cap.toU16.toNat) ++
    (toLeBytes token.issuedAtMs ++ (toLeBytes token.expiresAtMs ++
    (parentBytes token.parentToken ++ token.nonce.toList))))))))

def serializeToken (token : AuthToken) : List UInt8 :=
  utf8 "ATKN" ++ (token.fieldBytes ++ (token.signature.bytes.toList ++ [token.delegationDepth]))

/-- The loop over the capabilities. Numbers that stand for none are skipped. -/
def readCapabilities : Nat → Finset Capability → List UInt8 →
    Checked TokenFormatError (Finset Capability × List UInt8)
  | 0, caps, rest => .ok (caps, rest)
  | n + 1, caps, rest => do
    require .malformedData 2 rest
    let (value, rest) ← readBytes 2 rest
    match Capability.fromU16 (UInt16.ofNat (leNat value)) with
    | some cap => readCapabilities n (insert cap caps) rest
    | none => readCapabilities n caps rest

def readParent (rest : List UInt8) : Checked TokenFormatError (Option TokenId × List UInt8) := do
  let (flag, rest) ← readByte rest
  if flag = 0x01 then
    require .malformedData 16 rest
    let (parent, rest) ← readBytes 16 rest
    .ok (some (takeVec 16 parent), rest)
  else .ok (none, rest)

def readTail (tokenId : TokenId) (issuerId subjectId : KeyId) (tier : TrustTier)
    (capabilities : Finset Capability) (rest : List UInt8) : Checked TokenFormatError AuthToken := do
  require .malformedData 8 rest
  let (issued, rest) ← readBytes 8 rest
  require .malformedData 8 rest
  let (expires, rest) ← readBytes 8 rest
  let (parentToken, rest) ← readParent rest
  require .malformedData 16 rest
  let (nonce, rest) ← readBytes 16 rest
  require .malformedData 64 rest
  let (signature, rest) ← readBytes 64 rest
  .ok
    { tokenId, issuerId, subjectId, tier, capabilities
      issuedAtMs := UInt64.ofNat (leNat issued)
      expiresAtMs := UInt64.ofNat (leNat expires)
      parentToken
      nonce := takeVec 16 nonce
      signature := ⟨takeVec 64 signature⟩
      delegationDepth := rest.headD 0 }

def deserializeToken (data : List UInt8) : Checked TokenFormatError AuthToken :=
  if data.length < 4 + 16 + 32 + 32 + 1 + 2 + 8 + 8 + 1 + 16 + 64 then
    .error (.error .malformedData)
  else do
    let (header, rest) ← readBytes 4 data
    if header ≠ utf8 "ATKN" then .error (.error .malformedData)
    else
      let (tokenId, rest) ← readBytes 16 rest
      let (issuerId, rest) ← readBytes 32 rest
      let (subjectId, rest) ← readBytes 32 rest
      let (tier, rest) ← readByte rest
      match TrustTier.fromByte tier with
      | none => .error (.error .malformedData)
      | some tier =>
        let (count, rest) ← readBytes 2 rest
        let (capabilities, rest) ← readCapabilities (leNat count) ∅ rest
        readTail (takeVec 16 tokenId) (takeVec 32 issuerId) (takeVec 32 subjectId) tier
          capabilities rest

/-! ## What is written is read back -/

lemma readCapabilities_flatMap (caps : List Capability) (s : Finset Capability)
    (rest : List UInt8) :
    readCapabilities caps.length s
        (caps.flatMap (fun cap => leBytes 2 cap.toU16.toNat) ++ rest) =
      .ok (s ∪ caps.toFinset, rest) := by
  induction caps generalizing s with
  | nil => simp [readCapabilities]
  | cons cap caps ih =>
    have hcap : Capability.fromU16 cap.toU16 = some cap := by
      cases cap <;> decide
    rw [flatMap_cons, append_assoc, length_cons, readCapabilities,
      require_append (length_leBytes ..), ok_bind, readBytes_append _ (length_leBytes ..)]
    simp only [leNat_leBytes (k := 2) cap.toU16.toNat_lt, UInt16.ofNat_toNat, hcap, ih,
      toFinset_cons, Finset.insert_union, Finset.union_insert]

lemma readParent_append (parentToken : Option TokenId) (rest : List UInt8) :
    readParent (parentBytes parentToken ++ rest) = .ok (parentToken, rest) := by
  rcases parentToken with _ | parent
  · rfl
  · simp only [readParent, parentBytes, cons_append, readByte, ok_bind, if_true, require_append,
      readBytes_append, Vector.length_toList, takeVec_toList]

namespace AuthToken

variable (token : AuthToken)

lemma toFinset_sortedCapabilities : token.sortedCapabilities.toFinset = token.capabilities := by
  ext cap
  have hall : cap ∈ Capability.all := by
    cases cap <;> decide
  simp [sortedCapabilities, hall]

lemma deserializeToken_serializeToken : deserializeToken (serializeToken token) = .ok token := by
  have htier : TrustTier.fromByte token.tier.toU8 = some token.tier := by
    cases token.tier <;> rfl
  have hcount : token.sortedCapabilities.length < 256 ^ 2 :=
    lt_of_le_of_lt (length_filter_le _ _) (by decide)
  have hheader : (utf8 "ATKN").length = 4 := by decide +kernel
  have hparent : 1 ≤ (parentBytes token.parentToken).length := by
    rcases token.parentToken with _ | parent <;> simp [parentBytes]
  have hlength : ¬ (serializeToken token).length < 4 + 16 + 32 + 32 + 1 + 2 + 8 + 8 + 1 + 16 + 64 := by
    simp only [serializeToken, fieldBytes, length_append, length_cons, hheader,
      Vector.length_toList, length_leBytes, length_toLeBytes]
    omega
  rw [deserializeToken, if_neg hlength, serializeToken, readBytes_append _ hheader]
  simp only [ne_eq, not_true_eq_false, if_false, fieldBytes, append_assoc, cons_append,
    readBytes_append, require_append, Vector.length_toList, length_leBytes, length_toLeBytes,
    readByte, ok_bind, htier, leNat_leBytes hcount, readCapabilities_flatMap, readTail,
    readParent_append]
  simp only [takeVec_toList, Finset.empty_union, toFinset_sortedCapabilities,
    ofNat_leNat_toLeBytes, headD_cons]

end AuthToken

/-- **Token encodings are faithful.** A token that is written is read back, and two tokens with the
same signed bytes differ at most in their signature. -/
theorem token_encodings_faithful :
    (∀ token : AuthToken, deserializeToken (serializeToken token) = .ok token) ∧
      ∀ token token' : AuthToken, token.canonicalBytes = token'.canonicalBytes →
        { token with signature := token'.signature } = token' := by
  refine ⟨AuthToken.deserializeToken_serializeToken, fun token token' hbytes => ?_⟩
  -- the signed bytes are the fields that are sent, between a header and the delegation depth
  have hcanonical : ∀ t : AuthToken, t.canonicalBytes =
      utf8 "AXIOM-TOKEN" ++ [0x00, 0x01] ++ (t.fieldBytes ++ [t.delegationDepth]) := by
    intro t
    simp only [AuthToken.canonicalBytes, AuthToken.fieldBytes, append_assoc, cons_append,
      nil_append]
    rfl
  rw [hcanonical, hcanonical] at hbytes
  obtain ⟨hfields, hdepth⟩ := append_inj' (append_cancel_left hbytes) rfl
  have hsent : serializeToken { token with signature := token'.signature } =
      serializeToken token' := by
    change utf8 "ATKN" ++ (token.fieldBytes ++ (token'.signature.bytes.toList ++
      [token.delegationDepth])) = _
    rw [hfields, hdepth]
    rfl
  have hread := AuthToken.deserializeToken_serializeToken
    { token with signature := token'.signature }
  rw [hsent, AuthToken.deserializeToken_serializeToken] at hread
  exact (Except.ok.inj hread).symm

/-! ## Reading beyond the data -/

lemma readCapabilities_cases (n : Nat) (caps : Finset Capability) (rest : List UInt8) :
    (2 * n ≤ rest.length ∧ ∃ caps', readCapabilities n caps rest = .ok (caps', rest.drop (2 * n))) ∨
      (rest.length < 2 * n ∧ readCapabilities n caps rest = .error (.error .malformedData)) := by
  induction n generalizing caps rest with
  | zero => exact .inl ⟨Nat.zero_le _, caps, rfl⟩
  | succ n ih =>
    by_cases hshort : rest.length < 2
    · rw [readCapabilities, require, if_pos hshort]
      exact .inr ⟨by omega, rfl⟩
    have hnext : ∃ caps', readCapabilities (n + 1) caps rest =
        readCapabilities n caps' (rest.drop 2) := by
      rw [readCapabilities, require_of_le (Nat.le_of_not_lt hshort), ok_bind,
        readBytes_of_le (Nat.le_of_not_lt hshort), ok_bind]
      dsimp only
      split <;> exact ⟨_, rfl⟩
    obtain ⟨caps', hcaps⟩ := hnext
    have hlen : (rest.drop 2).length = rest.length - 2 := length_drop
    rw [hcaps]
    rcases ih caps' (rest.drop 2) with ⟨hle, out, hread⟩ | ⟨hlt, hread⟩
    · rw [drop_drop, Nat.add_comm, ← Nat.mul_succ] at hread
      exact .inl ⟨by omega, out, hread⟩
    · exact .inr ⟨by omega, hread⟩

lemma readTail_outOfBounds_iff {tokenId : TokenId} {issuerId subjectId : KeyId} {tier : TrustTier}
    {capabilities : Finset Capability} {rest : List UInt8} :
    readTail tokenId issuerId subjectId tier capabilities rest = .error .outOfBounds ↔
      rest.length = 16 := by
  constructor
  · contrapose!
    intro hne
    refine InBounds.guarded fun h8 => ?_
    refine InBounds.guarded fun h16 => ?_
    refine InBounds.bind ?_ fun out => InBounds.guarded fun _ => InBounds.guarded fun _ =>
      inBounds_ok _
    -- something is left behind the time stamps
    rw [length_drop] at h16
    rcases hrest : (rest.drop 8).drop 8 with _ | ⟨flag, behind⟩
    · rw [drop_drop, drop_eq_nil_iff] at hrest
      omega
    rw [readParent, readByte, ok_bind]
    refine InBounds.ite (fun _ => InBounds.guarded fun _ => inBounds_ok _) fun _ => inBounds_ok _
  · intro h
    obtain ⟨issued, expires, rfl, hissued, hexpires⟩ :
        ∃ issued expires, rest = issued ++ (expires ++ []) ∧ issued.length = 8 ∧
          expires.length = 8 :=
      ⟨rest.take 8, rest.drop 8, by simp, by simp [h], by simp [h]⟩
    simp only [readTail, require_append, readBytes_append, hissued, hexpires, ok_bind]
    rfl

/-- **Parsing a token stays inside the data** exactly if the data do not end, behind a good header
and tier, where the parent's flag should be. -/
theorem token_parsing_inBounds_iff (data : List UInt8) :
    InBounds (deserializeToken data) ↔
      ¬ (184 ≤ data.length ∧ data.take 4 = utf8 "ATKN" ∧
        (∃ b tier, data[84]? = some b ∧ TrustTier.fromByte b = some tier) ∧
        data.length = 103 + 2 * leNat ((data.drop 85).take 2)) := by
  unfold deserializeToken
  by_cases hshort : data.length < 4 + 16 + 32 + 32 + 1 + 2 + 8 + 8 + 1 + 16 + 64
  · rw [if_pos hshort]
    exact iff_of_true (inBounds_error _) fun h => by omega
  rw [if_neg hshort, readBytes_of_le (by omega), ok_bind]
  dsimp only
  by_cases hmagic : data.take 4 = utf8 "ATKN"
  · have h84 : 4 + 16 + 32 + 32 < data.length := by omega
    rw [if_neg (not_not_intro hmagic)]
    simp (disch := omega) only [readBytes_drop]
    rw [drop_eq_getElem_cons h84, readByte, ok_bind, getElem?_eq_getElem h84]
    dsimp only
    rcases htier : TrustTier.fromByte data[4 + 16 + 32 + 32] with _ | tier
    · refine iff_of_true (inBounds_error _) ?_
      rintro ⟨-, -, ⟨b, tier, hb, hsome⟩, -⟩
      rw [← Option.some.inj hb, htier] at hsome
      cases hsome
    simp (disch := omega) only [readBytes_drop]
    have hlen : ∀ k, (data.drop k).length = data.length - k := fun k => length_drop
    rcases readCapabilities_cases (leNat ((data.drop 85).take 2)) ∅ (data.drop 87) with
      ⟨hle, caps, hread⟩ | ⟨hlt, hread⟩
    · rw [hread, ok_bind]
      rw [hlen] at hle
      refine not_congr (readTail_outOfBounds_iff.trans ?_)
      rw [drop_drop, hlen]
      constructor
      · exact fun h => ⟨by omega, hmagic, ⟨_, tier, rfl, htier⟩, by omega⟩
      · rintro ⟨-, -, -, h⟩
        omega
    · -- the capabilities do not fit
      rw [hlen] at hlt
      rw [hread]
      exact iff_of_true (inBounds_error _) fun h => by omega
  · rw [if_pos hmagic]
    exact iff_of_true (inBounds_error _) fun h => hmagic h.2.1

/-- 41 capabilities and two time stamps end with the data, which are as long as a token can be. -/
theorem crafted_token_reads_beyond :
    deserializeToken (utf8 "ATKN" ++ List.replicate 80 0 ++ [2, 41, 0] ++ List.replicate 98 0) =
      .error .outOfBounds := by
  decide +kernel

end AxiomCore
