import AxiomCore.Lib.Hex
import AxiomCore.Lib.Blake3
import AxiomCore.Hal.HdlParser
import AxiomCore.Crypto.FrameSign
import AxiomCore.Crypto.IntentHash

/-!
# Signed hardware descriptions

A signed text has header lines `# HDL-…` in front. The verifier checks the signature over what
follows them, from an offset that counts one byte for the end of every header line; the parser reads
the whole text, in which the header lines are comments. A header line that ends in `\r\n` has two
bytes there, so each such line moves the offset one byte back into the header, and the signed text
begins with stray header bytes that the parser reads as part of a comment.

Source: `axiom-hal/src/universal/signing.rs`.
-/

namespace AxiomCore.Hdl

open Lib List

/-! ## The header -/

inductive SignatureError where
  | noHeader
  | malformedHeader
  | signatureMismatch
  | untrustedSigner
  | expired
  | futureTimestamp
  | invalidEncoding
  | invalidPublicKey
  deriving DecidableEq

/-- The place of a character in the alphabet. -/
def base64Digit (c : Char) : Option UInt32 :=
  let n := c.toNat
  if 65 ≤ n ∧ n ≤ 90 then some (UInt32.ofNat (n - 65))
  else if 97 ≤ n ∧ n ≤ 122 then some (UInt32.ofNat (n - 71))
  else if 48 ≤ n ∧ n ≤ 57 then some (UInt32.ofNat (n + 4))
  else if c = '+' then some 62
  else if c = '/' then some 63
  else none

def decodeBase64 (input : List Char) : Option (List UInt8) := do
  let step (acc : UInt32 × Nat × List UInt8) (c : Char) : Option (UInt32 × Nat × List UInt8) := do
    let buffer := (acc.1 <<< 6) ||| (← base64Digit c)
    let bits := acc.2.1 + 6
    if bits ≥ 8 then
      some (buffer, bits - 8, acc.2.2 ++ [(buffer >>> UInt32.ofNat (bits - 8)).toUInt8])
    else some (buffer, bits, acc.2.2)
  let acc ← ((trim input).rdropWhile (· = '=')).foldlM step (0, 0, [])
  some acc.2.2

def decodeHex (input : List Char) : Option (List UInt8) :=
  hexDecodeBytes (utf8 (String.ofList (trim input)))

/-- What the header lines say so far. -/
structure HeaderFields where
  signature : Option Signature := none
  signer : Option NodeId := none
  timestamp : Option UInt64 := none

/-- The first loop of `parse_header`: up to the first line that is no comment. -/
def headerFields (f : HeaderFields) : List (List Char) → Except SignatureError HeaderFields
  | [] => .ok f
  | line :: lines =>
    let trimmed := trim line
    if let some rest := stripKey "# HDL-SIGNATURE:" trimmed then
      match decodeBase64 (trim rest) with
      | none => .error .invalidEncoding
      | some bytes =>
        if bytes.length ≠ 64 then .error .malformedHeader
        else headerFields { f with signature := some ⟨takeVec 64 bytes⟩ } lines
    else if let some rest := stripKey "# HDL-SIGNER:" trimmed then
      match decodeHex (trim rest) with
      | none => .error .invalidEncoding
      | some bytes =>
        if bytes.length ≠ 32 then .error .invalidPublicKey
        else headerFields { f with signer := some ⟨takeVec 32 bytes⟩ } lines
    else if let some rest := stripKey "# HDL-TIMESTAMP:" trimmed then
      -- a number that is not one takes back an earlier time stamp
      headerFields { f with timestamp := parseRadix 10 (trim rest) } lines
    else if trimmed.head? ≠ some '#' ∧ trimmed ≠ [] then .ok f
    else headerFields f lines

/-- A line of the header to be skipped. -/
def isHeaderLine (line : List Char) : Bool := (stripKey "# HDL-" (trim line)).isSome

/-- The second loop of `parse_header`: `line.len() + 1` for every line of the header. -/
def contentOffset (hdl : List Char) : Nat :=
  (((textLines hdl).takeWhile isHeaderLine).map fun line => utf8Len line + 1).sum

structure SignatureHeader where
  signature : Signature
  signer : NodeId
  timestamp : UInt64
  contentOffset : Nat

def parseHeader (hdl : List Char) : Except SignatureError SignatureHeader :=
  match headerFields {} (textLines hdl) with
  | .error e => .error e
  | .ok ⟨some sig, some key, some ts⟩ => .ok ⟨sig, key, ts, contentOffset hdl⟩
  | .ok ⟨none, none, none⟩ => .error .noHeader
  | .ok _ => .error .malformedHeader

/-! ## The verifier -/

structure TrustedKey where
  publicKey : NodeId
  expiresAt : UInt64
  revoked : Bool

structure HdlTrustStore where
  trustedKeys : List TrustedKey
  /-- In seconds; 0 for no limit. -/
  maxSignatureAgeSecs : UInt64

def HdlTrustStore.isTrusted (store : HdlTrustStore) (key : NodeId) (currentTime : UInt64) : Bool :=
  store.trustedKeys.any fun k =>
    k.publicKey == key && !k.revoked && (k.expiresAt == 0 || decide (currentTime < k.expiresAt))

inductive SignatureVerification where
  | valid (signer : NodeId) (timestamp : UInt64)
  | invalid (e : SignatureError)
  | unsigned
  deriving DecidableEq

/-- The text whose signature is checked; `none` where the slice panics, inside a character. -/
def signedText (hdl : List Char) : Option (List Char) :=
  if contentOffset hdl < utf8Len hdl then dropBytes (contentOffset hdl) hdl else some []

def asBytes (text : List Char) : List UInt8 := utf8 (String.ofList text)

def checkHeader (store : HdlTrustStore) (header : SignatureHeader) (currentTime : UInt64) :
    Except SignatureError Unit :=
  if currentTime + 300 < header.timestamp then .error .futureTimestamp
  else if 0 < store.maxSignatureAgeSecs ∧
      -- `saturating_sub`
      store.maxSignatureAgeSecs.toNat < currentTime.toNat - header.timestamp.toNat then
    .error .expired
  else if !store.isTrusted header.signer currentTime then .error .untrustedSigner
  else .ok ()

/-- `none` is a panic. -/
def verify (V : Verify) (store : HdlTrustStore) (hdl : List Char) (currentTime : UInt64) :
    Option SignatureVerification :=
  match parseHeader hdl with
  | .error .noHeader => some .unsigned
  | .error e => some (.invalid e)
  | .ok header =>
    match checkHeader store header currentTime with
    | .error e => some (.invalid e)
    | .ok () => do
      let content ← signedText hdl
      if V header.signer (asBytes content) header.signature then
        some (.valid header.signer header.timestamp)
      else some (.invalid .signatureMismatch)

/-- A call of `HdlSigner::sign`. -/
structure SignCall where
  signer : NodeId
  text : List Char
  timestamp : UInt64

/-- Only what the holder of the key signed verifies under it. Source: crate `ed25519-dalek`
(documentation). -/
def UnforgedBy (V : Verify) (calls : List SignCall) (s : NodeId) : Prop :=
  ∀ message sig, V s message sig = true → ∃ c ∈ calls, c.signer = s ∧ asBytes c.text = message

/-! ## What a positive verdict says -/

lemma asBytes_inj {t t' : List Char} (h : asBytes t = asBytes t') : t = t' :=
  String.ofList_injective (utf8_inj h)

variable {V : Verify} {store : HdlTrustStore} {hdl : List Char} {now t : UInt64} {s : NodeId}

lemma verify_eq_valid_iff :
    verify V store hdl now = some (.valid s t) ↔
      ∃ header content, parseHeader hdl = .ok header ∧ checkHeader store header now = .ok () ∧
        signedText hdl = some content ∧ header.signer = s ∧ header.timestamp = t ∧
        V s (asBytes content) header.signature = true := by
  unfold verify
  rcases parseHeader hdl with e | header
  · cases e <;> simp
  rcases hcheck : checkHeader store header now with e | _
  · simp [hcheck]
  rcases signedText hdl with _ | content
  · simp [hcheck]
  have hsame : header.signer = s → V header.signer (asBytes content) header.signature =
      V s (asBytes content) header.signature :=
    fun hs => by rw [hs]
  by_cases hV : V header.signer (asBytes content) header.signature = true
  · simpa [hcheck, hV] using fun hs (_ : header.timestamp = t) => (hsame hs).symm.trans hV
  · rw [Bool.not_eq_true] at hV
    simpa [hcheck, hV] using fun hs (_ : header.timestamp = t) => (hsame hs).symm.trans hV

lemma checkHeader_ok_iff {header : SignatureHeader} :
    checkHeader store header now = .ok () ↔ header.timestamp ≤ now + 300 ∧
      (0 < store.maxSignatureAgeSecs →
        now.toNat - header.timestamp.toNat ≤ store.maxSignatureAgeSecs.toNat) ∧
      store.isTrusted header.signer now = true := by
  unfold checkHeader
  split_ifs with hfuture hexpired htrusted
  · simp [UInt64.not_le.mpr hfuture]
  · have hage : ¬ now.toNat - header.timestamp.toNat ≤ store.maxSignatureAgeSecs.toNat :=
      Nat.not_le.mpr hexpired.2
    simp [hexpired.1, hage, -tsub_le_iff_right]
  · simpa using fun _ _ => by simpa using htrusted
  · refine iff_of_true rfl ⟨UInt64.not_lt.mp hfuture, fun hpos => ?_, by simpa using htrusted⟩
    exact Nat.not_lt.mp fun hlt => hexpired ⟨hpos, hlt⟩

lemma exists_call_of_valid {calls : List SignCall}
    (hunforged : UnforgedBy V calls s)
    (hvalid : verify V store hdl now = some (.valid s t)) :
    ∃ c ∈ calls, c.signer = s ∧ signedText hdl = some c.text := by
  obtain ⟨header, content, -, -, hcontent, -, -, hV⟩ := verify_eq_valid_iff.mp hvalid
  obtain ⟨c, hc, hsigner, hbytes⟩ := hunforged _ _ hV
  exact ⟨c, hc, hsigner, by rw [hcontent, asBytes_inj hbytes]⟩

/-- **What a positive verdict says.** The signer signed the text after the header, and is trusted
now; the time stamp is the header's, at most five minutes ahead, and not too old. -/
theorem valid_content_signed (V : Verify) (calls : List SignCall) (store : HdlTrustStore)
    (hdl : List Char) (now t : UInt64) (s : NodeId) (hunforged : UnforgedBy V calls s)
    (hvalid : verify V store hdl now = some (.valid s t)) :
    (∃ c ∈ calls, c.signer = s ∧ signedText hdl = some c.text) ∧
      (∃ header, parseHeader hdl = .ok header ∧ header.signer = s ∧ header.timestamp = t) ∧
      t ≤ now + 300 ∧
      (0 < store.maxSignatureAgeSecs → now.toNat - t.toNat ≤ store.maxSignatureAgeSecs.toNat) ∧
      store.isTrusted s now = true := by
  refine ⟨exists_call_of_valid hunforged hvalid, ?_⟩
  obtain ⟨header, -, hparse, hcheck, -, rfl, rfl, -⟩ := verify_eq_valid_iff.mp hvalid
  exact ⟨⟨header, hparse, rfl, rfl⟩, checkHeader_ok_iff.mp hcheck⟩

def ascii (s : String) : List Char := (utf8 s).map fun b => Char.ofNat b.toNat

def crlfText : List Char :=
  ascii "init_sequence:\r\n  - write: CMD, 1\r\ndevice:\r\n  name: \"NIC\"\r\n"

def signatureLine : List Char :=
  ascii "# HDL-SIGNATURE: hAHDvoty2/D9yQPh1EZe6fffHXvn/4eki7Qqx3NL0CxZTr88CUJvxZDLz8UUGRPf" ++
    ascii "Rb7FyVe3XplS7QsQHN8hCQ=="

def signerLine : List Char :=
  ascii "# HDL-SIGNER: 03a107bff3ce10be1d70dd18e74bc09967e4d6309ba50d5f1ddc8664125531b8"

/-- The sample key has signed one text. -/
def textVerify (text : List Char) (signature : Signature) : Verify := fun key message sig =>
  key == sampleOrigin && message == asBytes text && sig == signature

lemma textVerify_unforged {text : List Char} {signature : Signature} :
    UnforgedBy (textVerify text signature) [⟨sampleOrigin, text, 1000⟩] sampleOrigin := by
  intro message sig h
  simp only [textVerify, Bool.and_eq_true, beq_iff_eq] at h
  exact ⟨⟨sampleOrigin, text, 1000⟩, mem_singleton_self _, rfl, h.1.2.symm⟩

def crlfVerify : Verify := textVerify crlfText
  ⟨hex 64 (0x8401c3be8b72dbf0fdc903e1d4465ee9f7df1d7be7ff87a48bb42ac7734bd02c <<< 256 +
    0x594ebf3c09426fc590cbcfc5141913df45bec5c957b75e9952ed0b101cdf2109)⟩

def crlfCalls : List SignCall := [⟨sampleOrigin, crlfText, 1000⟩]

/-- The sample key, and signatures of the last hour. -/
def hourStore : HdlTrustStore := ⟨[⟨sampleOrigin, 0, false⟩], 3600⟩

def stamped (timestamp : String) : List Char :=
  signatureLine ++ '\n' :: signerLine ++ ascii "\n# HDL-TIMESTAMP: " ++ ascii timestamp ++
    '\n' :: crlfText

theorem valid_content_signed_sample :
    verify crlfVerify hourStore (stamped "1000") 1500 = some (.valid sampleOrigin 1000) ∧
      (∃ c ∈ crlfCalls, c.signer = sampleOrigin ∧ signedText (stamped "1000") = some c.text) := by
  have hvalid : verify crlfVerify hourStore (stamped "1000") 1500 =
      some (.valid sampleOrigin 1000) := by
    decide +kernel
  exact ⟨hvalid, (valid_content_signed _ _ _ _ _ _ _ textVerify_unforged hvalid).1⟩

/-- The only signature was made at time 1000 and signatures are good for an hour; with another time
stamp in the header the text is accepted as signed at time 2000000. -/
theorem timestamp_rewritten :
    (∀ message sig, crlfVerify sampleOrigin message sig = true →
      ∃ c ∈ crlfCalls, c.signer = sampleOrigin ∧ asBytes c.text = message) ∧
    verify crlfVerify hourStore (stamped "2000000") 2000000 =
      some (.valid sampleOrigin 2000000) ∧
    (∀ c ∈ crlfCalls, c.timestamp ≠ 2000000 ∧
      hourStore.maxSignatureAgeSecs.toNat < 2000000 - c.timestamp.toNat) :=
  ⟨textVerify_unforged, by decide +kernel, by decide⟩

/-! ## The secure parser -/

/-- Source: `axiom-hal/src/universal/secure_parser.rs`, `SecureParseError`. -/
inductive SecureParseError where
  | unsigned
  | signatureError (e : SignatureError)
  | parseError (e : ParseError)
  deriving DecidableEq

/-- Source: `axiom-hal/src/universal/secure_parser.rs`, `VerifiedHdl`. -/
structure VerifiedHdl where
  description : HardwareDescription
  signer : NodeId
  signatureTimestamp : UInt64
  contentHash : Digest

/-- BLAKE3, and `str::to_lowercase`. Source: crates `blake3`, `alloc`. -/
structure HdlExternals where
  blake3 : List UInt8 → Digest
  lower : List Char → List Char

/-- `none` is a panic. Source: `axiom-hal/src/universal/secure_parser.rs`,
`SecureHdlParser::parse_strict`. -/
def parseStrict (E : HdlExternals) (V : Verify) (store : HdlTrustStore) (hdl : List Char)
    (currentTime : UInt64) : Option (Except SecureParseError VerifiedHdl) := do
  match ← verify V store hdl currentTime with
  | .invalid e => some (.error (.signatureError e))
  | .unsigned => some (.error .unsigned)
  | .valid signer timestamp =>
    match HdlParser.parse E.lower hdl with
    | .error e => some (.error (.parseError e))
    | .ok description => some (.ok ⟨description, signer, timestamp, E.blake3 (asBytes hdl)⟩)

/-! ## The two views of a text -/

section Views

variable {hdl : List Char}

def headerRaws (hdl : List Char) : List (List Char) :=
  (rawLines hdl).takeWhile fun raw => isHeaderLine (lineOf raw)

def bodyRaws (hdl : List Char) : List (List Char) :=
  (rawLines hdl).dropWhile fun raw => isHeaderLine (lineOf raw)

/-- How many bytes of the header the content begins too early: one for each header line that ends in
`\r\n`, less the one that is counted for the newline a last line does not have. -/
def strayBytes (hdl : List Char) : Nat :=
  (headerRaws hdl).countP endsInCrlf - (headerRaws hdl).countP (·.getLast? ≠ some '\n')

/-- The end of the header that the verifier takes for content. -/
def IsStray (hdl stray : List Char) : Prop :=
  stray <:+ (headerRaws hdl).flatten ∧ utf8Len stray = strayBytes hdl

lemma headerRaws_append_bodyRaws (hdl : List Char) :
    headerRaws hdl ++ bodyRaws hdl = rawLines hdl :=
  takeWhile_append_dropWhile

lemma rawLines_body (hdl : List Char) : rawLines (bodyRaws hdl).flatten = bodyRaws hdl ∧
    (bodyRaws hdl ≠ [] → ∀ raw ∈ headerRaws hdl, raw.getLast? = some '\n') :=
  rawLines_split (headerRaws_append_bodyRaws hdl).symm

lemma header_append_body (hdl : List Char) :
    (headerRaws hdl).flatten ++ (bodyRaws hdl).flatten = hdl := by
  rw [← flatten_append, headerRaws_append_bodyRaws, flatten_rawLines]

lemma isNoHeader_headerRaws {raw : List Char} (h : raw ∈ headerRaws hdl) :
    IsNoHeader (lineOf raw) := by
  have hline : isHeaderLine (lineOf raw) = true :=
    mem_takeWhile_imp (p := fun raw => isHeaderLine (lineOf raw)) h
  obtain ⟨rest, hrest⟩ := Option.isSome_iff_exists.mp hline
  obtain ⟨key, heq, hkey⟩ := dropPrefix?_eq_some_iff.mp hrest
  apply isNoHeader_comment
  rw [heq, eq_of_beq hkey]
  rfl

lemma contentOffset_add (hdl : List Char) :
    contentOffset hdl + (headerRaws hdl).countP endsInCrlf =
      utf8Len (headerRaws hdl).flatten + (headerRaws hdl).countP (·.getLast? ≠ some '\n') := by
  have hoffset : contentOffset hdl =
      ((headerRaws hdl).map fun raw => utf8Len (lineOf raw) + 1).sum := by
    unfold contentOffset textLines headerRaws
    rw [takeWhile_map, map_map]
    rfl
  rw [hoffset]
  induction headerRaws hdl with
  | nil => rfl
  | cons raw raws ih =>
    have hraw := utf8Len_lineOf_add raw
    rw [map_cons, sum_cons, flatten_cons, utf8Len_append, countP_cons, countP_cons]
    simp only [decide_eq_true_eq, ite_not] at ih ⊢
    omega

lemma offset_le_or_body_nil (hdl : List Char) :
    contentOffset hdl ≤ utf8Len (headerRaws hdl).flatten ∨ bodyRaws hdl = [] := by
  by_cases hbody : bodyRaws hdl = []
  · exact .inr hbody
  have hadd := contentOffset_add hdl
  have hended : (headerRaws hdl).countP (·.getLast? ≠ some '\n') = 0 := by
    rw [countP_eq_zero]
    intro raw hraw
    simp [(rawLines_body hdl).2 hbody raw hraw]
  exact .inl (by omega)

/-- What is verified is the body behind the stray bytes. -/
lemma signedText_eq_some_iff {m : List Char} :
    signedText hdl = some m ↔ ∃ stray, IsStray hdl stray ∧ stray ++ (bodyRaws hdl).flatten = m := by
  have hslice : signedText hdl = dropBytes (contentOffset hdl) hdl := by
    unfold signedText
    split_ifs with hlt
    · rfl
    · refine (dropBytes_eq_some_iff.mpr ⟨nil_suffix, ?_⟩).symm
      rw [utf8Len_nil, Nat.sub_eq_zero_of_le (Nat.le_of_not_lt hlt)]
  have hcut : signedText hdl = (dropBytes (contentOffset hdl) (headerRaws hdl).flatten).map
      (· ++ (bodyRaws hdl).flatten) := by
    rw [hslice]
    nth_rewrite 2 [← header_append_body hdl]
    rw [dropBytes_append]
    split_ifs with hle
    · have hheader : dropBytes (contentOffset hdl) (headerRaws hdl).flatten = some [] := by
        refine dropBytes_eq_some_iff.mpr ⟨nil_suffix, ?_⟩
        rw [utf8Len_nil, Nat.sub_eq_zero_of_le hle]
      rw [hheader, Option.map_some, nil_append]
      rcases offset_le_or_body_nil hdl with hge | hbody
      · rw [Nat.sub_eq_zero_of_le hge, dropBytes_zero]
      · rw [hbody, flatten_nil, dropBytes_nil]
    · rfl
  have hadd := contentOffset_add hdl
  have hlength : utf8Len (headerRaws hdl).flatten - contentOffset hdl = strayBytes hdl := by
    unfold strayBytes
    omega
  rw [hcut, Option.map_eq_some_iff]
  exact exists_congr fun stray => and_congr_left' (by rw [dropBytes_eq_some_iff, hlength]; rfl)

lemma textLines_stray {stray : List Char} (h : IsStray hdl stray) :
    textLines (stray ++ (bodyRaws hdl).flatten) =
      textLines stray ++ (bodyRaws hdl).map lineOf := by
  obtain ⟨hlines, hended⟩ := rawLines_body hdl
  by_cases hbody : bodyRaws hdl = []
  · simp [hbody]
  have hlast : stray = [] ∨ stray.getLast? = some '\n' :=
    getLast?_of_suffix_flatten h.1 (hended hbody)
  rw [textLines, rawLines_append hlast, hlines, map_append]
  rfl

/-- If the stray bytes begin no section, verifier and parser see the same description. -/
lemma parse_signedText_ok_iff {stray : List Char} {lower : List Char → List Char}
    {d : HardwareDescription} (hstray : IsStray hdl stray)
    (hopens : ∀ line ∈ textLines stray, IsNoHeader line) :
    HdlParser.parse lower hdl = .ok d ↔
      HdlParser.parse lower (stray ++ (bodyRaws hdl).flatten) = .ok d := by
  have hlines : textLines hdl = (headerRaws hdl).map lineOf ++ (bodyRaws hdl).map lineOf := by
    rw [textLines, ← headerRaws_append_bodyRaws, map_append]
  apply parse_ok_iff_of_skipped hlines (textLines_stray hstray) ?_ hopens
  rw [forall_mem_map]
  exact fun raw hraw => isNoHeader_headerRaws hraw

end Views

/-! ## What is loaded -/

lemma parseStrict_ok_iff {E : HdlExternals}
    {v : VerifiedHdl} : parseStrict E V store hdl now = some (.ok v) ↔
      ∃ s t d, verify V store hdl now = some (.valid s t) ∧ HdlParser.parse E.lower hdl = .ok d ∧
        v = ⟨d, s, t, E.blake3 (asBytes hdl)⟩ := by
  unfold parseStrict
  rcases verify V store hdl now with _ | ⟨s, t⟩ | e | _
  · simp
  · rcases HdlParser.parse E.lower hdl with e | d
    · simp
    · simpa using eq_comm
  · simp
  · simp

/-- **What is loaded is what was signed**, for every signer that only signs with `HdlSigner`, if the
header bytes that are taken for content begin no section. There are none if no header line ends in
`\r\n`. -/
theorem loads_signed_text (E : HdlExternals) (V : Verify) (store : HdlTrustStore) (hdl : List Char)
    (now : UInt64) (calls : List SignCall) (v : VerifiedHdl)
    (hstray : ∀ stray, IsStray hdl stray → ∀ line ∈ textLines stray, IsNoHeader line)
    (hloaded : parseStrict E V store hdl now = some (.ok v))
    (hunforged : UnforgedBy V calls v.signer) :
    ∃ c ∈ calls, c.signer = v.signer ∧ HdlParser.parse E.lower c.text = .ok v.description := by
  obtain ⟨s, t, d, hvalid, hparse, rfl⟩ := parseStrict_ok_iff.mp hloaded
  obtain ⟨c, hc, hsigner, hsigned⟩ := exists_call_of_valid hunforged hvalid
  -- what was signed is the body behind some stray bytes
  obtain ⟨stray, hisStray, htext⟩ := signedText_eq_some_iff.mp hsigned
  refine ⟨c, hc, hsigner, ?_⟩
  rw [← htext]
  exact (parse_signedText_ok_iff hisStray (hstray stray hisStray)).mp hparse

/-- `crlfText` after a header of sixteen lines that end in `\r\n`, in which the first line of the
text has become the end of the last header line. -/
def craftedText : List Char :=
  signatureLine ++ ascii "\r\n" ++ signerLine ++ ascii "\r\n# HDL-TIMESTAMP: 1000\r\n" ++
    (List.replicate 12 (ascii "# HDL-\r\n")).flatten ++ ascii "# HDL-" ++ crlfText

def crlfExternals : HdlExternals := ⟨Blake3.hash, id⟩

/-- The last three bytes of the header are signed together with the body; they begin nothing. -/
def strayText : List Char := ascii "0\r\n" ++ crlfText

def crlfHeaderText : List Char :=
  ascii "# HDL-SIGNATURE: kdF57dCDjzZAnox44uoztBLoYV+6wxoA0dIhgqzuw/NAnQya0m5PDN65I894i+VP" ++
    ascii "7nXqlL+bNuYVi/CEZB6jCw==\r\n" ++ signerLine ++ ascii "\r\n# HDL-TIMESTAMP: 100" ++
    strayText

def strayVerify : Verify := textVerify strayText
  ⟨hex 64 (0x91d179edd0838f36409e8c78e2ea33b412e8615fbac31a00d1d22182aceec3f3 <<< 256 +
    0x409d0c9ad26e4f0cdeb923cf788be54fee75ea94bf9b36e6158bf084641ea30b)⟩

theorem crlf_header_loaded :
    (∀ stray, IsStray crlfHeaderText stray → stray = ascii "0\r\n") ∧
      ∃ v, parseStrict crlfExternals strayVerify hourStore crlfHeaderText 1500 = some (.ok v) ∧
        HdlParser.parse crlfExternals.lower strayText = .ok v.description := by
  have hstray : ∀ stray, IsStray crlfHeaderText stray → stray = ascii "0\r\n" := by
    rintro stray ⟨hsuffix, hlength⟩
    obtain ⟨hbytes, hslice⟩ :
        utf8Len (headerRaws crlfHeaderText).flatten = 207 + strayBytes crlfHeaderText ∧
          dropBytes 207 (headerRaws crlfHeaderText).flatten = some (ascii "0\r\n") := by
      decide +kernel
    have hsame : dropBytes 207 (headerRaws crlfHeaderText).flatten = some stray :=
      dropBytes_eq_some_iff.mpr ⟨hsuffix, by omega⟩
    exact Option.some.inj (hsame.symm.trans hslice)
  have hopens : ∀ stray, IsStray crlfHeaderText stray →
      ∀ line ∈ textLines stray, IsNoHeader line := by
    intro stray h line hline
    have hlines : textLines (ascii "0\r\n") = [['0']] := by decide
    rw [hstray stray h, hlines, mem_singleton] at hline
    rw [hline]
    exact nofun
  have hloaded : (parseStrict crlfExternals strayVerify hourStore crlfHeaderText 1500).map
      (Except.map fun v => v.signer) = some (.ok sampleOrigin) := by
    decide +kernel
  obtain ⟨e | v, hv, hsigner⟩ := Option.map_eq_some_iff.mp hloaded
  · cases hsigner
  have hsigner : v.signer = sampleOrigin := Except.ok.inj hsigner
  have hunforged : UnforgedBy strayVerify [⟨sampleOrigin, strayText, 1000⟩] v.signer := by
    rw [hsigner]
    exact textVerify_unforged
  obtain ⟨c, hc, -, hparse⟩ := loads_signed_text _ _ _ _ _ _ v hopens hv hunforged
  obtain rfl := mem_singleton.mp hc
  exact ⟨hstray, v, hv, hparse⟩

/-- The text verifies, since `crlfText` is found at the offset; the description that is loaded has
lost the initialisation that was signed. -/
theorem init_sequence_dropped :
    (∀ message sig, crlfVerify sampleOrigin message sig = true →
      ∃ c ∈ crlfCalls, c.signer = sampleOrigin ∧ asBytes c.text = message) ∧
    ∃ v, parseStrict crlfExternals crlfVerify hourStore craftedText 1500 = some (.ok v) ∧
      v.signer = sampleOrigin ∧
      ∀ c ∈ crlfCalls, HdlParser.parse crlfExternals.lower c.text ≠ .ok v.description := by
  refine ⟨textVerify_unforged, ?_⟩
  have hloaded : (parseStrict crlfExternals crlfVerify hourStore craftedText 1500).map
      (Except.map fun v => (v.signer, v.description.initSequence)) =
        some (.ok (sampleOrigin, [])) := by
    decide +kernel
  have hsigned : (HdlParser.parse crlfExternals.lower crlfText).map (·.initSequence) =
      .ok [.write (ascii "CMD") (.literal 1)] := by
    decide +kernel
  obtain ⟨e | v, hv, hfields⟩ := Option.map_eq_some_iff.mp hloaded
  · cases hfields
  obtain ⟨hsigner, hinit⟩ := Prod.mk.inj (Except.ok.inj hfields)
  refine ⟨v, hv, hsigner, fun c hc hparse => ?_⟩
  obtain rfl := mem_singleton.mp hc
  rw [hparse, Except.map, hinit] at hsigned
  cases hsigned

/-! ## Verdicts -/

/-- `verify` in a build that checks for overflow: `current_time + 300` panics, too. -/
def verifyChecked (V : Verify) (store : HdlTrustStore) (hdl : List Char) (currentTime : UInt64) :
    Option SignatureVerification :=
  match parseHeader hdl with
  | .error _ => verify V store hdl currentTime
  | .ok _ => if currentTime.toNat + 300 < UInt64.size then verify V store hdl currentTime else none

/-- **Verification returns a verdict** exactly if the text has no complete header, or the sum of time
and tolerance does not overflow, and in case the header passes its checks, the stray bytes begin at
a character of the header: as many bytes from its end as header lines end in `\r\n`. -/
theorem verdict_iff (V : Verify) (store : HdlTrustStore) (hdl : List Char) (now : UInt64) :
    (verifyChecked V store hdl now).isSome ↔ ∀ header, parseHeader hdl = .ok header →
      now.toNat + 300 < UInt64.size ∧
        (header.timestamp ≤ now + 300 →
          (0 < store.maxSignatureAgeSecs →
            now.toNat - header.timestamp.toNat ≤ store.maxSignatureAgeSecs.toNat) →
          store.isTrusted header.signer now = true → ∃ stray, IsStray hdl stray) := by
  have hsigned : (signedText hdl).isSome ↔ ∃ stray, IsStray hdl stray := by
    rw [Option.isSome_iff_exists]
    constructor
    · rintro ⟨m, hm⟩
      obtain ⟨stray, hstray, -⟩ := signedText_eq_some_iff.mp hm
      exact ⟨stray, hstray⟩
    · rintro ⟨stray, hstray⟩
      exact ⟨_, signedText_eq_some_iff.mpr ⟨stray, hstray, rfl⟩⟩
  unfold verifyChecked verify
  rcases parseHeader hdl with e | header
  · cases e <;> simp
  simp only [Except.ok.injEq, forall_eq', ← and_imp]
  rw [← checkHeader_ok_iff, ← hsigned]
  by_cases hsum : now.toNat + 300 < UInt64.size
  · rcases checkHeader store header now with e | _
    · simp [hsum]
    rcases signedText hdl with _ | content
    · simp [hsum]
    · by_cases hV : V header.signer (asBytes content) header.signature <;> simp [hsum, hV]
  · simp [hsum]

/-- Three of the header lines end in `\r\n`, so the text after the header is taken to begin three
bytes before its end, inside the last letter. -/
theorem header_with_accent_panics :
    verifyChecked crlfVerify hourStore (signatureLine ++ '\n' :: signerLine ++
      ascii "\r\n# HDL-TIMESTAMP: 1000\r\n# HDL-" ++ 'é' :: ascii "\r\n") 1500 = none := by
  decide +kernel

end AxiomCore.Hdl
