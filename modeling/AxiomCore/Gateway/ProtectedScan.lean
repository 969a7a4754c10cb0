import AxiomCore.Gateway.Approval

/-!
# What the protected-resource scan finds

`find_protected_match` is meant to find every spelling of a protected MAC in the parameters of an
intent. It slides a 17-byte window over each text, and over the text without its whitespace, and
steps over a window that parses. A spelling that starts inside such a window is never looked at.

- `findProtectedMatch_isSome_iff`: the scan answers exactly when a *taken* window (`Lib.Taken`)
  spells a protected MAC, or a protected IP stands in a text.
- `spelling_in_stripped`: every spelling of a MAC, in either case, with either separator and any
  whitespace inside, is a parsing window of the stripped text. So being taken is all it can lack.
- `mem_ipv4Tokens_iff`: the texts that are compared with protected IPs are the runs of digits and
  dots that start with a digit, without what stands before and after them.
-/

namespace AxiomCore

open Lib List

/-! ## Spellings -/

def IsHexDigitOf (c : Char) (v : Nat) : Prop := c = hexDigit v ∨ c = (hexDigit v).toUpper

/-- Six pairs of characters with one separator. -/
def macText (sep : Char) (d : Fin 6 → Char × Char) : List Char :=
  [(d 0).1, (d 0).2, sep, (d 1).1, (d 1).2, sep, (d 2).1, (d 2).2, sep,
    (d 3).1, (d 3).2, sep, (d 4).1, (d 4).2, sep, (d 5).1, (d 5).2]

/-- Six two-digit hexadecimal octets of either case, joined all by `:` or all by `-`. -/
def SpellsMac (m : Mac) (cs : List Char) : Prop :=
  ∃ sep : Char, (sep = ':' ∨ sep = '-') ∧ ∃ d : Fin 6 → Char × Char,
    (∀ i, IsHexDigitOf (d i).1 ((m.get i).toNat / 16) ∧
      IsHexDigitOf (d i).2 ((m.get i).toNat % 16)) ∧
    cs = macText sep d

/-- The text contains a spelling of `m`, with whitespace inserted anywhere inside it and any text
around it. -/
def ContainsSpelling (m : Mac) (text : String) : Prop :=
  ∃ before spelled after : List Char, text.toList = before ++ spelled ++ after ∧
    SpellsMac m (spelled.filter fun c => !isWhitespace c)

/-- Some text among the parameters contains a spelling of a protected MAC. -/
def MentionsProtectedMac (policy : CapabilityPolicy) (parameters : List Constraint) : Prop :=
  ∃ r ∈ policy.protectedList, ∃ c ∈ parameters, ∃ text ∈ scannableStrings c.value,
    ContainsSpelling r.mac text

lemma mac_eta (m : Mac) : #v[m.get 0, m.get 1, m.get 2, m.get 3, m.get 4, m.get 5] = m := by
  ext i hi
  interval_cases i <;> rfl

lemma IsHexDigitOf.bytes {c : Char} {v : Nat} (h : IsHexDigitOf c v) (hv : v < 16) :
    ∃ b, String.utf8EncodeChar c = [b] ∧ hexVal b = some (UInt8.ofNat v) := by
  rcases h with rfl | rfl
  · exact ⟨_, hexVal_hexDigit ⟨v, hv⟩⟩
  · exact ⟨_, hexVal_hexDigit_toUpper ⟨v, hv⟩⟩

variable {m : Mac} {text : String} {policy : CapabilityPolicy} {parameters : List Constraint}

lemma SpellsMac.parse {cs : List Char} (h : SpellsMac m cs) :
    (cs.flatMap String.utf8EncodeChar).length = macWidth ∧
      parseMacWindow (cs.flatMap String.utf8EncodeChar) = some m := by
  obtain ⟨sep, hsep, d, hd, rfl⟩ := h
  obtain ⟨sepByte, hsepBytes, hsepByte⟩ :
      ∃ b, String.utf8EncodeChar sep = [b] ∧ (b = 58 ∨ b = 45) := by
    rcases hsep with rfl | rfl
    · exact ⟨58, by decide, .inl rfl⟩
    · exact ⟨45, by decide, .inr rfl⟩
  have hbyte : ∀ i, ∃ hi lo : UInt8, String.utf8EncodeChar (d i).1 = [hi] ∧
      String.utf8EncodeChar (d i).2 = [lo] ∧
      hexVal hi = some (UInt8.ofNat ((m.get i).toNat / 16)) ∧
      hexVal lo = some (UInt8.ofNat ((m.get i).toNat % 16)) := by
    intro i
    have hlt := (m.get i).toNat_lt
    obtain ⟨hi, hhi, hhi'⟩ := (hd i).1.bytes (by omega)
    obtain ⟨lo, hlo, hlo'⟩ := (hd i).2.bytes (by omega)
    exact ⟨hi, lo, hhi, hlo, hhi', hlo'⟩
  choose hi lo hhi hlo hhi' hlo' using hbyte
  unfold macText
  constructor
  · simp [hhi, hlo, hsepBytes, macWidth]
  · rcases hsepByte with rfl | rfl <;>
      simp [parseMacWindow, hhi, hlo, hsepBytes, hhi', hlo', byte_of_halves, mac_eta]

/-! ## What the scan reports -/

def Reported (m : Mac) (text : String) : Prop :=
  ∃ i, Taken macWidth parseMacWindow (utf8 text) i ∧
    windowAt macWidth parseMacWindow ((utf8 text).drop i) = some m

/-- **A protected device is visible in the parameters**: some text, as written or without its
whitespace, has a taken window that spells the device's MAC, or contains the device's IP as a dotted
quad of its own. -/
def ShowsProtected (policy : CapabilityPolicy) (parameters : List Constraint) : Prop :=
  ∃ r ∈ policy.protectedList, ∃ c ∈ parameters, ∃ text ∈ scannableStrings c.value,
    Reported r.mac text ∨ Reported r.mac (stripWhitespace text) ∨
      ∃ ip ∈ scanIpv4Candidates text, r.ip = some ip

lemma mem_scanMacCandidates :
    m ∈ scanMacCandidates text ↔ Reported m text :=
  mem_scanSkip_iff_taken (by decide)

lemma mem_scanMacCandidatesIncludingWhitespaceObfuscated :
    m ∈ scanMacCandidatesIncludingWhitespaceObfuscated text ↔
      Reported m text ∨ Reported m (stripWhitespace text) := by
  unfold scanMacCandidatesIncludingWhitespaceObfuscated
  by_cases h : stripWhitespace text = text
  · simp [h, mem_scanMacCandidates]
  · simp [h, mem_scanMacCandidates]

lemma matchText_isSome_iff {key : String} :
    (policy.matchText key text).isSome ↔ ∃ r ∈ policy.protectedList,
      Reported r.mac text ∨ Reported r.mac (stripWhitespace text) ∨
        ∃ ip ∈ scanIpv4Candidates text, r.ip = some ip := by
  unfold CapabilityPolicy.matchText
  simp only [Option.isSome_or, Bool.or_eq_true, findSome?_isSome_iff, Option.isSome_map,
    find?_isSome, decide_eq_true_eq, mem_scanMacCandidatesIncludingWhitespaceObfuscated]
  constructor
  · rintro (⟨mac, hmac, r, hr, rfl⟩ | ⟨ip, hip, r, hr, hrip⟩)
    · rcases hmac with hmac | hmac
      · exact ⟨r, hr, .inl hmac⟩
      · exact ⟨r, hr, .inr (.inl hmac)⟩
    · exact ⟨r, hr, .inr (.inr ⟨ip, hip, hrip⟩)⟩
  · rintro ⟨r, hr, hmac | hmac | ⟨ip, hip, hrip⟩⟩
    · exact .inl ⟨r.mac, .inl hmac, r, hr, rfl⟩
    · exact .inl ⟨r.mac, .inr hmac, r, hr, rfl⟩
    · exact .inr ⟨ip, hip, r, hr, hrip⟩

lemma findProtectedMatch_isSome_iff :
    (policy.findProtectedMatch parameters).isSome ↔ ShowsProtected policy parameters := by
  unfold CapabilityPolicy.findProtectedMatch ShowsProtected
  rcases hlist : policy.protectedList with _ | ⟨r₀, rs⟩
  · simp
  simp only [isEmpty_cons, Bool.false_eq_true, if_false, findSome?_isSome_iff,
    matchText_isSome_iff, hlist]
  constructor
  · rintro ⟨c, hc, text, htext, r, hr, h⟩
    exact ⟨r, hr, c, hc, text, htext, h⟩
  · rintro ⟨r, hr, c, hc, text, htext, h⟩
    exact ⟨c, hc, text, htext, r, hr, h⟩

lemma spelling_in_stripped (h : ContainsSpelling m text) :
    ∃ i, windowAt macWidth parseMacWindow ((utf8 (stripWhitespace text)).drop i) = some m := by
  obtain ⟨before, spelled, after, htext, hspell⟩ := h
  obtain ⟨hlen, hparse⟩ := hspell.parse
  refine ⟨((before.filter fun c => !isWhitespace c).flatMap String.utf8EncodeChar).length, ?_⟩
  unfold stripWhitespace
  rw [htext, utf8_eq_flatMap, String.toList_ofList, filter_append, filter_append,
    flatMap_append, flatMap_append, append_assoc, drop_left]
  unfold windowAt
  rw [length_append, hlen, if_neg (by omega), ← hlen, take_left, hparse]

lemma overlapped_of_not_reported (h : ¬ Reported m text) {i : Nat}
    (hi : windowAt macWidth parseMacWindow ((utf8 text).drop i) = some m) :
    ∃ j, j < i ∧ i < j + macWidth ∧ Taken macWidth parseMacWindow (utf8 text) j := by
  have hnot : ¬ Taken macWidth parseMacWindow (utf8 text) i := fun ht => h ⟨i, ht, hi⟩
  rw [Taken] at hnot
  push Not at hnot
  exact hnot (by rw [hi]; rfl)

/-! ## Proposals -/

lemma propose_of_findProtectedMatch
    {m : ProtectedMatch} (hcfg : policy.protectedResourcesConfigured = true)
    (hm : policy.findProtectedMatch parameters = some m) (X : Externals) (records : Records)
    (draw : IntentId) (now : Nat) (proposer : NodeId) (capability : Tier2Capability)
    (expiry : Nat) :
    propose X policy records draw now proposer capability parameters expiry =
      (.error (.targetsProtectedResource m), records) := by
  unfold propose proposeWithExpiry
  simp [hcfg, hm]

/-- **When a proposal that mentions a protected MAC is refused.** For parameters with a spelling of
a protected MAC (any case, either separator, whitespace inside, any text around), the scan answers,
so that `propose` returns an error and registers nothing, if and only if a protected device is
visible in them. Where none is, the spelling starts inside a MAC-shaped window that the scan has
reported and stepped over. -/
theorem protected_mac_refused_iff_visible (policy : CapabilityPolicy)
    (hcfg : policy.protectedResourcesConfigured = true) (parameters : List Constraint)
    (hmention : MentionsProtectedMac policy parameters) :
    (((policy.findProtectedMatch parameters).isSome ∧
        ∀ (X : Externals) (records : Records) (draw : IntentId) (now : Nat) (proposer : NodeId)
          (capability : Tier2Capability) (expiry : Nat),
          ∃ e, propose X policy records draw now proposer capability parameters expiry =
            (.error e, records)) ↔
      ShowsProtected policy parameters) ∧
    (¬ ShowsProtected policy parameters →
      ∃ r ∈ policy.protectedList, ∃ c ∈ parameters, ∃ text ∈ scannableStrings c.value, ∃ i j,
        windowAt macWidth parseMacWindow ((utf8 (stripWhitespace text)).drop i) = some r.mac ∧
          Taken macWidth parseMacWindow (utf8 (stripWhitespace text)) j ∧ j < i ∧
            i < j + macWidth) := by
  refine ⟨⟨?_, ?_⟩, ?_⟩
  · rintro ⟨hsome, -⟩
    exact findProtectedMatch_isSome_iff.mp hsome
  · intro hshow
    have hsome := findProtectedMatch_isSome_iff.mpr hshow
    refine ⟨hsome, ?_⟩
    intro X records draw now proposer capability expiry
    obtain ⟨m, hm⟩ := Option.isSome_iff_exists.mp hsome
    exact ⟨_, propose_of_findProtectedMatch hcfg hm X records draw now proposer capability expiry⟩
  · intro hshow
    obtain ⟨r, hr, c, hc, text, htext, hspell⟩ := hmention
    obtain ⟨i, hi⟩ := spelling_in_stripped hspell
    have hnot : ¬ Reported r.mac (stripWhitespace text) :=
      fun hrep => hshow ⟨r, hr, c, hc, text, htext, .inr (.inl hrep)⟩
    obtain ⟨j, hji, hij, hj⟩ := overlapped_of_not_reported hnot hi
    exact ⟨r, hr, c, hc, text, htext, i, j, hi, hj, hji, hij⟩

def oneProtectedPolicy : CapabilityPolicy where
  entries := fun _ => none
  protectedResources :=
    some [⟨some "router", #v[0xaa, 0xbb, 0xcc, 0x11, 0x22, 0x01], "aa:bb:cc:11:22:01", none,
      by decide⟩]

def sampleDigits : Fin 6 → Char × Char
  | 0 => ('a', 'a')
  | 1 => ('b', 'b')
  | 2 => ('c', 'c')
  | 3 => ('1', '1')
  | 4 => ('2', '2')
  | 5 => ('0', '1')

lemma sampleDigits_spell :
    SpellsMac #v[0xaa, 0xbb, 0xcc, 0x11, 0x22, 0x01] "aa:bb:cc:11:22:01".toList := by
  refine ⟨':', .inl rfl, sampleDigits, ?_, by decide⟩
  unfold IsHexDigitOf
  decide

theorem blank_separated_mac_is_visible :
    MentionsProtectedMac oneProtectedPolicy
        [⟨"target", .string "reboot aa : bb : cc:11:22:01 now"⟩] ∧
      ShowsProtected oneProtectedPolicy
        [⟨"target", .string "reboot aa : bb : cc:11:22:01 now"⟩] := by
  have hmention : MentionsProtectedMac oneProtectedPolicy
      [⟨"target", .string "reboot aa : bb : cc:11:22:01 now"⟩] := by
    refine ⟨_, mem_singleton_self _, _, mem_singleton_self _, _,
      mem_singleton_self _, "reboot ".toList, "aa : bb : cc:11:22:01".toList, " now".toList,
      by decide, ?_⟩
    exact sampleDigits_spell
  refine ⟨hmention, ?_⟩
  apply (protected_mac_refused_iff_visible oneProtectedPolicy rfl _ hmention).1.mp
  have hsome : (oneProtectedPolicy.findProtectedMatch
      [⟨"target", .string "reboot aa : bb : cc:11:22:01 now"⟩]).isSome := by decide
  obtain ⟨m, hm⟩ := Option.isSome_iff_exists.mp hsome
  exact ⟨hsome, fun X records draw now proposer capability expiry =>
    ⟨_, propose_of_findProtectedMatch rfl hm X records draw now proposer capability expiry⟩⟩

/-- **A protected MAC that is proposed.** Two hex digits and a separator in front of a protected MAC
hide it: the window `00:aa:bb:cc:11:22` is reported and stepped over, the rest is too short. -/
theorem shadowed_mac_is_proposed :
    MentionsProtectedMac oneProtectedPolicy [⟨"target", .string "00:aa:bb:cc:11:22:01"⟩] ∧
      oneProtectedPolicy.findProtectedMatch [⟨"target", .string "00:aa:bb:cc:11:22:01"⟩] = none ∧
      ∀ X : Externals, ∃ r, (propose X oneProtectedPolicy (fun _ => none) ⟨Vector.replicate 16 7⟩ 0
        ⟨Vector.replicate 32 1⟩ ⟨"wg_peer_manage", fun _ => none⟩
        [⟨"target", .string "00:aa:bb:cc:11:22:01"⟩] defaultExpiry).2 ⟨Vector.replicate 16 7⟩ =
          some r := by
  have hnone : oneProtectedPolicy.findProtectedMatch
      [⟨"target", .string "00:aa:bb:cc:11:22:01"⟩] = none := by decide
  refine ⟨?_, hnone, ?_⟩
  · refine ⟨_, mem_singleton_self _, _, mem_singleton_self _, _,
      mem_singleton_self _, "00:".toList, "aa:bb:cc:11:22:01".toList, [], by decide, ?_⟩
    exact sampleDigits_spell
  · intro X
    have hden : oneProtectedPolicy.checkDeniedParamSubstrings X "wg_peer_manage"
        [⟨"target", .string "00:aa:bb:cc:11:22:01"⟩] = none := rfl
    have hcfg : oneProtectedPolicy.protectedResourcesConfigured = true := rfl
    simp [propose, proposeWithExpiry, hcfg, hnone, hden]

/-! ## IP addresses -/

def inIpv4Run (c : Char) : Bool := c.isDigit || c = '.'

def insideAfter (inside : Bool) (text : List Char) : Bool :=
  text.foldl (fun inside c => if inside then inIpv4Run c else c.isDigit) inside

/-- A run of its own: a digit first, and the text before and after do not belong to it. -/
structure StandsAlone (inside : Bool) (before token after : List Char) : Prop where
  outside : insideAfter inside before = false
  digit : ∃ c ∈ token.head?, c.isDigit
  inRun : ∀ c ∈ token, inIpv4Run c
  ended : ∀ c ∈ after.head?, inIpv4Run c = false

section Tokens

variable {token cs run before after : List Char} {c : Char} {inside : Bool}

lemma isDigit_eq_false (hc : inIpv4Run c = false) : c.isDigit = false :=
  (Bool.or_eq_false_iff.mp hc).1

lemma takeWhile_of_ended (hall : ∀ c ∈ run, inIpv4Run c)
    (hended : ∀ c ∈ after.head?, inIpv4Run c = false) :
    (run ++ after).takeWhile inIpv4Run = run := by
  rw [takeWhile_append_of_pos hall]
  cases after with
  | nil => simp
  | cons c after => simp [hended c rfl]

lemma standsAlone_cons :
    (∃ before after, c :: cs = before ++ token ++ after ∧ StandsAlone inside before token after) ↔
      (inside = false ∧ c.isDigit ∧ token = c :: cs.takeWhile inIpv4Run) ∨
        ∃ before after, cs = before ++ token ++ after ∧
          StandsAlone (if inside then inIpv4Run c else c.isDigit) before token after := by
  constructor
  · rintro ⟨_ | ⟨b, before⟩, after, hcs, h⟩
    · obtain ⟨d, hd, hdigit⟩ := h.digit
      rcases token with _ | ⟨d', token⟩
      · simp at hd
      obtain ⟨rfl, rfl⟩ : c = d' ∧ cs = token ++ after := by simpa using hcs
      obtain rfl : c = d := by simpa using hd
      rw [takeWhile_of_ended (fun x hx => h.inRun x (mem_cons_of_mem _ hx)) h.ended]
      exact .inl ⟨h.outside, hdigit, rfl⟩
    · obtain ⟨rfl, rfl⟩ : c = b ∧ cs = before ++ token ++ after := by simpa using hcs
      exact .inr ⟨before, after, rfl, ⟨h.outside, h.digit, h.inRun, h.ended⟩⟩
  · rintro (⟨rfl, hdigit, rfl⟩ | ⟨before, after, rfl, h⟩)
    · refine ⟨[], cs.dropWhile inIpv4Run, by simp, rfl, ⟨c, rfl, hdigit⟩, ?_, ?_⟩
      · intro x hx
        rcases mem_cons.mp hx with rfl | hx
        · simp [inIpv4Run, hdigit]
        · exact mem_takeWhile_imp hx
      · intro x hx
        have hnot := head?_dropWhile_not inIpv4Run cs
        rw [Option.mem_def.mp hx] at hnot
        exact hnot
    · exact ⟨c :: before, after, by simp, ⟨h.outside, h.digit, h.inRun, h.ended⟩⟩

lemma mem_ipv4Tokens_run : token ∈ ipv4Tokens run cs ↔
    (run ≠ [] ∧ token = run ++ cs.takeWhile inIpv4Run) ∨
      ∃ before after, cs = before ++ token ++ after ∧
        StandsAlone (decide (run ≠ [])) before token after := by
  induction cs generalizing run with
  | nil =>
    have hnone : ¬ ∃ before after, [] = before ++ token ++ after ∧
        StandsAlone (decide (run ≠ [])) before token after := by
      rintro ⟨before, after, hnil, h⟩
      obtain ⟨d, hd, -⟩ := h.digit
      have : token = [] := by simp_all
      simp [this] at hd
    rw [or_iff_left hnone]
    by_cases hrun : run = [] <;> simp [ipv4Tokens, hrun]
  | cons c cs ih =>
    rw [standsAlone_cons, ipv4Tokens]
    by_cases hrun : run = []
    · subst hrun
      cases hdigit : c.isDigit <;> simp [ih]
    cases hc : inIpv4Run c
    · have hdot : c ≠ '.' := by simp_all [inIpv4Run]
      simp [hrun, isDigit_eq_false hc, hdot, hc, ih]
    · have hor : c.isDigit = true ∨ c = '.' := by simpa [inIpv4Run] using hc
      simp [hrun, hor, hc, ih]

lemma mem_ipv4Tokens_iff : token ∈ ipv4Tokens [] cs ↔
    ∃ before after, cs = before ++ token ++ after ∧ StandsAlone false before token after := by
  simp [mem_ipv4Tokens_run]

lemma insideAfter_eq_false_iff : insideAfter false before = false ↔
    ∃ rest k, before = rest ++ List.replicate k '.' ∧ ∀ c ∈ rest.getLast?, inIpv4Run c = false := by
  induction before using List.reverseRecOn with
  | nil => exact iff_of_true rfl ⟨[], 0, rfl, by simp⟩
  | append_singleton before c ih =>
    have hstep : insideAfter false (before ++ [c]) =
        if insideAfter false before then inIpv4Run c else c.isDigit := by
      rw [insideAfter, foldl_append]
      rfl
    rw [hstep]
    constructor
    · intro h
      cases hc : inIpv4Run c with
      | false => exact ⟨before ++ [c], 0, by simp, by simpa using hc⟩
      | true =>
        -- Inside a run the character would have kept the scanner there.
        have hout : insideAfter false before = false := by
          by_contra hin
          simp [hin, hc] at h
        have hdot : c = '.' := by simp_all [inIpv4Run]
        obtain ⟨rest, k, rfl, hrest⟩ := ih.mp hout
        refine ⟨rest, k + 1, ?_, hrest⟩
        rw [hdot, replicate_succ', append_assoc]
    · rintro ⟨rest, k, heq, hrest⟩
      cases k with
      | zero =>
        obtain rfl : before ++ [c] = rest := by simpa using heq
        have hc : inIpv4Run c = false := hrest c (by simp)
        simp [hc, isDigit_eq_false hc]
      | succ k =>
        rw [replicate_succ', ← append_assoc] at heq
        obtain ⟨rfl, hdot⟩ := append_inj' heq rfl
        have hout := ih.mpr ⟨rest, k, rfl, hrest⟩
        obtain rfl : c = '.' := by simpa using hdot
        rw [hout]
        rfl

lemma run_of_isIpv4Shaped (h : isIpv4Shaped token) :
    (∃ c ∈ token.head?, c.isDigit) ∧ ∀ c ∈ token, inIpv4Run c := by
  obtain ⟨hlen, hparts⟩ : (token.splitOn '.').length = 4 ∧ ∀ part ∈ token.splitOn '.',
      part.length ≤ 3 ∧ (decimalValue part).any (· ≤ 255) := by
    simpa [isIpv4Shaped] using h
  have hdigits : ∀ part ∈ token.splitOn '.', part ≠ [] ∧ ∀ c ∈ part, c.isDigit := by
    intro part hpart
    have hvalue := (hparts part hpart).2
    unfold decimalValue at hvalue
    split_ifs at hvalue with hp
    · exact ⟨hp.1, by simpa using hp.2⟩
    · simp at hvalue
  have hwhole : ['.'].intercalate (token.splitOn '.') = token := intercalate_splitOn _
  obtain ⟨first, second, third, fourth, heq⟩ := length_eq_four.mp hlen
  rw [heq] at hdigits hwhole
  simp only [forall_mem_cons] at hdigits
  obtain ⟨⟨hne, hfirst⟩, ⟨-, hsecond⟩, ⟨-, hthird⟩, ⟨-, hfourth⟩, -⟩ := hdigits
  obtain ⟨d, ds, rfl⟩ := exists_cons_of_ne_nil hne
  subst hwhole
  refine ⟨⟨d, rfl, hfirst d (by simp)⟩, ?_⟩
  simp only [List.intercalate, List.intersperse, flatten_cons, flatten_nil,
    forall_mem_append, inIpv4Run, Bool.or_eq_true, decide_eq_true_eq]
  exact ⟨fun c hc => .inl (hfirst c hc), by simp, fun c hc => .inl (hsecond c hc), by simp,
    fun c hc => .inl (hthird c hc), by simp, fun c hc => .inl (hfourth c hc), by simp⟩

end Tokens

/-- Around an address: it is not extended into a longer number or dotted run of numbers. -/
def NotExtended (before after : List Char) : Prop :=
  (∀ c ∈ before.getLast?, ¬ c.isDigit ∧ ¬ (c = '.' ∧ ∃ d ∈ before.dropLast.getLast?, d.isDigit)) ∧
    ∀ c ∈ after.head?, ¬ c.isDigit ∧ ¬ (c = '.' ∧ ∃ d ∈ after.tail.head?, d.isDigit)

/-- Around an address: only dots stand between it and a character that is neither a digit nor a dot
(or the start of the text), and such a character (or the end) follows it. -/
def Detached (before after : List Char) : Prop :=
  (∃ rest k, before = rest ++ List.replicate k '.' ∧ ∀ c ∈ rest.getLast?, inIpv4Run c = false) ∧
    ∀ c ∈ after.head?, inIpv4Run c = false

/-- Some text among the parameters has the IP of a protected device, a dotted quad, in it, with
`Around` for what stands before and after. -/
def MentionsProtectedIp (Around : List Char → List Char → Prop) (policy : CapabilityPolicy)
    (parameters : List Constraint) : Prop :=
  ∃ r ∈ policy.protectedList, ∃ ip, r.ip = some ip ∧ isIpv4Shaped ip.toList ∧
    ∃ c ∈ parameters, ∃ text ∈ scannableStrings c.value, ∃ before after,
      text.toList = before ++ ip.toList ++ after ∧ Around before after

lemma mem_scanIpv4Candidates {ip : String} : ip ∈ scanIpv4Candidates text ↔
    isIpv4Shaped ip.toList ∧ ∃ before after, text.toList = before ++ ip.toList ++ after ∧
      Detached before after := by
  have hmem : ip ∈ scanIpv4Candidates text ↔
      isIpv4Shaped ip.toList ∧ ip.toList ∈ ipv4Tokens [] text.toList := by
    simp only [scanIpv4Candidates, mem_map, mem_filter]
    constructor
    · rintro ⟨token, ⟨htoken, hshaped⟩, rfl⟩
      rw [String.toList_ofList]
      exact ⟨hshaped, htoken⟩
    · rintro ⟨hshaped, htoken⟩
      exact ⟨_, ⟨htoken, hshaped⟩, String.ofList_toList⟩
  rw [hmem, mem_ipv4Tokens_iff]
  refine and_congr_right fun hshaped => exists_congr fun before => exists_congr fun after =>
    and_congr_right fun _ => ?_
  obtain ⟨hdigit, hrun⟩ := run_of_isIpv4Shaped hshaped
  constructor
  · intro h
    exact ⟨insideAfter_eq_false_iff.mp h.outside, h.ended⟩
  · rintro ⟨hbefore, hafter⟩
    exact ⟨insideAfter_eq_false_iff.mpr hbefore, hdigit, hrun, hafter⟩

/-- **When a mentioned protected IP is found.** If the parameters mention the IP of a protected
device, not extended on either side, then the scan answers if and only if they mention one
`Detached`, or a taken window spells a protected MAC. -/
theorem protected_ip_found_iff (policy : CapabilityPolicy) (parameters : List Constraint) :
    (MentionsProtectedIp NotExtended policy parameters →
        (policy.findProtectedMatch parameters).isSome) ↔
      (MentionsProtectedIp NotExtended policy parameters →
        MentionsProtectedIp Detached policy parameters ∨
          ∃ r ∈ policy.protectedList, ∃ c ∈ parameters, ∃ text ∈ scannableStrings c.value,
            Reported r.mac text ∨ Reported r.mac (stripWhitespace text)) := by
  refine imp_congr_right fun _ => ?_
  rw [findProtectedMatch_isSome_iff]
  constructor
  · rintro ⟨r, hr, c, hc, text, htext, h | h | ⟨ip, hip, hrip⟩⟩
    · exact .inr ⟨r, hr, c, hc, text, htext, .inl h⟩
    · exact .inr ⟨r, hr, c, hc, text, htext, .inr h⟩
    · obtain ⟨hshaped, hin⟩ := mem_scanIpv4Candidates.mp hip
      exact .inl ⟨r, hr, ip, hrip, hshaped, c, hc, text, htext, hin⟩
  · rintro (⟨r, hr, ip, hrip, hshaped, c, hc, text, htext, hin⟩ | ⟨r, hr, c, hc, text, htext, h⟩)
    · have hip := mem_scanIpv4Candidates.mpr ⟨hshaped, hin⟩
      exact ⟨r, hr, c, hc, text, htext, .inr (.inr ⟨ip, hip, hrip⟩)⟩
    · rcases h with h | h
      · exact ⟨r, hr, c, hc, text, htext, .inl h⟩
      · exact ⟨r, hr, c, hc, text, htext, .inr (.inl h)⟩

def ipProtectedPolicy : CapabilityPolicy where
  entries := fun _ => none
  protectedResources :=
    some [⟨some "router", #v[0xaa, 0xbb, 0xcc, 0x11, 0x22, 0x01], "aa:bb:cc:11:22:01",
      some "192.168.1.1", by decide⟩]

/-- **A protected IP that is not found**: a full stop after it makes the run `192.168.1.1.`, which
has five parts. -/
theorem ip_before_full_stop :
    MentionsProtectedIp NotExtended ipProtectedPolicy
        [⟨"action", .string "reboot 192.168.1.1."⟩] ∧
      ipProtectedPolicy.findProtectedMatch [⟨"action", .string "reboot 192.168.1.1."⟩] = none := by
  refine ⟨?_, by decide⟩
  refine ⟨_, mem_singleton_self _, "192.168.1.1", rfl, by decide, _, mem_singleton_self _,
    _, mem_singleton_self _, "reboot ".toList, ".".toList, by decide, ?_, ?_⟩
  · intro c hc
    obtain rfl : ' ' = c := Option.some.inj hc
    decide
  · intro c hc
    obtain rfl : '.' = c := Option.some.inj hc
    simp

end AxiomCore
