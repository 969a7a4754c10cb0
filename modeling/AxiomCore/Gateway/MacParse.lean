import AxiomCore.Gateway.ProtectedScan
import AxiomCore.Lib.Text
import AxiomCore.Lib.TextLines

/-!
# The two readers of MAC addresses

The policy file's addresses are read by `parse_mac`, which splits at the separator and leaves the
octets to `u8::from_str_radix`. The parameters of an intent are read by `parse_mac_window`, with
fixed offsets and its own table of digits. A device is protected if the second reader finds what the
first one has read.

Source: `axiom-gateway/src/policy.rs`.
-/

namespace AxiomCore

open Lib

/-- The two bytes of a part, read in base 16. -/
def parseOctet (part : List Char) : Option UInt8 :=
  if utf8Len part ≠ 2 then none
  else (parseRadix 16 part).bind fun v => if v < 256 then some v.toUInt8 else none

lemma size_octets (o0 o1 o2 o3 o4 o5 : UInt8) : #[o0, o1, o2, o3, o4, o5].size = 6 := rfl

def macOfParts : List (List Char) → Option Mac
  | [p0, p1, p2, p3, p4, p5] => do
    let o0 ← parseOctet p0
    let o1 ← parseOctet p1
    let o2 ← parseOctet p2
    let o3 ← parseOctet p3
    let o4 ← parseOctet p4
    let o5 ← parseOctet p5
    some ⟨#[o0, o1, o2, o3, o4, o5], size_octets ..⟩
  | _ => none

def parseMac (s : String) : Option Mac :=
  let s := Lib.trim s.toList
  if ':' ∈ s then macOfParts (s.splitOn ':')
  else if '-' ∈ s then macOfParts (s.splitOn '-')
  else none

def ProtectedResource.new (name : Option String) (mac : String) (ip : Option String) :
    Option ProtectedResource :=
  (parseMac mac).map fun bytes => ⟨name, bytes, formatMac bytes, ip, rfl⟩

/-! ## The common shape -/

instance neZero_six : NeZero 6 := ⟨by decide⟩

/-- Two bytes as `parse_mac_window` reads them. -/
def byteOctet (a b : UInt8) : Option UInt8 := do
  let hi ← hexVal a
  let lo ← hexVal b
  some ((hi <<< 4) ||| lo)

/-- The pair as `parse_mac_window` reads it. -/
def windowOctet (p : Char × Char) : Option UInt8 := byteOctet p.1.val.toUInt8 p.2.val.toUInt8

/-- The pair as `parse_mac` reads it: a plus sign may stand for the first digit. -/
def signedOctet (p : Char × Char) : Option UInt8 :=
  if p.1 = '+' then hexVal p.2.val.toUInt8 else windowOctet p

def IsOctet (p : Char × Char) (o : UInt8) : Prop :=
  (p.1.toNat < 128 ∧ p.2.toNat < 128) ∧ signedOctet p = some o

def collect (x : Fin 6 → Option UInt8) : Option Mac := do
  let o0 ← x 0
  let o1 ← x 1
  let o2 ← x 2
  let o3 ← x 3
  let o4 ← x 4
  let o5 ← x 5
  some ⟨#[o0, o1, o2, o3, o4, o5], size_octets ..⟩

section Shape

variable {m : Mac} {sep a b : Char} {d : Fin 6 → Char × Char} {o : UInt8}

lemma collect_eq_some_iff {x : Fin 6 → Option UInt8} :
    collect x = some m ↔ ∀ i, x i = some (m.get i) := by
  constructor
  · intro h
    simp only [collect, Option.bind_eq_bind, Option.bind_eq_some_iff, Option.some.injEq] at h
    obtain ⟨o0, h0, o1, h1, o2, h2, o3, h3, o4, h4, o5, h5, rfl⟩ := h
    intro i
    fin_cases i
    exacts [h0, h1, h2, h3, h4, h5]
  · intro h
    simp only [collect, h, Option.bind_eq_bind, Option.bind_some, mac_eta]

lemma map_digitOf (ha : a.toNat < 128) :
    (digitOf 16 a).map UInt8.ofNat = hexVal a.val.toUInt8 := by
  have htable : ∀ n : Fin 128,
      (digitOf 16 (Char.ofNat n)).map UInt8.ofNat = hexVal (Char.ofNat n).val.toUInt8 := by
    decide +kernel
  simpa [Char.ofNat_toNat] using htable ⟨a.toNat, ha⟩

lemma digitOf_lt {n : Nat} (h : digitOf 16 a = some n) : n < 16 ∧ a.toNat < 128 := by
  unfold digitOf at h
  grind

lemma parseRadix_pair : parseRadix 16 [a, b] =
    if a = '+' then (digitOf 16 b).map UInt64.ofNat
    else (digitOf 16 a).bind fun hi =>
      (digitOf 16 b).map fun lo => UInt64.ofNat (hi * 16 + lo) := by
  by_cases ha : a = '+'
  · subst ha
    rcases hb : digitOf 16 b with _ | lo
    · simp [parseRadix, hb]
    have := (digitOf_lt hb).1
    simp [parseRadix, hb]
    omega
  · rcases hhi : digitOf 16 a with _ | hi
    · simp [parseRadix, ha, hhi]
    rcases hb : digitOf 16 b with _ | lo
    · simp [parseRadix, ha, hhi, hb]
    have := (digitOf_lt hhi).1
    have := (digitOf_lt hb).1
    simp [parseRadix, ha, hhi, hb]
    omega

lemma utf8Size_of_ascii (ha : a.toNat < 128) : a.utf8Size = 1 :=
  Char.utf8Size_eq_one_iff.mpr (by
    rw [UInt32.le_iff_toNat_le]
    exact Nat.le_of_lt_succ ha)

lemma ascii_of_utf8Size (ha : a.utf8Size = 1) : a.toNat < 128 := by
  have := UInt32.le_iff_toNat_le.mp (Char.utf8Size_eq_one_iff.mp ha)
  exact Nat.lt_succ_of_le this

lemma parseOctet_pair (ha : a.toNat < 128) (hb : b.toNat < 128) :
    parseOctet [a, b] = signedOctet (a, b) := by
  have hone : ∀ lo : Fin 16, (UInt64.ofNat lo < 256) ∧
      (UInt64.ofNat lo).toUInt8 = UInt8.ofNat lo := by decide +kernel
  have htwo : ∀ hi lo : Fin 16, (UInt64.ofNat (hi.val * 16 + lo.val) < 256) ∧
      (UInt64.ofNat (hi.val * 16 + lo.val)).toUInt8 =
        (UInt8.ofNat hi <<< 4) ||| UInt8.ofNat lo := by decide +kernel
  have hlen : utf8Len [a, b] = 2 := by simp [utf8Size_of_ascii ha, utf8Size_of_ascii hb]
  unfold parseOctet signedOctet windowOctet byteOctet
  rw [if_neg (not_not.mpr hlen), parseRadix_pair]
  simp only [← map_digitOf ha, ← map_digitOf hb]
  rcases hlo : digitOf 16 b with _ | lo
  · split_ifs <;> simp
  obtain ⟨hlt, -⟩ := digitOf_lt hlo
  split_ifs
  · obtain ⟨hbound, hval⟩ := hone ⟨lo, hlt⟩
    simp only at hbound hval
    simp [hbound, hval]
  rcases hhi : digitOf 16 a with _ | hi
  · simp
  obtain ⟨hbound, hval⟩ := htwo ⟨hi, (digitOf_lt hhi).1⟩ ⟨lo, hlt⟩
  simp only [Option.map_some, Option.bind_some, Option.bind_eq_bind]
  rw [if_pos hbound, hval]

lemma parseOctet_eq_some_iff {part : List Char} : parseOctet part = some o ↔
    ∃ p : Char × Char, part = [p.1, p.2] ∧ IsOctet p o := by
  constructor
  · intro h
    have hlen : utf8Len part = 2 := by
      by_contra hne
      rw [parseOctet, if_pos hne] at h
      cases h
    rcases part with _ | ⟨a, _ | ⟨b, rest⟩⟩
    · cases hlen
    · -- One character of two bytes is no digit.
      have hwide : ¬ a.toNat < 128 := by
        intro ha
        simp [utf8Size_of_ascii ha] at hlen
      have hplus : a ≠ '+' := by
        rintro rfl
        exact hwide (by decide)
      have hnone : digitOf 16 a = none := by
        by_contra hsome
        obtain ⟨n, hn⟩ := Option.ne_none_iff_exists'.mp hsome
        exact hwide (digitOf_lt hn).2
      simp [parseOctet, parseRadix, hplus, hnone] at h
    · have ha := a.utf8Size_pos
      have hb := b.utf8Size_pos
      rw [utf8Len_cons, utf8Len_cons] at hlen
      obtain rfl : rest = [] := utf8Len_eq_zero (by omega)
      have ha' := ascii_of_utf8Size (a := a) (by omega)
      have hb' := ascii_of_utf8Size (a := b) (by omega)
      rw [parseOctet_pair ha' hb'] at h
      exact ⟨(a, b), rfl, ⟨ha', hb'⟩, h⟩
  · rintro ⟨p, rfl, ⟨ha, hb⟩, h⟩
    rw [parseOctet_pair ha hb]
    exact h

lemma ascii_byte_inj (ha : a.toNat < 128) (hb : b.toNat < 128)
    (h : a.val.toUInt8 = b.val.toUInt8) : a = b := by
  have hbytes := congrArg UInt8.toNat h
  rw [UInt32.toNat_toUInt8, UInt32.toNat_toUInt8] at hbytes
  apply Char.ext
  apply UInt32.toNat_inj.mp
  change a.toNat % 256 = b.toNat % 256 at hbytes
  change a.toNat = b.toNat
  omega

lemma parseMacWindow_bytes {w : List UInt8} : parseMacWindow w = some m ↔
    (w.getD 2 0 = 58 ∨ w.getD 2 0 = 45) ∧
      (∀ i : Fin 6, i.val < 5 → w.getD (3 * i + 2) 0 = w.getD 2 0) ∧
      ∀ i : Fin 6, byteOctet (w.getD (3 * i) 0) (w.getD (3 * i + 1) 0) = some (m.get i) := by
  have heq : parseMacWindow w =
      if w.getD 2 0 ≠ 58 ∧ w.getD 2 0 ≠ 45 then none
      else collect fun i =>
        if i.val < 5 ∧ w.getD (3 * i + 2) 0 ≠ w.getD 2 0 then none
        else byteOctet (w.getD (3 * i) 0) (w.getD (3 * i + 1) 0) := rfl
  rw [heq]
  by_cases hsep : w.getD 2 0 = 58 ∨ w.getD 2 0 = 45
  · rw [if_neg (by tauto), collect_eq_some_iff, and_iff_right hsep, ← forall_and]
    apply forall_congr'
    intro i
    by_cases hi : i.val < 5 ∧ w.getD (3 * i + 2) 0 ≠ w.getD 2 0
    · rw [if_pos hi]
      exact iff_of_false (by simp) fun h => hi.2 (h.1 hi.1)
    · rw [if_neg hi]
      exact (and_iff_right fun hlt => by_contra fun hne => hi ⟨hlt, hne⟩).symm
  · rw [if_pos (not_or.mp hsep)]
    exact iff_of_false (by simp) fun h => hsep h.1

variable {cs : List Char} {p : Char × Char}

lemma parseMacWindow_eq_some_iff (hlen : cs.length = 17)
    (hascii : ∀ c ∈ cs, c.toNat < 128) :
    parseMacWindow (cs.map fun c => c.val.toUInt8) = some m ↔
      ∃ sep, (sep = ':' ∨ sep = '-') ∧ ∃ d, cs = macText sep d ∧
        ∀ i, windowOctet (d i) = some (m.get i) := by
  have hget : ∀ (k : Nat) (hk : k < cs.length),
      (cs.map fun c => c.val.toUInt8).getD k 0 = cs[k].val.toUInt8 := by
    intro k hk
    simp [List.getD_eq_getElem?_getD, hk]
  have hchar : ∀ (k : Nat) (hk : k < cs.length), cs[k].toNat < 128 := fun k hk =>
    hascii _ (List.getElem_mem hk)
  rw [parseMacWindow_bytes]
  constructor
  · rintro ⟨hsep, hseps, hoctets⟩
    refine ⟨cs[2], ?_, fun i => (cs[3 * i.val], cs[3 * i.val + 1]), ?_, ?_⟩
    · rw [hget 2 (by omega)] at hsep
      rcases hsep with hsep | hsep
      · exact .inl (ascii_byte_inj (hchar 2 (by omega)) (by decide) hsep)
      · exact .inr (ascii_byte_inj (hchar 2 (by omega)) (by decide) hsep)
    · have hsame : ∀ i : Fin 6, ∀ hi : i.val < 5, cs[3 * i.val + 2] = cs[2] := by
        intro i hi
        apply ascii_byte_inj (hchar _ (by omega)) (hchar _ (by omega))
        rw [← hget _ (by omega), ← hget _ (by omega)]
        exact hseps i hi
      apply List.ext_getElem
      · exact hlen
      · intro k hk _
        rw [hlen] at hk
        interval_cases k
        all_goals first | rfl | skip
        exacts [hsame 1 (by decide), hsame 2 (by decide), hsame 3 (by decide), hsame 4 (by decide)]
    · intro i
      have := hoctets i
      rw [hget _ (by omega), hget _ (by omega)] at this
      exact this
  · rintro ⟨sep, hsep, d, rfl, hoctets⟩
    refine ⟨?_, ?_, ?_⟩
    · rcases hsep with rfl | rfl
      · exact .inl rfl
      · exact .inr rfl
    · intro i hi
      fin_cases i
      all_goals first | rfl | exact absurd hi (by decide)
    · intro i
      have := hoctets i
      fin_cases i <;> exact this

lemma IsOctet.plain (h : IsOctet p o) :
    (p.1 ≠ ':' ∧ p.1 ≠ '-' ∧ Lib.isWhitespace p.1 = false) ∧
      p.2 ≠ ':' ∧ p.2 ≠ '-' ∧ Lib.isWhitespace p.2 = false := by
  have htable : ∀ n : Fin 128, (hexVal (Char.ofNat n).val.toUInt8).isSome ∨ Char.ofNat n = '+' →
      Char.ofNat n ≠ ':' ∧ Char.ofNat n ≠ '-' ∧ Lib.isWhitespace (Char.ofNat n) = false := by
    decide +kernel
  have hplain : ∀ c : Char, c.toNat < 128 → (hexVal c.val.toUInt8).isSome ∨ c = '+' →
      c ≠ ':' ∧ c ≠ '-' ∧ Lib.isWhitespace c = false := by
    intro c hc
    simpa [Char.ofNat_toNat] using htable ⟨c.toNat, hc⟩
  obtain ⟨⟨ha, hb⟩, hsigned⟩ := h
  unfold signedOctet windowOctet byteOctet at hsigned
  split_ifs at hsigned with hplus
  · exact ⟨hplain _ ha (.inr hplus), hplain _ hb (.inl (Option.isSome_of_eq_some hsigned))⟩
  obtain ⟨hi, hhi, hsigned⟩ := Option.bind_eq_some_iff.mp hsigned
  obtain ⟨lo, hlo, -⟩ := Option.bind_eq_some_iff.mp hsigned
  exact ⟨hplain _ ha (.inl (Option.isSome_of_eq_some hhi)),
    hplain _ hb (.inl (Option.isSome_of_eq_some hlo))⟩

def macParts (d : Fin 6 → Char × Char) : List (List Char) :=
  [[(d 0).1, (d 0).2], [(d 1).1, (d 1).2], [(d 2).1, (d 2).2], [(d 3).1, (d 3).2],
    [(d 4).1, (d 4).2], [(d 5).1, (d 5).2]]

lemma macOfParts_eq_some_iff {parts : List (List Char)} : macOfParts parts = some m ↔
    ∃ d, parts = macParts d ∧ ∀ i, IsOctet (d i) (m.get i) := by
  constructor
  · intro h
    unfold macOfParts at h
    split at h
    · rename_i p0 p1 p2 p3 p4 p5
      have hparts := collect_eq_some_iff
        (x := fun i => parseOctet (![p0, p1, p2, p3, p4, p5] i)).mp h
      simp only [parseOctet_eq_some_iff] at hparts
      choose d hd hoctet using hparts
      refine ⟨d, ?_, hoctet⟩
      rw [show p0 = _ from hd 0, show p1 = _ from hd 1, show p2 = _ from hd 2,
        show p3 = _ from hd 3, show p4 = _ from hd 4, show p5 = _ from hd 5]
      rfl
    · cases h
  · rintro ⟨d, rfl, hoctet⟩
    apply collect_eq_some_iff (x := fun i => parseOctet [(d i).1, (d i).2]).mpr
    intro i
    exact parseOctet_eq_some_iff.mpr ⟨d i, rfl, hoctet i⟩

lemma intercalate_macParts : [sep].intercalate (macParts d) = macText sep d := rfl

lemma parseMac_eq_some_iff {s : String} : parseMac s = some m ↔
    ∃ sep, (sep = ':' ∨ sep = '-') ∧ ∃ d, Lib.trim s.toList = macText sep d ∧
      ∀ i, IsOctet (d i) (m.get i) := by
  constructor
  · intro h
    simp only [parseMac] at h
    split_ifs at h with hcolon hdash
    · obtain ⟨d, hparts, hoctets⟩ := macOfParts_eq_some_iff.mp h
      refine ⟨':', .inl rfl, d, ?_, hoctets⟩
      rw [← intercalate_macParts, ← hparts, List.intercalate_splitOn]
    obtain ⟨d, hparts, hoctets⟩ := macOfParts_eq_some_iff.mp h
    refine ⟨'-', .inr rfl, d, ?_, hoctets⟩
    rw [← intercalate_macParts, ← hparts, List.intercalate_splitOn]
  · rintro ⟨sep, hsep, d, htrim, hoctets⟩
    have hplain : ∀ x, x = ':' ∨ x = '-' → ∀ part ∈ macParts d, x ∉ part := by
      have hpair : ∀ x, x = ':' ∨ x = '-' → ∀ i, x ∉ [(d i).1, (d i).2] := by
        intro x hx i hmem
        obtain ⟨h1, h2⟩ := (hoctets i).plain
        rcases hx with rfl | rfl
        all_goals grind
      intro x hx part hpart
      simp only [macParts, List.mem_cons, List.not_mem_nil, or_false] at hpart
      rcases hpart with rfl | rfl | rfl | rfl | rfl | rfl <;> exact hpair x hx _
    have hsplit : (macText sep d).splitOn sep = macParts d := by
      rw [← intercalate_macParts]
      exact List.splitOn_intercalate _ (hplain sep hsep) (by simp [macParts])
    have hmac := macOfParts_eq_some_iff.mpr ⟨d, rfl, hoctets⟩
    simp only [parseMac, htrim]
    rcases hsep with rfl | rfl
    · rw [if_pos (by simp [macText]), hsplit, hmac]
    have hcolon : ':' ∉ macText '-' d := by
      have := hplain ':' (.inl rfl)
      simp [macParts] at this
      simp [macText]
      tauto
    rw [if_neg hcolon, if_pos (by simp [macText]), hsplit, hmac]

lemma trim_macText
    (h : ∀ i, Lib.isWhitespace (d i).1 = false ∧ Lib.isWhitespace (d i).2 = false) :
    Lib.trim (macText sep d) = macText sep d := by
  have hlast : macText sep d = (macText sep d).dropLast ++ [(d 5).2] := rfl
  have hfirst : (macText sep d).dropWhile Lib.isWhitespace = macText sep d :=
    List.dropWhile_cons_of_neg (by simp [(h 0).1])
  rw [Lib.trim, hfirst, hlast]
  exact List.rdropWhile_concat_neg _ _ _ (by simp [(h 5).2])

lemma eq_of_trim_macText (hlen : cs.length = 17)
    (h : Lib.trim cs = macText sep d) : cs = macText sep d := by
  have hsub : (Lib.trim cs).Sublist cs :=
    (List.rdropWhile_prefix _ _).sublist.trans (List.dropWhile_sublist _)
  rw [← h]
  apply (hsub.eq_of_length _).symm
  rw [h, hlen]
  rfl

lemma macText_inj {sep' : Char} {d' : Fin 6 → Char × Char} (h : macText sep d = macText sep' d') :
    d = d' := by
  funext i
  simp only [macText, List.cons.injEq] at h
  fin_cases i <;> exact Prod.ext (by tauto) (by tauto)

lemma exists_isOctet (hp : p.1.toNat < 128 ∧ p.2.toNat < 128) :
    (∃ o, IsOctet p o) ↔
      (p.1 = '+' ∨ (digitOf 16 p.1).isSome) ∧ (digitOf 16 p.2).isSome := by
  have h1 := map_digitOf hp.1
  have h2 := map_digitOf hp.2
  unfold IsOctet signedOctet windowOctet byteOctet
  rw [← h1, ← h2]
  by_cases hplus : p.1 = '+'
  · cases digitOf 16 p.2 <;> simp [hp, hplus]
  · cases digitOf 16 p.1 <;> cases digitOf 16 p.2 <;> simp [hp, hplus]

lemma windowOctet_eq_some_iff (hp : p.1.toNat < 128 ∧ p.2.toNat < 128) :
    windowOctet p = some o ↔ p.1 ≠ '+' ∧ IsOctet p o := by
  unfold IsOctet signedOctet
  by_cases hplus : p.1 = '+'
  · have hnone : hexVal 43 = none := by decide
    simp [windowOctet, byteOctet, hplus, hnone]
  · simp [hplus, hp]

end Shape

/-! ## Where they agree -/

/-- **A plus sign in an octet**: six octets with one separator, each two hexadecimal digits or a
plus sign and a digit, and at least one with the plus sign. -/
def SpelledWithSign (w : String) : Prop :=
  ∃ sep, (sep = ':' ∨ sep = '-') ∧ ∃ d, w.toList = macText sep d ∧
    (∀ i, ((d i).1 = '+' ∨ (digitOf 16 (d i).1).isSome) ∧ (digitOf 16 (d i).2).isSome) ∧
    ∃ i, (d i).1 = '+'

variable {m : Mac}

lemma mem_scanMacCandidates_formatMac : m ∈ scanMacCandidates (formatMac m) := by
  have hspells : SpellsMac m (formatMac m).toList := by
    refine ⟨':', .inl rfl,
      fun i => (hexDigit ((m.get i).toNat / 16), hexDigit ((m.get i).toNat % 16)),
      fun i => ⟨.inl rfl, .inl rfl⟩, ?_⟩
    rw [formatMac, String.toList_ofList]
    conv_lhs => rw [← mac_eta m]
    rfl
  obtain ⟨hlen, hparse⟩ := hspells.parse
  have hwindow : windowAt macWidth parseMacWindow ((utf8 (formatMac m)).drop 0) = some m := by
    rw [utf8_eq_flatMap, List.drop_zero, windowAt, if_neg hlen.not_lt,
      List.take_of_length_le hlen.le]
    exact hparse
  apply mem_scanMacCandidates.mpr
  refine ⟨0, ?_, hwindow⟩
  rw [Taken]
  exact ⟨Option.isSome_of_eq_some hwindow, fun j hj => absurd hj (Nat.not_lt_zero j)⟩

/-- **Where the two readers of MAC addresses agree.** On 17 ASCII characters they read the same
address, or both none, if and only if the text is not six octets with a plus sign among them. And
whatever the policy file's reader has made of a text, the scan finds the device by its display
form. -/
theorem mac_parsers_agree_iff (w : String) (hlen : w.toList.length = 17)
    (hascii : ∀ c ∈ w.toList, c.toNat < 128) :
    ((∀ m, parseMac w = some m ↔ parseMacWindow (utf8 w) = some m) ↔ ¬ SpelledWithSign w) ∧
      ∀ name mac ip r, ProtectedResource.new name mac ip = some r →
        r.mac ∈ scanMacCandidates r.macDisplay := by
  have hbytes : utf8 w = w.toList.map fun c => c.val.toUInt8 := by
    rw [utf8_eq_flatMap, List.map_eq_flatMap]
    apply List.flatMap_congr
    intro c hc
    exact utf8EncodeChar_of_lt (hascii c hc)
  have hpairs : ∀ {sep d}, w.toList = macText sep d → ∀ i,
      (d i).1.toNat < 128 ∧ (d i).2.toNat < 128 := by
    intro sep d hw i
    constructor
    · apply hascii
      rw [hw]
      fin_cases i <;> simp [macText]
    · apply hascii
      rw [hw]
      fin_cases i <;> simp [macText]
  rw [hbytes]
  refine ⟨?_, ?_⟩
  · simp only [parseMacWindow_eq_some_iff hlen hascii, parseMac_eq_some_iff]
    constructor
    · rintro hagree ⟨sep, hsep, d, hw, hhex, i, hi⟩
      choose o ho using fun i => (exists_isOctet (hpairs hw i)).mpr (hhex i)
      have htrim : Lib.trim w.toList = macText sep d := by
        rw [hw]
        exact trim_macText fun i => ⟨(ho i).plain.1.2.2, (ho i).plain.2.2.2⟩
      obtain ⟨sep', -, d', hw', hoctets⟩ := (hagree (Vector.ofFn o)).mp
        ⟨sep, hsep, d, htrim, fun i => by simpa [Vector.get_ofFn] using ho i⟩
      obtain rfl := macText_inj (hw.symm.trans hw')
      exact ((windowOctet_eq_some_iff (hpairs hw i)).mp (hoctets i)).1 hi
    · intro hsign m
      constructor
      · rintro ⟨sep, hsep, d, htrim, hoctets⟩
        have hw := eq_of_trim_macText hlen htrim
        refine ⟨sep, hsep, d, hw, fun i => ?_⟩
        apply (windowOctet_eq_some_iff (hpairs hw i)).mpr
        refine ⟨fun hplus => hsign ⟨sep, hsep, d, hw, ?_, i, hplus⟩, hoctets i⟩
        exact fun i => (exists_isOctet (hpairs hw i)).mp ⟨_, hoctets i⟩
      · rintro ⟨sep, hsep, d, hw, hoctets⟩
        have ho : ∀ i, IsOctet (d i) (m.get i) := fun i =>
          ((windowOctet_eq_some_iff (hpairs hw i)).mp (hoctets i)).2
        refine ⟨sep, hsep, d, ?_, ho⟩
        rw [hw]
        exact trim_macText fun i => ⟨(ho i).plain.1.2.2, (ho i).plain.2.2.2⟩
  · intro name mac ip r _
    rw [r.macDisplay_eq]
    exact mem_scanMacCandidates_formatMac

theorem capital_letters_read_alike :
    parseMac "AA-BB-CC-11-22-01" = parseMacWindow (utf8 "AA-BB-CC-11-22-01") ∧
      ¬ SpelledWithSign "AA-BB-CC-11-22-01" := by
  have hsame : parseMac "AA-BB-CC-11-22-01" = parseMacWindow (utf8 "AA-BB-CC-11-22-01") := by
    decide +kernel
  have hascii : "AA-BB-CC-11-22-01".toList.all (fun c => c.toNat < 128) := by decide +kernel
  refine ⟨hsame, ?_⟩
  apply (mac_parsers_agree_iff "AA-BB-CC-11-22-01" rfl
    fun c hc => of_decide_eq_true (List.all_eq_true.mp hascii c hc)).1.mp
  intro m
  rw [hsame]

/-- **An octet with a plus sign** is read in the policy file, but not in a parameter. -/
theorem signed_octet_read :
    parseMac "+a:bb:cc:11:22:01" = some #v[0x0a, 0xbb, 0xcc, 0x11, 0x22, 0x01] ∧
      parseMacWindow (utf8 "+a:bb:cc:11:22:01") = none := by
  decide +kernel

end AxiomCore
