import Mathlib

/-!
# Byte strings: integers and UTF-8 text

The two encodings every wire or hash format in this development is built from.

- `beBytes k n` writes `n` in `k` bytes, most significant first. It is injective below `256 ^ k`
  (`beBytes_inj`), so a fixed-width field can be cut off a byte string and read back
  (`beNat_beBytes`, and `takeVec_append` for arrays). `leBytes k n` is the same least significant
  first (`leBytes_inj`).
- `utf8 s` is the byte string of a text. It is injective (`utf8_inj`) and has no inner structure a
  reader could use to find its end.

The cutting rule (`List.append_inj`, and `utf8_flatMap_inj_of_lengths` for lists of texts) is what
a *framed* format has and a format that only concatenates its fields lacks: two equal
concatenations agree field by field as soon as the field lengths agree.
-/

namespace Lib

/-! ## Big-endian integers -/

/-- The low `k` bytes of `n`, most significant first. -/
def beBytes : Nat → Nat → List UInt8
  | 0, _ => []
  | k + 1, n => beBytes k (n / 256) ++ [UInt8.ofNat (n % 256)]

@[simp] lemma length_beBytes (k n : Nat) : (beBytes k n).length = k := by
  induction k generalizing n with
  | zero => rfl
  | succ k ih => simp [beBytes, ih]

variable {m n k : Nat} {bs : List UInt8}

lemma ofNat_mod_inj (h : UInt8.ofNat (m % 256) = UInt8.ofNat (n % 256)) :
    m % 256 = n % 256 := by
  have h' := congrArg UInt8.toNat h
  simp only [UInt8.toNat_ofNat'] at h'
  omega

lemma beBytes_inj (hm : m < 256 ^ k) (hn : n < 256 ^ k)
    (h : beBytes k m = beBytes k n) : m = n := by
  induction k generalizing m n with
  | zero =>
    have hm' : m = 0 := by simpa using hm
    have hn' : n = 0 := by simpa using hn
    rw [hm', hn']
  | succ k ih =>
    simp only [beBytes] at h
    obtain ⟨hhi, hlo⟩ := List.append_inj h (by simp)
    have hdiv : m / 256 = n / 256 := by
      refine ih ?_ ?_ hhi
      · rw [Nat.div_lt_iff_lt_mul (by norm_num), ← pow_succ]; exact hm
      · rw [Nat.div_lt_iff_lt_mul (by norm_num), ← pow_succ]; exact hn
    have hmod : m % 256 = n % 256 := ofNat_mod_inj (List.head_eq_of_cons_eq hlo)
    calc m = 256 * (m / 256) + m % 256 := (Nat.div_add_mod m 256).symm
      _ = 256 * (n / 256) + n % 256 := by rw [hdiv, hmod]
      _ = n := Nat.div_add_mod n 256

def beNat (bs : List UInt8) : Nat := bs.foldl (fun n b => 256 * n + b.toNat) 0

lemma beNat_concat (bs : List UInt8) (b : UInt8) :
    beNat (bs ++ [b]) = 256 * beNat bs + b.toNat := by
  simp [beNat, List.foldl_append]

lemma beNat_beBytes (k n : Nat) : beNat (beBytes k n) = n % 256 ^ k := by
  induction k generalizing n with
  | zero => simp [beBytes, beNat, Nat.mod_one]
  | succ k ih =>
    have hlast : beNat (beBytes (k + 1) n) = 256 * beNat (beBytes k (n / 256)) + n % 256 := by
      simp [beBytes, beNat_concat]
    rw [hlast, ih, pow_succ', Nat.mod_mul]
    omega

lemma beNat_lt (bs : List UInt8) : beNat bs < 256 ^ bs.length := by
  induction bs using List.reverseRecOn with
  | nil => simp [beNat]
  | append_singleton bs b ih =>
    have hb := b.toNat_lt
    rw [beNat_concat, List.length_append, List.length_singleton, pow_succ]
    omega

lemma beBytes_beNat (bs : List UInt8) : beBytes bs.length (beNat bs) = bs := by
  induction bs using List.reverseRecOn with
  | nil => rfl
  | append_singleton bs b ih =>
    have hb := b.toNat_lt
    have hdiv : (256 * beNat bs + b.toNat) / 256 = beNat bs := by omega
    have hmod : (256 * beNat bs + b.toNat) % 256 = b.toNat := by omega
    rw [beNat_concat, List.length_append, List.length_singleton, beBytes, hdiv, hmod, ih,
      UInt8.ofNat_toNat]

lemma beNat_eq_iff (h : bs.length = k) (hn : n < 256 ^ k) :
    beNat bs = n ↔ beBytes k n = bs := by
  constructor
  · rintro rfl
    rw [← h, beBytes_beNat]
  · rintro rfl
    rw [beNat_beBytes, Nat.mod_eq_of_lt hn]

/-! ## Little-endian integers -/

/-- The low `k` bytes of `n`, least significant first. -/
def leBytes (k n : Nat) : List UInt8 := (beBytes k n).reverse

@[simp] lemma length_leBytes (k n : Nat) : (leBytes k n).length = k := by simp [leBytes]

lemma leBytes_inj (hm : m < 256 ^ k) (hn : n < 256 ^ k)
    (h : leBytes k m = leBytes k n) : m = n :=
  beBytes_inj hm hn (List.reverse_injective h)

def toLeBytes (n : UInt64) : List UInt8 := leBytes 8 n.toNat

lemma toLeBytes_inj {m n : UInt64} (h : toLeBytes m = toLeBytes n) : m = n := by
  apply UInt64.toNat_inj.mp
  exact leBytes_inj (k := 8) m.toNat_lt n.toNat_lt h

@[simp] lemma length_toLeBytes (n : UInt64) : (toLeBytes n).length = 8 := by simp [toLeBytes]

def leNat (bs : List UInt8) : Nat := beNat bs.reverse

lemma leNat_leBytes (h : n < 256 ^ k) : leNat (leBytes k n) = n := by
  rw [leNat, leBytes, List.reverse_reverse, beNat_beBytes, Nat.mod_eq_of_lt h]

lemma ofNat_leNat_toLeBytes (n : UInt64) : UInt64.ofNat (leNat (toLeBytes n)) = n := by
  rw [toLeBytes, leNat_leBytes (k := 8) n.toNat_lt, UInt64.ofNat_toNat]

/-! ## Fixed-width arrays -/

/-- The first `k` bytes as an array; missing bytes read as zero. -/
def takeVec (k : Nat) (bs : List UInt8) : Vector UInt8 k := Vector.ofFn fun i => bs.getD i 0

def bytesOnto : Nat → Nat → List UInt8 → List UInt8
  | 0, _, bs => bs
  | k + 1, n, bs => bytesOnto k (n / 256) (UInt8.ofNat (n % 256) :: bs)

lemma length_bytesOnto (k n : Nat) (bs : List UInt8) :
    (bytesOnto k n bs).length = bs.length + k := by
  induction k generalizing n bs with
  | zero => rfl
  | succ k ih => grind [bytesOnto]

/-- The bytes of a number, which samples write in hexadecimal. -/
def hex (k n : Nat) : Vector UInt8 k := ⟨(bytesOnto k n []).toArray, by simp [length_bytesOnto]⟩

lemma takeVec_append (v : Vector UInt8 k) (rest : List UInt8) :
    takeVec k (v.toList ++ rest) = v := by
  apply Vector.ext
  intro i hi
  have hlen : i < v.toList.length := by simpa using hi
  rw [takeVec, Vector.getElem_ofFn, List.getD_append _ _ _ _ hlen, List.getD_eq_getElem _ _ hlen]
  simp

lemma toList_takeVec (h : bs.length = k) :
    (takeVec k bs).toList = bs := by
  apply List.ext_getElem
  · simp [h]
  · intro i _ hi
    simp [takeVec, hi]

variable {v : Vector UInt8 k} {s : String} {c : Char}

lemma takeVec_eq_iff (h : bs.length = k) :
    takeVec k bs = v ↔ v.toList = bs := by
  constructor
  · rintro rfl
    exact toList_takeVec h
  · rintro rfl
    simpa using takeVec_append v []

lemma takeVec_toList (v : Vector UInt8 k) : takeVec k v.toList = v :=
  (takeVec_eq_iff (by simp)).mpr rfl

lemma takeVec_take_eq_iff (h : k ≤ bs.length) :
    takeVec k (bs.take k) = v ↔ v.toList <+: bs := by
  rw [takeVec_eq_iff (by simp [h]), List.prefix_iff_eq_take, Vector.length_toList]

/-! ## UTF-8 text -/

def utf8 (s : String) : List UInt8 := s.toByteArray.data.toList

lemma utf8_eq_flatMap (s : String) : utf8 s = s.toList.flatMap String.utf8EncodeChar := by
  unfold utf8
  rw [← String.utf8Encode_toList, List.utf8Encode]
  simp

lemma utf8_inj {t : String} (h : utf8 s = utf8 t) : s = t := by
  apply String.toByteArray_inj.mp
  apply ByteArray.ext
  exact Array.toList_inj.mp h

def ofUtf8 (bs : List UInt8) : Option String := String.fromUTF8? ⟨bs.toArray⟩

lemma ofUtf8_eq_some_iff : ofUtf8 bs = some s ↔ utf8 s = bs := by
  unfold ofUtf8 String.fromUTF8?
  constructor
  · intro h
    split_ifs at h with hvalid
    have hs := Option.some.inj h
    subst hs
    simp [utf8, String.fromUTF8]
  · rintro rfl
    have harr : (⟨(utf8 s).toArray⟩ : ByteArray) = s.toByteArray := by
      simp [utf8]
    rw [dif_pos (by rw [harr]; exact s.isValidUTF8), Option.some.injEq]
    apply utf8_inj
    simp [utf8, String.fromUTF8]

lemma utf8EncodeChar_of_lt (h : c.toNat < 128) :
    String.utf8EncodeChar c = [UInt8.ofNat c.toNat] := by
  unfold String.utf8EncodeChar
  exact if_pos (by unfold Char.toNat at h; omega)

lemma le_of_mem_utf8EncodeChar (h : 128 ≤ c.toNat) {b : UInt8}
    (hb : b ∈ String.utf8EncodeChar c) : 128 ≤ b.toNat := by
  have hc : ¬ c.val.toNat ≤ 127 := by unfold Char.toNat at h; omega
  unfold String.utf8EncodeChar at hb
  simp only [hc, if_false] at hb
  split_ifs at hb
  all_goals
    simp only [List.mem_cons, List.not_mem_nil, or_false] at hb
    rcases hb with rfl | rfl | rfl | rfl <;> rw [UInt8.toNat_ofNat'] <;> omega

/-! ## Cutting a concatenation -/

lemma utf8_flatMap_inj_of_lengths {ss ts : List String}
    (h : ss.flatMap utf8 = ts.flatMap utf8)
    (hl : ss.map (fun s => (utf8 s).length) = ts.map (fun s => (utf8 s).length)) : ss = ts := by
  induction ss generalizing ts with
  | nil =>
    cases ts with
    | nil => rfl
    | cons t ts => simp at hl
  | cons s ss ih =>
    cases ts with
    | nil => simp at hl
    | cons t ts =>
      simp only [List.map_cons, List.cons.injEq] at hl
      simp only [List.flatMap_cons] at h
      obtain ⟨hst, hrest⟩ := List.append_inj h hl.1
      rw [utf8_inj hst, ih hrest hl.2]

end Lib
