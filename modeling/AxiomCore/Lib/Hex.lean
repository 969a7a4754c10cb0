import AxiomCore.Lib.Bytes

/-!
# Hexadecimal text

Lower-case hexadecimal writing and case-insensitive reading of byte strings.

- `hexDecode_hexEncode`: what is written is read back.
-/

namespace Lib

open List

/-- The lower-case digit of a value below 16. -/
def hexDigit (n : Nat) : Char := if n < 10 then Char.ofNat (48 + n) else Char.ofNat (87 + n)

/-- The value of a hexadecimal digit of either case, given as an ASCII byte. -/
def hexVal (b : UInt8) : Option UInt8 :=
  if 48 ≤ b ∧ b ≤ 57 then some (b - 48)
  else if 97 ≤ b ∧ b ≤ 102 then some (b - 97 + 10)
  else if 65 ≤ b ∧ b ≤ 70 then some (b - 65 + 10)
  else none

def hexPair (b : UInt8) : List Char := [hexDigit (b.toNat / 16), hexDigit (b.toNat % 16)]

def hexEncode (bs : List UInt8) : String := String.ofList (bs.flatMap hexPair)

def hexDecodeBytes : List UInt8 → Option (List UInt8)
  | [] => some []
  | [_] => none
  | a :: b :: rest => do
    let hi ← hexVal a
    let lo ← hexVal b
    let tail ← hexDecodeBytes rest
    some (((hi <<< 4) ||| lo) :: tail)

def hexDecode (s : String) : Option (List UInt8) := hexDecodeBytes (utf8 s)

def asciiLower (b : UInt8) : UInt8 := if 65 ≤ b ∧ b ≤ 90 then b + 32 else b

/-! ## Writing, then reading -/

lemma hexVal_hexDigit : ∀ n : Fin 16,
    String.utf8EncodeChar (hexDigit n) = [(hexDigit n).val.toUInt8] ∧
      hexVal (hexDigit n).val.toUInt8 = some (UInt8.ofNat n) := by
  decide

lemma hexVal_hexDigit_toUpper : ∀ n : Fin 16,
    String.utf8EncodeChar (hexDigit n).toUpper = [(hexDigit n).toUpper.val.toUInt8] ∧
      hexVal (hexDigit n).toUpper.val.toUInt8 = some (UInt8.ofNat n) := by
  decide

lemma byte_of_halves (b : UInt8) :
    (UInt8.ofNat (b.toNat / 16) <<< 4) ||| UInt8.ofNat (b.toNat % 16) = b := by
  have key : ∀ n : Fin 256, ((UInt8.ofNat (n.val / 16) <<< 4) ||| UInt8.ofNat (n.val % 16)).toNat =
      n.val := by decide +kernel
  exact UInt8.toNat_inj.mp (key ⟨b.toNat, b.toNat_lt⟩)

lemma hexDecodeBytes_hexPair (b : UInt8) (rest : List UInt8) :
    hexDecodeBytes ((hexPair b).flatMap String.utf8EncodeChar ++ rest) =
      (hexDecodeBytes rest).map (b :: ·) := by
  have hlt := b.toNat_lt
  obtain ⟨hhi, hhi'⟩ := hexVal_hexDigit ⟨b.toNat / 16, by omega⟩
  obtain ⟨hlo, hlo'⟩ := hexVal_hexDigit ⟨b.toNat % 16, by omega⟩
  simp only at hhi hhi' hlo hlo'
  simp only [hexPair, flatMap_cons, flatMap_nil, hhi, hlo, append_nil,
    cons_append, nil_append, hexDecodeBytes, hhi', hlo', Option.bind_eq_bind,
    Option.bind_some, byte_of_halves]
  cases hexDecodeBytes rest <;> rfl

lemma hexDecode_hexEncode (bs : List UInt8) : hexDecode (hexEncode bs) = some bs := by
  unfold hexDecode hexEncode
  rw [utf8_eq_flatMap, String.toList_ofList]
  induction bs with
  | nil => rfl
  | cons b bs ih =>
    rw [flatMap_cons, flatMap_append, hexDecodeBytes_hexPair, ih]
    rfl

/-! ## Reading determines the text up to case -/

lemma asciiLower_of_hexVal {b v : UInt8} (h : hexVal b = some v) :
    v.toNat < 16 ∧ asciiLower b = (hexDigit v.toNat).val.toUInt8 := by
  have key : ∀ n : Fin 256, (hexVal (UInt8.ofNat n)).all (fun v =>
      v.toNat < 16 ∧ asciiLower (UInt8.ofNat n) = (hexDigit v.toNat).val.toUInt8) = true := by
    decide +kernel
  have hb := key ⟨b.toNat, b.toNat_lt⟩
  simp only [UInt8.ofNat_toNat, h, Option.all_some, decide_eq_true_eq] at hb
  exact hb

lemma toNat_of_halves {hi lo : UInt8} (hhi : hi.toNat < 16) (hlo : lo.toNat < 16) :
    ((hi <<< 4) ||| lo).toNat = 16 * hi.toNat + lo.toNat := by
  have key : ∀ m n : Fin 16,
      ((UInt8.ofNat m <<< 4) ||| UInt8.ofNat n).toNat = 16 * m.val + n.val := by
    decide +kernel
  simpa using key ⟨hi.toNat, hhi⟩ ⟨lo.toNat, hlo⟩

lemma hexDecodeBytes_eq_lower : ∀ {s t bs : List UInt8}, hexDecodeBytes s = some bs →
    hexDecodeBytes t = some bs → s.map asciiLower = t.map asciiLower
  | [], [], _, _, _ => rfl
  | [], [_], _, _, ht => by simp [hexDecodeBytes] at ht
  | [_], _, _, hs, _ => by simp [hexDecodeBytes] at hs
  | _ :: _ :: _, [_], _, _, ht => by simp [hexDecodeBytes] at ht
  | [], _ :: _ :: _, bs, hs, ht => by
    simp only [hexDecodeBytes, Option.some.injEq, Option.bind_eq_bind,
      Option.bind_eq_some_iff] at hs ht
    obtain ⟨_, -, _, -, _, -, rfl⟩ := ht
    cases hs
  | _ :: _ :: _, [], bs, hs, ht => by
    simp only [hexDecodeBytes, Option.some.injEq, Option.bind_eq_bind,
      Option.bind_eq_some_iff] at hs ht
    obtain ⟨_, -, _, -, _, -, rfl⟩ := hs
    cases ht
  | a :: b :: s, c :: d :: t, bs, hs, ht => by
    simp only [hexDecodeBytes, Option.bind_eq_bind, Option.bind_eq_some_iff,
      Option.some.injEq] at hs ht
    obtain ⟨hi, ha, lo, hb, u, hs, rfl⟩ := hs
    obtain ⟨hi', hc, lo', hd, u', ht, heq⟩ := ht
    obtain ⟨hbyte, rfl⟩ := List.cons.inj heq
    obtain ⟨hilt, ha'⟩ := asciiLower_of_hexVal ha
    obtain ⟨lolt, hb'⟩ := asciiLower_of_hexVal hb
    obtain ⟨hilt', hc'⟩ := asciiLower_of_hexVal hc
    obtain ⟨lolt', hd'⟩ := asciiLower_of_hexVal hd
    have hnat := congrArg UInt8.toNat hbyte
    rw [toNat_of_halves hilt' lolt', toNat_of_halves hilt lolt] at hnat
    have hhi : hi.toNat = hi'.toNat := by omega
    have hlo : lo.toNat = lo'.toNat := by omega
    simp only [map_cons]
    rw [ha', hb', hc', hd', hhi, hlo, hexDecodeBytes_eq_lower hs ht]

end Lib
