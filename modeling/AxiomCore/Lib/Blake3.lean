import AxiomCore.Lib.Bytes

/-!
# BLAKE3 of short inputs

The hash function and its keyed mode on inputs of one chunk, which is 1024 bytes. Words are numbers
below `2 ^ 32`. Nothing is proved about it: it is there so that samples can compute with the real
function, where a development otherwise takes the hash function as a parameter.
-/

namespace Lib

namespace Blake3

def iv : List Nat :=
  [0x6A09E667, 0xBB67AE85, 0x3C6EF372, 0xA54FF53A, 0x510E527F, 0x9B05688C, 0x1F83D9AB, 0x5BE0CD19]

def add (a b : Nat) : Nat := (a + b) % 2 ^ 32

/-- Exclusive or of words, rotated right. -/
def xorRotr (n a b : Nat) : Nat := ((a ^^^ b) >>> n) ||| (((a ^^^ b) <<< (32 - n)) % 2 ^ 32)

/-- A column or a diagonal of the state. -/
structure Quad where
  a : Nat
  b : Nat
  c : Nat
  d : Nat

def quarter (q : Quad) (x y : Nat) : Quad :=
  let a := add (add q.a q.b) x
  let d := xorRotr 16 q.d a
  let c := add q.c d
  let b := xorRotr 12 q.b c
  let a := add (add a b) y
  let d := xorRotr 8 d a
  let c := add c d
  ⟨a, xorRotr 7 b c, c, d⟩

structure State where
  p : Quad
  q : Quad
  r : Quad
  s : Quad

def round (v : State) (m : Nat → Nat) : State :=
  let p := quarter v.p (m 0) (m 1)
  let q := quarter v.q (m 2) (m 3)
  let r := quarter v.r (m 4) (m 5)
  let s := quarter v.s (m 6) (m 7)
  let p' := quarter ⟨p.a, q.b, r.c, s.d⟩ (m 8) (m 9)
  let q' := quarter ⟨q.a, r.b, s.c, p.d⟩ (m 10) (m 11)
  let r' := quarter ⟨r.a, s.b, p.c, q.d⟩ (m 12) (m 13)
  let s' := quarter ⟨s.a, p.b, q.c, r.d⟩ (m 14) (m 15)
  ⟨⟨p'.a, s'.b, r'.c, q'.d⟩, ⟨q'.a, p'.b, s'.c, r'.d⟩, ⟨r'.a, q'.b, p'.c, s'.d⟩,
    ⟨s'.a, r'.b, q'.c, p'.d⟩⟩

/-- How the message is permuted between rounds. -/
def permutation : List Nat := [2, 6, 3, 10, 7, 0, 4, 13, 1, 11, 12, 5, 9, 14, 15, 8]

def rounds : Nat → List Nat → State → State
  | 0, _, v => v
  | n + 1, m, v => rounds n (permutation.map fun i => m.getD i 0) (round v fun i => m.getD i 0)

/-- The compression function in the first chunk. -/
def compress (chaining message : List Nat) (length flags : Nat) : List Nat :=
  let w := fun i => chaining.getD i 0
  let v := rounds 7 message
    ⟨⟨w 0, w 4, 0x6A09E667, 0⟩, ⟨w 1, w 5, 0xBB67AE85, 0⟩, ⟨w 2, w 6, 0x3C6EF372, length⟩,
      ⟨w 3, w 7, 0xA54FF53A, flags⟩⟩
  [v.p.a ^^^ v.p.c, v.q.a ^^^ v.q.c, v.r.a ^^^ v.r.c, v.s.a ^^^ v.s.c,
    v.p.b ^^^ v.p.d, v.q.b ^^^ v.q.d, v.r.b ^^^ v.r.d, v.s.b ^^^ v.s.d]

def words (count : Nat) (bytes : List UInt8) : List Nat :=
  (List.range count).map fun i => leNat ((bytes.drop (4 * i)).take 4)

/-- The blocks of a chunk, which are `count` or fewer. -/
def chunk (flags : Nat) : (count : Nat) → (start : Nat) → List Nat → List UInt8 → List Nat
  | 0, _, chaining, _ => chaining
  | count + 1, start, chaining, data =>
    let block := data.take 64
    if data.length ≤ 64 then compress chaining (words 16 block) block.length (flags + start + 10)
    else chunk flags count 0 (compress chaining (words 16 block) 64 (flags + start)) (data.drop 64)

def output (chaining : List Nat) : Vector UInt8 32 := takeVec 32 (chaining.flatMap (leBytes 4))

/-- BLAKE3 of at most 1024 bytes. -/
def hash (data : List UInt8) : Vector UInt8 32 := output (chunk 0 16 1 iv data)

/-- BLAKE3 of at most 1024 bytes under a key. -/
def keyedHash (key : Vector UInt8 32) (data : List UInt8) : Vector UInt8 32 :=
  output (chunk 16 16 1 (words 8 key.toList) data)

example : (hash []).toList.take 4 = [0xaf, 0x13, 0x49, 0xb9] := by decide +kernel

end Blake3

end Lib
