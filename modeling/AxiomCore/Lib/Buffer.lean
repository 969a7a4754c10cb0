import Mathlib

/-!
# Byte buffers with checked access

Reading a slice or an element outside a buffer is a fault of its own, apart from the errors a
program returns, so "never reads out of bounds" can be said: the result is not that fault
(`InBounds`).

- Reading: `slice`, `elementAt`. What was read is said by "is a prefix of the buffer from here on";
  `append_prefix_drop` puts consecutive fields together. `readBytes`, `readByte` and `require` are
  for readers that go on from where they are.
- Writing: a `Cursor` is a buffer and a position. `Writes w bs`: the writer `w` puts exactly `bs`
  at the cursor and moves behind it. Writers compose (`Writes.seq`).
-/

namespace Lib

/-- How a computation on buffers fails. -/
inductive Fault (ε : Type) where
  /-- An index or a range is not inside the buffer. -/
  | outOfBounds
  /-- The program returns an error. -/
  | error (e : ε)
  deriving DecidableEq

/-- The result of a computation on buffers. -/
abbrev Checked (ε α : Type) := Except (Fault ε) α

variable {ε α β : Type}

@[simp] lemma ok_bind (a : α) (f : α → Checked ε β) : (.ok a >>= f) = f a := rfl

variable {x : Checked ε α} {buffer : List α} {i : Nat} {w : Cursor → Checked ε Cursor}
  {bs : List UInt8}

variable {f : α → Checked ε β}

lemma bind_eq_ok {b : β} :
    (x >>= f) = .ok b ↔ ∃ a, x = .ok a ∧ f a = .ok b := by
  cases x with
  | error e => simp [bind, Except.bind]
  | ok a => simp [bind, Except.bind]

/-- No access was out of bounds. -/
def InBounds (x : Checked ε α) : Prop := x ≠ .error .outOfBounds

lemma inBounds_ok (a : α) : InBounds (.ok a : Checked ε α) := nofun

lemma inBounds_error (e : ε) : InBounds (.error (.error e) : Checked ε α) := nofun

lemma InBounds.bind (hx : InBounds x)
    (hf : ∀ a, InBounds (f a)) : InBounds (x >>= f) := by
  cases x with
  | error e =>
    intro h
    apply hx
    rw [Except.error.inj h]
  | ok a => exact hf a

lemma InBounds.ite {p : Prop} [Decidable p] {y : Checked ε α} (hx : p → InBounds x)
    (hy : ¬ p → InBounds y) : InBounds (if p then x else y) := by
  split_ifs with h
  · exact hx h
  · exact hy h

/-! ## Reading -/

def slice (buffer : List α) (i j : Nat) : Checked ε (List α) :=
  if i ≤ j ∧ j ≤ buffer.length then .ok ((buffer.drop i).take (j - i)) else .error .outOfBounds

def elementAt (buffer : List α) (i : Nat) : Checked ε α :=
  if h : i < buffer.length then .ok buffer[i] else .error .outOfBounds

lemma slice_of_le {j : Nat} (hij : i ≤ j) (hj : j ≤ buffer.length) :
    (slice buffer i j : Checked ε (List α)) = .ok ((buffer.drop i).take (j - i)) :=
  if_pos ⟨hij, hj⟩

lemma slice_add {n : Nat} (h : i + n ≤ buffer.length) :
    (slice buffer i (i + n) : Checked ε (List α)) = .ok ((buffer.drop i).take n) := by
  rw [slice_of_le (Nat.le_add_right i n) h, Nat.add_sub_cancel_left]

lemma elementAt_of_lt (h : i < buffer.length) :
    (elementAt buffer i : Checked ε α) = .ok buffer[i] :=
  dif_pos h

lemma append_prefix_drop {xs ys : List α} :
    xs ++ ys <+: buffer.drop i ↔ xs <+: buffer.drop i ∧ ys <+: buffer.drop (i + xs.length) := by
  rw [← List.drop_drop]
  constructor
  · rintro ⟨rest, hrest⟩
    rw [← hrest, List.append_assoc]
    exact ⟨List.prefix_append .., by simp⟩
  · rintro ⟨⟨rest, hrest⟩, hys⟩
    rw [← hrest] at hys ⊢
    rw [List.drop_left] at hys
    exact (List.prefix_append_right_inj xs).mpr hys

lemma singleton_prefix_drop_iff {x : α} (h : i < buffer.length) :
    [x] <+: buffer.drop i ↔ buffer[i] = x := by
  rw [List.drop_eq_getElem_cons h, List.singleton_prefix_cons_iff, eq_comm]

/-! ## Reading from the front -/

section Front

variable {n : Nat} {rest : List UInt8}

/-- `data[offset..offset + n]`, with what is behind it. -/
def readBytes (n : Nat) (rest : List UInt8) : Checked ε (List UInt8 × List UInt8) :=
  if n ≤ rest.length then .ok (rest.take n, rest.drop n) else .error .outOfBounds

/-- `data[offset]`, with what is behind it. -/
def readByte : List UInt8 → Checked ε (UInt8 × List UInt8)
  | [] => .error .outOfBounds
  | b :: rest => .ok (b, rest)

/-- `if offset + n > data.len()`, an error is returned. -/
def require (e : ε) (n : Nat) (rest : List UInt8) : Checked ε Unit :=
  if rest.length < n then .error (.error e) else .ok ()

lemma readBytes_of_le (h : n ≤ rest.length) :
    (readBytes n rest : Checked ε _) = .ok (rest.take n, rest.drop n) :=
  if_pos h

lemma require_of_le {e : ε} (h : n ≤ rest.length) : require e n rest = .ok () :=
  if_neg (Nat.not_lt.mpr h)

variable {e : ε} (f : List UInt8 × List UInt8 → Checked ε α)

lemma readBytes_append (h : bs.length = n) : (readBytes n (bs ++ rest) >>= f) = f (bs, rest) := by
  subst h
  rw [readBytes_of_le (by simp), List.take_left, List.drop_left]
  rfl

lemma require_append (h : bs.length = n) : require e n (bs ++ rest) = .ok () :=
  require_of_le (by simp [h])

lemma readBytes_drop {data : List UInt8} {k : Nat} (h : k + n ≤ data.length) :
    (readBytes n (data.drop k) >>= f) = f ((data.drop k).take n, data.drop (k + n)) := by
  rw [readBytes_of_le (by rw [List.length_drop]; omega), List.drop_drop]
  rfl

variable {f} in
lemma InBounds.guarded
    (hf : n ≤ rest.length → InBounds (f (rest.take n, rest.drop n))) :
    InBounds (require e n rest >>= fun _ => readBytes n rest >>= f) := by
  by_cases h : n ≤ rest.length
  · rw [require_of_le h, ok_bind, readBytes_of_le h, ok_bind]
    exact hf h
  · rw [require, if_pos (Nat.lt_of_not_le h)]
    exact inBounds_error e

end Front

/-! ## Writing -/

structure Cursor where
  offset : Nat
  buffer : List UInt8

namespace Cursor

/-- The length of `buffer[offset..]`. -/
def room (c : Cursor) : Nat := c.buffer.length - c.offset

/-- Hand `buffer[offset..]` to a writer. -/
def onTail (w : Cursor → Checked ε Cursor) (c : Cursor) : Checked ε Cursor :=
  if c.offset ≤ c.buffer.length then w c else .error .outOfBounds

/-- `buffer[offset..offset + bs.len()].copy_from_slice(bs); offset += bs.len()`. -/
def put (bs : List UInt8) (c : Cursor) : Checked ε Cursor :=
  if c.offset + bs.length ≤ c.buffer.length then
    .ok ⟨c.offset + bs.length,
      c.buffer.take c.offset ++ bs ++ c.buffer.drop (c.offset + bs.length)⟩
  else .error .outOfBounds

end Cursor

/-- The writer puts exactly these bytes at the cursor and moves behind them. -/
def Writes (w : Cursor → Checked ε Cursor) (bs : List UInt8) : Prop :=
  ∀ done rest : List UInt8, bs.length ≤ rest.length →
    w ⟨done.length, done ++ rest⟩ = .ok ⟨(done ++ bs).length, done ++ bs ++ rest.drop bs.length⟩

lemma writes_put (bs : List UInt8) : Writes (Cursor.put bs : Cursor → Checked ε Cursor) bs := by
  intro done rest hroom
  have hfits : done.length + bs.length ≤ done.length + rest.length := by omega
  simp only [Cursor.put, List.take_left, List.length_append, if_pos hfits]
  rw [← List.drop_drop, List.drop_left]

lemma writes_nil : Writes (.ok : Cursor → Checked ε Cursor) [] := by
  intro done rest _
  simp

lemma Writes.ofRoom (h : Writes w bs)
    (e : Nat → ε) :
    Writes (fun c => if c.room < bs.length then .error (.error (e c.room)) else w c) bs := by
  intro done rest hroom
  have henough : ¬ (⟨done.length, done ++ rest⟩ : Cursor).room < bs.length := by
    simp only [Cursor.room, List.length_append]
    omega
  simp only [if_neg henough]
  exact h done rest hroom

lemma Writes.onTail (h : Writes w bs) :
    Writes (Cursor.onTail w) bs := by
  intro done rest hroom
  rw [Cursor.onTail, if_pos (by simp), h done rest hroom]

lemma Writes.seq {w' : Cursor → Checked ε Cursor} {bs' : List UInt8} (h : Writes w bs)
    (h' : Writes w' bs') : Writes (fun c => w c >>= w') (bs ++ bs') := by
  intro done rest hroom
  have hlen : (bs ++ bs').length = bs.length + bs'.length := List.length_append
  rw [hlen] at hroom ⊢
  have hnext := h' (done ++ bs) (rest.drop bs.length) (by rw [List.length_drop]; omega)
  simp only [h done rest (by omega)]
  rw [← List.append_assoc, ← List.drop_drop]
  exact hnext

end Lib
