import AxiomCore.Lib.Json
import AxiomCore.Lib.Run

/-!
# The lexical shape of a JSON container

A byte automaton that every JSON array or object drives from `start` to `done`: brackets are
balanced, they are closed only by the last byte (blanks apart), strings are closed, and outside
strings there are only blanks, punctuation, digits, signs and the letters of the three literals.
It accepts more than JSON, so acceptance is a *necessary* condition, which is what one needs to
show that a damaged line is rejected by any JSON reader.

- `shape_render`: a rendered value leaves an open bracket exactly as deep as it was.
- `shape_second_record`: whatever stands on a line before a rendered object, if it is not blank
  then the line is not a container any more. Here the object's first field name matters: inside an
  unclosed string the object's first quote closes it, and the name then stands outside.
-/

namespace Lib

open List

/-- Where the automaton stands. `inside d` has `d + 1` brackets open; `text` and `escape` are inside
a string at that depth. -/
inductive Shape where
  | start
  | inside (depth : Nat)
  | text (depth : Nat)
  | escape (depth : Nat)
  | done
  | bad

def isBlank (b : UInt8) : Bool := b == 32 || b == 9 || b == 10 || b == 13

/-- The bytes that may stand outside strings and are not brackets or quotes: blanks, `,`, `:`,
digits, `+`, `-`, `.`, `E` and the letters of `true`, `false` and `null`. -/
def isPlain (b : UInt8) : Bool :=
  isBlank b || b == 44 || b == 58 || (48 ≤ b && b ≤ 57) ||
    [43, 45, 46, 69, 97, 101, 102, 108, 110, 114, 115, 116, 117].contains b

def Shape.close : Nat → Shape
  | 0 => .done
  | d + 1 => .inside d

def Shape.step : Shape → UInt8 → Shape
  | .start, b =>
    if isBlank b then .start else if b == 123 || b == 91 then .inside 0 else .bad
  | .inside d, b =>
    if b == 123 || b == 91 then .inside (d + 1)
    else if b == 125 || b == 93 then Shape.close d
    else if b == 34 then .text d
    else if isPlain b then .inside d
    else .bad
  | .text d, b =>
    if b == 34 then .inside d
    else if b == 92 then .escape d
    else if b < 32 then .bad
    else .text d
  | .escape d, b =>
    if [34, 92, 47, 98, 102, 110, 114, 116, 117].contains b then .text d else .bad
  | .done, b => if isBlank b then .done else .bad
  | .bad, _ => .bad

def charBytes (cs : List Char) : List UInt8 := cs.flatMap String.utf8EncodeChar

def shape (q : Shape) (cs : List Char) : Shape := run Shape.step q (charBytes cs)

variable (d : Nat) (q : Shape) (c : Char) (cs : List Char)

@[simp] lemma shape_append (ds : List Char) : shape q (cs ++ ds) = shape (shape q cs) ds := by
  simp [shape, charBytes, flatMap_append, run_append]

lemma shape_cons : shape q (c :: cs) = shape (shape q [c]) cs := by
  rw [← singleton_append, shape_append]

lemma shape_singleton {q : Shape} {c : Char} (h : c.toNat < 128) :
    shape q [c] = q.step (UInt8.ofNat c.toNat) := by
  simp [shape, charBytes, utf8EncodeChar_of_lt h]

/-! ## Strings -/

lemma run_text_of_ordinary {d : Nat} {bs : List UInt8}
    (h : ∀ b ∈ bs, 32 ≤ b.toNat ∧ b ≠ 34 ∧ b ≠ 92) : run Shape.step (.text d) bs = .text d := by
  induction bs with
  | nil => rfl
  | cons b bs ih =>
    obtain ⟨hge, hquote, hback⟩ := h b mem_cons_self
    have hstep : (Shape.text d).step b = .text d := by
      have hlt : ¬ b < 32 := by
        rw [UInt8.lt_iff_toNat_lt]
        simpa using hge
      simp [Shape.step, hquote, hback, hlt]
    rw [run_cons, hstep]
    exact ih fun b' hb' => h b' (mem_cons_of_mem _ hb')

lemma shape_text_hexDigit {v : Nat} (hv : v < 16) : shape (.text d) [hexDigit v] = .text d := by
  have key : ∀ n : Fin 16, ∀ b ∈ String.utf8EncodeChar (hexDigit n),
      32 ≤ b.toNat ∧ b ≠ 34 ∧ b ≠ 92 := by decide +kernel
  apply run_text_of_ordinary
  rw [charBytes, flatMap_singleton]
  exact key ⟨v, hv⟩

lemma shape_text_escapeChar : shape (.text d) (escapeChar c) = .text d := by
  unfold escapeChar
  split_ifs with h₁ h₂ h₃ h₄ h₅ h₆ h₇ h₈
  · rfl
  · rfl
  · rfl
  · rfl
  · rfl
  · rfl
  · rfl
  · -- a control character: behind the escape, digits
    rw [show ['\\', 'u', '0', '0', hexDigit (c.toNat / 16), hexDigit (c.toNat % 16)] =
      ['\\', 'u', '0', '0'] ++ ([hexDigit (c.toNat / 16)] ++ [hexDigit (c.toNat % 16)]) from rfl,
      shape_append, shape_append]
    have hpre : shape (.text d) ['\\', 'u', '0', '0'] = .text d := rfl
    rw [hpre, shape_text_hexDigit d (by omega), shape_text_hexDigit d (by omega)]
  · apply run_text_of_ordinary
    intro b hb
    rw [charBytes, flatMap_singleton] at hb
    by_cases hascii : c.toNat < 128
    · rw [utf8EncodeChar_of_lt hascii, mem_singleton] at hb
      subst hb
      have hne : ∀ n : Nat, n < 128 → c ≠ Char.ofNat n → UInt8.ofNat c.toNat ≠ UInt8.ofNat n := by
        intro n hn hcn heq
        apply hcn
        have := congrArg UInt8.toNat heq
        simp only [UInt8.toNat_ofNat'] at this
        rw [← Char.ofNat_toNat c]
        congr 1
        omega
      refine ⟨?_, hne 34 (by norm_num) h₁, hne 92 (by norm_num) h₂⟩
      rw [UInt8.toNat_ofNat']
      omega
    · have hge := le_of_mem_utf8EncodeChar (by omega) hb
      refine ⟨by omega, ?_, ?_⟩ <;> rintro rfl <;> simp at hge

lemma shape_renderText (s : String) : shape (.text d) (renderText s) = .inside d := by
  unfold renderText
  rw [shape_append]
  have htext : shape (.text d) (s.toList.flatMap escapeChar) = .text d := by
    induction s.toList with
    | nil => rfl
    | cons c cs ih => rw [flatMap_cons, shape_append, shape_text_escapeChar, ih]
  rw [htext]
  rfl

/-! ## Values -/

lemma shape_of_isDigit {c : Char} (h : c.isDigit = true) : shape (.inside d) [c] = .inside d := by
  have hc : 48 ≤ c.toNat ∧ c.toNat ≤ 57 := by
    simpa [Char.isDigit, UInt32.le_iff_toNat_le] using h
  have key : ∀ m : Fin 10, (Shape.inside d).step (UInt8.ofNat (48 + m.val)) = .inside d := by
    intro m
    fin_cases m <;> rfl
  have hstep := key ⟨c.toNat - 48, by omega⟩
  rw [shape_singleton (by omega)]
  rwa [show 48 + (c.toNat - 48) = c.toNat by omega] at hstep

lemma shape_digits {cs : List Char} (hall : ∀ c ∈ cs, c.isDigit = true) :
    shape (.inside d) cs = .inside d := by
  induction cs with
  | nil => rfl
  | cons c cs ih =>
    rw [shape_cons, shape_of_isDigit d (hall c mem_cons_self)]
    exact ih fun c' hc' => hall c' (mem_cons_of_mem _ hc')

mutual

lemma shape_render : (j : Json) → ∀ d, shape (.inside d) j.render = .inside d
  | .null, d => rfl
  | .bool true, d => rfl
  | .bool false, d => rfl
  | .num n, d =>
    shape_digits d fun _ hc => Nat.isDigit_of_mem_toDigits (by norm_num) (by norm_num) hc
  | .str s, d => by
    rw [Json.render, shape_cons]
    exact shape_renderText d s
  | .arr items, d => by
    rw [Json.render, shape_cons]
    exact shape_renderItems items (d + 1)
  | .obj fields, d => by
    rw [Json.render, shape_cons]
    exact shape_renderFields fields (d + 1)

lemma shape_renderItems : (js : List Json) → ∀ d, shape (.inside d) (renderItems js) = .close d
  | [], d => rfl
  | [j], d => by
    rw [renderItems, shape_append, shape_render j d]
    rfl
  | j :: k :: js, d => by
    rw [renderItems, shape_append, shape_render j d, shape_cons]
    exact shape_renderItems (k :: js) d

lemma shape_renderFields : (fs : List (String × Json)) → ∀ d,
    shape (.inside d) (renderFields fs) = .close d
  | [], d => rfl
  | [(key, j)], d => by
    rw [renderFields, shape_cons, shape_append,
      show shape (shape (.inside d) ['"']) (renderText key) = .inside d from
        shape_renderText d key,
      shape_cons, shape_append,
      show shape (shape (.inside d) [':']) j.render = .inside d from shape_render j d]
    rfl
  | (key, j) :: f :: fs, d => by
    rw [renderFields, shape_cons, shape_append,
      show shape (shape (.inside d) ['"']) (renderText key) = .inside d from
        shape_renderText d key,
      shape_cons, shape_append,
      show shape (shape (.inside d) [':']) j.render = .inside d from shape_render j d, shape_cons]
    exact shape_renderFields (f :: fs) d

end

/-! ## Records on one line -/

lemma shape_rendered_record (fs : List (String × Json)) :
    shape .start (Json.obj fs).render = .done := by
  rw [Json.render, shape_cons]
  exact shape_renderFields fs 0

lemma run_ne_start {q : Shape} (hq : q ≠ .start) (bs : List UInt8) :
    run Shape.step q bs ≠ .start := by
  refine run_invariant (I := fun q : Shape => q ≠ Shape.start) ?_ hq bs
  intro q b hq
  cases q with
  | start => exact absurd rfl hq
  | inside d =>
    simp only [Shape.step]
    split_ifs
    · exact nofun
    · cases d <;> exact nofun
    · exact nofun
    · exact nofun
    · exact nofun
  | text d =>
    simp only [Shape.step]
    split_ifs <;> exact nofun
  | escape d =>
    simp only [Shape.step]
    split_ifs <;> exact nofun
  | done =>
    simp only [Shape.step]
    split_ifs <;> exact nofun
  | bad => exact nofun

lemma shape_bad (cs : List Char) : shape .bad cs = .bad := by
  unfold shape
  induction charBytes cs with
  | nil => rfl
  | cons b bs ih => exact ih

lemma shape_second_record {q : Shape} (hq : q ≠ .start) (name : String) (j : Json)
    (fs : List (String × Json)) (hname : ∃ rest, renderText name = 's' :: 'e' :: 'q' :: rest) :
    shape q (Json.obj ((name, j) :: fs)).render ≠ .done := by
  obtain ⟨rest, hrest⟩ := hname
  have hhead : ∃ tail, (Json.obj ((name, j) :: fs)).render =
      ['\x7b', '"', 's', 'e', 'q'] ++ tail := by
    rcases fs with _ | ⟨f, fs⟩
    · exact ⟨_, by rw [Json.render, renderFields, hrest]; rfl⟩
    · exact ⟨_, by rw [Json.render, renderFields, hrest]; rfl⟩
  obtain ⟨tail, htail⟩ := hhead
  cases q with
  | start => exact absurd rfl hq
  | inside d =>
    rw [shape_render]
    exact nofun
  | text d =>
    rw [htail, shape_append, show shape (.text d) ['\x7b', '"', 's', 'e', 'q'] = .bad from rfl,
      shape_bad]
    exact nofun
  | escape d =>
    rw [htail, shape_append, show shape (.escape d) ['\x7b', '"', 's', 'e', 'q'] = .bad from rfl,
      shape_bad]
    exact nofun
  | done =>
    rw [htail, shape_append, show shape .done ['\x7b', '"', 's', 'e', 'q'] = .bad from rfl,
      shape_bad]
    exact nofun
  | bad =>
    rw [shape_bad]
    exact nofun

end Lib
