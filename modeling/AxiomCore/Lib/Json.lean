import AxiomCore.Lib.Hex

/-!
# JSON: compact rendering and reading it back

JSON values with natural numbers, rendered without blanks, as machine-written logs hold them.

- `read_render`: a rendered value, followed by anything that cannot continue a number, is read
  back, and the reader stops right behind it. So rendering is injective and self-delimiting
  (`render_inj`).
- `printable_render`: a rendered value has no control characters, so it stands on one line.

The lexical shape of rendered values is the subject of `JsonShape`.
-/

namespace Lib

open List

/-- A JSON value. Numbers are natural. -/
inductive Json where
  | null
  | bool (b : Bool)
  | num (n : Nat)
  | str (s : String)
  | arr (items : List Json)
  | obj (fields : List (String × Json))

/-! ## Rendering -/

/-- The escape of a character inside a string. -/
def escapeChar (c : Char) : List Char :=
  if c = '"' then ['\\', '"']
  else if c = '\\' then ['\\', '\\']
  else if c = Char.ofNat 8 then ['\\', 'b']
  else if c = Char.ofNat 9 then ['\\', 't']
  else if c = Char.ofNat 10 then ['\\', 'n']
  else if c = Char.ofNat 12 then ['\\', 'f']
  else if c = Char.ofNat 13 then ['\\', 'r']
  else if c.toNat < 32 then ['\\', 'u', '0', '0', hexDigit (c.toNat / 16), hexDigit (c.toNat % 16)]
  else [c]

/-- A string without its opening quote. -/
def renderText (s : String) : List Char := s.toList.flatMap escapeChar ++ ['"']

mutual

def Json.render : Json → List Char
  | .null => ['n', 'u', 'l', 'l']
  | .bool true => ['t', 'r', 'u', 'e']
  | .bool false => ['f', 'a', 'l', 's', 'e']
  | .num n => Nat.toDigits 10 n
  | .str s => '"' :: renderText s
  | .arr items => '[' :: renderItems items
  | .obj fields => '\x7b' :: renderFields fields

/-- The rest of an array behind its opening bracket. -/
def renderItems : List Json → List Char
  | [] => [']']
  | [j] => j.render ++ [']']
  | j :: k :: js => j.render ++ ',' :: renderItems (k :: js)

/-- The rest of an object behind its opening brace. -/
def renderFields : List (String × Json) → List Char
  | [] => ['\x7d']
  | [(key, j)] => '"' :: (renderText key ++ ':' :: (j.render ++ ['\x7d']))
  | (key, j) :: f :: fs =>
    '"' :: (renderText key ++ ':' :: (j.render ++ ',' :: renderFields (f :: fs)))

end

/-! ## Reading -/

/-- The character an escape letter stands for. -/
def unescape (c : Char) : Char :=
  if c = 'b' then Char.ofNat 8
  else if c = 't' then Char.ofNat 9
  else if c = 'n' then Char.ofNat 10
  else if c = 'f' then Char.ofNat 12
  else if c = 'r' then Char.ofNat 13
  else c

def hexCharVal (c : Char) : Nat := ((hexVal c.val.toUInt8).getD 0).toNat

/-- Read a string up to its closing quote. -/
def readText : List Char → Option (List Char × List Char)
  | [] => none
  | '"' :: rest => some ([], rest)
  | '\\' :: 'u' :: '0' :: '0' :: a :: b :: rest =>
    (readText rest).map fun p => (Char.ofNat (16 * hexCharVal a + hexCharVal b) :: p.1, p.2)
  | '\\' :: c :: rest => (readText rest).map fun p => (unescape c :: p.1, p.2)
  | c :: rest => (readText rest).map fun p => (c :: p.1, p.2)

mutual

/-- Read a value, with a bound on the nesting. -/
def read : Nat → List Char → Option (Json × List Char)
  | 0, _ => none
  | n + 1, cs =>
    match cs with
    | 'n' :: 'u' :: 'l' :: 'l' :: rest => some (.null, rest)
    | 't' :: 'r' :: 'u' :: 'e' :: rest => some (.bool true, rest)
    | 'f' :: 'a' :: 'l' :: 's' :: 'e' :: rest => some (.bool false, rest)
    | '"' :: rest => (readText rest).map fun p => (.str (String.ofList p.1), p.2)
    | '[' :: rest => (readItems n rest).map fun p => (.arr p.1, p.2)
    | '\x7b' :: rest => (readFields n rest).map fun p => (.obj p.1, p.2)
    | cs =>
      let digits := cs.takeWhile Char.isDigit
      if digits = [] then none
      else some (.num (Nat.ofDigitChars 10 digits 0), cs.dropWhile Char.isDigit)

def readItems : Nat → List Char → Option (List Json × List Char)
  | 0, _ => none
  | n + 1, cs =>
    match cs with
    | ']' :: rest => some ([], rest)
    | cs =>
      match read n cs with
      | some (j, ']' :: rest) => some ([j], rest)
      | some (j, ',' :: rest) => (readItems n rest).map fun p => (j :: p.1, p.2)
      | _ => none

def readFields : Nat → List Char → Option (List (String × Json) × List Char)
  | 0, _ => none
  | n + 1, cs =>
    match cs with
    | '\x7d' :: rest => some ([], rest)
    | '"' :: rest =>
      match readText rest with
      | some (key, ':' :: rest) =>
        match read n rest with
        | some (j, '\x7d' :: rest) => some ([(String.ofList key, j)], rest)
        | some (j, ',' :: rest) =>
          (readFields n rest).map fun p => ((String.ofList key, j) :: p.1, p.2)
        | _ => none
      | _ => none
    | _ => none

end

/-! ## Reading back what was rendered -/

lemma ofNat_hexCharVal : ∀ n : Fin 32,
    Char.ofNat (16 * hexCharVal (hexDigit (n / 16)) + hexCharVal (hexDigit (n % 16))) =
      Char.ofNat n := by
  decide

lemma readText_escapeChar (c : Char) (rest : List Char) :
    readText (escapeChar c ++ rest) = (readText rest).map fun p => (c :: p.1, p.2) := by
  unfold escapeChar
  split_ifs with h₁ h₂ h₃ h₄ h₅ h₆ h₇ h₈
  · subst h₁; rfl
  · subst h₂; rfl
  · subst h₃; rfl
  · subst h₄; rfl
  · subst h₅; rfl
  · subst h₆; rfl
  · subst h₇; rfl
  · have hval := ofNat_hexCharVal ⟨c.toNat, h₈⟩
    simp only [List.cons_append, List.nil_append, readText, hval, Char.ofNat_toNat]
  · rw [List.singleton_append, readText]
    · simp [h₁]
    · simp [h₂]
    · simp [h₂]

lemma readText_renderText (s : String) (rest : List Char) :
    readText (renderText s ++ rest) = some (s.toList, rest) := by
  unfold renderText
  induction s.toList with
  | nil => rfl
  | cons c cs ih =>
    rw [List.flatMap_cons, List.append_assoc, List.append_assoc, readText_escapeChar,
      ← List.append_assoc, ih]
    rfl

def Delimited (s : List Char) : Prop := ∀ c ∈ s.head?, c.isDigit = false

variable {s cs : List Char}

lemma takeWhile_digits {n : Nat} (hs : Delimited s) :
    (Nat.toDigits 10 n ++ s).takeWhile Char.isDigit = Nat.toDigits 10 n ∧
      (Nat.toDigits 10 n ++ s).dropWhile Char.isDigit = s := by
  have hall : ∀ c ∈ Nat.toDigits 10 n, c.isDigit = true :=
    fun c hc => Nat.isDigit_of_mem_toDigits (by norm_num) (by norm_num) hc
  have hstop : s.takeWhile Char.isDigit = [] ∧ s.dropWhile Char.isDigit = s := by
    cases s with
    | nil => simp
    | cons c s => simp [hs c (by simp)]
  constructor
  · rw [List.takeWhile_append_of_pos hall, hstop.1, List.append_nil]
  · rw [List.dropWhile_append_of_pos hall, hstop.2]

lemma read_number (k n : Nat) (hs : Delimited s) :
    read (k + 1) (Nat.toDigits 10 n ++ s) = some (.num n, s) := by
  obtain ⟨htake, hdrop⟩ := takeWhile_digits (n := n) hs
  rcases hdig : Nat.toDigits 10 n with _ | ⟨c, cs⟩
  · exact absurd hdig Nat.toDigits_ne_nil
  have hc : c.isDigit = true :=
    Nat.isDigit_of_mem_toDigits (by norm_num) (by norm_num) (hdig ▸ List.mem_cons_self)
  have hne : ∀ d : Char, d.isDigit = false → c ≠ d := by
    rintro d hd rfl
    rw [hc] at hd
    cases hd
  rw [hdig] at htake hdrop
  rw [List.cons_append] at htake hdrop ⊢
  rw [read]
  · rw [htake, hdrop, ← hdig]
    simp [Nat.toDigits_ne_nil, Nat.ofDigitChars_ten_toDigits]
  · simp [hne 'n' (by decide)]
  · simp [hne 't' (by decide)]
  · simp [hne 'f' (by decide)]
  · simp [hne '"' (by decide)]
  · simp [hne '[' (by decide)]
  · simp [hne '\x7b' (by decide)]

lemma render_ne_nil_head (j : Json) : ∃ c rest, j.render = c :: rest ∧ c ≠ ']' := by
  rcases j with _ | (_ | _) | n | s | items | fields
  · exact ⟨_, _, rfl, by decide⟩
  · exact ⟨_, _, rfl, by decide⟩
  · exact ⟨_, _, rfl, by decide⟩
  · rcases hdig : Nat.toDigits 10 n with _ | ⟨c, cs⟩
    · exact absurd hdig Nat.toDigits_ne_nil
    refine ⟨c, cs, hdig, ?_⟩
    rintro rfl
    have hbad := Nat.isDigit_of_mem_toDigits (b := 10) (n := n) (by norm_num) (by norm_num)
      (hdig ▸ mem_cons_self)
    exact absurd hbad (by decide)
  · exact ⟨_, _, rfl, by decide⟩
  · exact ⟨_, _, rfl, by decide⟩
  · exact ⟨_, _, rfl, by decide⟩

lemma readItems_succ (j : Json) (n : Nat) (s : List Char) :
    readItems (n + 1) (j.render ++ s) =
      match read n (j.render ++ s) with
      | some (j, ']' :: rest) => some ([j], rest)
      | some (j, ',' :: rest) => (readItems n rest).map fun p => (j :: p.1, p.2)
      | _ => none := by
  obtain ⟨c, rest, hc, hne⟩ := render_ne_nil_head j
  rw [readItems]
  rw [hc]
  simp [hne]

mutual

lemma read_render : (j : Json) → ∀ {n : Nat} {s : List Char}, j.render.length ≤ n →
    Delimited s → read n (j.render ++ s) = some (j, s)
  | .null, n + 1, s, _, _ => rfl
  | .bool true, n + 1, s, _, _ => rfl
  | .bool false, n + 1, s, _, _ => rfl
  | .num k, n + 1, s, _, hs => read_number n k hs
  | .str t, n + 1, s, _, _ => by
    simp only [Json.render, cons_append, read, readText_renderText, Option.map_some,
      String.ofList_toList]
  | .arr items, n + 1, s, hn, _ => by
    simp only [Json.render, length_cons] at hn
    simp only [Json.render, cons_append, read, readItems_render items (by omega : _ ≤ n),
      Option.map_some]
  | .obj fields, n + 1, s, hn, _ => by
    simp only [Json.render, length_cons] at hn
    simp only [Json.render, cons_append, read, readFields_render fields (by omega : _ ≤ n),
      Option.map_some]
  | .null, 0, _, hn, _ => by simp [Json.render] at hn
  | .bool true, 0, _, hn, _ => by simp [Json.render] at hn
  | .bool false, 0, _, hn, _ => by simp [Json.render] at hn
  | .num k, 0, _, hn, _ => by simp [Json.render, Nat.toDigits_ne_nil] at hn
  | .str t, 0, _, hn, _ => by simp [Json.render] at hn
  | .arr items, 0, _, hn, _ => by simp [Json.render] at hn
  | .obj fields, 0, _, hn, _ => by simp [Json.render] at hn

lemma readItems_render : (js : List Json) → ∀ {n : Nat} {s : List Char},
    (renderItems js).length ≤ n → readItems n (renderItems js ++ s) = some (js, s)
  | [], n + 1, s, _ => rfl
  | [j], n + 1, s, hn => by
    simp only [renderItems, length_append, length_singleton] at hn
    have hj := read_render j (n := n) (s := ']' :: s) (by omega) (by simp [Delimited])
    rw [renderItems, append_assoc, readItems_succ, singleton_append, hj]
    rfl
  | j :: k :: js, n + 1, s, hn => by
    simp only [renderItems, length_append, length_cons] at hn
    have hj := read_render j (n := n) (s := ',' :: (renderItems (k :: js) ++ s)) (by omega)
      (by simp [Delimited])
    have hrest := readItems_render (k :: js) (n := n) (s := s) (by omega)
    rw [renderItems, append_assoc, readItems_succ, cons_append, hj]
    simp only [hrest, Option.map_some]
  | [], 0, _, hn => by simp [renderItems] at hn
  | [_], 0, _, hn => by simp [renderItems] at hn
  | _ :: _ :: _, 0, _, hn => by simp [renderItems] at hn

lemma readFields_render : (fs : List (String × Json)) → ∀ {n : Nat} {s : List Char},
    (renderFields fs).length ≤ n → readFields n (renderFields fs ++ s) = some (fs, s)
  | [], n + 1, s, _ => rfl
  | [(key, j)], n + 1, s, hn => by
    simp only [renderFields, length_append, length_cons] at hn
    have hj := read_render j (n := n) (s := '\x7d' :: s) (by omega) (by simp [Delimited])
    simp only [renderFields, cons_append, append_assoc, nil_append, readFields,
      readText_renderText, hj, String.ofList_toList]
  | (key, j) :: f :: fs, n + 1, s, hn => by
    simp only [renderFields, length_append, length_cons] at hn
    have hj := read_render j (n := n) (s := ',' :: (renderFields (f :: fs) ++ s)) (by omega)
      (by simp [Delimited])
    have hrest := readFields_render (f :: fs) (n := n) (s := s) (by omega)
    simp only [renderFields, cons_append, append_assoc, readFields,
      readText_renderText, hj, hrest, Option.map_some, String.ofList_toList]
  | [], 0, _, hn => by simp [renderFields] at hn
  | [(_, _)], 0, _, hn => by simp [renderFields] at hn
  | (_, _) :: _ :: _, 0, _, hn => by simp [renderFields] at hn

end

lemma render_inj {j k : Json} (h : j.render = k.render) : j = k := by
  have hj := read_render j (s := []) (le_refl _) (by simp [Delimited])
  have hk := read_render k (s := []) (le_refl _) (by simp [Delimited])
  rw [h, hk] at hj
  exact (Prod.mk.inj (Option.some.inj hj)).1.symm

/-! ## Rendered values stand on one line -/

def Printable (cs : List Char) : Prop := ∀ c ∈ cs, 32 ≤ c.toNat

@[simp] lemma printable_nil : Printable [] := fun _ h => absurd h not_mem_nil

@[simp] lemma printable_cons {c : Char} :
    Printable (c :: cs) ↔ 32 ≤ c.toNat ∧ Printable cs := forall_mem_cons

@[simp] lemma printable_append {ds : List Char} :
    Printable (cs ++ ds) ↔ Printable cs ∧ Printable ds := forall_mem_append

lemma printable_escapeChar (c : Char) : Printable (escapeChar c) := by
  unfold escapeChar
  split_ifs with h₁ h₂ h₃ h₄ h₅ h₆ h₇ h₈
  · simp
  · simp
  · simp
  · simp
  · simp
  · simp
  · simp
  · have hdigit : ∀ n : Fin 16, 32 ≤ (hexDigit n).toNat := by decide
    have hhigh := hdigit ⟨c.toNat / 16, by omega⟩
    have hlow := hdigit ⟨c.toNat % 16, by omega⟩
    simpa using ⟨hhigh, hlow⟩
  · simpa using h₈

lemma printable_renderText (s : String) : Printable (renderText s) := by
  unfold renderText
  rw [printable_append]
  constructor
  · intro c hc
    obtain ⟨d, -, hd⟩ := mem_flatMap.mp hc
    exact printable_escapeChar d c hd
  · simp

lemma printable_toDigits (n : Nat) : Printable (Nat.toDigits 10 n) := by
  intro c hc
  have hdigit := Nat.isDigit_of_mem_toDigits (by norm_num) (by norm_num) hc
  have hrange : 48 ≤ c.toNat ∧ c.toNat ≤ 57 := by
    simpa [Char.isDigit, UInt32.le_iff_toNat_le] using hdigit
  omega

mutual

lemma printable_render : (j : Json) → Printable j.render
  | .null => by simp [Json.render]
  | .bool true => by simp [Json.render]
  | .bool false => by simp [Json.render]
  | .num n => printable_toDigits n
  | .str s => by simpa [Json.render] using printable_renderText s
  | .arr items => by simpa [Json.render] using printable_renderItems items
  | .obj fields => by simpa [Json.render] using printable_renderFields fields

lemma printable_renderItems : (js : List Json) → Printable (renderItems js)
  | [] => by simp [renderItems]
  | [j] => by simpa [renderItems] using printable_render j
  | j :: k :: js => by
    simpa [renderItems] using ⟨printable_render j, printable_renderItems (k :: js)⟩

lemma printable_renderFields : (fs : List (String × Json)) → Printable (renderFields fs)
  | [] => by simp [renderFields]
  | [(key, j)] => by
    simpa [renderFields] using ⟨printable_renderText key, printable_render j⟩
  | (key, j) :: f :: fs => by
    simpa [renderFields] using
      ⟨printable_renderText key, printable_render j, printable_renderFields (f :: fs)⟩

end

end Lib
