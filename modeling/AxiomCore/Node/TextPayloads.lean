import AxiomCore.Gateway.Sanitize
import AxiomCore.Lib.Bytes
import AxiomCore.Lib.Text

/-!
# Capabilities with a text for payload

`notify_send` passes the payload on as a message, `home_assistant_toggle` reads an action and the
name of an entity from it. `String::from_utf8_lossy` is a parameter.

Source: `forge-node/src/network.rs`.
-/

namespace AxiomCore

open Lib List

variable {fromUtf8Lossy : List UInt8 → List Char} {payload : List UInt8}

/-! ## `notify_send` -/

def truncationSuffix : List Char := " [truncated]".toList

def prepareNotifyMessage (fromUtf8Lossy : List UInt8 → List Char) (payload : List UInt8) :
    Except String (List Char) :=
  let raw := fromUtf8Lossy payload
  if trim raw = [] then .error "notify_send: payload is empty"
  else
    let sanitized := sanitizeStr raw
    .ok (if sanitized.truncated then sanitized.value ++ truncationSuffix else sanitized.value)

/-- Outside escape sequences there is a character that is not removed. -/
def ShowsSomething (raw : List Char) : Prop := ∃ c ∈ (stripAnsiEscapes raw).1, isRemoved c = false

/-- What is left of a text that is not too long ends like one that was cut. -/
def ForgesSuffix (raw : List Char) : Prop :=
  (cleaned raw).length ≤ maxUntrustedStringChars ∧ truncationSuffix <:+ cleaned raw

lemma showsSomething_iff {raw : List Char} : ShowsSomething raw ↔ cleaned raw ≠ [] := by
  unfold ShowsSomething cleaned
  simp [filter_eq_nil_iff]

lemma truncationSuffix_clean : ∀ c ∈ truncationSuffix, Clean c := by
  have hnone : truncationSuffix.any isRemoved = false := by decide +kernel
  intro c hc
  rw [← isRemoved_eq_false_iff, ← Bool.not_eq_true]
  exact any_eq_false.mp hnone c hc

/-- **The message that is sent.** It is not empty, without control and escape characters, of at
most 256 characters and the suffix, and has the suffix if and only if it was cut: exactly if the
payload shows something and does not itself end in the suffix. -/
theorem notify_message_iff (fromUtf8Lossy : List UInt8 → List Char) (payload : List UInt8) :
    (∀ m, prepareNotifyMessage fromUtf8Lossy payload = .ok m →
      m ≠ [] ∧ (∀ c ∈ m, c ≠ esc ∧ Clean c) ∧ m.length ≤ 256 + truncationSuffix.length ∧
        (truncationSuffix <:+ m ↔ (sanitizeStr (fromUtf8Lossy payload)).truncated = true)) ↔
      (trim (fromUtf8Lossy payload) ≠ [] →
        ShowsSomething (fromUtf8Lossy payload) ∧ ¬ ForgesSuffix (fromUtf8Lossy payload)) := by
  unfold prepareNotifyMessage
  generalize fromUtf8Lossy payload = raw
  dsimp only
  split_ifs with htrim htruncated
  · simp [htrim]
  · have hlong := truncated_iff.mp htruncated
    refine iff_of_true ?_ fun _ => ⟨?_, fun h => absurd hlong (Nat.not_lt.mpr h.1)⟩
    · rintro m ⟨⟩
      refine ⟨append_ne_nil_of_right_ne_nil _ (by decide), fun c hc => ?_, ?_,
        iff_of_true (suffix_append _ _) htruncated⟩
      · rcases mem_append.mp hc with hc | hc
        · exact value_clean c hc
        · exact clean_ne_esc (truncationSuffix_clean c hc)
      · rw [length_append]
        exact Nat.add_le_add_right (length_value_le raw) _
    · rw [showsSomething_iff]
      exact ne_nil_of_length_pos (Nat.zero_lt_of_lt hlong)
  · have hshort : (cleaned raw).length ≤ maxUntrustedStringChars := by
      rwa [truncated_iff, Nat.not_lt] at htruncated
    have hvalue : (sanitizeStr raw).value = cleaned raw := by
      rw [value_eq_take, take_of_length_le hshort]
    constructor
    · intro h _
      obtain ⟨hne, -, -, hsuffix⟩ := h _ rfl
      rw [hvalue] at hne hsuffix
      exact ⟨showsSomething_iff.mpr hne, fun hforges => htruncated (hsuffix.mp hforges.2)⟩
    · rintro h m ⟨⟩
      obtain ⟨hshows, hforges⟩ := h htrim
      refine ⟨by rw [hvalue]; exact showsSomething_iff.mp hshows, value_clean,
        (length_value_le raw).trans (Nat.le_add_right _ _), iff_of_false ?_ htruncated⟩
      rw [hvalue]
      exact fun hsuffix => hforges ⟨hshort, hsuffix⟩

/-- `String::from_utf8_lossy` on ASCII. -/
def asciiText (bytes : List UInt8) : List Char := bytes.map fun b => Char.ofNat b.toNat

/-- A payload that is one ESC, which is no white space, is sent as an empty message; and one that
ends like a message that was cut is sent as it is. -/
theorem blank_notification :
    prepareNotifyMessage asciiText [0x1b] = .ok [] ∧
      prepareNotifyMessage asciiText (utf8 " [truncated]") = .ok truncationSuffix ∧
      (sanitizeStr truncationSuffix).truncated = false := by
  decide +kernel

/-! ## `home_assistant_toggle` -/

inductive HaAction where
  | on
  | off
  | toggle
  deriving DecidableEq

namespace HaAction

def asStr : HaAction → String
  | .on => "on"
  | .off => "off"
  | .toggle => "toggle"

def uaiToolName : HaAction → String
  | .on => "ha_turn_on"
  | .off => "ha_turn_off"
  | .toggle => "ha_toggle"

def ofStr? (word : String) : Option HaAction :=
  match word with
  | "on" => some .on
  | "off" => some .off
  | "toggle" => some .toggle
  | _ => none

end HaAction

def allowedHaDomains : List String := ["light", "switch", "fan", "input_boolean", "scene"]

structure HaToggleTarget where
  action : HaAction
  entityId : List Char
  deriving DecidableEq

/-- What `call_ha_action` asks of UAI: the tool and the `entity_id`. -/
def callHaAction (target : HaToggleTarget) : String × List Char :=
  (target.action.uaiToolName, target.entityId)

def parseHaToggleTarget (fromUtf8Lossy : List UInt8 → List Char) (payload : List UInt8) :
    Except String HaToggleTarget :=
  let trimmed := trim (fromUtf8Lossy payload)
  if trimmed = [] then
    .error "home_assistant_toggle: payload is empty - expected '<on|off|toggle>:<entity_id>'"
  else
    match splitOnce ':' trimmed with
    | none =>
      .error ("home_assistant_toggle: '" ++ String.ofList trimmed ++
        "' is not in the expected '<on|off|toggle>:<entity_id>' form")
    | some (actionStr, entityIdStr) =>
      let word := String.ofList ((trim actionStr).map Char.toLower)
      match HaAction.ofStr? word with
      | none =>
        .error ("home_assistant_toggle: unknown action '" ++ word ++
          "' - expected 'on', 'off', or 'toggle'")
      | some action =>
        let entityId := trim entityIdStr
        let notAnId := "home_assistant_toggle: '" ++ String.ofList entityId ++
          "' is not a valid entity_id (expected 'domain.object_id')"
        if entityId = [] then .error "home_assistant_toggle: entity_id is empty"
        else
          match splitOnce '.' entityId with
          | none => .error notAnId
          | some (domain, objectId) =>
            if domain = [] ∨ objectId = [] then .error notAnId
            else if String.ofList domain ∉ allowedHaDomains then
              .error ("home_assistant_toggle: domain '" ++ String.ofList domain ++
                "' is not permitted - only [\"light\", \"switch\", \"fan\", " ++
                "\"input_boolean\", \"scene\"] are allowed (locks, covers/garage doors, " ++
                "alarm panels, valves, sirens, cameras, and climate devices are " ++
                "deliberately excluded - see parse_ha_toggle_target's doc comment)")
            else if String.ofList domain = "scene" ∧ action ≠ .on then
              .error ("home_assistant_toggle: 'scene' entities only support 'on' " ++
                "(activation) - Home Assistant has no scene off/toggle service, got " ++
                "action '" ++ action.asStr ++ "'")
            else .ok ⟨action, entityId⟩

/-- The payload names an action and an entity, and the domain is one that is allowed. -/
def Names (fromUtf8Lossy : List UInt8 → List Char) (payload : List UInt8) (action : HaAction)
    (domain object : List Char) : Prop :=
  ∃ word rest, trim (fromUtf8Lossy payload) = word ++ ':' :: rest ∧ ':' ∉ word ∧
    HaAction.ofStr? (String.ofList ((trim word).map Char.toLower)) = some action ∧
    trim rest = domain ++ '.' :: object ∧ '.' ∉ domain ∧ object ≠ [] ∧
    String.ofList domain ∈ allowedHaDomains ∧ (String.ofList domain = "scene" → action = .on)

lemma parse_ok_iff_names {target : HaToggleTarget} :
    parseHaToggleTarget fromUtf8Lossy payload = .ok target ↔
      ∃ domain object, Names fromUtf8Lossy payload target.action domain object ∧
        target.entityId = domain ++ '.' :: object := by
  constructor
  · intro h
    unfold parseHaToggleTarget at h
    dsimp only at h
    split_ifs at h
    split at h
    · cases h
    next word rest hword =>
      split at h
      · cases h
      next action haction =>
        split_ifs at h
        split at h
        · cases h
        next domain object hdomain =>
          split_ifs at h with hempty hallowed hscene
          cases h
          obtain ⟨hword, hcolon⟩ := splitOnce_eq_some_iff.mp hword
          obtain ⟨hdomain, hdot⟩ := splitOnce_eq_some_iff.mp hdomain
          refine ⟨domain, object, ⟨word, rest, hword, hcolon, haction, hdomain, hdot,
            fun h => hempty (.inr h), hallowed, fun h => ?_⟩, hdomain⟩
          exact not_not.mp fun hon => hscene ⟨h, hon⟩
  · rintro ⟨domain, object, ⟨word, rest, hword, hcolon, haction, hdomain, hdot, hobject, hallowed,
      hscene⟩, hentity⟩
    have hne : domain ≠ [] := by
      rintro rfl
      exact absurd hallowed (by decide)
    have hon : ¬ (String.ofList domain = "scene" ∧ target.action ≠ .on) := fun h => h.2 (hscene h.1)
    unfold parseHaToggleTarget
    dsimp only
    rw [hword, if_neg (by simp), splitOnce_append hcolon]
    dsimp only
    rw [haction]
    dsimp only
    rw [hdomain, if_neg (by simp), splitOnce_append hdot]
    dsimp only
    rw [if_neg (not_or.mpr ⟨hne, hobject⟩), if_neg (not_not.mpr hallowed), if_neg hon, ← hentity]

def isControl (c : Char) : Bool := c.toNat < 0x20 || (0x7f ≤ c.toNat && c.toNat ≤ 0x9f)

def isPlain (c : Char) : Bool := c != ',' && !isWhitespace c && !isControl c

/-- One name of the form `domain.object_id`. -/
def IsSingleName (entityId : List Char) : Prop :=
  entityId.count '.' = 1 ∧ ∀ c ∈ entityId, isPlain c = true

lemma allowed_plain {domain : List Char} (h : String.ofList domain ∈ allowedHaDomains) :
    ∀ c ∈ domain, isPlain c = true := by
  have hall : allowedHaDomains.all (fun name => name.toList.all isPlain) = true := by
    decide +kernel
  have hdomain := all_eq_true.mp hall _ h
  rwa [String.toList_ofList, all_eq_true] at hdomain

lemma isSingleName_iff {domain object : List Char} (hdot : '.' ∉ domain)
    (hallowed : String.ofList domain ∈ allowedHaDomains) :
    IsSingleName (domain ++ '.' :: object) ↔ ∀ c ∈ object, c ≠ '.' ∧ isPlain c = true := by
  have hcount : (domain ++ '.' :: object).count '.' = object.count '.' + 1 := by
    rw [count_append, count_cons_self, count_eq_zero_of_not_mem hdot, Nat.zero_add]
  unfold IsSingleName
  rw [hcount, Nat.add_eq_right, count_eq_zero]
  constructor
  · rintro ⟨hnot, hplain⟩ c hc
    exact ⟨fun h => hnot (h ▸ hc), hplain c (mem_append_right _ (mem_cons_of_mem _ hc))⟩
  · intro h
    refine ⟨fun hmem => (h _ hmem).1 rfl, fun c hc => ?_⟩
    rcases mem_append.mp hc with hc | hc
    · exact allowed_plain hallowed c hc
    rcases mem_cons.mp hc with rfl | hc
    · decide
    · exact (h c hc).2

/-- **One entity, of a domain that is allowed.** What UAI is asked for is a single name with an
allowed domain, and a scene is only switched on: exactly if in a payload that names an action and an
allowed domain all that follows the domain and its dot is plain and without another dot. -/
theorem toggles_one_entity_iff (fromUtf8Lossy : List UInt8 → List Char) (payload : List UInt8) :
    (∀ target, parseHaToggleTarget fromUtf8Lossy payload = .ok target →
      IsSingleName (callHaAction target).2 ∧
        ∃ domain object, (callHaAction target).2 = domain ++ '.' :: object ∧ '.' ∉ domain ∧
          String.ofList domain ∈ allowedHaDomains ∧
          (String.ofList domain = "scene" → target.action = .on)) ↔
      ∀ action domain object, Names fromUtf8Lossy payload action domain object →
        ∀ c ∈ object, c ≠ '.' ∧ isPlain c = true := by
  constructor
  · intro h action domain object hnames
    have hok : parseHaToggleTarget fromUtf8Lossy payload =
        .ok ⟨action, domain ++ '.' :: object⟩ :=
      parse_ok_iff_names.mpr ⟨domain, object, hnames, rfl⟩
    obtain ⟨-, -, -, -, -, -, hdot, -, hallowed, -⟩ := hnames
    exact (isSingleName_iff hdot hallowed).mp (h _ hok).1
  · intro h target hok
    obtain ⟨domain, object, hnames, hentity⟩ := parse_ok_iff_names.mp hok
    have hplain := h _ _ _ hnames
    obtain ⟨-, -, -, -, -, -, hdot, -, hallowed, hscene⟩ := hnames
    show IsSingleName target.entityId ∧ _
    rw [hentity]
    exact ⟨(isSingleName_iff hdot hallowed).mpr hplain,
      domain, object, hentity, hdot, hallowed, hscene⟩

/-- **A lock behind a light.** The name after the comma is of a domain that is excluded. -/
theorem lock_smuggled :
    parseHaToggleTarget asciiText (utf8 "off:light.hall,lock.front") =
        .ok ⟨.off, "light.hall,lock.front".toList⟩ ∧
      ',' ∈ "light.hall,lock.front".toList ∧ "light.hall,lock.front".toList.count '.' = 2 := by
  decide +kernel

end AxiomCore
