import AxiomCore.Lib.Text
import AxiomCore.Lib.TextLines

/-!
# The parser of hardware descriptions

Line by line: blank lines and comments are skipped, `- item` and `key: value` go to the open
section, and `name:` opens a section, a region or an operation. The line number shows in errors only.

Source: `axiom-hal/src/universal/parser.rs`.
-/

namespace AxiomCore.Hdl

open Lib

/-! ## Descriptions (`axiom-hal/src/universal/types.rs`) -/

inductive DeviceClass where
  | network
  | storage
  | gpu
  | usbHost
  | audio
  | serial
  | generic

inductive AccessType where
  | readOnly
  | writeOnly
  | readWrite
  | writeToClear
  | writeToSet

inductive InterruptType where
  | legacy
  | msi
  | msiX
  | polling

inductive BarrierType where
  | read
  | write
  | full
  deriving DecidableEq

structure DeviceInfo where
  name : List Char := []
  vendorId : UInt16 := 0
  deviceId : UInt16 := 0
  «class» : DeviceClass := .generic
  subsystemVendor : Option UInt16 := none
  subsystemDevice : Option UInt16 := none
  revision : Option UInt8 := none

structure Register where
  name : List Char
  offset : UInt64 := 0
  width : UInt8 := 32
  access : AccessType := .readWrite
  arraySize : UInt64 := 1

structure MemoryRegion where
  name : List Char
  size : UInt64 := 0
  registers : List Register := []

/-- Those the parser makes. -/
inductive IrqAction where
  | signalRxReady
  | signalTxDone
  | signalError
  | execute (name : List Char)
  | acknowledge

structure InterruptHandler where
  mask : UInt32
  name : List Char := []
  action : IrqAction := .acknowledge

structure InterruptConfig where
  irqType : InterruptType
  handlers : List InterruptHandler := []

/-- Those the parser makes. -/
inductive Value where
  | literal (n : UInt64)
  | «variable» (name : List Char)
  | parameter (index : UInt64)
  deriving DecidableEq

/-- Those the parser makes. -/
inductive Operation where
  | write (register : List Char) (value : Value)
  | read (register : List Char) (into : Option (List Char))
  | waitMs (ms : UInt32)
  | waitUs (us : UInt32)
  | poll (register : List Char) (expected mask : UInt64) (timeoutMs : UInt32)
  | increment (name : List Char) (modulo : Option UInt64)
  | barrier (kind : BarrierType)
  deriving DecidableEq

/-- A named operation, also while it is read (`PartialOperation`); the trigger is the interrupt's
name. -/
structure OperationDef where
  name : List Char
  params : List (List Char) := []
  returns : List (List Char) := []
  trigger : Option (List Char) := none
  steps : List Operation := []

/-- The parser fills in no quirks. -/
structure HardwareDescription where
  device : DeviceInfo
  memoryMap : List MemoryRegion
  interrupts : InterruptConfig
  initSequence : List Operation
  operations : List Char → Option OperationDef

inductive ParseError where
  | unknownKeyword (line : Nat) (keyword : List Char)
  | missingField (field : String)
  | invalidValue (field : String) (value : List Char)
  deriving DecidableEq

/-! ## Words and numbers -/

/-- `lower` is `str::to_lowercase`. Source: `axiom-hal/src/universal/types.rs`. -/
def DeviceClass.fromStr (lower : List Char → List Char) (s : List Char) : Option DeviceClass :=
  match String.ofList (lower s) with
  | "network" | "nic" | "ethernet" => some .network
  | "storage" | "disk" | "nvme" | "sata" => some .storage
  | "gpu" | "graphics" | "display" => some .gpu
  | "usb_host" | "usb" | "xhci" | "ehci" => some .usbHost
  | "audio" | "sound" | "hda" => some .audio
  | "serial" | "uart" | "tty" => some .serial
  | _ => some .generic

@[inherit_doc DeviceClass.fromStr]
def AccessType.fromStr (lower : List Char → List Char) (s : List Char) : Option AccessType :=
  match String.ofList (lower s) with
  | "read_only" | "ro" | "r" => some .readOnly
  | "write_only" | "wo" | "w" => some .writeOnly
  | "read_write" | "rw" => some .readWrite
  | "write_to_clear" | "w1c" => some .writeToClear
  | "write_to_set" | "w1s" => some .writeToSet
  | _ => none

/-- `ok_or_else` with `ParseError::InvalidValue`. -/
def orInvalid {α : Type} (field : String) (value : List Char) : Option α → Except ParseError α
  | some x => .ok x
  | none => .error (.invalidValue field value)

def parseNumber (s : List Char) : Except ParseError UInt64 :=
  let s := trim s
  orInvalid "number" s <|
    if (stripKey "0x" s).isSome || (stripKey "0X" s).isSome then parseRadix 16 (s.drop 2)
    else parseRadix 10 s

def parseValue (s : List Char) : Except ParseError Value :=
  let s := trim s
  if (stripKey "0x" s).isSome || (stripKey "0X" s).isSome || s.head?.any Char.isDigit then
    (parseNumber s).map .literal
  else
    match stripKey "$" s with
    | some stripped => (orInvalid "parameter" s (parseRadix 10 stripped)).map .parameter
    | none => .ok (.variable s)

def parseStringList (s : List Char) : List (List Char) :=
  let s := ((trim s).dropWhile (· = '[')).rdropWhile (· = ']')
  ((s.splitOn ',').map trim).filter (· ≠ [])

def parseIrqAction (s : List Char) : Except ParseError IrqAction :=
  match String.ofList s with
  | "signal_rx_ready" => .ok .signalRxReady
  | "signal_tx_done" => .ok .signalTxDone
  | "signal_error" => .ok .signalError
  | "acknowledge" | "ack" => .ok .acknowledge
  | _ => orInvalid "action" s ((stripKey "execute:" s).map fun name => .execute (trim name))

/-- `trim_end_matches("ms")`, on the reversed text. -/
def dropMs : List Char → List Char
  | 's' :: 'm' :: rest => dropMs rest
  | rest => rest

/-- The timeout of a `poll` step, its third part. -/
def pollTimeout (parts : List (List Char)) : Except ParseError UInt32 :=
  match parts with
  | part :: _ =>
    match stripKey "timeout:" (trim part) with
    | some t => (parseNumber (dropMs (trim t).reverse).reverse).map UInt64.toUInt32
    | none => .ok 100
  | [] => .ok 100

def parseOperationStep (step : List Char) : Except ParseError (Option Operation) := do
  let step := trim step
  if let some rest := stripKey "write:" step then
    match splitOnce ',' (trim rest) with
    | some (reg, val) => return some (.write (trim reg) (← parseValue (trim val)))
    | none => return none
  else if let some rest := stripKey "read:" step then
    let rest := trim rest
    match splitOnce '→' rest, splitOnceAt "->".toList rest with
    | some (r, v), _ => return some (.read (trim r) (some (trim v)))
    | none, some (r, v) => return some (.read (trim r) (some (trim v)))
    | none, none => return some (.read rest none)
  else if let some rest := stripKey "wait_ms:" step then
    return some (.waitMs (← parseNumber (trim rest)).toUInt32)
  else if let some rest := stripKey "wait_us:" step then
    return some (.waitUs (← parseNumber (trim rest)).toUInt32)
  else if let some rest := stripKey "poll:" step then
    match (trim rest).splitOn ',' with
    | register :: expected :: parts =>
      let expected ← parseNumber (trim expected)
      let timeoutMs ← pollTimeout parts
      return some (.poll (trim register) expected (UInt64.ofNat (2 ^ 64 - 1)) timeoutMs)
    | _ => return none
  else if let some rest := stripKey "increment:" step then
    match splitOnce ',' (trim rest) with
    | some (v, m) =>
      let m := trim ((stripKey "mod:" (trim m)).getD m)
      return some (.increment (trim v) (some (← parseNumber m)))
    | none => return some (.increment (trim rest) none)
  else if let some kind := stripKey "barrier:" step then
    match String.ofList (trim kind) with
    | "read" => return some (.barrier .read)
    | "write" => return some (.barrier .write)
    | _ => return some (.barrier .full)
  else return none

def splitKv (line : List Char) : Option (List Char × List Char) :=
  match splitOnce ':' line with
  | some (key, value) => if trim value ≠ [] then some (trim key, trim value) else none
  | none => none

inductive LineKind where
  | skip
  | item (text : List Char)
  | kv (key value : List Char)
  | header (name : List Char)

def lineKind (line : List Char) : LineKind :=
  let trimmed := trim line
  if trimmed = [] ∨ trimmed.head? = some '#' then .skip
  else if trimmed.head? = some '-' then .item (trim (trimmed.drop 1))
  else
    match splitKv trimmed with
    | some (key, value) => .kv key value
    | none => if trimmed.getLast? = some ':' then .header trimmed.dropLast else .skip

/-! ## The parser -/

inductive Section where
  | device
  | memoryMap
  | registers
  | interrupts
  | initSequence
  | operations
  | quirks
  deriving DecidableEq

/-- The sections that a name opens from anywhere. -/
def sectionNamed (name : List Char) : Option Section :=
  match String.ofList name with
  | "device" => some .device
  | "memory_map" => some .memoryMap
  | "registers" => some .registers
  | "interrupts" => some .interrupts
  | "init_sequence" => some .initSequence
  | "operations" => some .operations
  | "quirks" => some .quirks
  | _ => none

/-- The parser without its line number, which is passed along. -/
structure HdlParser where
  «section» : Option Section := none
  device : Option DeviceInfo := none
  memoryRegions : List MemoryRegion := []
  currentRegion : Option MemoryRegion := none
  currentRegisters : List Register := []
  interruptConfig : Option InterruptConfig := none
  interruptHandlers : List InterruptHandler := []
  initSequence : List Operation := []
  operations : List Char → Option OperationDef := fun _ => none
  currentOperation : Option OperationDef := none

def onLast {α : Type} (f : α → α) (l : List α) : List α :=
  match l.getLast? with
  | some x => l.dropLast ++ [f x]
  | none => l

namespace HdlParser

def saveOperation (p : HdlParser) : HdlParser :=
  match p.currentOperation with
  | some op =>
    { p with
      operations := Function.update p.operations op.name (some op)
      currentOperation := none }
  | none => p

def finalizeCurrentSection (p : HdlParser) : HdlParser :=
  let p : HdlParser :=
    match p.currentRegion with
    | some region =>
      -- the registers go into the region, the region among the regions
      { p with
        memoryRegions := p.memoryRegions ++
          [{ region with registers := region.registers ++ p.currentRegisters }]
        currentRegion := none, currentRegisters := [] }
    | none => p
  let p := p.saveOperation
  match p.interruptConfig with
  | some config =>
    { p with
      interruptConfig := some { config with handlers := config.handlers ++ p.interruptHandlers }
      interruptHandlers := [] }
  | none => p

def openSection (p : HdlParser) (name : List Char) : Option HdlParser :=
  let key := String.ofList name
  -- subsections leave the section open
  if key = "registers" ∧ p.section = some .memoryMap ∨
      key = "handlers" ∧ p.section = some .interrupts ∨
      key = "steps" ∧ p.section = some .operations then some p
  else
    let p := p.finalizeCurrentSection
    match sectionNamed name with
    | some sec => some { p with «section» := some sec }
    | none =>
      if p.section = some .memoryMap then
        some { p with
          memoryRegions := p.memoryRegions ++ p.currentRegion.toList
          currentRegion := some { name := name } }
      else if p.section = some .operations then
        some { p.saveOperation with currentOperation := some { name := name } }
      else none

def handleSection (lineNum : Nat) (p : HdlParser) (name : List Char) :
    Except ParseError HdlParser :=
  match p.openSection name with
  | some p => .ok p
  | none => .error (.unknownKeyword lineNum name)

def parseDeviceField (lower : List Char → List Char) (p : HdlParser) (key value : List Char) :
    Except ParseError HdlParser := do
  let device := p.device.getD {}
  let device ← match String.ofList key with
    | "name" => .ok { device with name := (value.dropWhile (· = '"')).rdropWhile (· = '"') }
    | "vendor_id" => (parseNumber value).map fun n => { device with vendorId := n.toUInt16 }
    | "device_id" => (parseNumber value).map fun n => { device with deviceId := n.toUInt16 }
    | "class" =>
      (orInvalid "class" value (DeviceClass.fromStr lower value)).map fun c =>
        { device with «class» := c }
    | "subsystem_vendor" =>
      (parseNumber value).map fun n => { device with subsystemVendor := some n.toUInt16 }
    | "subsystem_device" =>
      (parseNumber value).map fun n => { device with subsystemDevice := some n.toUInt16 }
    | "revision" => (parseNumber value).map fun n => { device with revision := some n.toUInt8 }
    | _ => .ok device
  return { p with device := some device }

def parseRegisterField (lower : List Char → List Char) (p : HdlParser) (key value : List Char) :
    Except ParseError HdlParser := do
  let setLast (f : Register → Register) : HdlParser :=
    { p with currentRegisters := onLast f p.currentRegisters }
  match String.ofList key with
  | "size" =>
    let n ← parseNumber value
    return { p with currentRegion := p.currentRegion.map fun region => { region with size := n } }
  | "offset" =>
    let n ← parseNumber value
    return setLast fun reg => { reg with offset := n }
  | "width" =>
    let n ← parseNumber value
    return setLast fun reg => { reg with width := n.toUInt8 }
  | "array" =>
    let n ← parseNumber value
    return setLast fun reg => { reg with arraySize := n }
  | "access" =>
    let access ← orInvalid "access" value (AccessType.fromStr lower value)
    return setLast fun reg => { reg with access := access }
  | _ => return p

def setHandlerName (p : HdlParser) (value : List Char) : HdlParser :=
  { p with interruptHandlers := onLast (fun h => { h with name := value }) p.interruptHandlers }

/-- The action is read even if there is no handler. -/
def setHandlerAction (p : HdlParser) (value : List Char) : Except ParseError HdlParser := do
  let action ← parseIrqAction value
  return { p with
    interruptHandlers := onLast (fun h => { h with action := action }) p.interruptHandlers }

def parseInterruptField (p : HdlParser) (key value : List Char) : Except ParseError HdlParser := do
  match String.ofList key with
  | "type" =>
    let irqType ← orInvalid "interrupt type" value <|
      match String.ofList value with
      | "legacy" => some InterruptType.legacy
      | "msi" => some .msi
      | "msi-x" | "msix" => some .msiX
      | "polling" => some .polling
      | _ => none
    return { p with interruptConfig := some { irqType := irqType } }
  | "name" => return p.setHandlerName value
  | "action" => p.setHandlerAction value
  | _ => return p

def parseOperationField (p : HdlParser) (key value : List Char) : HdlParser :=
  let setOp (f : OperationDef → OperationDef) : HdlParser :=
    { p with currentOperation := p.currentOperation.map f }
  match String.ofList key with
  | "params" => setOp fun op => { op with params := parseStringList value }
  | "returns" => setOp fun op => { op with returns := parseStringList value }
  | "trigger" =>
    match stripKey "interrupt." value with
    | some name => setOp fun op => { op with trigger := some name }
    | none => p
  | _ => p

def handleKv (lower : List Char → List Char) (p : HdlParser) (key value : List Char) :
    Except ParseError HdlParser :=
  match p.section with
  | some .device => p.parseDeviceField lower key value
  | some .memoryMap | some .registers => p.parseRegisterField lower key value
  | some .interrupts => p.parseInterruptField key value
  | some .operations => .ok (p.parseOperationField key value)
  | _ => .ok p

def handleListItem (p : HdlParser) (item : List Char) : Except ParseError HdlParser := do
  match p.section with
  | some .initSequence =>
    let op ← parseOperationStep item
    return { p with initSequence := p.initSequence ++ op.toList }
  | some .operations =>
    let op ← parseOperationStep item
    return { p with
      currentOperation := p.currentOperation.map fun current =>
        { current with steps := current.steps ++ op.toList } }
  | some .registers | some .memoryMap =>
    match splitKv item with
    | some (key, value) =>
      if String.ofList key = "name" then
        return { p with currentRegisters := p.currentRegisters ++ [{ name := value }] }
      else return p
    | none => return p
  | some .interrupts =>
    match splitKv item with
    | some (key, value) =>
      match String.ofList key with
      | "mask" =>
        let mask ← parseNumber value
        return { p with
          interruptHandlers := p.interruptHandlers ++ [{ mask := mask.toUInt32 }] }
      | "name" => return p.setHandlerName value
      | "action" => p.setHandlerAction value
      | _ => return p
    | none => return p
  | _ => return p

def parseLine (lower : List Char → List Char) (lineNum : Nat) (p : HdlParser) (line : List Char) :
    Except ParseError HdlParser :=
  match lineKind line with
  | .skip => .ok p
  | .item item => p.handleListItem item
  | .kv key value => p.handleKv lower key value
  | .header name => p.handleSection lineNum name

/-- The loop of `parse`, after `lineNum` lines. -/
def parseLines (lower : List Char → List Char) (lineNum : Nat) (p : HdlParser) :
    List (List Char) → Except ParseError HdlParser
  | [] => .ok p
  | line :: lines => do
    let p ← p.parseLine lower (lineNum + 1) line
    parseLines lower (lineNum + 1) p lines

def finalize (p : HdlParser) : Except ParseError HardwareDescription :=
  let p := p.finalizeCurrentSection
  match p.device with
  | some device =>
    let interrupts := p.interruptConfig.getD { irqType := .polling }
    .ok ⟨device, p.memoryRegions, interrupts, p.initSequence, p.operations⟩
  | none => .error (.missingField "device")

def parse (lower : List Char → List Char) (input : List Char) :
    Except ParseError HardwareDescription := do
  (← parseLines lower 0 {} (textLines input)).finalize

end HdlParser

/-! ## What a line can do -/

section Line

variable {lower : List Char → List Char} {p p' : HdlParser} {line : List Char} {m n : Nat}
  {lines skipped : List (List Char)} {d : HardwareDescription}

open HdlParser

/-- The line begins nothing: no section, no region, no operation. -/
def IsNoHeader (line : List Char) : Prop := ∀ name, lineKind line ≠ .header name

lemma isNoHeader_comment (h : (trim line).head? = some '#') : IsNoHeader line := by
  have hkind : lineKind line = .skip := if_pos (.inr h)
  rw [IsNoHeader, hkind]
  exact nofun

/-- Before the first section, lines that begin nothing are passed over. -/
lemma parseLine_new (h : IsNoHeader line) : HdlParser.parseLine lower n {} line = .ok {} := by
  unfold HdlParser.parseLine
  rcases hkind : lineKind line with _ | item | ⟨key, value⟩ | name
  · rfl
  · rfl
  · rfl
  · exact absurd hkind (h name)

lemma parseLine_ok (h : p.parseLine lower m line = .ok p') :
    p.parseLine lower n line = .ok p' := by
  unfold HdlParser.parseLine at h ⊢
  rcases hkind : lineKind line with _ | item | ⟨key, value⟩ | name
  · simpa only [hkind] using h
  · simpa only [hkind] using h
  · simpa only [hkind] using h
  simp only [hkind, handleSection] at h ⊢
  rcases hopen : p.openSection name with _ | q
  · simp [hopen] at h
  · simpa [hopen] using h

lemma parseLines_cons_ok_iff : p.parseLines lower n (line :: lines) = .ok p' ↔
    ∃ q, p.parseLine lower (n + 1) line = .ok q ∧ q.parseLines lower (n + 1) lines = .ok p' := by
  rw [parseLines]
  rcases p.parseLine lower (n + 1) line with e | q
  · simp [bind, Except.bind]
  · simp [bind, Except.bind]

lemma parseLines_ok (h : p.parseLines lower m lines = .ok p') :
    p.parseLines lower n lines = .ok p' := by
  induction lines generalizing p m n with
  | nil => exact h
  | cons line lines ih =>
    obtain ⟨q, hline, hlines⟩ := parseLines_cons_ok_iff.mp h
    exact parseLines_cons_ok_iff.mpr ⟨q, parseLine_ok hline, ih hlines⟩

lemma parseLines_skipped (h : ∀ c ∈ skipped, IsNoHeader c) :
    parseLines lower m {} (skipped ++ lines) = .ok p' ↔ parseLines lower n {} lines = .ok p' := by
  induction skipped generalizing m with
  | nil => exact ⟨parseLines_ok, parseLines_ok⟩
  | cons c skipped ih =>
    rw [List.forall_mem_cons] at h
    rw [List.cons_append, parseLines_cons_ok_iff, parseLine_new h.1]
    simpa using ih h.2

/-- Two texts that agree from the first section on are read alike. -/
lemma parse_ok_iff_of_skipped {t t' : List Char} {skipped' : List (List Char)}
    (ht : textLines t = skipped ++ lines) (ht' : textLines t' = skipped' ++ lines)
    (h : ∀ c ∈ skipped, IsNoHeader c) (h' : ∀ c ∈ skipped', IsNoHeader c) :
    HdlParser.parse lower t = .ok d ↔ HdlParser.parse lower t' = .ok d := by
  have hparse (t : List Char) : HdlParser.parse lower t = .ok d ↔
      ∃ p, parseLines lower 0 {} (textLines t) = .ok p ∧ p.finalize = .ok d := by
    unfold HdlParser.parse
    rcases parseLines lower 0 {} (textLines t) with e | p
    · simp [bind, Except.bind]
    · simp [bind, Except.bind]
  rw [hparse, hparse, ht, ht']
  exact exists_congr fun p => and_congr_left' <|
    (parseLines_skipped (n := 0) h).trans (parseLines_skipped h').symm

end Line

end AxiomCore.Hdl
