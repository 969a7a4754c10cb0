import AxiomCore.Lib.Run
import AxiomCore.Types.Frame

/-!
# Flow control

For each peer there is a window: the bytes that may be sent to it. What is sent is taken from the
window, and a Flow frame of the peer sets it anew.

`CreditMove` is what happens to a window; `Credit.after` is what a history of such moves leaves.

`FlowSums` is what the numbers of a tracker should be, without the bounds of their types;
`FlowTracker.Shows` relates the two.

Source: `axiom-transport/src/flow.rs`.
-/

namespace AxiomCore

open Lib List

/-! ## Flow frames -/

inductive FlowState where
  | opened
  | throttled
  | paused
  | blocked
  deriving DecidableEq

namespace FlowState

def fromU8 (value : UInt8) : FlowState :=
  if value = 0 then .opened
  else if value = 1 then .throttled
  else if value = 2 then .paused
  else .blocked

def isUsable : FlowState → Bool
  | .opened | .throttled => true
  | .paused | .blocked => false

end FlowState

structure FlowPayload where
  intentHash : IntentHash
  state : FlowState
  window : UInt32
  /-- Bytes per second. -/
  rateLimit : UInt32
  deriving DecidableEq

def FlowPayload.decode (data : List UInt8) : Option FlowPayload :=
  if data.length < 25 then none
  else some
    ⟨⟨takeVec 16 data⟩, .fromU8 (data.getD 16 0), UInt32.ofNat (beNat ((data.drop 17).take 4)),
      UInt32.ofNat (beNat ((data.drop 21).take 4))⟩

/-! ## Trackers -/

/-- The part of the configuration that the window depends on. -/
structure FlowConfig where
  initialWindow : UInt32
  maxWindow : UInt32

def FlowConfig.default : FlowConfig := ⟨65536, 16777216⟩

structure FlowTracker where
  state : FlowState
  windowAvailable : UInt32
  windowSize : UInt32
  /-- Bytes per second. -/
  rateLimit : UInt32
  bytesSent : UInt64
  bytesReceived : UInt64

namespace FlowTracker

def new (config : FlowConfig) : FlowTracker :=
  ⟨.opened, config.initialWindow, config.initialWindow, 0, 0, 0⟩

def updateFromPeer (flow : FlowPayload) (t : FlowTracker) : FlowTracker :=
  { t with state := flow.state, windowAvailable := flow.window, rateLimit := flow.rateLimit }

def saturatingSub (a b : UInt32) : UInt32 := if b ≤ a then a - b else 0

lemma toNat_saturatingSub (a b : UInt32) : (saturatingSub a b).toNat = a.toNat - b.toNat := by
  unfold saturatingSub
  split_ifs with h
  · exact UInt32.toNat_sub_of_le a b h
  rw [UInt32.le_iff_toNat_le] at h
  rw [Nat.sub_eq_zero_of_le (Nat.le_of_not_le h)]
  rfl

def recordSend (bytes : UInt32) (t : FlowTracker) : FlowTracker :=
  { t with
    bytesSent := t.bytesSent + bytes.toUInt64
    windowAvailable := saturatingSub t.windowAvailable bytes }

def recordReceive (bytes : UInt32) (t : FlowTracker) : FlowTracker :=
  { t with bytesReceived := t.bytesReceived + bytes.toUInt64 }

/-- `FlowTracker::ack_processed`, which no function calls. -/
def ackProcessed (bytes : UInt32) (config : FlowConfig) (t : FlowTracker) : FlowTracker :=
  { t with windowAvailable := min (t.windowAvailable + bytes) config.maxWindow }

def canSend (t : FlowTracker) (bytes : UInt32) : Bool :=
  t.state.isUsable && bytes ≤ t.windowAvailable

lemma canSend_iff {t : FlowTracker} {bytes : UInt32} :
    t.canSend bytes ↔ t.state.isUsable ∧ bytes ≤ t.windowAvailable := by
  simp [canSend]

end FlowTracker

/-! ## The manager -/

structure FlowManager where
  config : FlowConfig
  peerFlow : SocketAddr → Option FlowTracker
  intentFlow : IntentHash → Option FlowTracker

namespace FlowManager

def new (config : FlowConfig) : FlowManager := ⟨config, fun _ => none, fun _ => none⟩

/-- `FlowManager::get_peer_flow`: the tracker, which is created where there is none. -/
def getPeerFlow (m : FlowManager) (addr : SocketAddr) : FlowTracker :=
  (m.peerFlow addr).getD (.new m.config)

def getIntentFlow (m : FlowManager) (intent : IntentHash) : FlowTracker :=
  (m.intentFlow intent).getD (.new m.config)

/-- Write through what `get_peer_flow` returns. -/
def updatePeer (m : FlowManager) (addr : SocketAddr) (f : FlowTracker → FlowTracker) :
    FlowManager :=
  { m with peerFlow := Function.update m.peerFlow addr (some (f (m.getPeerFlow addr))) }

/-- Write through what `get_intent_flow` returns. -/
def updateIntent (m : FlowManager) (intent : IntentHash) (f : FlowTracker → FlowTracker) :
    FlowManager :=
  { m with intentFlow := Function.update m.intentFlow intent (some (f (m.getIntentFlow intent))) }

def processFlowFrame (m : FlowManager) (frame : Frame) (addr : SocketAddr) : FlowManager :=
  match FlowPayload.decode frame.payload with
  | none => m
  | some flow =>
    let m := m.updatePeer addr (.updateFromPeer flow)
    if flow.intentHash ≠ ⟨Vector.replicate 16 0⟩ then
      m.updateIntent flow.intentHash (.updateFromPeer flow)
    else m

def canSend (m : FlowManager) (addr : SocketAddr) (frameSize : UInt32) : Bool × FlowManager :=
  ((m.getPeerFlow addr).canSend frameSize, m.updatePeer addr id)

def recordSend (m : FlowManager) (addr : SocketAddr) (bytes : UInt32)
    (intent : Option IntentHash) : FlowManager :=
  let m := m.updatePeer addr (.recordSend bytes)
  match intent with
  | some intent => m.updateIntent intent (.recordSend bytes)
  | none => m

def recordReceive (m : FlowManager) (addr : SocketAddr) (bytes : UInt32)
    (intent : Option IntentHash) : FlowManager :=
  let m := m.updatePeer addr (.recordReceive bytes)
  match intent with
  | some intent => m.updateIntent intent (.recordReceive bytes)
  | none => m

variable {m : FlowManager} {addr addr' : SocketAddr} {f : FlowTracker → FlowTracker}

@[simp] lemma getPeerFlow_updatePeer :
    (m.updatePeer addr f).getPeerFlow addr' =
      if addr' = addr then f (m.getPeerFlow addr) else m.getPeerFlow addr' := by
  unfold getPeerFlow updatePeer
  by_cases h : addr' = addr
  · subst h
    simp [getPeerFlow]
  · simp [h]

@[simp] lemma getPeerFlow_updateIntent {intent : IntentHash} :
    (m.updateIntent intent f).getPeerFlow addr' = m.getPeerFlow addr' := rfl

variable {bytes : UInt32} {intent : Option IntentHash}

lemma getPeerFlow_recordSend :
    (m.recordSend addr bytes intent).getPeerFlow addr' =
      if addr' = addr then (m.getPeerFlow addr).recordSend bytes else m.getPeerFlow addr' := by
  cases intent <;> exact getPeerFlow_updatePeer

lemma getPeerFlow_recordReceive :
    (m.recordReceive addr bytes intent).getPeerFlow addr' =
      if addr' = addr then (m.getPeerFlow addr).recordReceive bytes else m.getPeerFlow addr' := by
  cases intent <;> exact getPeerFlow_updatePeer

lemma getPeerFlow_canSend {frameSize : UInt32} :
    (m.canSend addr frameSize).2.getPeerFlow addr' = m.getPeerFlow addr' := by
  unfold canSend
  rw [getPeerFlow_updatePeer]
  split_ifs with h
  · rw [h, id]
  · rfl

lemma getPeerFlow_processFlowFrame {frame : Frame} {flow : FlowPayload}
    (h : FlowPayload.decode frame.payload = some flow) :
    (m.processFlowFrame frame addr).getPeerFlow addr' =
      if addr' = addr then (m.getPeerFlow addr).updateFromPeer flow else m.getPeerFlow addr' := by
  simp only [processFlowFrame, h]
  split_ifs <;> simp [*]

end FlowManager

/-! ## Credit -/

structure Credit where
  state : FlowState
  window : Nat

inductive CreditMove where
  | spent (bytes : Nat)
  | granted (credit : Credit)

def FlowTracker.credit (t : FlowTracker) : Credit := ⟨t.state, t.windowAvailable.toNat⟩

namespace Credit

def move (c : Credit) : CreditMove → Credit
  | .spent bytes => { c with window := c.window - bytes }
  | .granted credit => credit

def after (c : Credit) (moves : List CreditMove) : Credit := moves.foldl move c

variable (c : Credit) (moves : List CreditMove)

lemma after_append (later : List CreditMove) :
    c.after (moves ++ later) = (c.after moves).after later :=
  foldl_append

def lastGrant (c : Credit) (moves : List CreditMove) : Credit :=
  moves.foldl (fun c move => match move with | .spent _ => c | .granted credit => credit) c

def spentSince (moves : List CreditMove) : Nat :=
  moves.foldl (fun n move => match move with | .spent bytes => n + bytes | .granted _ => 0) 0

lemma after_eq :
    c.after moves = ⟨(c.lastGrant moves).state, (c.lastGrant moves).window - spentSince moves⟩ := by
  induction moves using List.reverseRecOn with
  | nil => rfl
  | append_singleton moves move ih =>
    unfold after lastGrant spentSince at *
    rw [foldl_append, foldl_append, foldl_append, ih]
    cases move with
    | spent bytes =>
      rw [foldl_cons, foldl_nil, Credit.move, Nat.sub_sub]
      rfl
    | granted credit => rfl

/-- The last grant covers the window before, and what was spent since. -/
def Restored (c : Credit) (moves : List CreditMove) : Prop :=
  c.state.isUsable → (c.lastGrant moves).state.isUsable ∧
    (c.window = 0 ∨ c.window + spentSince moves ≤ (c.lastGrant moves).window)

lemma forall_usable_iff :
    (c.state.isUsable → (c.after moves).state.isUsable ∧ c.window ≤ (c.after moves).window) ↔
      c.Restored moves := by
  rw [after_eq, Restored]
  have hsub : c.window ≤ (c.lastGrant moves).window - spentSince moves ↔
      c.window = 0 ∨ c.window + spentSince moves ≤ (c.lastGrant moves).window := by
    omega
  rw [hsub]

end Credit

/-! ### What the trackers do to the credit -/

lemma FlowTracker.credit_recordSend (t : FlowTracker) (bytes : UInt32) :
    (t.recordSend bytes).credit = t.credit.move (.spent bytes.toNat) := by
  unfold credit recordSend Credit.move
  rw [toNat_saturatingSub]

lemma FlowTracker.credit_recordReceive (t : FlowTracker) (bytes : UInt32) :
    (t.recordReceive bytes).credit = t.credit := rfl

lemma FlowTracker.forall_canSend_iff {t t' : FlowTracker} :
    (∀ bytes, t.canSend bytes → t'.canSend bytes) ↔
      (t.credit.state.isUsable →
        t'.credit.state.isUsable ∧ t.credit.window ≤ t'.credit.window) := by
  constructor
  · intro h husable
    obtain ⟨husable', hwindow⟩ :=
      canSend_iff.mp (h t.windowAvailable (canSend_iff.mpr ⟨husable, UInt32.le_refl _⟩))
    exact ⟨husable', UInt32.le_iff_toNat_le.mp hwindow⟩
  · intro h bytes hbytes
    obtain ⟨husable, hle⟩ := canSend_iff.mp hbytes
    obtain ⟨husable', hwindow⟩ := h husable
    exact canSend_iff.mpr ⟨husable', UInt32.le_trans hle (UInt32.le_iff_toNat_le.mpr hwindow)⟩

/-! ## Windows in range -/

inductive FlowCall where
  | updateFromPeer (flow : FlowPayload)
  | recordSend (bytes : UInt32)
  | ackProcessed (bytes : UInt32)

namespace FlowTracker

def call (config : FlowConfig) (t : FlowTracker) : FlowCall → FlowTracker
  | .updateFromPeer flow => t.updateFromPeer flow
  | .recordSend bytes => t.recordSend bytes
  | .ackProcessed bytes => t.ackProcessed bytes config

/-- The sum that the call computes is one of its type. -/
def Fits (t : FlowTracker) : FlowCall → Prop
  | .updateFromPeer _ => True
  | .recordSend bytes => t.bytesSent.toNat + bytes.toNat < 2 ^ 64
  | .ackProcessed bytes => t.windowAvailable.toNat + bytes.toNat < 2 ^ 32

end FlowTracker

structure FlowSums where
  window : Nat
  sent : Nat

namespace FlowSums

def new (config : FlowConfig) : FlowSums := ⟨config.initialWindow.toNat, 0⟩

def call (config : FlowConfig) (n : FlowSums) : FlowCall → FlowSums
  | .updateFromPeer flow => { n with window := flow.window.toNat }
  | .recordSend bytes => ⟨n.window - bytes.toNat, n.sent + bytes.toNat⟩
  | .ackProcessed bytes => { n with window := min (n.window + bytes.toNat) config.maxWindow.toNat }

/-- The peer grants no more than the maximum, and the sums stay below the bounds. -/
def Allows (config : FlowConfig) (n : FlowSums) : FlowCall → Prop
  | .updateFromPeer flow => flow.window ≤ config.maxWindow
  | .recordSend bytes => n.sent + bytes.toNat < 2 ^ 64
  | .ackProcessed bytes => n.window + bytes.toNat < 2 ^ 32

instance (config : FlowConfig) (n : FlowSums) : (c : FlowCall) → Decidable (n.Allows config c)
  | .updateFromPeer flow => inferInstanceAs (Decidable (flow.window ≤ config.maxWindow))
  | .recordSend bytes => inferInstanceAs (Decidable (n.sent + bytes.toNat < 2 ^ 64))
  | .ackProcessed bytes => inferInstanceAs (Decidable (n.window + bytes.toNat < 2 ^ 32))

end FlowSums

namespace FlowTracker

structure Shows (config : FlowConfig) (t : FlowTracker) (n : FlowSums) : Prop where
  window : t.windowAvailable.toNat = n.window
  sent : t.bytesSent.toNat = n.sent
  inRange : t.windowAvailable ≤ config.maxWindow

variable {config : FlowConfig} {t : FlowTracker} {n : FlowSums}

lemma Shows.allows_iff (h : t.Shows config n) (c : FlowCall) :
    n.Allows config c ↔ t.Fits c ∧ (t.call config c).windowAvailable ≤ config.maxWindow := by
  cases c with
  | updateFromPeer flow => exact (and_iff_right trivial).symm
  | recordSend bytes =>
    have hless : saturatingSub t.windowAvailable bytes ≤ config.maxWindow := by
      have hrange := UInt32.le_iff_toNat_le.mp h.inRange
      rw [UInt32.le_iff_toNat_le, toNat_saturatingSub]
      omega
    unfold FlowSums.Allows Fits
    rw [h.sent]
    exact (and_iff_left hless).symm
  | ackProcessed bytes =>
    have hless : min (t.windowAvailable + bytes) config.maxWindow ≤ config.maxWindow := by
      rw [UInt32.le_iff_toNat_le, UInt32.toNat_min]
      exact Nat.min_le_right ..
    unfold FlowSums.Allows Fits
    rw [h.window]
    exact (and_iff_left hless).symm

lemma Shows.call (h : t.Shows config n) {c : FlowCall} (hfits : t.Fits c)
    (hrange : (t.call config c).windowAvailable ≤ config.maxWindow) :
    (t.call config c).Shows config (n.call config c) := by
  refine ⟨?_, ?_, hrange⟩
  · cases c with
    | updateFromPeer flow => rfl
    | recordSend bytes =>
      change (saturatingSub t.windowAvailable bytes).toNat = n.window - bytes.toNat
      rw [toNat_saturatingSub, h.window]
    | ackProcessed bytes =>
      have hsum : (t.windowAvailable + bytes).toNat = n.window + bytes.toNat := by
        rw [UInt32.toNat_add, Nat.mod_eq_of_lt hfits, h.window]
      change (min (t.windowAvailable + bytes) config.maxWindow).toNat =
        min (n.window + bytes.toNat) config.maxWindow.toNat
      rw [← hsum]
      exact UInt32.toNat_min ..
  · cases c with
    | recordSend bytes =>
      change (t.bytesSent + bytes.toUInt64).toNat = n.sent + bytes.toNat
      rw [UInt64.toNat_add, UInt32.toNat_toUInt64, Nat.mod_eq_of_lt hfits, h.sent]
    | updateFromPeer _ | ackProcessed _ => exact h.sent

lemma Shows.in_range_iff (h : t.Shows config n) (calls : List FlowCall) :
    (Guarded (FlowTracker.call config) Fits t calls ∧ ∀ before, before <+: calls →
      (run (FlowTracker.call config) t before).windowAvailable ≤ config.maxWindow) ↔
    Guarded (FlowSums.call config) (FlowSums.Allows config) n calls := by
  induction calls generalizing t n with
  | nil =>
    refine iff_of_true ⟨trivial, ?_⟩ trivial
    intro before hbefore
    rw [prefix_nil.mp hbefore]
    exact h.inRange
  | cons c calls ih =>
    constructor
    · rintro ⟨⟨hfits, hguarded⟩, hwindow⟩
      have hrange : (t.call config c).windowAvailable ≤ config.maxWindow :=
        hwindow [c] (prefix_append [c] calls)
      refine ⟨(h.allows_iff c).mpr ⟨hfits, hrange⟩, (ih (h.call hfits hrange)).mp ⟨hguarded, ?_⟩⟩
      intro before hbefore
      exact hwindow (c :: before) ((prefix_cons_inj c).mpr hbefore)
    · rintro ⟨hallows, hguarded⟩
      obtain ⟨hfits, hrange⟩ := (h.allows_iff c).mp hallows
      obtain ⟨hrest, hwindow⟩ := (ih (h.call hfits hrange)).mpr hguarded
      refine ⟨⟨hfits, hrest⟩, ?_⟩
      intro before hbefore
      rcases before with _ | ⟨c', before⟩
      · exact h.inRange
      · obtain ⟨rfl, hbefore'⟩ := cons_prefix_cons.mp hbefore
        exact hwindow before hbefore'

end FlowTracker

/-- **When the window stays in range.** For a configuration with an initial window up to the maximum
and any sequence of calls: no sum overflows and the window never exceeds the maximum, exactly if the
peer never grants more than the maximum, less than 2⁶⁴ bytes are sent in all, and no
acknowledgement brings the window, as it then is, to 2³² or more. -/
theorem flow_window_in_range_iff (config : FlowConfig)
    (hconfig : config.initialWindow ≤ config.maxWindow) (calls : List FlowCall) :
    (Guarded (FlowTracker.call config) FlowTracker.Fits (.new config) calls ∧
      ∀ before, before <+: calls →
        (run (FlowTracker.call config) (.new config) before).windowAvailable ≤ config.maxWindow) ↔
    Guarded (FlowSums.call config) (FlowSums.Allows config) (.new config) calls := by
  have hstart : (FlowTracker.new config).Shows config (.new config) := ⟨rfl, rfl, hconfig⟩
  exact hstart.in_range_iff calls

theorem default_window_in_range :
    Guarded (FlowTracker.call .default) FlowTracker.Fits (.new .default)
      [.recordSend 70000, .ackProcessed 16777216, .recordSend 1] := by
  have hiff := flow_window_in_range_iff .default (by decide)
    [.recordSend 70000, .ackProcessed 16777216, .recordSend 1]
  exact (hiff.mpr (by decide)).1

/-- A peer grants 2³² - 1 bytes, more than the maximum; an acknowledgement of one byte then
overflows, and leaves nothing of the window. -/
theorem granted_window_overflows :
    FlowPayload.decode (List.replicate 17 0 ++ List.replicate 4 255 ++ List.replicate 4 0) =
        some ⟨⟨Vector.replicate 16 0⟩, .opened, 4294967295, 0⟩ ∧
      let t := (FlowTracker.new .default).call .default
        (.updateFromPeer ⟨⟨Vector.replicate 16 0⟩, .opened, 4294967295, 0⟩)
      FlowConfig.default.maxWindow < t.windowAvailable ∧ ¬ t.Fits (.ackProcessed 1) ∧
        (t.call .default (.ackProcessed 1)).windowAvailable = 0 := by
  refine ⟨by decide +kernel, by decide, ?_, by decide⟩
  show ¬ (4294967295 + 1 < 2 ^ 32)
  decide

end AxiomCore
