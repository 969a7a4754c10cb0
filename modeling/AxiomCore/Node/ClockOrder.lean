import AxiomCore.Node.AnnounceClock

/-!
# Clocks across a network

A `ForwardingEngine` takes in the clock of what it receives, and ticks for what it sends; an
`AnnouncementManager` does so within the skew, and sets its clock forward to the wall clock. Here
any number of such clocks exchange messages, which are lost, repeated and reordered in any way. A
node and a message also carry, beside what the source has, the clocks of all that happened before.

Source: `axiom-clock/src/lib.rs`, `axiom-types/src/clock.rs`.
-/

namespace AxiomCore

open Lib HybridClock Function List

/-! ## The order -/

namespace HybridClock

lemma received_le_update (c received : HybridClock) : received ≤ c.update received := by
  have hlt := received.logical.toNat_lt
  unfold HybridClock.update
  split_ifs with hless hequal
  · exact le_tick received
  · have hle := satSucc_le (max c.logical received.logical)
    have hmax : received.logical.toNat ≤ (max c.logical received.logical).toNat := by
      show _ ≤ (if c.logical ≤ received.logical then received.logical else c.logical).toNat
      split_ifs with hlogical
      · exact le_rfl
      · exact (UInt16.lt_iff_toNat_lt.mp (UInt16.not_le.mp hlogical)).le
    rw [le_iff_stamp_le, stamp, stamp, hequal]
    simp only
    omega
  · have hge := UInt64.lt_iff_toNat_lt.not.mp hless
    have hne := UInt64.toNat_inj.not.mpr hequal
    rw [le_iff_stamp_le]
    simp only [stamp]
    omega

/-- The second clock is later than the first, or its counter is used up. -/
def Before (c d : HybridClock) : Prop := c ≤ d ∧ (d.logical ≠ 0xFFFF → c.happensBefore d)

lemma before_tick {c d : HybridClock} (h : c ≤ d) : c.Before d.tick := by
  refine ⟨h.trans (le_tick d), fun hcounter => happensBefore_iff_lt.mpr ?_⟩
  apply h.trans_lt (lt_tick ?_)
  intro hused
  rw [tick_eq_self hused] at hcounter
  exact hcounter hused

end HybridClock

lemma ClockManager.le_syncPhysical (m : ClockManager) (secs : Nat) :
    m.clock ≤ (m.syncPhysical secs).clock := by
  have hlogical := m.clock.logical.toNat_lt
  unfold syncPhysical
  split_ifs with hahead
  · have hlt := UInt64.lt_iff_toNat_lt.mp hahead
    rw [le_iff_stamp_le]
    simp only [stamp]
    omega
  · exact le_rfl

/-! ## Nodes and messages -/

structure ClockMessage where
  clock : HybridClock
  past : List HybridClock

structure ClockNode where
  manager : ClockManager
  past : List HybridClock

namespace ClockNode

def sync (n : ClockNode) (secs : Nat) : ClockNode :=
  { n with manager := n.manager.syncPhysical secs }

/-- The message, and the node after it. -/
def send (n : ClockNode) : ClockMessage × ClockNode :=
  let (clock, manager) := n.manager.tick
  (⟨clock, n.past⟩, ⟨manager, clock :: n.past⟩)

def receive (n : ClockNode) (message : ClockMessage) : ClockNode :=
  let manager := n.manager.update message.clock
  ⟨manager, manager.clock :: message.clock :: (message.past ++ n.past)⟩

/-- Nothing that happened before has a later clock. -/
def Known (n : ClockNode) : Prop := ∀ c ∈ n.past, c ≤ n.manager.clock

end ClockNode

def ClockMessage.FollowsCausality (message : ClockMessage) : Prop :=
  ∀ c ∈ message.past, c.Before message.clock

variable {n : ClockNode} {message : ClockMessage}

lemma ClockNode.Known.send (h : n.Known) : n.send.1.FollowsCausality ∧ n.send.2.Known := by
  refine ⟨fun c hc => before_tick (h c hc), fun c hc => ?_⟩
  rcases mem_cons.mp hc with rfl | hold
  · exact le_rfl
  · exact (before_tick (h c hold)).1

lemma ClockNode.Known.receive (h : n.Known) (hmessage : message.FollowsCausality) :
    (n.receive message).Known := by
  have htheirs := received_le_update n.manager.clock message.clock
  intro c hc
  simp only [ClockNode.receive, mem_cons, mem_append] at hc
  rcases hc with rfl | rfl | hc | hc
  · exact le_rfl
  · exact htheirs
  · exact (hmessage c hc).1.trans htheirs
  · exact (h c hc).trans (le_update ..)

/-! ## Runs -/

/-- The nodes, and every message that was sent. -/
structure ClockNetwork (ι : Type*) where
  nodes : ι → ClockNode
  sent : List ClockMessage

inductive ClockEvent (ι : Type*) where
  | sync (node : ι) (secs : Nat)
  | send (node : ι)
  /-- A message arrives, however often and late. -/
  | receive (node : ι) (i : Nat)

namespace ClockNetwork

variable {ι : Type*} [DecidableEq ι]

/-- The nodes have these clocks, and nothing has happened. -/
def start (clocks : ι → ClockManager) : ClockNetwork ι := ⟨fun node => ⟨clocks node, []⟩, []⟩

def step (s : ClockNetwork ι) : ClockEvent ι → ClockNetwork ι
  | .sync node secs => { s with nodes := update s.nodes node ((s.nodes node).sync secs) }
  | .send node =>
    let (message, n) := (s.nodes node).send
    ⟨update s.nodes node n, s.sent ++ [message]⟩
  | .receive node i =>
    match s.sent[i]? with
    | some message => { s with nodes := update s.nodes node ((s.nodes node).receive message) }
    | none => s

structure Ordered (s : ClockNetwork ι) : Prop where
  nodes : ∀ node, (s.nodes node).Known
  sent : ∀ message ∈ s.sent, message.FollowsCausality

lemma Ordered.step {s : ClockNetwork ι} (h : s.Ordered) (e : ClockEvent ι) :
    (s.step e).Ordered := by
  have hnodes : ∀ node n, n.Known → ∀ other, (update s.nodes node n other).Known := by
    intro node n hn other
    by_cases hother : other = node
    · rwa [hother, update_self]
    · rw [update_of_ne hother]
      exact h.nodes other
  cases e with
  | sync node secs =>
    refine ⟨hnodes node _ fun c hc => ?_, h.sent⟩
    exact (h.nodes node c hc).trans (ClockManager.le_syncPhysical _ secs)
  | send node =>
    obtain ⟨hmessage, hn⟩ := (h.nodes node).send
    refine ⟨hnodes node _ hn, fun message hmem => ?_⟩
    rcases mem_append.mp hmem with hold | hnew
    · exact h.sent message hold
    · rwa [mem_singleton.mp hnew]
  | receive node i =>
    simp only [ClockNetwork.step]
    split
    · rename_i message hsent
      have hmessage := h.sent message (mem_of_getElem? hsent)
      exact ⟨hnodes node _ ((h.nodes node).receive hmessage), h.sent⟩
    · exact h

/-- **Clocks follow causality.** Whatever the clocks are at first, and in whatever order the nodes
read their wall clocks, send, and receive what was sent: no message has an earlier clock than
anything that happened before it, at its sender or anywhere along the messages that reached it, and
its clock is later unless its counter is used up. -/
theorem clocks_follow_causality (clocks : ι → ClockManager) (es : List (ClockEvent ι)) :
    (run ClockNetwork.step (start clocks) es).Ordered :=
  run_invariant (fun _ e h => h.step e) ⟨by simp [start, ClockNode.Known], by simp [start]⟩ es

end ClockNetwork

end AxiomCore
