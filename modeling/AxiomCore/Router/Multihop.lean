import AxiomCore.Lib.Run
import AxiomCore.Types.Frame

/-!
# Multi-hop forwarding

An engine remembers, for each frame it has seen, the clock of the copy. A copy whose clock is not
later than that is a loop and is dropped. But a forwarder writes its own clock into the frame, after
it has taken the frame's clock into account, so a copy that comes back around a cycle is later than
the one remembered, and is forwarded again.

`Multihop` is a network of engines with fixed next hops; copies are delivered in any order.
`decide_spec` says what a decision depends on, `handle_spec` what a delivery does, and
`step_once_iff` when every node handles a frame at most once.

Source: `axiom-router/src/forward.rs`.
-/

namespace AxiomCore

open Lib List Function

/-! ## The engine -/

structure FrameKey where
  intentHash : IntentHash
  /-- The trace id, or sender and clock. -/
  frameId : UInt64
  deriving DecidableEq

def FrameKey.fromFrame (frame : Frame) : FrameKey where
  intentHash := frame.header.intentHash
  frameId :=
    match frame.traceId with
    | some traceId => UInt64.ofNat (beNat traceId.bytes.toList)
    | none =>
      UInt64.ofNat (beNat (frame.header.senderId.bytes.toList.take 8)) ^^^
        (frame.header.clock.physical ^^^ frame.header.clock.logical.toUInt64)

inductive DropReason where
  | loopDetected
  | noRoute

inductive ForwardDecision where
  | deliverLocal
  | forward (hops : List NodeId)
  | deliverAndForward (hops : List NodeId)
  | drop (reason : DropReason)

def ForwardDecision.hops : ForwardDecision → List NodeId
  | .forward hops | .deliverAndForward hops => hops
  | _ => []

structure ForwardingEngine where
  localId : NodeId
  /-- The clock of the last copy of each frame. -/
  frameHistory : FrameKey → Option HybridClock
  clock : HybridClock
  localIntents : IntentHash → Bool

namespace ForwardingEngine

def decide (e : ForwardingEngine) (frame : Frame) (nextHops : List NodeId) :
    ForwardDecision × ForwardingEngine :=
  let e := { e with clock := e.clock.update frame.header.clock }
  let key := FrameKey.fromFrame frame
  let old := (e.frameHistory key).any fun clock =>
    frame.header.clock.happensBefore clock || frame.header.clock = clock
  if old then (.drop .loopDetected, e)
  else
    let e := { e with
      frameHistory := update e.frameHistory key (some frame.header.clock) }
    let isForUs := e.localIntents frame.header.intentHash
    let shouldForward := !nextHops.isEmpty && !nextHops.all (· = e.localId)
    let forwardTo := nextHops.filter (· ≠ e.localId)
    match isForUs, shouldForward && !forwardTo.isEmpty with
    | true, true => (.deliverAndForward forwardTo, e)
    | true, false => (.deliverLocal, e)
    | false, true => (.forward forwardTo, e)
    | false, false => (.drop .noRoute, e)

def prepareForward (e : ForwardingEngine) (frame : Frame) : Frame × ForwardingEngine :=
  let clock := e.clock.tick
  ({ frame with header := { frame.header with clock := clock } }, { e with clock := clock })

def Remembers (e : ForwardingEngine) (frame : Frame) : Prop :=
  ∃ clock, e.frameHistory (.fromFrame frame) = some clock ∧ frame.header.clock ≤ clock

lemma decide_spec (e : ForwardingEngine) (frame : Frame) (nextHops : List NodeId) :
    (e.decide frame nextHops).2.localId = e.localId ∧
      (e.Remembers frame → (e.decide frame nextHops).1.hops = [] ∧
        (e.decide frame nextHops).2.frameHistory = e.frameHistory) ∧
      (¬ e.Remembers frame →
        (e.decide frame nextHops).1.hops = nextHops.filter (· ≠ e.localId) ∧
        (e.decide frame nextHops).2.frameHistory =
          update e.frameHistory (.fromFrame frame) (some frame.header.clock)) := by
  have hold : ((e.frameHistory (.fromFrame frame)).any fun clock =>
      frame.header.clock.happensBefore clock || frame.header.clock = clock) = true ↔
      e.Remembers frame := by
    rw [Option.any_eq_true, Remembers]
    simp only [Bool.or_eq_true, HybridClock.happensBefore_iff_lt, decide_eq_true_eq,
      le_iff_lt_or_eq]
  unfold decide
  dsimp only
  by_cases hremembers : e.Remembers frame
  · rw [if_pos (hold.mpr hremembers)]
    exact ⟨rfl, fun _ => ⟨rfl, rfl⟩, fun h => absurd hremembers h⟩
  rw [if_neg (fun h => hremembers (hold.mp h))]
  -- Nothing to send on means that the filtered list is empty.
  have hempty : (!nextHops.isEmpty && !nextHops.all (· = e.localId) &&
      !(nextHops.filter (· ≠ e.localId)).isEmpty) = false →
      nextHops.filter (· ≠ e.localId) = [] := by
    intro hnone
    by_contra hne
    obtain ⟨hop, hhop⟩ := exists_mem_of_ne_nil _ hne
    obtain ⟨hmem, hother⟩ := mem_filter.mp hhop
    simp only [Bool.and_eq_false_iff, Bool.not_eq_false', List.isEmpty_iff, all_eq_true,
      decide_eq_true_eq] at hnone hother
    rcases hnone with (hnil | hall) | hnil
    · rw [hnil] at hmem
      cases hmem
    · exact hother (hall hop hmem)
    · exact hne hnil
  split
  · exact ⟨rfl, fun h => absurd h hremembers, fun _ => ⟨rfl, rfl⟩⟩
  · next hnone => exact ⟨rfl, fun h => absurd h hremembers, fun _ => ⟨(hempty hnone).symm, rfl⟩⟩
  · exact ⟨rfl, fun h => absurd h hremembers, fun _ => ⟨rfl, rfl⟩⟩
  · next hnone => exact ⟨rfl, fun h => absurd h hremembers, fun _ => ⟨(hempty hnone).symm, rfl⟩⟩

end ForwardingEngine

/-! ## The network -/

structure Forwarded where
  node : NodeId
  frame : Frame
  hops : List NodeId

structure Multihop where
  engines : NodeId → ForwardingEngine
  inFlight : List (NodeId × Frame)
  log : List Forwarded

inductive MultihopEvent where
  | inject (node : NodeId) (frame : Frame)
  | deliver (copy : Nat)

namespace Multihop

/-- New engines, with any clocks and intents. -/
def start (clocks : NodeId → HybridClock) (intents : NodeId → IntentHash → Bool) : Multihop :=
  ⟨fun n => ⟨n, fun _ => none, clocks n, intents n⟩, [], []⟩

def without (net : Multihop) (i : Nat) : Multihop :=
  { net with inFlight := net.inFlight.eraseIdx i }

section Step

variable (nodes : Finset NodeId) (nextHops : NodeId → List NodeId)

def otherHops (n : NodeId) : List NodeId := (nextHops n).filter (· ≠ n)

/-- A node gets a frame: it decides and, if it forwards, prepares the frame and sends it. -/
def handle (net : Multihop) (node : NodeId) (frame : Frame) : Multihop :=
  let (decision, engine) := (net.engines node).decide frame (nextHops node)
  match decision.hops with
  | [] => { net with engines := update net.engines node engine }
  | hop :: hops =>
    let (prepared, engine) := engine.prepareForward frame
    { engines := update net.engines node engine
      inFlight := net.inFlight ++ (hop :: hops).map (·, prepared)
      log := net.log ++ [⟨node, frame, hop :: hops⟩] }

def step (net : Multihop) : MultihopEvent → Multihop
  | .inject node frame => { net with inFlight := net.inFlight ++ [(node, frame)] }
  | .deliver i =>
    match net.inFlight[i]? with
    | none => net
    | some (node, frame) =>
      if node ∈ nodes then (net.without i).handle nextHops node frame else net.without i

def forwards (net : Multihop) (node : NodeId) (key : FrameKey) : Nat :=
  net.log.countP fun f => f.node = node ∧ .fromFrame f.frame = key

def transmissions (net : Multihop) (key : FrameKey) : Nat :=
  ((net.log.filter fun f => .fromFrame f.frame = key).map (·.hops.length)).sum

/-- Every node has forwarded every frame at most once, and so it was not sent more often than there
are next hops. -/
def ForwardedOnce (net : Multihop) : Prop :=
  (∀ node key, net.forwards node key ≤ 1) ∧
    ∀ key, net.transmissions key ≤ ∑ n ∈ nodes, (nextHops n).length

/-- No copy reaches a node that remembers an earlier one and could forward it. -/
def NoneLater (net : Multihop) : MultihopEvent → Prop
  | .inject _ _ => True
  | .deliver i => ∀ copy ∈ net.inFlight[i]?, copy.1 ∈ nodes → otherHops nextHops copy.1 ≠ [] →
      ∀ clock ∈ (net.engines copy.1).frameHistory (.fromFrame copy.2),
        copy.2.header.clock ≤ clock

/-- What the engines remember, and what was forwarded. -/
structure Recorded (net : Multihop) : Prop where
  localId : ∀ n, (net.engines n).localId = n
  /-- A node with other hops remembers what it forwarded. -/
  remembers : ∀ n, otherHops nextHops n ≠ [] → ∀ key,
    ((net.engines n).frameHistory key = none ↔ net.forwards n key = 0)
  /-- What was forwarded went to the next hops. -/
  sent : ∀ f ∈ net.log, f.node ∈ nodes ∧ f.hops = otherHops nextHops f.node

end Step

variable {nodes : Finset NodeId} {nextHops : NodeId → List NodeId} {net : Multihop}

lemma handle_spec (h : Recorded nodes nextHops net) (node : NodeId) (frame : Frame) :
    ((net.engines node).Remembers frame ∨ otherHops nextHops node = []) ∧
        (net.handle nextHops node frame).log = net.log ∨
      ¬ (net.engines node).Remembers frame ∧ otherHops nextHops node ≠ [] ∧
        (net.handle nextHops node frame).log =
          net.log ++ [⟨node, frame, otherHops nextHops node⟩] := by
  obtain ⟨-, hold, hnew⟩ := (net.engines node).decide_spec frame (nextHops node)
  rw [h.localId] at hnew
  unfold handle
  dsimp only
  by_cases hremembers : (net.engines node).Remembers frame
  · rw [(hold hremembers).1]
    exact .inl ⟨.inl hremembers, rfl⟩
  rw [(hnew hremembers).1, ← otherHops]
  rcases hhops : otherHops nextHops node with _ | ⟨hop, hops⟩
  · exact .inl ⟨.inr rfl, rfl⟩
  · exact .inr ⟨hremembers, cons_ne_nil _ _, rfl⟩

lemma engines_handle (net : Multihop) (nextHops : NodeId → List NodeId) (node : NodeId)
    (frame : Frame) (m : NodeId) :
    ((net.handle nextHops node frame).engines m).localId = (net.engines m).localId ∧
      (m ≠ node ∨ (net.engines node).Remembers frame →
        ((net.handle nextHops node frame).engines m).frameHistory =
          (net.engines m).frameHistory) ∧
      (m = node → ¬ (net.engines node).Remembers frame →
        ((net.handle nextHops node frame).engines m).frameHistory =
          update (net.engines m).frameHistory (.fromFrame frame)
            (some frame.header.clock)) := by
  obtain ⟨hid, hold, hnew⟩ := (net.engines node).decide_spec frame (nextHops node)
  have hengine : ∃ engine, (net.handle nextHops node frame).engines =
      update net.engines node engine ∧ engine.localId = (net.engines node).localId ∧
      engine.frameHistory = ((net.engines node).decide frame (nextHops node)).2.frameHistory := by
    unfold handle
    dsimp only
    split
    · exact ⟨_, rfl, hid, rfl⟩
    · exact ⟨_, rfl, hid, rfl⟩
  obtain ⟨engine, hengines, hlocal, hhistory⟩ := hengine
  rw [hengines]
  by_cases hm : m = node
  · subst hm
    rw [update_self, hlocal, hhistory]
    refine ⟨rfl, fun h => ?_, fun _ h => (hnew h).2⟩
    exact (hold (h.resolve_left fun hne => hne rfl)).2
  · rw [update_of_ne hm]
    exact ⟨rfl, fun _ => rfl, fun h => absurd h hm⟩

variable {net' : Multihop} {node : NodeId} {i : Nat}

lemma forwards_of_log_eq (h : net'.log = net.log) (n : NodeId)
    (key : FrameKey) : net'.forwards n key = net.forwards n key := by
  rw [forwards, forwards, h]

lemma forwards_concat {f : Forwarded} (h : net'.log = net.log ++ [f])
    (n : NodeId) (key : FrameKey) : net'.forwards n key =
      net.forwards n key + if f.node = n ∧ .fromFrame f.frame = key then 1 else 0 := by
  rw [forwards, h, countP_append, countP_singleton]
  simp [forwards]

lemma Recorded.handle (h : Recorded nodes nextHops net) (hnode : node ∈ nodes)
    (frame : Frame) : Recorded nodes nextHops (net.handle nextHops node frame) := by
  have hengines := net.engines_handle nextHops node frame
  refine ⟨fun n => (hengines n).1.trans (h.localId n), fun n hhops key => ?_, ?_⟩
  · rcases handle_spec h node frame with ⟨hstays, hlog⟩ | ⟨hremembers, -, hlog⟩
    · rw [forwards_of_log_eq hlog, (hengines n).2.1]
      · exact h.remembers n hhops key
      · rcases hstays with hremembers | hnil
        · exact .inr hremembers
        · exact .inl fun heq => hhops (heq ▸ hnil)
    · rw [forwards_concat hlog]
      by_cases hn : n = node
      · rw [(hengines n).2.2 hn hremembers]
        by_cases hkey : key = .fromFrame frame
        · subst hkey
          rw [update_self, if_pos ⟨hn.symm, rfl⟩]
          exact ⟨nofun, nofun⟩
        · rw [update_of_ne hkey, if_neg fun hsame => hkey hsame.2.symm]
          exact h.remembers n hhops key
      · rw [(hengines n).2.1 (.inl hn), if_neg fun hsame => hn hsame.1.symm]
        exact h.remembers n hhops key
  · intro f hf
    rcases handle_spec h node frame with ⟨-, hlog⟩ | ⟨-, -, hlog⟩
    · exact h.sent f (hlog ▸ hf)
    rw [hlog] at hf
    rcases mem_append.mp hf with hold | hlast
    · exact h.sent f hold
    · rw [mem_singleton.mp hlast]
      exact ⟨hnode, rfl⟩

lemma handle_once_iff (h : Recorded nodes nextHops net) (node : NodeId) (frame : Frame) :
    (∀ n key, (net.handle nextHops node frame).forwards n key ≤ 1) ↔
      (∀ n key, net.forwards n key ≤ 1) ∧ (otherHops nextHops node ≠ [] →
        ∀ clock ∈ (net.engines node).frameHistory (.fromFrame frame),
          frame.header.clock ≤ clock) := by
  rcases handle_spec h node frame with ⟨hstays, hlog⟩ | ⟨hremembers, hhops, hlog⟩
  · simp only [forwards_of_log_eq hlog]
    refine ⟨fun honce => ⟨honce, fun hhops clock hclock => ?_⟩, And.left⟩
    obtain ⟨clock', hclock', hle⟩ := hstays.resolve_right hhops
    rw [hclock'] at hclock
    exact (Option.mem_some_iff.mp hclock) ▸ hle
  · -- It remembers no copy that is as late; so it must remember none at all.
    have hnone : (∀ clock ∈ (net.engines node).frameHistory (.fromFrame frame),
        frame.header.clock ≤ clock) ↔ net.forwards node (.fromFrame frame) = 0 := by
      rw [← h.remembers node hhops]
      constructor
      · intro hle
        rcases hhistory : (net.engines node).frameHistory (.fromFrame frame) with _ | clock
        · rfl
        · exact absurd ⟨clock, hhistory, hle clock hhistory⟩ hremembers
      · intro hhistory clock hclock
        rw [hhistory] at hclock
        cases hclock
    rw [hnone]
    constructor
    · intro honce
      refine ⟨fun n key => ?_, fun _ => ?_⟩
      · have hle := honce n key
        rw [forwards_concat hlog] at hle
        omega
      · have hle := honce node (.fromFrame frame)
        rw [forwards_concat hlog, if_pos ⟨rfl, rfl⟩] at hle
        omega
    · rintro ⟨honce, hzero⟩ n key
      rw [forwards_concat hlog]
      split_ifs with hsame
      · obtain ⟨rfl, rfl⟩ := hsame
        rw [hzero hhops]
      · exact honce n key

lemma Recorded.transmissions_le (h : Recorded nodes nextHops net)
    (honce : ∀ n key, net.forwards n key ≤ 1) (key : FrameKey) :
    net.transmissions key ≤ ∑ n ∈ nodes, (nextHops n).length := by
  let sent := net.log.filter fun f => .fromFrame f.frame = key
  have hnodup : (sent.map (·.node)).Nodup := by
    rw [nodup_iff_count_le_one]
    intro n
    rw [count_eq_countP, countP_map, countP_filter]
    refine (countP_mono_left fun f _ hf => ?_).trans (honce n key)
    simpa using hf
  calc net.transmissions key
      ≤ (sent.map fun f => (nextHops f.node).length).sum := by
        apply sum_le_sum
        intro f hf
        rw [(h.sent f (mem_of_mem_filter hf)).2]
        exact length_filter_le ..
    _ = ((sent.map (·.node)).map fun n => (nextHops n).length).sum := by
        rw [map_map]
        rfl
    _ = ∑ n ∈ (sent.map (·.node)).toFinset, (nextHops n).length :=
        (sum_toFinset _ hnodup).symm
    _ ≤ ∑ n ∈ nodes, (nextHops n).length := by
        apply Finset.sum_le_sum_of_subset
        intro n hn
        obtain ⟨f, hf, rfl⟩ := mem_map.mp (mem_toFinset.mp hn)
        exact (h.sent f (mem_of_mem_filter hf)).1

lemma recorded_start (clocks : NodeId → HybridClock) (intents : NodeId → IntentHash → Bool) :
    Recorded nodes nextHops (start clocks intents) := by
  refine ⟨fun _ => rfl, fun n _ key => ?_, fun f hf => absurd hf not_mem_nil⟩
  simp [start, forwards]

lemma step_deliver {frame : Frame}
    (hcopy : net.inFlight[i]? = some (node, frame)) :
    net.step nodes nextHops (.deliver i) =
      if node ∈ nodes then (net.without i).handle nextHops node frame else net.without i := by
  simp only [step, hcopy]

lemma step_deliver_none (hcopy : net.inFlight[i]? = none) :
    net.step nodes nextHops (.deliver i) = net := by
  simp only [step, hcopy]

lemma Recorded.without (h : Recorded nodes nextHops net) (i : Nat) :
    Recorded nodes nextHops (net.without i) := ⟨h.localId, h.remembers, h.sent⟩

lemma Recorded.step (h : Recorded nodes nextHops net) (e : MultihopEvent) :
    Recorded nodes nextHops (net.step nodes nextHops e) := by
  cases e with
  | inject node frame => exact ⟨h.localId, h.remembers, h.sent⟩
  | deliver i =>
    rcases hcopy : net.inFlight[i]? with _ | ⟨node, frame⟩
    · rw [step_deliver_none hcopy]
      exact h
    rw [step_deliver hcopy]
    split_ifs with hnode
    · exact (h.without i).handle hnode frame
    · exact h.without i

lemma step_once_iff (h : Recorded nodes nextHops net) (e : MultihopEvent) :
    (∀ n key, (net.step nodes nextHops e).forwards n key ≤ 1) ↔
      (∀ n key, net.forwards n key ≤ 1) ∧ net.NoneLater nodes nextHops e := by
  cases e with
  | inject node frame => exact (and_iff_left trivial).symm
  | deliver i =>
    rcases hcopy : net.inFlight[i]? with _ | ⟨node, frame⟩
    · simp only [step_deliver_none hcopy, NoneLater, hcopy, Option.not_mem_none, false_implies,
        implies_true, and_true]
    simp only [step_deliver hcopy, NoneLater, hcopy, Option.mem_some_iff, forall_eq']
    by_cases hnode : node ∈ nodes
    · rw [if_pos hnode, forall_prop_of_true hnode]
      exact handle_once_iff (h.without i) node frame
    · rw [if_neg hnode]
      exact (and_iff_left fun hmem => absurd hmem hnode).symm

end Multihop

/-- **When each engine forwards each frame at most once.** For every finite network, every next hops
and every order of injections and deliveries: every engine has forwarded every frame at most once,
and so none was sent more often than there are next hops, exactly if no copy has reached an engine
with other next hops that remembered an earlier one. -/
theorem forwarded_once_iff (nodes : Finset NodeId) (nextHops : NodeId → List NodeId)
    (clocks : NodeId → HybridClock) (intents : NodeId → IntentHash → Bool)
    (events : List MultihopEvent) :
    (run (Multihop.step nodes nextHops) (.start clocks intents) events).ForwardedOnce nodes
        nextHops ↔
      Guarded (Multihop.step nodes nextHops) (Multihop.NoneLater nodes nextHops)
        (.start clocks intents) events := by
  have hstart : Multihop.Recorded nodes nextHops (.start clocks intents) :=
    Multihop.recorded_start clocks intents
  have hstep : ∀ net e, Multihop.Recorded nodes nextHops net →
      Multihop.Recorded nodes nextHops (net.step nodes nextHops e) := fun _ e h => h.step e
  have hrecorded := run_invariant hstep hstart events
  have honce : ∀ n key, (Multihop.start clocks intents).forwards n key ≤ 1 :=
    fun _ _ => Nat.zero_le 1
  rw [← run_iff_guarded (P := fun net : Multihop => ∀ n key, net.forwards n key ≤ 1) hstep
    (fun _ e h => Multihop.step_once_iff h e) hstart honce events]
  exact ⟨And.left, fun honce => ⟨honce, hrecorded.transmissions_le honce⟩⟩

/-- **A frame goes around a cycle again.** Two engines are each other's next hop. The first forwards
the frame, the second forwards it back, and the first forwards it once more: the copy has the second
engine's clock, which is later than the one it came with. -/
theorem cycle_forwards_again :
    let a : NodeId := ⟨.replicate 32 1⟩
    let b : NodeId := ⟨.replicate 32 2⟩
    let frame := { Frame.new { FrameHeader.new .intent a with clock := ⟨100, 0⟩ } .raw [] with
      traceId := some ⟨.replicate 8 7⟩ }
    let net := run (Multihop.step {a, b} fun n => if n = a then [b] else [a])
      (.start (fun _ => ⟨100, 0⟩) fun _ _ => false)
      [.inject a frame, .deliver 0, .deliver 0, .deliver 0]
    net.log.map (fun f => (f.node, f.hops)) = [(a, [b]), (b, [a]), (a, [b])] ∧
      net.forwards a (.fromFrame frame) = 2 := by
  decide +kernel

end AxiomCore
