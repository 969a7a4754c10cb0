import AxiomCore.Lib.Run
import AxiomCore.Node.Forward

/-!
# A mesh of relays

Any number of nodes and any frames under way between them. Frames are delivered in any order, to any
node, from any address, or get lost; nothing is delivered twice. Between two deliveries the tables
of a node may become anything: the mesh knows of no topology.

A frame that a relay sends on descends from the frame that was injected. `Mesh` keeps, besides the
relays and what is under way, a log of what was sent on.

`routed_frames_die`: a frame that was injected is sent on at most as often as it has hops; each copy
that is sent on has fewer hops left than the copy received, and does not go back to where that came
from.

The measure is the number of copies sent on plus the hops left under way (`Mesh.spent`). No event
raises it, but for the injection itself.
-/

namespace AxiomCore

open Lib Encoder Decoder List

def hopsLeft (V : Verify) (data : List UInt8) : Nat :=
  (((decodeVerifiedFrame V data).bind (·.routing)).map (·.ttl.toNat)).getD 0

lemma hopsLeft_eq {V : Verify} {data : List UInt8} {frame : Frame} {routing : RoutingExt}
    (h : decodeVerifiedFrame V data = some frame) (hrouting : frame.routing = some routing) :
    hopsLeft V data = routing.ttl.toNat := by
  simp [hopsLeft, h, hrouting]

/-! ## The mesh -/

structure Packet where
  data : List UInt8
  /-- Which injected frame it descends from. -/
  injection : Nat

structure Transmission where
  /-- Which injected frame it descends from. -/
  injection : Nat
  arrival : SocketAddr
  received : List UInt8
  nextHop : SocketAddr
  sent : List UInt8

/-- The copy sent is the copy received but for the hop count, which is smaller, and it does not go
back. -/
def Transmission.Descends (V : Verify) (t : Transmission) : Prop :=
  t.nextHop ≠ t.arrival ∧
    ∃ frame forwarded routing forwardedRouting,
      decodeVerifiedFrame V t.received = some frame ∧ frame.routing = some routing ∧
      decodeVerifiedFrame V t.sent = some forwarded ∧
      forwarded.routing = some forwardedRouting ∧
      frame.AgreeUpToTtl forwarded ∧ forwardedRouting.ttl < routing.ttl

structure Mesh (ι : Type*) where
  relays : ι → Relay
  /-- The frames that were injected, in order. -/
  injected : List (List UInt8)
  inFlight : List Packet
  /-- What was sent on, in order. -/
  transmissions : List Transmission

inductive MeshEvent (ι : Type*) where
  | inject (data : List UInt8)
  /-- A frame under way reaches a node. -/
  | deliver (index : Nat) (node : ι) (addr : SocketAddr) (now : Nat)
  | lose (index : Nat)
  | retable (node : ι) (relay : Relay)

namespace Mesh

variable {ι : Type*} [DecidableEq ι]

def start (relays : ι → Relay) : Mesh ι := ⟨relays, [], [], []⟩

/-- A node handles a frame. Source: `forge-node/src/network.rs`,
`NetworkManager::start_receive_loop`, `handle_axiom_frame`. -/
def receive (V : Verify) (s : Mesh ι) (packet : Packet) (node : ι) (addr : SocketAddr) (now : Nat) :
    Mesh ι :=
  match decodeVerifiedFrame V packet.data with
  | none => s
  | some frame =>
    let (outcome, relay) := (s.relays node).tryForwardRoutedFrame frame addr now
    let s := { s with relays := Function.update s.relays node relay }
    match outcome with
    | .forwarded nextHop data =>
      { s with
        inFlight := s.inFlight ++ [⟨data, packet.injection⟩]
        transmissions :=
          s.transmissions ++ [⟨packet.injection, addr, packet.data, nextHop, data⟩] }
    | _ => s

def step (V : Verify) (s : Mesh ι) : MeshEvent ι → Mesh ι
  | .inject data =>
    { s with
      injected := s.injected ++ [data]
      inFlight := s.inFlight ++ [⟨data, s.injected.length⟩] }
  | .deliver index node addr now =>
    match s.inFlight[index]? with
    | none => s
    | some packet =>
      receive V { s with inFlight := s.inFlight.eraseIdx index } packet node addr now
  | .lose index => { s with inFlight := s.inFlight.eraseIdx index }
  | .retable node relay => { s with relays := Function.update s.relays node relay }

variable (V : Verify) (s : Mesh ι) (e : MeshEvent ι)

lemma receive_cases (packet : Packet) (node : ι) (addr : SocketAddr) (now : Nat) :
    (∃ relays, s.receive V packet node addr now = { s with relays := relays }) ∨
      ∃ relays nextHop sent,
        Transmission.Descends V ⟨packet.injection, addr, packet.data, nextHop, sent⟩ ∧
        hopsLeft V sent + 1 = hopsLeft V packet.data ∧
        s.receive V packet node addr now =
          { s with
            relays := relays
            inFlight := s.inFlight ++ [⟨sent, packet.injection⟩]
            transmissions :=
              s.transmissions ++ [⟨packet.injection, addr, packet.data, nextHop, sent⟩] } := by
  unfold receive
  rcases hframe : decodeVerifiedFrame V packet.data with _ | frame
  · exact .inl ⟨s.relays, rfl⟩
  have hrouted := (s.relays node).routed_tryForwardRoutedFrame frame addr now
  dsimp only
  generalize (s.relays node).tryForwardRoutedFrame frame addr now = out at hrouted ⊢
  cases hrouted with
  | @forwarded routing traceId nextHop sent hadmitted hnew httl hroute haway hencode =>
    have hrouting := hadmitted.routed
    have hleft : 1 ≤ routing.ttl.toNat :=
      Nat.pos_of_ne_zero fun hzero => httl (UInt8.toNat_inj.mp hzero)
    rw [reencode_eq hframe hrouting] at hencode
    cases hencode
    have hsent := decodeVerifiedFrame_afterHops hframe 1
    have hsentRouting : (frame.afterHops 1).routing =
        some { routing with ttl := routing.ttl - UInt8.ofNat 1 } := by
      simp [Frame.afterHops, hrouting]
    have hless : (routing.ttl - UInt8.ofNat 1).toNat = routing.ttl.toNat - 1 :=
      toNat_sub_ofNat _ hleft
    refine .inr ⟨_, nextHop, (frame.afterHops 1).wireBytes, ⟨haway, frame, _, routing, _, hframe,
      hrouting, hsent, hsentRouting, agreeUpToTtl_afterHops frame 1, ?_⟩, ?_, rfl⟩
    · rw [UInt8.lt_iff_toNat_lt, hless]
      omega
    · rw [hopsLeft_eq hsent hsentRouting, hopsLeft_eq hframe hrouting, hless]
      omega
  | _ => exact .inl ⟨_, rfl⟩

/-! ## The measure -/

/-- Hops left in a frame under way, if it descends from the injected frame. -/
def hopsFrom (V : Verify) (injection : Nat) (packet : Packet) : Nat :=
  if packet.injection = injection then hopsLeft V packet.data else 0

/-- Copies of an injected frame that were sent on, plus the hops they have left. -/
def spent (V : Verify) (s : Mesh ι) (injection : Nat) : Nat :=
  s.transmissions.countP (·.injection = injection) +
    (s.inFlight.map (hopsFrom V injection)).sum

/-- No injected frame has spent more than it has hops, and there is nothing of a frame that was not
injected. -/
def WithinBudget (V : Verify) (s : Mesh ι) : Prop :=
  ∀ injection, s.spent V injection ≤ ((s.injected[injection]?).map (hopsLeft V)).getD 0

omit [DecidableEq ι] in
lemma sum_eraseIdx (f : Packet → Nat) {index : Nat} {packet : Packet}
    (h : s.inFlight[index]? = some packet) :
    f packet + ((s.inFlight.eraseIdx index).map f).sum = (s.inFlight.map f).sum := by
  obtain ⟨hlt, rfl⟩ := List.getElem?_eq_some_iff.mp h
  have hperm := (getElem_cons_eraseIdx_perm hlt).map f
  simpa using hperm.sum_eq

lemma withinBudget_inject (data : List UInt8) (h : s.WithinBudget V) :
    (s.step V (.inject data)).WithinBudget V := by
  intro injection
  have hold := h injection
  simp only [step, spent, map_append, map_singleton, sum_append, sum_singleton,
    hopsFrom] at hold ⊢
  rcases lt_trichotomy injection s.injected.length with hlt | rfl | hgt
  · rw [getElem?_append_left hlt, if_neg hlt.ne']
    omega
  · -- the frame that is injected now: nothing of it was there before
    rw [getElem?_eq_none (le_refl _), Option.map_none, Option.getD_none] at hold
    rw [getElem?_concat_length, if_pos rfl, Option.map_some, Option.getD_some]
    omega
  · rw [getElem?_eq_none hgt.le, Option.map_none, Option.getD_none] at hold
    rw [if_neg hgt.ne]
    omega

lemma withinBudget_deliver (index : Nat) (node : ι) (addr : SocketAddr) (now : Nat)
    (h : s.WithinBudget V) :
    (s.step V (.deliver index node addr now)).WithinBudget V := by
  rcases hpacket : s.inFlight[index]? with _ | packet
  · simpa only [step, hpacket] using h
  intro injection
  have hold := h injection
  have hsum := sum_eraseIdx s (hopsFrom V injection) hpacket
  simp only [step, hpacket]
  rcases receive_cases V { s with inFlight := s.inFlight.eraseIdx index } packet node addr now with
    ⟨relays, hreceive⟩ | ⟨relays, nextHop, sent, -, hhops, hreceive⟩
  · rw [hreceive]
    simp only [spent] at hold ⊢
    omega
  -- one copy more, one hop less
  rw [hreceive]
  simp only [spent, countP_append, countP_singleton, map_append,
    map_singleton, sum_append, sum_singleton, hopsFrom, decide_eq_true_eq]
    at hold hsum ⊢
  split_ifs at hold hsum ⊢ <;> omega

lemma withinBudget_step (h : s.WithinBudget V) : (s.step V e).WithinBudget V := by
  cases e with
  | inject data => exact withinBudget_inject V s data h
  | deliver index node addr now => exact withinBudget_deliver V s index node addr now h
  | lose index =>
    rcases hpacket : s.inFlight[index]? with _ | packet
    · have hsame : s.inFlight.eraseIdx index = s.inFlight :=
        eraseIdx_of_length_le (List.getElem?_eq_none_iff.mp hpacket)
      simpa only [step, hsame] using h
    intro injection
    have hold := h injection
    have hsum := sum_eraseIdx s (hopsFrom V injection) hpacket
    simp only [step, spent] at hold ⊢
    omega
  | retable node relay => exact h

lemma descends_step (h : ∀ t ∈ s.transmissions, t.Descends V) :
    ∀ t ∈ (s.step V e).transmissions, t.Descends V := by
  cases e with
  | inject data => exact h
  | deliver index node addr now =>
    rcases hpacket : s.inFlight[index]? with _ | packet
    · simpa only [step, hpacket] using h
    simp only [step, hpacket]
    rcases receive_cases V { s with inFlight := s.inFlight.eraseIdx index } packet node addr now
      with ⟨relays, hreceive⟩ | ⟨relays, nextHop, sent, hnew, -, hreceive⟩
    · simpa only [hreceive] using h
    intro t ht
    rw [hreceive] at ht
    rcases mem_append.mp ht with hold | hlast
    · exact h t hold
    · rw [mem_singleton.mp hlast]
      exact hnew
  | lose index => exact h
  | retable node relay => exact h

end Mesh

/-- **Routed frames die.** Whatever the tables of the nodes are and become, and in whatever order
frames are delivered: a frame that was injected is sent on at most as often as it has hops, every
copy that a relay sends on is the copy it received with a smaller hop count, and no copy goes back
to the address it came from. -/
theorem routed_frames_die {ι : Type*} [DecidableEq ι] (V : Verify) (relays : ι → Relay)
    (es : List (MeshEvent ι)) :
    let s := run (Mesh.step V) (.start relays) es
    (∀ injection data, s.injected[injection]? = some data →
        s.transmissions.countP (·.injection = injection) ≤ hopsLeft V data) ∧
      ∀ t ∈ s.transmissions, t.injection < s.injected.length ∧ t.Descends V := by
  intro s
  have hstart : (Mesh.start relays).WithinBudget V := fun _ => Nat.zero_le _
  have hbudget : s.WithinBudget V := run_invariant (Mesh.withinBudget_step V) hstart es
  have hdescends : ∀ t ∈ s.transmissions, t.Descends V :=
    run_invariant (I := fun s : Mesh ι => ∀ t ∈ s.transmissions, t.Descends V)
      (Mesh.descends_step V) (fun t ht => absurd ht not_mem_nil) es
  constructor
  · intro injection data hdata
    have hspent := hbudget injection
    rw [hdata, Option.map_some, Option.getD_some] at hspent
    exact (Nat.le_add_right _ _).trans hspent
  · intro t ht
    refine ⟨?_, hdescends t ht⟩
    by_contra hnone
    have hspent := hbudget t.injection
    rw [getElem?_eq_none (not_lt.mp hnone), Option.map_none, Option.getD_none] at hspent
    have hcount : 0 < s.transmissions.countP (·.injection = t.injection) :=
      countP_pos_iff.mpr ⟨t, ht, decide_eq_true rfl⟩
    rw [Mesh.spent] at hspent
    omega

end AxiomCore
