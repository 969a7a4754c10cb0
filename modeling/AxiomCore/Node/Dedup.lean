import AxiomCore.Lib.Run
import AxiomCore.Node.Build

/-!
# Suppressed duplicates

A relay records every frame that it is about to forward, under the frame's trace id and type, and
drops a frame if something is recorded under these. It records the frame before it knows whether the
frame can be forwarded, and the hop count is not signed. So a copy without hops left, or one that
arrives when there is no route, makes the relay drop the copy that it could forward.

`RelayLog` is a relay with a log of the frames it handled and what became of them; between two
frames its tables may change. `RecordedAs log key g`: what is recorded under `key` is `g`.

Source: `forge-node/src/network.rs`.
-/

namespace AxiomCore

open Lib Encoder Decoder Relay List

structure Handled where
  frame : Frame
  outcome : Forwarding

namespace Handled

def IsForwarded (h : Handled) : Prop := ∃ nextHop data, h.outcome = .forwarded nextHop data

/-- It was recorded, whatever became of it then. -/
def recorded (h : Handled) : Bool :=
  match h.outcome with
  | .ttlExhausted | .noRoute | .bounced | .notEncoded _ | .forwarded _ _ => true
  | .notConsumed | .unknownSource | .noTraceId | .duplicate => false

def HasKey (h : Handled) (key : TraceId × FrameType) : Prop :=
  h.frame.traceId = some key.1 ∧ h.frame.header.frameType = key.2

end Handled

/-- The last frame that was recorded under a key. -/
def RecordedAs (log : List Handled) (key : TraceId × FrameType) (g : Handled) : Prop :=
  ∃ before after, log = before ++ g :: after ∧ g.recorded ∧ g.HasKey key ∧
    ∀ h ∈ after, h.recorded → ¬ h.HasKey key

variable {log : List Handled} {h : Handled}

lemma recordedAs_concat_self {key : TraceId × FrameType}
    (hrecorded : h.recorded) (hkey : h.HasKey key) : RecordedAs (log ++ [h]) key h :=
  ⟨log, [], rfl, hrecorded, hkey, fun _ hmem => absurd hmem not_mem_nil⟩

lemma RecordedAs.concat {key : TraceId × FrameType} {g : Handled}
    (hg : RecordedAs log key g) (hother : h.recorded → ¬ h.HasKey key) :
    RecordedAs (log ++ [h]) key g := by
  obtain ⟨before, after, rfl, hrecorded, hkey, hafter⟩ := hg
  refine ⟨before, after ++ [h], by simp, hrecorded, hkey, ?_⟩
  intro h' hmem
  rcases mem_append.mp hmem with hold | hnew
  · exact hafter h' hold
  · rw [mem_singleton.mp hnew]
    exact hother

structure RelayLog where
  relay : Relay
  handled : List Handled

inductive RelayEvent where
  | receive (data : List UInt8) (addr : SocketAddr) (now : Nat)
  | retable (peerAddrs : AList fun _ : NodeId => SocketAddr)
      (reachableVia : NodeId → Option (NodeId × Nat))
      (reverseRoutes : AList fun _ : TraceId => SocketAddr × Nat)

namespace RelayLog

def start (relay : Relay) : RelayLog := ⟨{ relay with forwardedFrames := .empty }, []⟩

def entry (s : RelayLog) (frame : Frame) (addr : SocketAddr) (now : Nat) : Handled :=
  ⟨frame, (s.relay.tryForwardRoutedFrame frame addr now).1⟩

def handle (s : RelayLog) (frame : Frame) (addr : SocketAddr) (now : Nat) : RelayLog :=
  ⟨(s.relay.tryForwardRoutedFrame frame addr now).2, s.handled ++ [s.entry frame addr now]⟩

def step (V : Verify) (s : RelayLog) : RelayEvent → RelayLog
  | .receive data addr now =>
    match decodeVerifiedFrame V data with
    | none => s
    | some frame => s.handle frame addr now
  | .retable peerAddrs reachableVia reverseRoutes =>
    { s with relay := { s.relay with
        peerAddrs := peerAddrs
        reachableVia := reachableVia
        reverseRoutes := reverseRoutes } }

variable {V : Verify} {data : List UInt8} {frame : Frame}

lemma step_receive
    (hframe : decodeVerifiedFrame V data = some frame) (s : RelayLog) (addr : SocketAddr)
    (now : Nat) : s.step V (.receive data addr now) = s.handle frame addr now := by
  simp only [step, hframe]

/-! ## What a frame leaves in the cache and in the log -/

lemma handle_cases (s : RelayLog) (frame : Frame) (addr : SocketAddr) (now : Nat) :
    ((s.entry frame addr now).recorded = false ∧
        (s.handle frame addr now).relay.forwardedFrames = s.relay.forwardedFrames ∧
        ((s.entry frame addr now).outcome = .duplicate → ∃ routing traceId,
          s.relay.Admitted frame addr routing traceId ∧
          (traceId, frame.header.frameType) ∈ s.relay.forwardedFrames)) ∨
      ((s.entry frame addr now).recorded ∧ ∃ routing traceId,
        s.relay.Admitted frame addr routing traceId ∧
        (traceId, frame.header.frameType) ∉ s.relay.forwardedFrames ∧
        (s.handle frame addr now).relay.forwardedFrames =
          s.relay.forwardedFrames.insert (traceId, frame.header.frameType)) := by
  have hrouted := s.relay.routed_tryForwardRoutedFrame frame addr now
  unfold handle entry
  generalize s.relay.tryForwardRoutedFrame frame addr now = out at hrouted ⊢
  cases hrouted with
  | notConsumed | unknownSource => exact .inl ⟨rfl, rfl, nofun⟩
  | noTraceId => exact .inl ⟨rfl, rfl, nofun⟩
  | duplicate hadmitted hseen => exact .inl ⟨rfl, rfl, fun _ => ⟨_, _, hadmitted, hseen⟩⟩
  | ttlExhausted hadmitted hnew => exact .inr ⟨rfl, _, _, hadmitted, hnew, rfl⟩
  | noRoute hadmitted hnew => exact .inr ⟨rfl, _, _, hadmitted, hnew, rfl⟩
  | bounced hadmitted hnew => exact .inr ⟨rfl, _, _, hadmitted, hnew, rfl⟩
  | notEncoded hadmitted hnew =>
    exact .inr ⟨rfl, _, _, hadmitted, hnew, (leaveBreadcrumb_fields ..).2.2⟩
  | forwarded hadmitted hnew =>
    exact .inr ⟨rfl, _, _, hadmitted, hnew, (leaveBreadcrumb_fields ..).2.2⟩

/-! ## Genuine duplicates -/

def Deliverable (r : Relay) (frame : Frame) (addr : SocketAddr) (routing : RoutingExt)
    (traceId : TraceId) : Prop :=
  routing.ttl ≠ 0 ∧
    ∃ nextHop, r.RoutesTo frame.header.frameType traceId routing.destination nextHop ∧
      nextHop ≠ addr

/-- A frame whose key is new can be sent on; a frame whose key is recorded is the frame that was
recorded, up to the hop count. -/
def Expected (V : Verify) (s : RelayLog) : RelayEvent → Prop
  | .receive data addr _ =>
    ∀ frame routing traceId, decodeVerifiedFrame V data = some frame →
      s.relay.Admitted frame addr routing traceId →
        ((traceId, frame.header.frameType) ∉ s.relay.forwardedFrames →
            Deliverable s.relay frame addr routing traceId) ∧
          ((traceId, frame.header.frameType) ∈ s.relay.forwardedFrames →
            ∀ g, RecordedAs s.handled (traceId, frame.header.frameType) g →
              g.frame.AgreeUpToTtl frame)
  | .retable .. => True

/-- A frame was dropped as a duplicate only because this node had recorded the same frame up to the
hop count, and had sent it on. -/
def OnlyGenuine (s : RelayLog) : Prop :=
  ∀ (before : List Handled) (h : Handled) (after : List Handled),
    s.handled = before ++ h :: after → h.outcome = .duplicate →
    ∃ key g, h.HasKey key ∧ RecordedAs before key g ∧ g.IsForwarded ∧
      signatureData g.frame = signatureData h.frame

structure Faithful (s : RelayLog) : Prop where
  wellFormed : ∀ h ∈ s.handled, h.frame.WellFormed
  forwarded : ∀ key ∈ s.relay.forwardedFrames, ∃ g, RecordedAs s.handled key g ∧ g.IsForwarded
  genuine : s.OnlyGenuine

lemma mem_of_recordedAs {log : List Handled} {key : TraceId × FrameType} {g : Handled}
    (h : RecordedAs log key g) : g ∈ log := by
  obtain ⟨before, after, rfl, -⟩ := h
  simp

lemma faithful_handle {s : RelayLog}
    {addr : SocketAddr} {now : Nat} (hframe : decodeVerifiedFrame V data = some frame)
    (hs : s.Faithful) (hexpected : s.Expected V (.receive data addr now)) :
    (s.handle frame addr now).Faithful := by
  have hwf : frame.WellFormed :=
    (decode_eq_ok_iff.mp (decodeVerifiedFrame_eq_some_iff.mp hframe).1).1
  have hwellFormed : ∀ h ∈ (s.handle frame addr now).handled, h.frame.WellFormed := by
    intro h hmem
    rcases mem_append.mp hmem with hold | hnew
    · exact hs.wellFormed h hold
    · rw [mem_singleton.mp hnew]
      exact hwf
  rcases handle_cases s frame addr now with
    ⟨hnot, hcache, hduplicate⟩ | ⟨hrecorded, routing, traceId, hadmitted, hnew, hcache⟩
  · refine ⟨hwellFormed, ?_, ?_⟩
    · intro key hkey
      rw [hcache] at hkey
      obtain ⟨g, hg, hforwarded⟩ := hs.forwarded key hkey
      exact ⟨g, hg.concat fun h => absurd h (by simp [hnot]), hforwarded⟩
    · intro before h after hcut hdropped
      rcases concat_eq_append_cons hcut with ⟨rfl, rfl, -⟩ | ⟨front, -, hold⟩
      · -- the frame dropped now: what is recorded under its key was sent on
        obtain ⟨routing, traceId, hadmitted, hseen⟩ := hduplicate hdropped
        obtain ⟨g, hg, hforwarded⟩ := hs.forwarded _ hseen
        have hagree := (hexpected frame routing traceId hframe hadmitted).2 hseen g hg
        exact ⟨(traceId, frame.header.frameType), g, ⟨hadmitted.traced, rfl⟩, hg, hforwarded,
          signatureData_eq_of_agree (hs.wellFormed g (mem_of_recordedAs hg)) hwf hagree⟩
      · exact hs.genuine before h front hold hdropped
  · have hkey : (s.entry frame addr now).HasKey (traceId, frame.header.frameType) :=
      ⟨hadmitted.traced, rfl⟩
    have hforwarded : (s.entry frame addr now).IsForwarded := by
      obtain ⟨httl, nextHop, hroute, haway⟩ :=
        (hexpected frame routing traceId hframe hadmitted).1 hnew
      exact ⟨nextHop, _, congrArg Prod.fst
        (tryForwardRoutedFrame_eq hframe hadmitted hnew httl hroute haway now)⟩
    refine ⟨hwellFormed, ?_, ?_⟩
    · intro key hmem
      by_cases hsame : key = (traceId, frame.header.frameType)
      · exact ⟨_, recordedAs_concat_self hrecorded (hsame ▸ hkey), hforwarded⟩
      rw [hcache] at hmem
      rcases FifoSet.eq_or_mem_of_mem_insert hmem with heq | hold
      · exact absurd heq hsame
      obtain ⟨g, hg, hsent⟩ := hs.forwarded key hold
      refine ⟨g, hg.concat fun _ hother => hsame ?_, hsent⟩
      exact Prod.ext (Option.some.inj (hother.1.symm.trans hkey.1)) (hother.2.symm.trans hkey.2)
    · intro before h after hcut hdropped
      rcases concat_eq_append_cons hcut with ⟨rfl, rfl, -⟩ | ⟨front, -, hold⟩
      · -- what is sent on is not dropped
        obtain ⟨nextHop, sent, hsent⟩ := hforwarded
        cases hsent.symm.trans hdropped
      · exact hs.genuine before h front hold hdropped

lemma faithful_step (V : Verify) (s : RelayLog) (e : RelayEvent) (hs : s.Faithful)
    (hexpected : s.Expected V e) : (s.step V e).Faithful := by
  cases e with
  | receive data addr now =>
    rcases hframe : decodeVerifiedFrame V data with _ | frame
    · simpa only [step, hframe] using hs
    · rw [step_receive hframe]
      exact faithful_handle hframe hs hexpected
  | retable peerAddrs reachableVia reverseRoutes => exact ⟨hs.wellFormed, hs.forwarded, hs.genuine⟩

end RelayLog

open RelayLog

/-- **Only genuine duplicates are dropped**, in every run in which each frame that is recorded can
be sent on, and a frame with a recorded key is the recorded frame up to the hop count: a frame is
dropped as a duplicate only if this node recorded and sent on a frame with the same signed bytes. -/
theorem only_genuine_duplicates (V : Verify) (relay : Relay) {es : List RelayEvent}
    (hexpected : Guarded (RelayLog.step V) (RelayLog.Expected V) (.start relay) es) :
    (run (RelayLog.step V) (.start relay) es).OnlyGenuine := by
  have hstart : (RelayLog.start relay).Faithful := by
    constructor
    · intro h hmem
      exact absurd hmem not_mem_nil
    · intro key hkey
      exact absurd (FifoSet.mem_iff_mem_order.mp hkey) not_mem_nil
    · intro before h after hcut
      exact absurd hcut (by simp [RelayLog.start])
  exact (run_invariant_of_guarded (faithful_step V) hstart hexpected).genuine

def middleRelay : Relay where
  localNodeId := ⟨Vector.replicate 32 2⟩
  peerAddrs := (AList.singleton sampleOrigin (sampleAddr 1)).insert sampleProvider (sampleAddr 3)
  forwardedFrames := .empty
  reachableVia _ := none
  reverseRoutes := ∅

lemma admitted_signedRequest {frame : Frame} {addr : SocketAddr} {routing : RoutingExt}
    {traceId : TraceId} {relay : Relay}
    (hframe : decodeVerifiedFrame echoVerify signedRequest.wireBytes = some frame)
    (hadmitted : relay.Admitted frame addr routing traceId) :
    frame = signedRequest ∧ routing = ⟨sampleProvider, 8⟩ ∧ traceId = sampleTraceId := by
  cases decodeVerifiedFrame_signedRequest.symm.trans hframe
  have hrouted : signedRequest.routing = some ⟨sampleProvider, 8⟩ := rfl
  have htraced : signedRequest.traceId = some sampleTraceId := rfl
  exact ⟨rfl, Option.some.inj (hadmitted.routed.symm.trans hrouted),
    Option.some.inj (hadmitted.traced.symm.trans htraced)⟩

theorem only_genuine_duplicates_retransmit :
    Guarded (RelayLog.step echoVerify) (RelayLog.Expected echoVerify) (.start middleRelay)
        [.receive signedRequest.wireBytes (sampleAddr 1) 0,
          .receive signedRequest.wireBytes (sampleAddr 1) 1] ∧
      (run (RelayLog.step echoVerify) (.start middleRelay)
        [.receive signedRequest.wireBytes (sampleAddr 1) 0,
          .receive signedRequest.wireBytes (sampleAddr 1) 1]).OnlyGenuine := by
  have hroute : (RelayLog.start middleRelay).relay.RoutesTo .intent sampleTraceId sampleProvider
      (sampleAddr 3) := .direct (AList.lookup_insert _)
  have hempty : (sampleTraceId, FrameType.intent) ∉
      (RelayLog.start middleRelay).relay.forwardedFrames := by
    decide +kernel
  have hguarded : Guarded (RelayLog.step echoVerify) (RelayLog.Expected echoVerify)
      (.start middleRelay) [.receive signedRequest.wireBytes (sampleAddr 1) 0,
        .receive signedRequest.wireBytes (sampleAddr 1) 1] := by
    refine ⟨?_, ?_, trivial⟩
    · intro frame routing traceId hframe hadmitted
      obtain ⟨rfl, rfl, rfl⟩ := admitted_signedRequest hframe hadmitted
      exact ⟨fun _ => ⟨by decide, sampleAddr 3, hroute, by decide⟩,
        fun hseen => absurd hseen hempty⟩
    · rw [step_receive decodeVerifiedFrame_signedRequest]
      intro frame routing traceId hframe hadmitted
      obtain ⟨rfl, rfl, rfl⟩ := admitted_signedRequest hframe hadmitted
      refine ⟨fun hnew => absurd ?_ hnew, fun _ g hg => ?_⟩
      · decide +kernel
      · rw [mem_singleton.mp (mem_of_recordedAs hg)]
        exact ⟨rfl, rfl, rfl, rfl, rfl, rfl⟩
  exact ⟨hguarded, only_genuine_duplicates echoVerify middleRelay hguarded⟩

/-- **A deliverable copy is dropped.** A copy of the request without hops left, then the request:
the relay drops both, the second as a duplicate. -/
theorem deliverable_copy_is_dropped :
    let s := run (RelayLog.step echoVerify) (.start middleRelay)
      [.receive (signedRequest.afterHops 8).wireBytes (sampleAddr 1) 0,
        .receive signedRequest.wireBytes (sampleAddr 1) 1]
    s.handled.map (·.outcome) = [.ttlExhausted, .duplicate] ∧ ¬ s.OnlyGenuine := by
  intro s
  have houtcomes : s.handled.map (·.outcome) = [.ttlExhausted, .duplicate] := by decide +kernel
  refine ⟨houtcomes, ?_⟩
  intro hgenuine
  obtain ⟨first, rest, hfirst, hexhausted, hrest⟩ := map_eq_cons_iff.mp houtcomes
  obtain ⟨second, tail, rfl, hduplicate, htail⟩ := map_eq_cons_iff.mp hrest
  obtain rfl := map_eq_nil_iff.mp htail
  obtain ⟨key, g, -, hg, ⟨nextHop, data, hforwarded⟩, -⟩ :=
    hgenuine [first] second [] hfirst hduplicate
  rw [mem_singleton.mp (mem_of_recordedAs hg), hexhausted] at hforwarded
  cases hforwarded

/-! ## What the cache is for -/

def cacheAfter (keys : List (TraceId × FrameType)) : ForwardedFrameCache :=
  keys.foldl FifoSet.insert .empty

/-- **A frame is not forgotten early.** After any calls of `insert`, the set has the elements of the
queue, which has none twice and not too many. A key that was new when it was inserted is in the
cache until as many others were new after it as the cache has places. -/
theorem forwarded_frames_remembered (keys : List (TraceId × FrameType)) :
    (cacheAfter keys).seen = (cacheAfter keys).order.toFinset ∧ (cacheAfter keys).order.Nodup ∧
      (cacheAfter keys).order.length ≤ forwardDedupCapacity ∧
      ∀ before key later, keys = before ++ key :: later → key ∉ cacheAfter before →
        key ∉ cacheAfter keys →
          forwardDedupCapacity ≤
            (((cacheAfter (before ++ [key])).newly later).toFinset.erase key).card := by
  refine ⟨(cacheAfter keys).seen_eq, (cacheAfter keys).nodup, (cacheAfter keys).bounded, ?_⟩
  rintro before key later rfl hnew hleft
  obtain ⟨front, back, horder, hback⟩ := FifoSet.recent_insert_self hnew (by decide)
  obtain rfl := length_eq_zero_iff.mp (Nat.le_zero.mp hback)
  rw [cacheAfter, foldl_append, foldl_cons] at hleft
  rw [cacheAfter, foldl_append, foldl_cons, foldl_nil]
  exact FifoSet.capacity_le_newly later horder hleft

end AxiomCore
