import AxiomCore.Lib.Run
import AxiomCore.Node.Build

/-!
# Replies retrace the request

A request for a node that is not a direct peer travels through relays; each remembers where the
request came from, and the reply goes back the same way. The requester need not be known to any
relay but the first.

A `Topology` gives the nodes their identities, and for each pair of nodes the address under which
one sees the other. `Travels` is the way of a request through a list of relays, `Reaches` says that
a reply gets to the requester, whatever else happens on the way. In between, a relay handles frames
with other trace ids, and its tables change in ways that do not concern the request (`Spares`).

Source: `forge-node/src/network.rs`.
-/

namespace AxiomCore

open Lib Encoder Decoder List Function

/-! ## Nodes and traffic -/

/-- Who the nodes are, and how they see each other. -/
structure Topology (ι : Type*) where
  nodeId : ι → NodeId
  /-- Where the first node sends to reach the second, and where it sees its frames come from. -/
  addr : ι → ι → SocketAddr
  /-- Different nodes have different identities. -/
  nodeId_injective : Function.Injective nodeId
  /-- A node sees different nodes at different addresses. -/
  addr_injective : ∀ i, Function.Injective (addr i)

/-- What happens at a relay besides. -/
inductive Traffic where
  | routed (frame : Frame) (addr : SocketAddr) (now : Nat)
  | change (relay : Relay)

namespace Relay

def advance (r : Relay) : Traffic → Relay
  | .routed frame addr now => (r.tryForwardRoutedFrame frame addr now).2
  | .change relay => relay

/-- What concerns a request and its reply is as it was: the requester's address, the peers'
addresses, where the request came from, and what was recorded of it. -/
structure KeepsTrail (r r' : Relay) (traceId : TraceId) (requester : NodeId) : Prop where
  localNodeId : r'.localNodeId = r.localNodeId
  /-- The requester's address, if it is a direct peer. -/
  direct : r'.peerAddrs.lookup requester = r.peerAddrs.lookup requester
  known : ∀ addr, r.knowsAddr addr → r'.knowsAddr addr
  breadcrumb : r'.reverseRoutes.lookup traceId = r.reverseRoutes.lookup traceId
  recorded : ∀ frameType, (traceId, frameType) ∈ r'.forwardedFrames →
    (traceId, frameType) ∈ r.forwardedFrames

/-- Traffic that does not concern a request: frames with other trace ids, and changes of other
entries. -/
def Spares (traceId : TraceId) (requester : NodeId) (r : Relay) : Traffic → Prop
  | .routed frame _ _ => frame.traceId ≠ some traceId
  | .change relay => r.KeepsTrail relay traceId requester

variable {traceId other : TraceId} {r r' : Relay} {requester : NodeId}

lemma lookup_leaveBreadcrumb_self (r : Relay) {traceId : TraceId} {addr : SocketAddr} {now : Nat}
    (hroom : r.reverseRoutes.entries.length < reverseRoutesCapacity)
    (hunseen : r.reverseRoutes.lookup traceId = none) :
    (r.leaveBreadcrumb .intent traceId addr now).reverseRoutes.lookup traceId =
      some (addr, now) := by
  have hnew : traceId ∉ r.reverseRoutes := AList.lookup_eq_none.mp hunseen
  rw [leaveBreadcrumb, if_pos rfl, if_pos (.inl hroom), if_neg hnew]
  exact AList.lookup_insert _

lemma lookup_leaveBreadcrumb_of_ne (r : Relay) (frameType : FrameType)
    (h : traceId ≠ other) (addr : SocketAddr) (now : Nat) :
    (r.leaveBreadcrumb frameType other addr now).reverseRoutes.lookup traceId =
      r.reverseRoutes.lookup traceId := by
  unfold leaveBreadcrumb
  split_ifs
  · rfl
  · exact AList.lookup_insert_ne h
  · rfl
  · rfl

lemma KeepsTrail.refl (r : Relay) (traceId : TraceId) (requester : NodeId) :
    r.KeepsTrail r traceId requester :=
  ⟨rfl, rfl, fun _ h => h, rfl, fun _ h => h⟩

lemma KeepsTrail.trans {r'' : Relay}
    (h : r.KeepsTrail r' traceId requester) (h' : r'.KeepsTrail r'' traceId requester) :
    r.KeepsTrail r'' traceId requester :=
  ⟨h'.localNodeId.trans h.localNodeId, h'.direct.trans h.direct,
    fun addr haddr => h'.known addr (h.known addr haddr), h'.breadcrumb.trans h.breadcrumb,
    fun frameType hmem => h.recorded frameType (h'.recorded frameType hmem)⟩

lemma keepsTrail_record (h : traceId ≠ other)
    (frameType : FrameType) (requester : NodeId) :
    r.KeepsTrail (r.record (other, frameType)) traceId requester := by
  refine ⟨rfl, rfl, fun _ h => h, rfl, ?_⟩
  intro frameType' hmem
  rcases FifoSet.eq_or_mem_of_mem_insert hmem with heq | hold
  · exact absurd (congrArg Prod.fst heq) h
  · exact hold

lemma keepsTrail_leaveBreadcrumb
    (hkeeps : r.KeepsTrail r' traceId requester) (h : traceId ≠ other) (frameType : FrameType)
    (addr : SocketAddr) (now : Nat) :
    r.KeepsTrail (r'.leaveBreadcrumb frameType other addr now) traceId requester := by
  obtain ⟨hid, hpeers, hcache⟩ := leaveBreadcrumb_fields r' frameType other addr now
  refine ⟨hid.trans hkeeps.localNodeId, by rw [hpeers, hkeeps.direct], ?_, ?_, ?_⟩
  · intro addr' haddr
    rw [knowsAddr, hpeers]
    exact hkeeps.known addr' haddr
  · rw [lookup_leaveBreadcrumb_of_ne r' frameType h, hkeeps.breadcrumb]
  · intro frameType' hmem
    rw [hcache] at hmem
    exact hkeeps.recorded frameType' hmem

lemma keepsTrail_advance {e : Traffic}
    (h : r.Spares traceId requester e) : r.KeepsTrail (r.advance e) traceId requester := by
  cases e with
  | change relay => exact h
  | routed frame addr now =>
    have hrouted := r.routed_tryForwardRoutedFrame frame addr now
    simp only [advance]
    generalize r.tryForwardRoutedFrame frame addr now = out at hrouted ⊢
    -- what a frame leaves behind is under its own trace id
    have hother : ∀ {routing other}, r.Admitted frame addr routing other → traceId ≠ other :=
      fun hadmitted hsame => h (hadmitted.traced.trans (congrArg some hsame.symm))
    cases hrouted with
    | notConsumed => exact .refl ..
    | unknownSource => exact .refl ..
    | noTraceId => exact .refl ..
    | duplicate => exact .refl ..
    | ttlExhausted hadmitted => exact keepsTrail_record (hother hadmitted) _ _
    | noRoute hadmitted => exact keepsTrail_record (hother hadmitted) _ _
    | bounced hadmitted => exact keepsTrail_record (hother hadmitted) _ _
    | notEncoded hadmitted =>
      exact keepsTrail_leaveBreadcrumb (keepsTrail_record (hother hadmitted) _ _)
        (hother hadmitted) _ _ _
    | forwarded hadmitted =>
      exact keepsTrail_leaveBreadcrumb (keepsTrail_record (hother hadmitted) _ _)
        (hother hadmitted) _ _ _

lemma knowsAddr_of_routesTo_intent {destination : NodeId}
    {addr : SocketAddr} (h : r.RoutesTo .intent traceId destination addr) : r.knowsAddr addr := by
  rcases h with hdirect | ⟨-, hreply, -⟩ | ⟨-, -, -, hrelay⟩
  · exact knowsAddr_of_lookup hdirect
  · rcases hreply with h | h <;> cases h
  · exact knowsAddr_of_lookup hrelay

structure Unseen (r : Relay) (traceId : TraceId) : Prop where
  recorded : ∀ frameType, (traceId, frameType) ∉ r.forwardedFrames
  breadcrumb : r.reverseRoutes.lookup traceId = none

lemma Unseen.of_keepsTrail
    (h : r.Unseen traceId) (hkeeps : r.KeepsTrail r' traceId requester) : r'.Unseen traceId :=
  ⟨fun frameType hmem => h.recorded frameType (hkeeps.recorded frameType hmem),
    hkeeps.breadcrumb.trans h.breadcrumb⟩

end Relay

open Relay

/-! ## Answering -/

/-- The Intent arm: what is sent back to `addr`, if anything. `dispatch` is `dispatch_intent`. -/
def Relay.answerIntent (r : Relay) (frame : Frame) (addr : SocketAddr) (now : Nat)
    (dispatch : TraceId → Option RoutingExt → List UInt8) : Option (List UInt8) :=
  match (r.tryForwardRoutedFrame frame addr now).1, frame.header.frameType with
  | .notConsumed, .intent =>
    let relayedForUs := frame.routing.isSome
    if relayedForUs && !r.knowsAddr addr then none
    else
      match frame.traceId with
      | none => none
      | some traceId =>
        let replyRouting :=
          if relayedForUs then some ⟨frame.header.senderId, defaultRoutingTtl⟩ else none
        let reply := dispatch traceId replyRouting
        if reply.isEmpty then none else some reply
  | _, _ => none

variable {r : Relay} {frame : Frame} {addr : SocketAddr} {now : Nat} {traceId : TraceId}

lemma Relay.eq_dispatch_of_answerIntent
    {dispatch : TraceId → Option RoutingExt → List UInt8} {reply : List UInt8}
    (htrace : frame.traceId = some traceId) (hrouted : frame.routing.isSome)
    (h : r.answerIntent frame addr now dispatch = some reply) :
    reply = dispatch traceId (some ⟨frame.header.senderId, defaultRoutingTtl⟩) ∧ reply ≠ [] := by
  unfold answerIntent at h
  split at h
  · simp only [htrace, hrouted, if_true, Bool.true_and] at h
    split_ifs at h with hknown hempty
    cases h
    exact ⟨rfl, by simpa using hempty⟩
  · cases h

section Journey

variable {ι : Type*} [DecidableEq ι] (V : Verify) (T : Topology ι) (traceId : TraceId)
  (requester : ι)

/-! ## The way there and back -/

/-- None of this traffic concerns the request. -/
def Undisturbed (relays : ι → Relay) (es : List (ι × Traffic)) : Prop :=
  Guarded (stepAt Relay.advance)
    (fun relays e => (relays e.1).Spares traceId (T.nodeId requester) e.2) relays es

/-- **The way of the request**: `sender` sent `data`, and each relay of `path` handles what reaches
it and sends it to the next one, until it is under way from `last` to `receiver`. Before each hop
other traffic may come. `Ready` is asked of a relay when the request reaches it. -/
inductive Travels (Ready : ι → Relay → Prop) (receiver : ι) :
    (ι → Relay) → ι → List UInt8 → List ι → (ι → Relay) → ι → List UInt8 → Prop where
  | arrived {relays : ι → Relay} {sender : ι} {data : List UInt8} :
      Travels Ready receiver relays sender data [] relays sender data
  | forwarded {relays relays' : ι → Relay} {sender node last : ι} {data sent data' : List UInt8}
      {path : List ι} {es : List (ι × Traffic)} {frame : Frame} {relay : Relay} {now : Nat}
      (hothers : Undisturbed T traceId requester relays es)
      (hready : Ready node (run (stepAt Relay.advance) relays es node))
      (hframe : decodeVerifiedFrame V data = some frame)
      (hforward : (run (stepAt Relay.advance) relays es node).tryForwardRoutedFrame frame
        (T.addr node sender) now = (.forwarded (T.addr node (path.headD receiver)) sent, relay))
      (hrest : Travels Ready receiver (update (run (stepAt Relay.advance) relays es) node
        relay) node sent path relays' last data') :
      Travels Ready receiver relays sender data (node :: path) relays' last data'

/-- What `sender` sent to `addr` is the reply, and the requester takes it for itself. -/
def Arrives (reply : Frame) (relays : ι → Relay) (sender : ι) (addr : SocketAddr)
    (data : List UInt8) : Prop :=
  T.addr sender requester = addr ∧
    ∃ frame, decodeVerifiedFrame V data = some frame ∧ reply.AgreeUpToTtl frame ∧
      ∀ now, ((relays requester).tryForwardRoutedFrame frame (T.addr requester sender) now).1 =
        .notConsumed

/-- **The reply gets to the requester**, in some number of hops: whatever other traffic comes before
it, each relay that it reaches sends it on. -/
def Reaches (reply : Frame) : Nat → (ι → Relay) → ι → SocketAddr → List UInt8 → Prop
  | 0, relays, sender, addr, data => Arrives V T requester reply relays sender addr data
  | n + 1, relays, sender, addr, data =>
    Arrives V T requester reply relays sender addr data ∨
      ∃ node, T.addr sender node = addr ∧ ∀ es now, Undisturbed T traceId requester relays es →
        ∃ frame nextHop sent relay, decodeVerifiedFrame V data = some frame ∧
          (run (stepAt Relay.advance) relays es node).tryForwardRoutedFrame frame
            (T.addr node sender) now = (.forwarded nextHop sent, relay) ∧
          Reaches reply n (update (run (stepAt Relay.advance) relays es) node relay) node
            nextHop sent

variable {V T traceId requester}

variable {relays relays' : ι → Relay} {es : List (ι × Traffic)} {node downstream sender : ι}
  {trail : List ι} {frame reply : Frame} {relay : Relay} {now : Nat} {data : List UInt8}
  {ttl : UInt8}

lemma keepsTrail_run
    (h : Undisturbed T traceId requester relays es) (node : ι) :
    (relays node).KeepsTrail (run (stepAt Relay.advance) relays es node) traceId
      (T.nodeId requester) := by
  induction es generalizing relays with
  | nil => exact .refl ..
  | cons e es ih =>
    refine Relay.KeepsTrail.trans ?_ (ih h.2)
    by_cases hnode : node = e.1
    · subst hnode
      simpa [stepAt] using keepsTrail_advance h.1
    · simpa [stepAt, update_of_ne hnode] using Relay.KeepsTrail.refl ..

/-! ## The trail -/

variable (T traceId requester) in
/-- **What a relay has after it forwarded the request**, from one node to another. -/
structure OnTrail (relays : ι → Relay) (node upstream downstream : ι) : Prop where
  elsewhere : T.nodeId requester ≠ (relays node).localNodeId
  /-- If the requester is a direct peer, its address is right. -/
  direct : ∀ addr, (relays node).peerAddrs.lookup (T.nodeId requester) = some addr →
    addr = T.addr node requester
  /-- If it is not, the relay remembers where the request came from. -/
  breadcrumb : (relays node).peerAddrs.lookup (T.nodeId requester) = none → ∃ time,
    (relays node).reverseRoutes.lookup traceId = some (T.addr node upstream, time)
  fresh : ∀ frameType, frameType ≠ .intent → (traceId, frameType) ∉ (relays node).forwardedFrames
  /-- Where it sent the request is the address of a peer. -/
  known : (relays node).knowsAddr (T.addr node downstream)
  apart : T.addr node upstream ≠ T.addr node downstream

omit [DecidableEq ι] in
lemma OnTrail.of_keepsTrail {upstream : ι}
    (h : OnTrail T traceId requester relays node upstream downstream)
    (hkeeps : (relays node).KeepsTrail (relays' node) traceId (T.nodeId requester)) :
    OnTrail T traceId requester relays' node upstream downstream where
  elsewhere := by rw [hkeeps.localNodeId]; exact h.elsewhere
  direct := by rw [hkeeps.direct]; exact h.direct
  breadcrumb := by rw [hkeeps.breadcrumb, hkeeps.direct]; exact h.breadcrumb
  fresh frameType hreply hmem := h.fresh frameType hreply (hkeeps.recorded frameType hmem)
  known := hkeeps.known _ h.known
  apart := h.apart

variable (T traceId requester) in
/-- The relays that the request came through, the last one first, are on the trail. -/
def Trail (relays : ι → Relay) : ι → List ι → Prop
  | _, [] => True
  | downstream, node :: rest =>
    OnTrail T traceId requester relays node (rest.headD requester) downstream ∧
      Trail relays node rest

omit [DecidableEq ι] in
lemma Trail.of_keepsTrail
    (h : Trail T traceId requester relays downstream trail)
    (hkeeps : ∀ node ∈ trail,
      (relays node).KeepsTrail (relays' node) traceId (T.nodeId requester)) :
    Trail T traceId requester relays' downstream trail := by
  induction trail generalizing downstream with
  | nil => trivial
  | cons node rest ih =>
    exact ⟨h.1.of_keepsTrail (hkeeps node mem_cons_self),
      ih h.2 fun other hmem => hkeeps other (mem_cons_of_mem node hmem)⟩

lemma Trail.update
    (h : Trail T traceId requester relays downstream trail) (hnode : node ∉ trail) (relay : Relay) :
    Trail T traceId requester (update relays node relay) downstream trail := by
  apply h.of_keepsTrail
  intro other hmem
  have hne : other ≠ node := fun heq => hnode (heq ▸ hmem)
  rw [update_of_ne hne]
  exact .refl ..

variable (T requester) in
/-- A relay that has the right address of the requester, or none and room to remember the
request. -/
def ReadyFor (node : ι) (r : Relay) : Prop :=
  (r.peerAddrs.lookup (T.nodeId requester) = none →
      r.reverseRoutes.entries.length < reverseRoutesCapacity) ∧
    ∀ addr, r.peerAddrs.lookup (T.nodeId requester) = some addr → addr = T.addr node requester

lemma onTrail_of_forwarded {next : ι}
    {sent : List UInt8} (hunseen : (relays node).Unseen traceId)
    (hready : ReadyFor T requester node (relays node))
    (helsewhere : T.nodeId requester ≠ (relays node).localNodeId)
    (hintent : frame.header.frameType = .intent) (htrace : frame.traceId = some traceId)
    (hforward : (relays node).tryForwardRoutedFrame frame (T.addr node sender) now =
      (.forwarded (T.addr node next) sent, relay)) :
    OnTrail T traceId requester (update relays node relay) node sender next := by
  have hrouted := (relays node).routed_tryForwardRoutedFrame frame (T.addr node sender) now
  rw [hforward] at hrouted
  cases hrouted with
  | @forwarded routing other _ _ hadmitted hnew httl hroute haway hencode =>
    cases htrace.symm.trans hadmitted.traced
    rw [hintent] at hroute ⊢
    obtain ⟨hid, hpeers, hcache⟩ := leaveBreadcrumb_fields
      ((relays node).record (traceId, .intent)) .intent traceId (T.addr node sender) now
    constructor
    · rw [update_self, hid]
      exact helsewhere
    · rw [update_self, hpeers]
      exact hready.2
    · rw [update_self, hpeers]
      intro hdirect
      exact ⟨now, lookup_leaveBreadcrumb_self _ (hready.1 hdirect) hunseen.breadcrumb⟩
    · intro frameType hreply hmem
      rw [update_self, hcache] at hmem
      rcases FifoSet.eq_or_mem_of_mem_insert hmem with heq | hold
      · exact hreply (congrArg Prod.snd heq)
      · exact hunseen.recorded frameType hold
    · rw [update_self, knowsAddr, hpeers]
      exact knowsAddr_of_routesTo_intent (nextHop_eq_some_iff.mp hroute)
    · exact haway.symm

lemma localNodeId_hop
    {addr : SocketAddr} {outcome : Forwarding}
    (hids : ∀ other, (relays other).localNodeId = T.nodeId other)
    (hothers : Undisturbed T traceId requester relays es)
    (hforward : (run (stepAt Relay.advance) relays es node).tryForwardRoutedFrame frame addr now =
      (outcome, relay)) (other : ι) :
    (update (run (stepAt Relay.advance) relays es) node relay other).localNodeId =
      T.nodeId other := by
  have hkeeps := keepsTrail_run hothers
  by_cases hother : other = node
  · subst hother
    have hid := (tryForwardRoutedFrame_fields
      (run (stepAt Relay.advance) relays es other) frame addr now).1
    rw [hforward] at hid
    rw [update_self]
    exact hid.trans ((hkeeps other).localNodeId.trans (hids other))
  · rw [update_of_ne hother, (hkeeps other).localNodeId, hids]

variable (V T traceId requester) in
/-- The request is under way: it came along `trail`, the last relay first, and has `path` before
it. -/
structure Underway (receiver : ι) (relays : ι → Relay) (sender : ι) (data : List UInt8)
    (path trail : List ι) (frame : Frame) : Prop where
  decoded : decodeVerifiedFrame V data = some frame
  intent : frame.header.frameType = .intent
  traced : frame.traceId = some traceId
  ids : ∀ node, (relays node).localNodeId = T.nodeId node
  unseen : ∀ node ∈ path, (relays node).Unseen traceId
  /-- It comes to each of them once, and not back to the requester. -/
  nodup : (requester :: path).Nodup
  disjoint : ∀ node ∈ path, node ∉ trail
  sender_eq : trail.headD requester = sender
  /-- The relays it came from are on the trail. -/
  trail : Trail T traceId requester relays (path.headD receiver) trail

lemma Underway.hop {receiver : ι} {sent : List UInt8}
    {path : List ι}
    (h : Underway V T traceId requester receiver relays sender data (node :: path) trail frame)
    (hothers : Undisturbed T traceId requester relays es)
    (hready : ReadyFor T requester node (run (stepAt Relay.advance) relays es node))
    (hforward : (run (stepAt Relay.advance) relays es node).tryForwardRoutedFrame frame
      (T.addr node sender) now = (.forwarded (T.addr node (path.headD receiver)) sent, relay)) :
    Underway V T traceId requester receiver
      (update (run (stepAt Relay.advance) relays es) node relay) node sent path
      (node :: trail) (frame.afterHops 1) := by
  have hkeeps := keepsTrail_run hothers
  obtain ⟨hrequester, hnode, hpath⟩ : requester ∉ node :: path ∧ node ∉ path ∧ path.Nodup :=
    ⟨(nodup_cons.mp h.nodup).1, nodup_cons.mp (nodup_cons.mp h.nodup).2⟩
  have helsewhere : T.nodeId requester ≠
      (run (stepAt Relay.advance) relays es node).localNodeId := by
    rw [(hkeeps node).localNodeId, h.ids]
    exact fun heq => hrequester (T.nodeId_injective heq ▸ mem_cons_self)
  have honTrail := onTrail_of_forwarded
    ((h.unseen node mem_cons_self).of_keepsTrail (hkeeps node)) hready helsewhere h.intent
    h.traced hforward
  have hsent := decodeVerifiedFrame_afterHops h.decoded 1
  rw [← sent_of_forwarded h.decoded hforward] at hsent
  refine ⟨hsent, h.intent, h.traced, localNodeId_hop h.ids hothers hforward, ?_,
    nodup_cons.mpr ⟨fun hmem => hrequester (mem_cons_of_mem node hmem), hpath⟩, ?_, rfl,
    h.sender_eq ▸ honTrail, (h.trail.of_keepsTrail fun other _ => hkeeps other).update
      (h.disjoint node mem_cons_self) relay⟩
  · intro other hmem
    have hother : other ≠ node := fun heq => hnode (heq ▸ hmem)
    rw [update_of_ne hother]
    exact (h.unseen other (mem_cons_of_mem node hmem)).of_keepsTrail (hkeeps other)
  · intro other hmem
    rw [mem_cons, not_or]
    exact ⟨fun heq => hnode (heq ▸ hmem), h.disjoint other (mem_cons_of_mem node hmem)⟩

lemma underway_of_travels {receiver last : ι}
    {data' : List UInt8} {path : List ι}
    (htravels : Travels V T traceId requester (ReadyFor T requester) receiver relays sender data path
      relays' last data')
    (h : Underway V T traceId requester receiver relays sender data path trail frame) :
    Underway V T traceId requester receiver relays' last data' [] (path.reverse ++ trail)
      (frame.afterHops path.length) := by
  induction htravels generalizing frame trail with
  | arrived =>
    rw [length_nil, afterHops_zero]
    exact h
  | @forwarded relays relays' sender node last data sent data' path es found relay now hothers hready
      hfound hforward hrest ih =>
      cases h.decoded.symm.trans hfound
      rw [reverse_cons, append_assoc, length_cons, Nat.add_comm path.length,
        afterHops_add]
      exact ih (h.hop hothers hready hforward)

/-! ## The way back -/

omit [DecidableEq ι] in
lemma arrives
    (hdecoded : decodeVerifiedFrame V data = some frame)
    (hagrees : reply.AgreeUpToTtl frame)
    (hrouted : frame.routing = some ⟨T.nodeId requester, ttl⟩)
    (hid : (relays requester).localNodeId = T.nodeId requester) :
    Arrives V T requester reply relays sender (T.addr sender requester) data := by
  refine ⟨rfl, frame, hdecoded, hagrees, ?_⟩
  intro now
  simp only [tryForwardRoutedFrame, hrouted, hid, if_true]

lemma reaches_of_arrives {addr : SocketAddr}
    (h : Arrives V T requester reply relays sender addr data) (n : Nat) :
    Reaches V T traceId requester reply n relays sender addr data := by
  cases n with
  | zero => exact h
  | succ n => exact .inl h

variable (V T traceId requester) in
/-- The reply is under way to the relays of the trail. -/
structure Returning (reply : Frame) (relays : ι → Relay) (sender : ι) (data : List UInt8)
    (trail : List ι) (frame : Frame) (ttl : UInt8) : Prop where
  decoded : decodeVerifiedFrame V data = some frame
  agrees : reply.AgreeUpToTtl frame
  isReply : frame.header.frameType = .fulfill ∨ frame.header.frameType = .error
  traced : frame.traceId = some traceId
  routed : frame.routing = some ⟨T.nodeId requester, ttl⟩
  hops : trail.length ≤ ttl.toNat
  ids : ∀ node, (relays node).localNodeId = T.nodeId node
  away : requester ≠ sender
  nodup : (requester :: trail).Nodup
  trail : Trail T traceId requester relays sender trail

omit [DecidableEq ι] in
lemma OnTrail.forwards {upstream : ι}
    (h : OnTrail T traceId requester relays node upstream sender)
    (hdecoded : decodeVerifiedFrame V data = some frame)
    (hreply : frame.header.frameType = .fulfill ∨ frame.header.frameType = .error)
    (htraced : frame.traceId = some traceId)
    (hrouted : frame.routing = some ⟨T.nodeId requester, ttl⟩) (httl : ttl ≠ 0)
    (haway : requester ≠ sender) (now : Nat) :
    ∃ nextHop relay, (nextHop = T.addr node requester ∨ nextHop = T.addr node upstream) ∧
      (relays node).tryForwardRoutedFrame frame (T.addr node sender) now =
        (.forwarded nextHop (frame.afterHops 1).wireBytes, relay) := by
  have hadmitted : (relays node).Admitted frame (T.addr node sender) ⟨T.nodeId requester, ttl⟩
      traceId := ⟨hrouted, h.elsewhere, h.known, htraced⟩
  have hnew : (traceId, frame.header.frameType) ∉ (relays node).forwardedFrames := by
    refine h.fresh _ ?_
    rcases hreply with htype | htype <;> simp [htype]
  rcases hdirect : (relays node).peerAddrs.lookup (T.nodeId requester) with _ | direct
  · obtain ⟨time, hbreadcrumb⟩ := h.breadcrumb hdirect
    exact ⟨_, _, .inr rfl, tryForwardRoutedFrame_eq hdecoded hadmitted hnew httl
      (.breadcrumb hdirect hreply hbreadcrumb) h.apart now⟩
  obtain rfl := h.direct direct hdirect
  exact ⟨_, _, .inl rfl, tryForwardRoutedFrame_eq hdecoded hadmitted hnew httl
    (.direct hdirect) (fun heq => haway (T.addr_injective node heq)) now⟩

lemma reaches_of_returning
    (h : Returning V T traceId requester reply relays sender data trail frame ttl) :
    Reaches V T traceId requester reply trail.length relays sender
      (T.addr sender (trail.headD requester)) data := by
  induction trail generalizing relays sender data frame ttl with
  | nil => exact arrives h.decoded h.agrees h.routed (h.ids requester)
  | cons node rest ih =>
    refine .inr ⟨node, rfl, ?_⟩
    intro es now hothers
    have hkeeps := keepsTrail_run hothers
    obtain ⟨honTrail, htrail⟩ := h.trail.of_keepsTrail fun other _ => hkeeps other
    obtain ⟨hrequester, hnode, hrest⟩ : requester ∉ node :: rest ∧ node ∉ rest ∧ rest.Nodup :=
      ⟨(nodup_cons.mp h.nodup).1, nodup_cons.mp (nodup_cons.mp h.nodup).2⟩
    have hhops := h.hops
    rw [length_cons] at hhops
    have httl : ttl ≠ 0 := by
      rintro rfl
      simp at hhops
    have hless : (ttl - UInt8.ofNat 1).toNat = ttl.toNat - 1 := toNat_sub_ofNat ttl (by omega)
    obtain ⟨nextHop, relay, hnext, hforward⟩ :=
      honTrail.forwards h.decoded h.isReply h.traced h.routed httl h.away now
    have hsent := decodeVerifiedFrame_afterHops h.decoded 1
    have hrouted : (frame.afterHops 1).routing =
        some ⟨T.nodeId requester, ttl - UInt8.ofNat 1⟩ := by
      simp [Frame.afterHops, h.routed]
    have hagrees := h.agrees.trans (agreeUpToTtl_afterHops frame 1)
    have hids := localNodeId_hop h.ids hothers hforward
    refine ⟨frame, nextHop, _, relay, h.decoded, hforward, ?_⟩
    rcases hnext with rfl | rfl
    · -- the requester is a direct peer of this relay
      exact reaches_of_arrives (arrives hsent hagrees hrouted (hids requester)) _
    exact ih ⟨hsent, hagrees, h.isReply, h.traced, hrouted, by omega, hids,
      fun heq => hrequester (heq ▸ mem_cons_self),
      nodup_cons.mpr ⟨fun hmem => hrequester (mem_cons_of_mem node hmem), hrest⟩,
      htrail.update hnode relay⟩

end Journey

/-- **Replies retrace the request.** A request with a new trace id came through a chain of relays,
each of which has the right address of the requester or could remember the request, and the provider
answers it. Then the reply reaches the requester, whatever else the relays handle before and in between. -/
theorem reply_reaches_requester {ι : Type*} [DecidableEq ι] (V : Verify) (T : Topology ι)
    {traceId : TraceId} {requester provider last : ι} {path : List ι} {relays relays' : ι → Relay}
    {data data' : List UInt8} {frame frame' : Frame} {es : List (ι × Traffic)} {identity : Keypair}
    {replyType : FrameType} {payload reply : List UInt8} {now : Nat}
    (hids : ∀ node, (relays node).localNodeId = T.nodeId node)
    (hchain : (requester :: path ++ [provider]).Nodup)
    (hlength : path.length < defaultRoutingTtl.toNat)
    (hframe : decodeVerifiedFrame V data = some frame)
    (hintent : frame.header.frameType = .intent)
    (hsender : frame.header.senderId = T.nodeId requester) (hrouted : frame.routing.isSome)
    (htrace : frame.traceId = some traceId)
    (hunseen : ∀ node ∈ path, (relays node).Unseen traceId)
    (htravels : Travels V T traceId requester (ReadyFor T requester) provider relays requester data
      path relays' last data')
    (hothers : Undisturbed T traceId requester relays' es)
    (hframe' : decodeVerifiedFrame V data' = some frame')
    (hsigns : ∀ message, V identity.nodeId message (identity.sign message))
    (hreply : replyType = .fulfill ∨ replyType = .error)
    (hanswer : (run (stepAt Relay.advance) relays' es provider).answerIntent frame'
      (T.addr provider last) now (fun traceId routing =>
        buildSimpleFrame identity replyType traceId frame'.header.intentHash payload routing) =
          some reply) :
    Reaches V T traceId requester
      (signedSimpleFrame identity replyType traceId frame.header.intentHash payload
        (some ⟨T.nodeId requester, defaultRoutingTtl⟩))
      path.length (run (stepAt Relay.advance) relays' es) provider (T.addr provider last) reply := by
  have hnodup : (requester :: path).Nodup := (nodup_append.mp hchain).1
  have hend := underway_of_travels htravels ⟨hframe, hintent, htrace, hids, hunseen, hnodup,
    fun _ _ => not_mem_nil, rfl, trivial⟩
  rw [append_nil] at hend
  cases hend.decoded.symm.trans hframe'
  have hkeeps := keepsTrail_run hothers
  obtain ⟨rfl, hbuilt⟩ := eq_dispatch_of_answerIntent hend.traced
    (by simpa [Frame.afterHops] using hrouted) hanswer
  have hfits : payload.length ≤ maxPayloadSize := by
    by_contra hlong
    exact hbuilt (by rw [buildSimpleFrame_eq, if_neg hlong])
  have hencodable : replyType.Encodable := by
    rcases hreply with rfl | rfl <;> trivial
  have hlast : last = path.reverse.headD requester := hend.sender_eq.symm
  rw [← length_reverse, hlast]
  have hreturning : Returning V T traceId requester
      (signedSimpleFrame identity replyType traceId frame.header.intentHash payload
        (some ⟨T.nodeId requester, defaultRoutingTtl⟩))
      (run (stepAt Relay.advance) relays' es) provider
      (buildSimpleFrame identity replyType traceId frame.header.intentHash payload
        (some ⟨frame.header.senderId, defaultRoutingTtl⟩)) path.reverse
      (signedSimpleFrame identity replyType traceId frame.header.intentHash payload
        (some ⟨T.nodeId requester, defaultRoutingTtl⟩)) defaultRoutingTtl := by
    refine ⟨?_, ⟨rfl, rfl, rfl, rfl, rfl, rfl⟩, hreply, rfl, rfl, ?_, ?_, ?_, ?_, ?_⟩
    · rw [hsender]
      exact decodeVerifiedFrame_buildSimpleFrame hsigns hencodable hfits
    · rw [length_reverse]
      exact hlength.le
    · intro node
      exact (hkeeps node).localNodeId.trans (hend.ids node)
    · rintro rfl
      simp at hchain
    · simpa using hnodup
    · exact hend.trail.of_keepsTrail fun node _ => hkeeps node
  exact reaches_of_returning hreturning

/-- A relay that could not remember the request has no route for the reply, unless the requester is
a direct peer or known by gossip. -/
lemma no_route_back_at_capacity {requester : NodeId}
    (hfull : reverseRoutesCapacity ≤ r.reverseRoutes.entries.length)
    (hunseen : r.reverseRoutes.lookup traceId = none) (htrace : frame.traceId = some traceId)
    (hpeer : r.peerAddrs.lookup requester = none) (hvia : r.reachableVia requester = none)
    (replyType : FrameType) (back : SocketAddr) :
    ¬ (r.tryForwardRoutedFrame frame addr now).2.RoutesTo replyType traceId requester back := by
  have hnone : ∀ forwarded, ¬ { r with forwardedFrames := forwarded }.RoutesTo replyType traceId
      requester back := by
    rintro forwarded (hdirect | ⟨-, -, hcame⟩ | ⟨-, -, hheard, -⟩)
    · cases hpeer.symm.trans hdirect
    · cases hunseen.symm.trans hcame
    · cases hvia.symm.trans hheard
  have hleft : ∀ key frameType, (r.record key).leaveBreadcrumb frameType traceId addr now =
      r.record key := by
    intro key frameType
    have hnot : ¬ ((r.record key).reverseRoutes.entries.length < reverseRoutesCapacity ∨
        traceId ∈ (r.record key).reverseRoutes) :=
      not_or.mpr ⟨hfull.not_gt, AList.lookup_eq_none.mp hunseen⟩
    rw [leaveBreadcrumb, if_neg hnot, ite_self]
  have hrouted := r.routed_tryForwardRoutedFrame frame addr now
  generalize r.tryForwardRoutedFrame frame addr now = out at hrouted ⊢
  cases hrouted with
  | notConsumed | unknownSource | noTraceId | duplicate => exact hnone r.forwardedFrames
  | ttlExhausted | noRoute | bounced => exact hnone _
  | notEncoded hadmitted | forwarded hadmitted =>
    cases htrace.symm.trans hadmitted.traced
    rw [hleft]
    exact hnone _

/-! ## A line of four nodes -/

/-- The identities of the nodes: the requester, two relays and the provider. -/
def lineNode : Fin 4 → NodeId :=
  ![sampleOrigin, ⟨Vector.replicate 32 2⟩, ⟨Vector.replicate 32 3⟩, sampleProvider]

def line : Topology (Fin 4) where
  nodeId := lineNode
  addr _ node := sampleAddr (UInt8.ofNat node)
  nodeId_injective := by decide +kernel
  addr_injective _ := by decide +kernel

/-- Each node knows its neighbours; the second has heard of the provider from the third. The third
may have an old address of the requester. -/
def lineRelays (stale : Bool) : Fin 4 → Relay := fun node =>
  { localNodeId := lineNode node
    peerAddrs :=
      match node with
      | 0 => AList.insert (lineNode 1) (sampleAddr 1) ∅
      | 1 => AList.insert (lineNode 0) (sampleAddr 0) (.insert (lineNode 2) (sampleAddr 2) ∅)
      | 2 =>
        let neighbours :=
          AList.insert (lineNode 1) (sampleAddr 1) (.insert (lineNode 3) (sampleAddr 3) ∅)
        if stale then neighbours.insert (lineNode 0) (sampleAddr 99) else neighbours
      | 3 => AList.insert (lineNode 2) (sampleAddr 2) ∅
    forwardedFrames := .empty
    reachableVia := fun destination =>
      if node = 1 ∧ destination = lineNode 3 then some (lineNode 2, 0) else none
    reverseRoutes := ∅ }

def afterRequest (stale : Bool) : Fin 4 → Relay :=
  let relays := lineRelays stale
  update
    (update relays 1 ((relays 1).tryForwardRoutedFrame signedRequest (sampleAddr 0) 0).2) 2
    ((relays 2).tryForwardRoutedFrame (signedRequest.afterHops 1) (sampleAddr 1) 0).2

lemma relays_forward : ∀ stale,
    ((lineRelays stale 1).tryForwardRoutedFrame signedRequest (sampleAddr 0) 0).1 =
        .forwarded (sampleAddr 2) (signedRequest.afterHops 1).wireBytes ∧
      ((lineRelays stale 2).tryForwardRoutedFrame (signedRequest.afterHops 1) (sampleAddr 1) 0).1 =
        .forwarded (sampleAddr 3) ((signedRequest.afterHops 1).afterHops 1).wireBytes := by
  decide +kernel

variable (stale : Bool) (node : Fin 4)

lemma lineRelays_unseen : (lineRelays stale node).Unseen sampleTraceId :=
  ⟨fun _ hmem => absurd (FifoSet.mem_iff_mem_order.mp hmem) not_mem_nil, rfl⟩

lemma line_travels {Ready : Fin 4 → Relay → Prop}
    (hready : ∀ node, Ready node (lineRelays stale node)) :
    Travels echoVerify line sampleTraceId 0 Ready 3 (lineRelays stale) 0
      signedRequest.wireBytes [1, 2] (afterRequest stale) 2
      ((signedRequest.afterHops 1).afterHops 1).wireBytes := by
  have hquiet : ∀ relays : Fin 4 → Relay, Undisturbed line sampleTraceId 0 relays [] :=
    fun _ => trivial
  have hpair : ∀ {p : Forwarding × Relay} {outcome}, p.1 = outcome → p = (outcome, p.2) := by
    rintro p _ rfl
    rfl
  obtain ⟨hfirst, hsecond⟩ := relays_forward stale
  exact .forwarded (hquiet _) (hready 1) decodeVerifiedFrame_signedRequest (hpair hfirst)
    (.forwarded (hquiet _) (hready 2)
      (decodeVerifiedFrame_afterHops decodeVerifiedFrame_signedRequest 1) (hpair hsecond) .arrived)

lemma provider_answers : ∀ stale,
    (afterRequest stale 3).answerIntent ((signedRequest.afterHops 1).afterHops 1)
      (line.addr 3 2) 0 (fun traceId routing =>
        buildSimpleFrame provider .fulfill traceId echoHash [104, 105] routing) =
      some signedReply.wireBytes := by
  decide +kernel

/-- Only the first relay has the requester as a direct peer. -/
lemma requester_listed : ∀ node, (lineRelays false node).peerAddrs.lookup (lineNode 0) =
    if node = 1 then some (sampleAddr 0) else none := by
  decide +kernel

lemma readyFor_lineRelays : ReadyFor line 0 node (lineRelays false node) := by
  have hroom : 0 < reverseRoutesCapacity := by decide
  refine ⟨fun _ => hroom, ?_⟩
  intro addr haddr
  have hlisted := (requester_listed node).symm.trans haddr
  split_ifs at hlisted
  exact (Option.some.inj hlisted).symm

theorem reply_reaches_requester_line :
    Travels echoVerify line sampleTraceId 0 (ReadyFor line 0) 3 (lineRelays false) 0
        signedRequest.wireBytes [1, 2] (afterRequest false) 2
        ((signedRequest.afterHops 1).afterHops 1).wireBytes ∧
      Reaches echoVerify line sampleTraceId 0 signedReply 2 (afterRequest false) 3 (line.addr 3 2)
        signedReply.wireBytes := by
  have htravels := line_travels false readyFor_lineRelays
  have hquiet : Undisturbed line sampleTraceId 0 (afterRequest false) [] := trivial
  refine ⟨htravels, ?_⟩
  exact reply_reaches_requester echoVerify line (fun _ => rfl) (by decide) (by decide)
    decodeVerifiedFrame_signedRequest rfl rfl rfl rfl (fun node _ => lineRelays_unseen false node)
    htravels hquiet (decodeVerifiedFrame_afterHops
      (decodeVerifiedFrame_afterHops decodeVerifiedFrame_signedRequest 1) 1)
    echoVerify_provider (.inl rfl) (provider_answers false)

/-- **A stale address or a full table loses the reply.** The third node has an old address of the
requester as a direct peer. It remembers where the request came from, but sends the reply to the old
address. And if it has no address of the requester and its table of breadcrumbs is full, it has no
route for the reply. -/
theorem reply_lost_to_stale_address :
    let relays := lineRelays true
    let relays' := afterRequest true
    (∀ node, (relays node).localNodeId = line.nodeId node ∧
        (relays node).Unseen sampleTraceId) ∧
      Travels echoVerify line sampleTraceId 0 (fun _ _ => True) 3 relays 0 signedRequest.wireBytes
        [1, 2] relays' 2 ((signedRequest.afterHops 1).afterHops 1).wireBytes ∧
      (relays' 3).answerIntent ((signedRequest.afterHops 1).afterHops 1) (line.addr 3 2) 0
        (fun traceId routing =>
          buildSimpleFrame provider .fulfill traceId echoHash [104, 105] routing) =
        some signedReply.wireBytes ∧
      ¬ Reaches echoVerify line sampleTraceId 0 signedReply 8 relays' 3 (line.addr 3 2)
        signedReply.wireBytes ∧
      ∀ full, reverseRoutesCapacity ≤ full.entries.length → full.lookup sampleTraceId = none →
        ∀ replyType back, ¬ ({ lineRelays false 2 with reverseRoutes := full }.tryForwardRoutedFrame
          (signedRequest.afterHops 1) (sampleAddr 1) 0).2.RoutesTo replyType sampleTraceId
            (lineNode 0) back := by
  intro relays relays'
  have hunheard : (lineRelays false 2).reachableVia (lineNode 0) = none := by decide +kernel
  refine ⟨fun node => ⟨rfl, lineRelays_unseen _ node⟩, line_travels _ fun _ => trivial,
    provider_answers _, ?_, fun full hfull hunseen => no_route_back_at_capacity hfull hunseen rfl
      (requester_listed 2) hunheard⟩
  have hnowhere : ∀ node, line.addr 2 node ≠ sampleAddr 99 := by decide
  rintro (⟨hdirect, -⟩ | ⟨node, hnode, hnext⟩)
  · exact absurd hdirect (by decide)
  · obtain rfl : node = 2 := line.addr_injective 3 hnode
    obtain ⟨frame, nextHop, sent, relay, hframe, hforward, hrest⟩ := hnext [] 0 trivial
    have hrouted := (relays' 2).routed_tryForwardRoutedFrame frame (line.addr 2 3) 0
    rw [show (relays' 2).tryForwardRoutedFrame frame (line.addr 2 3) 0 =
      (.forwarded nextHop sent, relay) from hforward] at hrouted
    cases decodeVerifiedFrame_signedReply.symm.trans hframe
    cases hrouted with
    | @forwarded routing _ _ _ hadmitted hnew httl hroute haway hencode =>
      have hrouting : signedReply.routing = some ⟨lineNode 0, 8⟩ := rfl
      cases hrouting.symm.trans hadmitted.routed
      -- the table of direct peers comes first
      obtain rfl : sampleAddr 99 = nextHop := by
        have hstale : (afterRequest true 2).peerAddrs.lookup (lineNode 0) =
            some (sampleAddr 99) := by decide +kernel
        rcases nextHop_eq_some_iff.mp hroute with hdirect | ⟨hdirect, -⟩ | ⟨hdirect, -⟩
        · exact Option.some.inj (hstale.symm.trans hdirect)
        all_goals cases hstale.symm.trans hdirect
      rcases hrest with ⟨harrived, -⟩ | ⟨node, hnode, -⟩
      · exact hnowhere 0 harrived
      · exact hnowhere node hnode

end AxiomCore
