import AxiomCore.Node.Build
import AxiomCore.Node.Gossip
import AxiomCore.Router.Query

/-!
# Requests and their replies

A node that asks another one for a capability leaves an entry under a fresh trace id in
`pending_intents`, sends the Intent, and waits on a channel. The receive loops take the entry when a
Fulfill or an Error with that trace id arrives, and answer on the channel if its sender is the one
that was asked.

Source: `forge-node/src/network.rs`.
-/

namespace AxiomCore

open Lib List Function

/-! ## Where a request goes -/

inductive IntentCall where
  | direct (capability : String)
  | via (relay destination : NodeId) (capability : String)

inductive RequestError where
  | noProvider (capability : String)
  /-- The provider has no known address and no known relay. -/
  | noRoute (provider : NodeId) (capability : String)
  | relayUnknown (relay : NodeId)
  | notBuilt
  | notSent
  | returnedError (sender : NodeId) (reason : String)
  | channelClosed
  | timedOut (sender : NodeId)
  deriving DecidableEq

structure RequestTables where
  semanticRouter : SemanticRouter
  reputation : Reputation
  peers : NodeId → Option SocketAddr
  /-- The relay for a node that is no direct peer. -/
  reachableVia : NodeId → Option NodeId

structure RequestPlan where
  expectedSender : NodeId
  addr : SocketAddr
  routing : Option RoutingExt

/-- `request_intent_via` up to the trace id. -/
def RequestTables.planVia (tables : RequestTables) (relay destination : NodeId) :
    Except RequestError RequestPlan :=
  match tables.peers relay with
  | none => .error (.relayUnknown relay)
  | some relayAddr => .ok ⟨destination, relayAddr, some ⟨destination, defaultRoutingTtl⟩⟩

namespace IntentCall

def capability : IntentCall → String
  | .direct capability => capability
  | .via _ _ capability => capability

def plan (blake3 : List UInt8 → Digest) (tables : RequestTables) :
    IntentCall → Except RequestError RequestPlan
  | .via relay destination _ => tables.planVia relay destination
  | .direct capability =>
    let intent := SemanticRouter.Intent.fromStr blake3 capability
    match (tables.semanticRouter.discover tables.reputation intent).head? with
    | none => .error (.noProvider capability)
    | some candidate =>
      match tables.peers candidate.agent with
      | some addr => .ok ⟨candidate.agent, addr, none⟩
      | none =>
        match tables.reachableVia candidate.agent with
        | none => .error (.noRoute candidate.agent capability)
        | some relay => tables.planVia relay candidate.agent

def provider (blake3 : List UInt8 → Digest) (tables : RequestTables) : IntentCall → Option NodeId
  | .via _ destination _ => some destination
  | .direct capability =>
    (tables.semanticRouter.discover tables.reputation (.fromStr blake3 capability)).head?.map
      (·.agent)

lemma provider_of_plan {blake3 : List UInt8 → Digest} {tables : RequestTables} {call : IntentCall}
    {plan : RequestPlan} (h : call.plan blake3 tables = .ok plan) :
    call.provider blake3 tables = some plan.expectedSender := by
  have hvia : ∀ relay destination, tables.planVia relay destination = .ok plan →
      plan.expectedSender = destination := by
    intro relay destination hplan
    unfold RequestTables.planVia at hplan
    split at hplan
    · cases hplan
    · rw [← Except.ok.inj hplan]
  cases call with
  | via relay destination capability => exact congrArg some (hvia relay destination h).symm
  | direct capability =>
    unfold IntentCall.plan at h
    unfold provider
    dsimp only at h ⊢
    split at h
    · cases h
    next candidate hcandidate =>
    rw [hcandidate, Option.map_some]
    split at h
    · rw [← Except.ok.inj h]
    split at h
    · cases h
    · next relay _ => rw [hvia relay candidate.agent h]

end IntentCall

/-! ## Tasks -/

/-- A one-shot channel, as its receiver finds it. -/
inductive ReplyChannel where
  | empty
  /-- The payload of a Fulfill, or the text of an Error. -/
  | sent (reply : Except String (List UInt8))
  | closed
  deriving DecidableEq

inductive IntentStage where
  /-- Its entry is in the table. -/
  | inserted
  | waiting
  /-- It is about to remove its entry and to fail. -/
  | removing (error : RequestError)
  | returned (result : Except RequestError (List UInt8))
  deriving DecidableEq

structure IntentRequest where
  traceId : TraceId
  expectedSender : NodeId
  addr : SocketAddr
  /-- The Intent, or nothing if it could not be built. -/
  frameBytes : List UInt8
  channel : ReplyChannel
  stage : IntentStage

def IntentRequest.goTo (request : IntentRequest) (stage : IntentStage) : IntentRequest :=
  { request with stage := stage }

def IntentRequest.Returned (request : IntentRequest) : Prop :=
  ∃ result, request.stage = .returned result

structure PendingIntent where
  expectedSender : NodeId
  tx : Nat
  deriving DecidableEq

/-- How far the arm of a Fulfill or an Error is. -/
inductive ReplyStage where
  /-- It waits for the lock. -/
  | verified
  /-- It has removed this entry. -/
  | holding (pending : PendingIntent)
  | done
  deriving DecidableEq

structure ReplyArm where
  frame : Frame
  traceId : TraceId
  stage : ReplyStage

structure IntentClient where
  requests : List IntentRequest
  pending : TraceId → Option PendingIntent
  arms : List ReplyArm
  /-- The requests that were answered on their channel, in order. -/
  answered : List Nat

inductive IntentEvent where
  /-- A request is made, with what it reads and the trace id it draws. -/
  | request (call : IntentCall) (payload : List UInt8) (tables : RequestTables) (traceId : TraceId)
  | send (i : Nat) (accepted : Bool)
  | wake (i : Nat)
  | timeout (i : Nat)
  /-- A request removes its entry and returns. -/
  | remove (i : Nat)
  | receive (data : List UInt8) (addr : SocketAddr) (relay : Relay) (now : Nat)
  /-- An arm removes the entry of its trace id. -/
  | take (a : Nat)
  /-- An arm answers on the channel, or drops it. -/
  | answer (a : Nat)

namespace IntentClient

def new : IntentClient := ⟨[], fun _ => none, [], []⟩

def setRequest (s : IntentClient) (i : Nat) (request : IntentRequest) : IntentClient :=
  { s with requests := s.requests.set i request }

def setArm (s : IntentClient) (a : Nat) (arm : ReplyArm) : IntentClient :=
  { s with arms := s.arms.set a arm }

def unpend (s : IntentClient) (traceId : TraceId) : IntentClient :=
  { s with pending := update s.pending traceId none }

/-- A request up to the insertion of its entry. One that fails at once leaves nothing behind. -/
def insert (blake3 : List UInt8 → Digest) (identity : Keypair) (s : IntentClient)
    (call : IntentCall) (payload : List UInt8) (tables : RequestTables) (traceId : TraceId) :
    IntentClient :=
  match call.plan blake3 tables with
  | .error _ => s
  | .ok plan =>
    { s with
      requests := s.requests ++ [{
        traceId := traceId
        expectedSender := plan.expectedSender
        addr := plan.addr
        frameBytes := buildIntentFrame identity (capabilityHash blake3 call.capability) traceId
          payload plan.routing
        channel := .empty
        stage := .inserted }]
      pending := update s.pending traceId
        (some ⟨plan.expectedSender, s.requests.length⟩) }

def send (s : IntentClient) (i : Nat) (accepted : Bool) : IntentClient :=
  match s.requests[i]? with
  | none => s
  | some request =>
    if request.stage = .inserted then
      s.setRequest i (request.goTo
        (if request.frameBytes.isEmpty then .removing .notBuilt
        else if accepted then .waiting
        else .removing .notSent))
    else s

def wake (s : IntentClient) (i : Nat) : IntentClient :=
  match s.requests[i]? with
  | none => s
  | some request =>
    if request.stage = .waiting then
      match request.channel with
      | .empty => s
      | .sent (.ok payload) => s.setRequest i (request.goTo (.returned (.ok payload)))
      | .sent (.error reason) =>
        s.setRequest i (request.goTo
          (.returned (.error (.returnedError request.expectedSender reason))))
      | .closed => s.setRequest i (request.goTo (.removing .channelClosed))
    else s

def timeout (s : IntentClient) (i : Nat) : IntentClient :=
  match s.requests[i]? with
  | none => s
  | some request =>
    if request.stage = .waiting ∧ request.channel = .empty then
      s.setRequest i (request.goTo (.removing (.timedOut request.expectedSender)))
    else s.wake i

def remove (s : IntentClient) (i : Nat) : IntentClient :=
  match s.requests[i]? with
  | none => s
  | some request =>
    match request.stage with
    | .removing error =>
      (s.unpend request.traceId).setRequest i (request.goTo (.returned (.error error)))
    | _ => s

/-- A datagram arrives: only a Fulfill or an Error that verifies, is not routed to another node and
has a trace id gets to the table. -/
def receive (V : Verify) (s : IntentClient) (data : List UInt8) (addr : SocketAddr) (relay : Relay)
    (now : Nat) : IntentClient :=
  match decodeVerifiedFrame V data with
  | none => s
  | some frame =>
    match (relay.tryForwardRoutedFrame frame addr now).1, frame.header.frameType,
      frame.traceId with
    | .notConsumed, .fulfill, some traceId
    | .notConsumed, .error, some traceId =>
      { s with arms := s.arms ++ [⟨frame, traceId, .verified⟩] }
    | _, _, _ => s

def take (s : IntentClient) (a : Nat) : IntentClient :=
  match s.arms[a]? with
  | none => s
  | some arm =>
    if arm.stage = .verified then
      match s.pending arm.traceId with
      | none => s.setArm a { arm with stage := .done }
      | some pending =>
        (s.unpend arm.traceId).setArm a { arm with stage := .holding pending }
    else s

def reply (fromUtf8Lossy : List UInt8 → String) (frame : Frame) : Except String (List UInt8) :=
  match frame.header.frameType with
  | .fulfill => .ok frame.payload
  | _ => .error (fromUtf8Lossy frame.payload)

/-- An arm answers on the channel, or drops it if another node than the expected one has signed. -/
def answer (fromUtf8Lossy : List UInt8 → String) (s : IntentClient) (a : Nat) : IntentClient :=
  match s.arms[a]? with
  | none => s
  | some arm =>
    match arm.stage with
    | .holding pending =>
      match s.requests[pending.tx]? with
      | none => s
      | some request =>
        if pending.expectedSender = arm.frame.header.senderId then
          { (s.setArm a { arm with stage := .done }).setRequest pending.tx
              { request with channel := .sent (reply fromUtf8Lossy arm.frame) } with
            answered := s.answered ++ [pending.tx] }
        else
          (s.setArm a { arm with stage := .done }).setRequest pending.tx
            { request with channel := .closed }
    | _ => s

def step (blake3 : List UInt8 → Digest) (V : Verify) (fromUtf8Lossy : List UInt8 → String)
    (identity : Keypair) (s : IntentClient) : IntentEvent → IntentClient
  | .request call payload tables traceId => s.insert blake3 identity call payload tables traceId
  | .send i accepted => s.send i accepted
  | .wake i => s.wake i
  | .timeout i => s.timeout i
  | .remove i => s.remove i
  | .receive data addr relay now => s.receive V data addr relay now
  | .take a => s.take a
  | .answer a => s.answer fromUtf8Lossy a

/-! ## What a step does -/

inductive ClientMove (blake3 : List UInt8 → Digest) (V : Verify)
    (fromUtf8Lossy : List UInt8 → String) (s : IntentClient) :
    IntentEvent → IntentClient → Prop where
  | idle {e : IntentEvent} : ClientMove blake3 V fromUtf8Lossy s e s
  | inserted {call : IntentCall} {payload : List UInt8} {tables : RequestTables}
      (request : IntentRequest)
      (hprovider : call.provider blake3 tables = some request.expectedSender)
      (hchannel : request.channel = .empty) (hstage : request.stage = .inserted) :
      ClientMove blake3 V fromUtf8Lossy s (.request call payload tables request.traceId)
        { s with
          requests := s.requests ++ [request]
          pending := update s.pending request.traceId
            (some ⟨request.expectedSender, s.requests.length⟩) }
  /-- A request goes on; it returns only with what is on its channel. -/
  | advanced {e : IntentEvent} {i : Nat} {request : IntentRequest} {stage : IntentStage}
      (hrequest : s.requests[i]? = some request) (hstage : ¬ request.Returned)
      (hnext : ∀ result, stage = .returned result → request.channel ≠ .empty ∧
        ∀ payload, result = .ok payload → request.channel = .sent (.ok payload)) :
      ClientMove blake3 V fromUtf8Lossy s e (s.setRequest i (request.goTo stage))
  /-- A request removes its entry and fails. -/
  | removed {e : IntentEvent} {i : Nat} {request : IntentRequest} {error : RequestError}
      (hrequest : s.requests[i]? = some request) (hstage : request.stage = .removing error) :
      ClientMove blake3 V fromUtf8Lossy s e
        ((s.unpend request.traceId).setRequest i (request.goTo (.returned (.error error))))
  | received {data : List UInt8} {addr : SocketAddr} {relay : Relay} {now : Nat} {frame : Frame}
      {traceId : TraceId} (hframe : decodeVerifiedFrame V data = some frame)
      (htrace : frame.traceId = some traceId) :
      ClientMove blake3 V fromUtf8Lossy s (.receive data addr relay now)
        { s with arms := s.arms ++ [⟨frame, traceId, .verified⟩] }
  | missed {e : IntentEvent} {a : Nat} {arm : ReplyArm} (harm : s.arms[a]? = some arm) :
      ClientMove blake3 V fromUtf8Lossy s e (s.setArm a { arm with stage := .done })
  | taken {a : Nat} {arm : ReplyArm} {pending : PendingIntent} (harm : s.arms[a]? = some arm)
      (hstage : arm.stage = .verified) (hpending : s.pending arm.traceId = some pending) :
      ClientMove blake3 V fromUtf8Lossy s (.take a)
        ((s.unpend arm.traceId).setArm a { arm with stage := .holding pending })
  | replied {e : IntentEvent} {a : Nat} {arm : ReplyArm} {pending : PendingIntent}
      {request : IntentRequest} (harm : s.arms[a]? = some arm)
      (hstage : arm.stage = .holding pending) (hrequest : s.requests[pending.tx]? = some request)
      (hsender : pending.expectedSender = arm.frame.header.senderId) :
      ClientMove blake3 V fromUtf8Lossy s e
        { (s.setArm a { arm with stage := .done }).setRequest pending.tx
            { request with channel := .sent (reply fromUtf8Lossy arm.frame) } with
          answered := s.answered ++ [pending.tx] }
  | dropped {e : IntentEvent} {a : Nat} {arm : ReplyArm} {pending : PendingIntent}
      {request : IntentRequest} (harm : s.arms[a]? = some arm)
      (hstage : arm.stage = .holding pending)
      (hrequest : s.requests[pending.tx]? = some request) :
      ClientMove blake3 V fromUtf8Lossy s e
        ((s.setArm a { arm with stage := .done }).setRequest pending.tx
          { request with channel := .closed })

section Steps

variable {blake3 : List UInt8 → Digest} {V : Verify} {fromUtf8Lossy : List UInt8 → String}
  {s : IntentClient} {e : IntentEvent}

lemma clientMove_insert (identity : Keypair) (call : IntentCall)
    (payload : List UInt8) (tables : RequestTables) (traceId : TraceId) :
    ClientMove blake3 V fromUtf8Lossy s (.request call payload tables traceId)
      (s.insert blake3 identity call payload tables traceId) := by
  unfold insert
  rcases hplan : call.plan blake3 tables with error | plan
  · exact .idle
  · exact .inserted ⟨traceId, plan.expectedSender, plan.addr, _, .empty, .inserted⟩
      (IntentCall.provider_of_plan hplan) rfl rfl

variable (i a : Nat)

lemma clientMove_send (accepted : Bool) :
    ClientMove blake3 V fromUtf8Lossy s e (s.send i accepted) := by
  unfold send
  split
  · exact .idle
  next request hrequest =>
  by_cases hstage : request.stage = .inserted
  · rw [if_pos hstage]
    refine .advanced hrequest ?_ ?_
    · rintro ⟨result, hreturned⟩
      rw [hstage] at hreturned
      cases hreturned
    · intro result hresult
      split at hresult
      · cases hresult
      split at hresult
      · cases hresult
      · cases hresult
  · rw [if_neg hstage]
    exact .idle

lemma clientMove_wake : ClientMove blake3 V fromUtf8Lossy s e (s.wake i) := by
  unfold wake
  split
  · exact .idle
  next request hrequest =>
  split_ifs with hstage
  · have hnot : ¬ request.Returned := by
      rintro ⟨result, hreturned⟩
      rw [hstage] at hreturned
      cases hreturned
    split
    · exact .idle
    · next payload hchannel =>
      refine .advanced hrequest hnot ?_
      rintro result ⟨⟩
      refine ⟨by simp [hchannel], ?_⟩
      rintro payload' ⟨⟩
      exact hchannel
    · next reason hchannel =>
      refine .advanced hrequest hnot ?_
      rintro result ⟨⟩
      exact ⟨by simp [hchannel], nofun⟩
    · exact .advanced hrequest hnot nofun
  · exact .idle

lemma clientMove_timeout : ClientMove blake3 V fromUtf8Lossy s e (s.timeout i) := by
  unfold timeout
  split
  · exact .idle
  next request hrequest =>
  split_ifs with h
  · refine .advanced hrequest ?_ nofun
    rintro ⟨result, hreturned⟩
    rw [h.1] at hreturned
    cases hreturned
  · exact clientMove_wake i

lemma clientMove_remove : ClientMove blake3 V fromUtf8Lossy s e (s.remove i) := by
  unfold remove
  split
  · exact .idle
  next request hrequest =>
  split
  · next error hstage => exact .removed hrequest hstage
  · exact .idle

lemma clientMove_receive (data : List UInt8) (addr : SocketAddr) (relay : Relay) (now : Nat) :
    ClientMove blake3 V fromUtf8Lossy s (.receive data addr relay now)
      (s.receive V data addr relay now) := by
  unfold receive
  split
  · exact .idle
  next frame hframe =>
  split
  · next htrace => exact .received hframe htrace
  · next htrace => exact .received hframe htrace
  · exact .idle

lemma clientMove_take : ClientMove blake3 V fromUtf8Lossy s (.take a) (s.take a) := by
  unfold take
  split
  · exact .idle
  next arm harm =>
  split_ifs with hstage
  · split
    · exact .missed harm
    · next pending hpending => exact .taken harm hstage hpending
  · exact .idle

lemma clientMove_answer : ClientMove blake3 V fromUtf8Lossy s e (s.answer fromUtf8Lossy a) := by
  unfold answer
  split
  · exact .idle
  next arm harm =>
  split
  · next pending hstage =>
    split
    · exact .idle
    next request hrequest =>
    split_ifs with hsender
    · exact .replied harm hstage hrequest hsender
    · exact .dropped harm hstage hrequest
  · exact .idle

lemma clientMove_step (blake3 : List UInt8 → Digest) (V : Verify)
    (fromUtf8Lossy : List UInt8 → String) (identity : Keypair) (s : IntentClient)
    (e : IntentEvent) :
    ClientMove blake3 V fromUtf8Lossy s e (s.step blake3 V fromUtf8Lossy identity e) := by
  cases e with
  | request call payload tables traceId =>
    exact clientMove_insert identity call payload tables traceId
  | send i accepted => exact clientMove_send i accepted
  | wake i => exact clientMove_wake i
  | timeout i => exact clientMove_timeout i
  | remove i => exact clientMove_remove i
  | receive data addr relay now => exact clientMove_receive data addr relay now
  | take a => exact clientMove_take a
  | answer a => exact clientMove_answer a

end Steps

/-! ## What every step keeps -/

def Holds (s : IntentClient) (a : Nat) (pending : PendingIntent) : Prop :=
  ∃ arm, s.arms[a]? = some arm ∧ arm.stage = .holding pending

/-- An entry belongs to a request that waits; the channel of a request is in one place, and it is
used once. -/
structure Coherent (s : IntentClient) : Prop where
  /-- Every entry is that of a request that has not returned and was not answered. -/
  entry : ∀ t pending, s.pending t = some pending →
    ∃ request, s.requests[pending.tx]? = some request ∧ request.traceId = t ∧
      request.expectedSender = pending.expectedSender ∧ ¬ request.Returned ∧
      request.channel = .empty
  /-- An arm holds the channel of a request that was not answered. -/
  held : ∀ a pending, s.Holds a pending →
    pending.tx ∉ s.answered ∧
      ∃ request, s.requests[pending.tx]? = some request ∧ request.channel = .empty
  alone : ∀ a a' pending pending', s.Holds a pending → s.Holds a' pending' →
    pending.tx = pending'.tx → a = a'
  /-- A channel that is in the table was not used, and no arm holds it. -/
  unused : ∀ t pending, s.pending t = some pending →
    pending.tx ∉ s.answered ∧ ∀ a pending', s.Holds a pending' → pending'.tx ≠ pending.tx
  distinct : ∀ (i j : Nat) (request request' : IntentRequest), s.requests[i]? = some request →
    s.requests[j]? = some request' → request.traceId = request'.traceId → i = j
  once : s.answered.Nodup
  known : ∀ i ∈ s.answered, i < s.requests.length

variable {s : IntentClient}

variable {pending : PendingIntent}

lemma pending_of_unpend {t traceId : TraceId}
    (h : (s.unpend traceId).pending t = some pending) :
    t ≠ traceId ∧ s.pending t = some pending := by
  unfold unpend at h
  by_cases ht : t = traceId
  · subst ht
    simp at h
  · exact ⟨ht, by simpa [ht] using h⟩

lemma holds_setArm_cases {a b : Nat} {arm : ReplyArm}
    (h : (s.setArm a arm).Holds b pending) :
    (b = a ∧ arm.stage = .holding pending) ∨ (b ≠ a ∧ s.Holds b pending) := by
  obtain ⟨arm', harm', hstage⟩ := h
  rcases getElem?_set_cases harm' with ⟨rfl, rfl⟩ | ⟨hne, hold⟩
  · exact .inl ⟨rfl, hstage⟩
  · exact .inr ⟨hne, arm', hold, hstage⟩

namespace Coherent

lemma new : IntentClient.new.Coherent where
  entry := by simp [IntentClient.new]
  held := by simp [IntentClient.new, Holds]
  alone := by simp [IntentClient.new, Holds]
  unused := by simp [IntentClient.new]
  distinct := by simp [IntentClient.new]
  once := by simp [IntentClient.new]
  known := by simp [IntentClient.new]

variable {i a : Nat} {request : IntentRequest} {pending : PendingIntent} {arm : ReplyArm}

lemma pending_eq_none (h : s.Coherent)
    (hrequest : s.requests[i]? = some request)
    (hdone : request.Returned ∨ request.channel ≠ .empty) : s.pending request.traceId = none := by
  rw [Option.eq_none_iff_forall_ne_some]
  intro pending hpending
  obtain ⟨request', hrequest', htrace, -, hreturned, hchannel⟩ := h.entry _ _ hpending
  obtain rfl := h.distinct _ _ _ _ hrequest hrequest' htrace.symm
  cases hrequest.symm.trans hrequest'
  rcases hdone with hdone | hdone
  · exact hreturned hdone
  · exact hdone hchannel

lemma unpend (h : s.Coherent) (traceId : TraceId) : (s.unpend traceId).Coherent where
  entry t pending hpending := h.entry t pending (pending_of_unpend hpending).2
  held := h.held
  alone := h.alone
  unused t pending hpending := h.unused t pending (pending_of_unpend hpending).2
  distinct := h.distinct
  once := h.once
  known := h.known

lemma setRequest (h : s.Coherent) {request' : IntentRequest}
    (hrequest : s.requests[i]? = some request) (htrace : request'.traceId = request.traceId)
    (hsender : request'.expectedSender = request.expectedSender)
    (hentry : ∀ t pending, s.pending t = some pending → pending.tx = i →
      ¬ request'.Returned ∧ request'.channel = .empty)
    (hheld : ∀ a pending, s.Holds a pending → pending.tx = i → request'.channel = .empty) :
    (s.setRequest i request').Coherent where
  entry := by
    intro t pending hpending
    obtain ⟨old, hold, htraceOld, hsenderOld, hreturned, hchannel⟩ := h.entry t pending hpending
    by_cases hi : pending.tx = i
    · obtain ⟨hreturned', hchannel'⟩ := hentry t pending hpending hi
      rw [hi, hrequest] at hold
      cases hold
      rw [hi]
      exact ⟨request', getElem?_set_of_some hrequest, htrace.trans htraceOld,
        hsender.trans hsenderOld, hreturned', hchannel'⟩
    · refine ⟨old, ?_, htraceOld, hsenderOld, hreturned, hchannel⟩
      exact (getElem?_set_ne (Ne.symm hi)).trans hold
  held := by
    intro a pending hholds
    obtain ⟨hanswered, old, hold, hchannel⟩ := h.held a pending hholds
    refine ⟨hanswered, ?_⟩
    by_cases hi : pending.tx = i
    · rw [hi]
      exact ⟨request', getElem?_set_of_some hrequest, hheld a pending hholds hi⟩
    · exact ⟨old, (getElem?_set_ne (Ne.symm hi)).trans hold, hchannel⟩
  alone := h.alone
  unused := h.unused
  distinct := by
    -- the trace id of a request does not change
    have hsame : ∀ (j : Nat) (new : IntentRequest),
        (s.setRequest i request').requests[j]? = some new →
          ∃ old : IntentRequest, s.requests[j]? = some old ∧ new.traceId = old.traceId := by
      intro j new hnew
      rcases getElem?_set_cases hnew with ⟨rfl, rfl⟩ | ⟨-, hold⟩
      · exact ⟨request, hrequest, htrace⟩
      · exact ⟨new, hold, rfl⟩
    intro j k new new' hnew hnew' heq
    obtain ⟨old, hold, htraceOld⟩ := hsame j new hnew
    obtain ⟨old', hold', htraceOld'⟩ := hsame k new' hnew'
    exact h.distinct j k old old' hold hold' (htraceOld.symm.trans (heq.trans htraceOld'))
  once := h.once
  known i hi := Nat.lt_of_lt_of_eq (h.known i hi) (length_set ..).symm

lemma withArms (h : s.Coherent) {arms : List ReplyArm}
    (hholds : ∀ a pending, Holds { s with arms := arms } a pending → s.Holds a pending) :
    Coherent { s with arms := arms } where
  entry := h.entry
  held a pending ha := h.held a pending (hholds a pending ha)
  alone a b pending pending' ha hb :=
    h.alone a b pending pending' (hholds a pending ha) (hholds b pending' hb)
  unused t pending hpending := ⟨(h.unused t pending hpending).1, fun a pending' ha =>
    (h.unused t pending hpending).2 a pending' (hholds a pending' ha)⟩
  distinct := h.distinct
  once := h.once
  known := h.known

lemma setArm_done (h : s.Coherent) (a : Nat) (arm : ReplyArm) :
    (s.setArm a { arm with stage := .done }).Coherent := by
  apply h.withArms
  intro b pending hb
  rcases holds_setArm_cases hb with ⟨-, hstage⟩ | ⟨-, hold⟩
  · cases hstage
  · exact hold

lemma channel_of_holds (h : s.Coherent)
    (ha : s.Holds a pending)
    (hrequest : s.requests[pending.tx]? = some request) : request.channel = .empty := by
  obtain ⟨-, old, hold, hempty⟩ := h.held a pending ha
  cases hrequest.symm.trans hold
  exact hempty

lemma insert (h : s.Coherent) (hchannel : request.channel = .empty)
    (hstage : request.stage = .inserted)
    (hfresh : ∀ old ∈ s.requests, old.traceId ≠ request.traceId) :
    Coherent { s with
      requests := s.requests ++ [request]
      pending := update s.pending request.traceId
        (some ⟨request.expectedSender, s.requests.length⟩) } := by
  have hnew : (s.requests ++ [request])[s.requests.length]? = some request := by simp
  have hlt : ∀ {i old}, s.requests[i]? = some old → i < s.requests.length := fun hold =>
    (List.getElem?_eq_some_iff.mp hold).1
  have hpending : ∀ t pending, update s.pending request.traceId
      (some ⟨request.expectedSender, s.requests.length⟩) t = some pending →
      (t = request.traceId ∧ pending = ⟨request.expectedSender, s.requests.length⟩) ∨
        s.pending t = some pending := by
    intro t pending ht
    by_cases heq : t = request.traceId
    · subst heq
      exact .inl ⟨rfl, by simpa using ht.symm⟩
    · exact .inr (by simpa [heq] using ht)
  refine ⟨fun t pending ht => ?_, fun a pending ha => ?_, h.alone, fun t pending ht => ?_,
    fun i j old old' hold hold' heq => ?_, h.once, fun i hi => ?_⟩
  · rcases hpending t pending ht with ⟨rfl, rfl⟩ | hold
    · refine ⟨request, hnew, rfl, rfl, ?_, hchannel⟩
      rintro ⟨result, hreturned⟩
      rw [hstage] at hreturned
      cases hreturned
    · obtain ⟨old, hget, hrest⟩ := h.entry t pending hold
      exact ⟨old, getElem?_concat_of_some hget, hrest⟩
  · obtain ⟨hanswered, old, hget, hempty⟩ := h.held a pending ha
    exact ⟨hanswered, old, getElem?_concat_of_some hget, hempty⟩
  · rcases hpending t pending ht with ⟨rfl, rfl⟩ | hold
    · refine ⟨fun hmem => Nat.lt_irrefl _ (h.known _ hmem), fun a pending' ha heq => ?_⟩
      obtain ⟨-, old, hget, -⟩ := h.held a pending' ha
      exact Nat.lt_irrefl _ (heq ▸ hlt hget)
    · exact h.unused t pending hold
  · rcases getElem?_concat_cases hold with ⟨rfl, rfl⟩ | hget
    · rcases getElem?_concat_cases hold' with ⟨rfl, rfl⟩ | hget'
      · rfl
      · exact absurd heq.symm (hfresh old' (mem_of_getElem? hget'))
    rcases getElem?_concat_cases hold' with ⟨rfl, rfl⟩ | hget'
    · exact absurd heq (hfresh old (mem_of_getElem? hget))
    · exact h.distinct i j old old' hget hget' heq
  · rw [length_append]
    exact Nat.lt_add_right _ (h.known i hi)

lemma receive (h : s.Coherent) (frame : Frame) (traceId : TraceId) :
    Coherent { s with arms := s.arms ++ [⟨frame, traceId, .verified⟩] } := by
  apply h.withArms
  rintro a pending ⟨arm, harm, hstage⟩
  rcases getElem?_concat_cases harm with ⟨-, rfl⟩ | hold
  · cases hstage
  · exact ⟨arm, hold, hstage⟩

lemma take (h : s.Coherent)
    (hpending : s.pending arm.traceId = some pending) :
    ((s.unpend arm.traceId).setArm a { arm with stage := .holding pending }).Coherent := by
  obtain ⟨hunanswered, hunheld⟩ := h.unused _ _ hpending
  obtain ⟨request, hrequest, htrace, -, -, hempty⟩ := h.entry _ _ hpending
  -- the arm that takes the entry, or one that held another before
  have hholds : ∀ b pending',
      ((s.unpend arm.traceId).setArm a { arm with stage := .holding pending }).Holds b pending' →
        (b = a ∧ pending' = pending) ∨ (b ≠ a ∧ s.Holds b pending') := by
    intro b pending' hb
    rcases holds_setArm_cases hb with ⟨rfl, hstage⟩ | hold
    · exact .inl ⟨rfl, (ReplyStage.holding.inj hstage).symm⟩
    · exact .inr hold
  refine ⟨(h.unpend _).entry, fun b pending' hb => ?_, fun b c pending' pending'' hb hc heq => ?_,
    fun t pending' ht => ?_, h.distinct, h.once, h.known⟩
  · rcases hholds b pending' hb with ⟨-, rfl⟩ | ⟨-, hold⟩
    · exact ⟨hunanswered, request, hrequest, hempty⟩
    · exact h.held b pending' hold
  · rcases hholds b pending' hb with ⟨rfl, rfl⟩ | ⟨-, hold⟩
    · rcases hholds c pending'' hc with ⟨rfl, -⟩ | ⟨-, hold'⟩
      · rfl
      · exact absurd heq.symm (hunheld c pending'' hold')
    rcases hholds c pending'' hc with ⟨rfl, rfl⟩ | ⟨-, hold'⟩
    · exact absurd heq (hunheld b pending' hold)
    · exact h.alone b c pending' pending'' hold hold' heq
  · obtain ⟨hne, hold⟩ := pending_of_unpend ht
    refine ⟨(h.unused t pending' hold).1, fun b pending'' hb heq => ?_⟩
    rcases hholds b pending'' hb with ⟨-, rfl⟩ | ⟨-, hold'⟩
    · -- two entries of one request would be under one trace id
      obtain ⟨request', hrequest', htrace', -⟩ := h.entry t pending' hold
      rw [← heq, hrequest] at hrequest'
      cases hrequest'
      exact hne (htrace'.symm.trans htrace)
    · exact (h.unused t pending' hold).2 b pending'' hold' heq

lemma settle (h : s.Coherent)
    (harm : s.arms[a]? = some arm)
    (hstage : arm.stage = .holding pending) (hrequest : s.requests[pending.tx]? = some request)
    (channel : ReplyChannel) :
    ((s.setArm a { arm with stage := .done }).setRequest pending.tx
      { request with channel := channel }).Coherent := by
  have hholds : s.Holds a pending := ⟨arm, harm, hstage⟩
  refine (h.setArm_done a arm).setRequest hrequest rfl rfl ?_ ?_
  · intro t pending' hpending' heq
    exact absurd heq.symm ((h.unused t pending' hpending').2 a pending hholds)
  · intro b pending' hb heq
    rcases holds_setArm_cases hb with ⟨-, hdone⟩ | ⟨hne, hold⟩
    · cases hdone
    · exact absurd (h.alone b a pending' pending hold hholds heq) hne

lemma answer (h : s.Coherent)
    (hrequest : s.requests[i]? = some request) (hnew : i ∉ s.answered)
    (hfree : ∀ a pending, s.Holds a pending → pending.tx ≠ i)
    (hentry : ∀ t pending, s.pending t = some pending → pending.tx ≠ i) :
    Coherent { s with answered := s.answered ++ [i] } where
  entry := h.entry
  held a pending ha := by
    obtain ⟨hanswered, hrest⟩ := h.held a pending ha
    exact ⟨by simpa [hanswered] using hfree a pending ha, hrest⟩
  alone := h.alone
  unused t pending ht := by
    obtain ⟨hanswered, hrest⟩ := h.unused t pending ht
    exact ⟨by simpa [hanswered] using hentry t pending ht, hrest⟩
  distinct := h.distinct
  once := by
    rw [nodup_append]
    refine ⟨h.once, nodup_singleton _, ?_⟩
    rintro j hj k hk rfl
    exact hnew (mem_singleton.mp hk ▸ hj)
  known j hj := by
    rcases mem_append.mp hj with hold | hlast
    · exact h.known j hold
    · rw [mem_singleton.mp hlast]
      exact (List.getElem?_eq_some_iff.mp hrequest).1

end Coherent

/-- A trace id is drawn once. -/
def Fresh (s : IntentClient) : IntentEvent → Prop
  | .request _ _ _ traceId => ∀ old ∈ s.requests, old.traceId ≠ traceId
  | _ => True

section Moves

variable {blake3 : List UInt8 → Digest} {V : Verify} {fromUtf8Lossy : List UInt8 → String}
  {s' : IntentClient} {e : IntentEvent}

lemma Coherent.move (h : s.Coherent) (hfresh : s.Fresh e)
    (hmove : ClientMove blake3 V fromUtf8Lossy s e s') : s'.Coherent := by
  cases hmove with
  | idle => exact h
  | inserted request hprovider hchannel hstage => exact h.insert hchannel hstage hfresh
  | @advanced _ i request stage hrequest hstage hnext =>
    refine h.setRequest hrequest rfl rfl ?_ ?_
    · intro t pending hpending hi
      obtain ⟨old, hold, -, -, -, hempty⟩ := h.entry t pending hpending
      rw [hi, hrequest] at hold
      cases hold
      exact ⟨fun ⟨result, hreturned⟩ => (hnext result hreturned).1 hempty, hempty⟩
    · intro a pending ha hi
      have hempty : request.channel = .empty := h.channel_of_holds ha (hi ▸ hrequest)
      exact hempty
  | @removed _ i request error hrequest hstage =>
    refine (h.unpend request.traceId).setRequest hrequest rfl rfl ?_ ?_
    · intro t pending hpending hi
      obtain ⟨hne, hold⟩ := pending_of_unpend hpending
      obtain ⟨old, hget, htrace, -⟩ := h.entry t pending hold
      rw [hi, hrequest] at hget
      cases hget
      exact absurd htrace.symm hne
    · intro a pending ha hi
      have hempty : request.channel = .empty := h.channel_of_holds ha (hi ▸ hrequest)
      exact hempty
  | @received data addr relay now frame traceId hframe htrace => exact h.receive frame traceId
  | @missed _ a arm harm => exact h.setArm_done a arm
  | taken harm hstage hpending => exact h.take hpending
  | @replied _ a arm pending request harm hstage hrequest hsender =>
    have hholds : s.Holds a pending := ⟨arm, harm, hstage⟩
    refine (h.settle harm hstage hrequest _).answer (getElem?_set_of_some hrequest)
      (h.held a pending hholds).1 ?_ ?_
    · intro b pending' hb heq
      rcases holds_setArm_cases hb with ⟨-, hdone⟩ | ⟨hne, hold⟩
      · cases hdone
      · exact hne (h.alone b a pending' pending hold hholds heq)
    · intro t pending' hpending' heq
      exact (h.unused t pending' hpending').2 a pending hholds heq.symm
  | dropped harm hstage hrequest => exact h.settle harm hstage hrequest _

lemma ClientMove.request_persists (hmove : ClientMove blake3 V fromUtf8Lossy s e s') {i : Nat}
    {request : IntentRequest} (hrequest : s.requests[i]? = some request) :
    ∃ later : IntentRequest, s'.requests[i]? = some later ∧ later.traceId = request.traceId ∧
      later.expectedSender = request.expectedSender ∧
      (request.Returned → later.stage = request.stage) := by
  -- what is written over a request keeps all this
  have hset : ∀ {j : Nat} {old new : IntentRequest}, s.requests[j]? = some old →
      new.traceId = old.traceId → new.expectedSender = old.expectedSender →
      (old.Returned → new.stage = old.stage) →
      ∃ later : IntentRequest, (s.requests.set j new)[i]? = some later ∧
        later.traceId = request.traceId ∧ later.expectedSender = request.expectedSender ∧
        (request.Returned → later.stage = request.stage) := by
    intro j old new hold htrace hsender hstage
    by_cases hij : j = i
    · subst hij
      cases hold.symm.trans hrequest
      exact ⟨new, getElem?_set_of_some hold, htrace, hsender, hstage⟩
    · exact ⟨request, (getElem?_set_ne hij).trans hrequest, rfl, rfl, fun _ => rfl⟩
  cases hmove with
  | inserted new hprovider hchannel hstage =>
    exact ⟨request, getElem?_concat_of_some hrequest, rfl, rfl, fun _ => rfl⟩
  | advanced hold hnot hnext => exact hset hold rfl rfl fun hreturned => absurd hreturned hnot
  | removed hold hstage =>
    refine hset hold rfl rfl ?_
    rintro ⟨result, hreturned⟩
    rw [hstage] at hreturned
    cases hreturned
  | replied harm hstage hold hsender => exact hset hold rfl rfl fun _ => rfl
  | dropped harm hstage hold => exact hset hold rfl rfl fun _ => rfl
  | idle => exact ⟨request, hrequest, rfl, rfl, fun _ => rfl⟩
  | received hframe htrace => exact ⟨request, hrequest, rfl, rfl, fun _ => rfl⟩
  | missed harm => exact ⟨request, hrequest, rfl, rfl, fun _ => rfl⟩
  | taken harm hstage hpending => exact ⟨request, hrequest, rfl, rfl, fun _ => rfl⟩

end Moves

/-! ## Where a result comes from -/

section Traces

variable (blake3 : List UInt8 → Digest) (V : Verify) (after : List IntentEvent → IntentClient)

def Took (es : List IntentEvent) (a : Nat) (frame : Frame) (traceId : TraceId)
    (pending : PendingIntent) : Prop :=
  ∃ es₁ es₂, es = es₁ ++ .take a :: es₂ ∧ (after es₁).arms[a]? = some ⟨frame, traceId, .verified⟩ ∧
    (after es₁).pending traceId = some pending

/-- An arm found the entry of a request with a Fulfill of the node that it expects. -/
def Fulfilled (es : List IntentEvent) (i : Nat) (payload : List UInt8) : Prop :=
  ∃ a frame traceId pending, Took after es a frame traceId pending ∧ pending.tx = i ∧
    pending.expectedSender = frame.header.senderId ∧ frame.header.frameType = .fulfill ∧
    frame.payload = payload

/-- What the events say of the requests and arms. -/
structure Traced (es : List IntentEvent) (s : IntentClient) : Prop where
  /-- A request was made, and expects the provider. -/
  asked : ∀ request ∈ s.requests, ∃ call payload tables,
    IntentEvent.request call payload tables request.traceId ∈ es ∧
      call.provider blake3 tables = some request.expectedSender
  /-- The frame of an arm was received and has verified. -/
  arrived : ∀ arm ∈ s.arms, arm.frame.traceId = some arm.traceId ∧ ∃ data addr relay now,
    IntentEvent.receive data addr relay now ∈ es ∧ decodeVerifiedFrame V data = some arm.frame
  held : ∀ (a : Nat) (arm : ReplyArm) (pending : PendingIntent), s.arms[a]? = some arm →
    arm.stage = .holding pending → Took after es a arm.frame arm.traceId pending
  /-- A payload that was sent on a channel, or returned, is that of a Fulfill. -/
  fulfilled : ∀ (i : Nat) (request : IntentRequest) (payload : List UInt8),
    s.requests[i]? = some request →
      request.channel = .sent (.ok payload) ∨ request.stage = .returned (.ok payload) →
        Fulfilled after es i payload

variable {blake3 V after} {es : List IntentEvent} {e : IntentEvent}

variable {frame : Frame} {payload : List UInt8}

lemma reply_eq_ok {fromUtf8Lossy : List UInt8 → String}
    (h : reply fromUtf8Lossy frame = .ok payload) :
    frame.header.frameType = .fulfill ∧ frame.payload = payload := by
  unfold reply at h
  split at h
  · next htype => exact ⟨htype, Except.ok.inj h⟩
  · cases h

lemma Took.concat {a : Nat} {traceId : TraceId} {pending : PendingIntent}
    (h : Took after es a frame traceId pending) :
    Took after (es ++ [e]) a frame traceId pending := by
  obtain ⟨es₁, es₂, rfl, hrest⟩ := h
  exact ⟨es₁, es₂ ++ [e], by simp, hrest⟩

lemma Fulfilled.concat {i : Nat} (h : Fulfilled after es i payload) :
    Fulfilled after (es ++ [e]) i payload := by
  obtain ⟨a, frame, traceId, pending, htook, hrest⟩ := h
  exact ⟨a, frame, traceId, pending, htook.concat, hrest⟩

namespace Traced

lemma concat (h : Traced blake3 V after es s) : Traced blake3 V after (es ++ [e]) s where
  asked request hrequest := by
    obtain ⟨call, payload, tables, hmem, hprovider⟩ := h.asked request hrequest
    exact ⟨call, payload, tables, mem_append_left _ hmem, hprovider⟩
  arrived arm harm := by
    obtain ⟨htrace, data, addr, relay, now, hmem, hframe⟩ := h.arrived arm harm
    exact ⟨htrace, data, addr, relay, now, mem_append_left _ hmem, hframe⟩
  held a arm pending harm hstage := (h.held a arm pending harm hstage).concat
  fulfilled i request payload hrequest hok := (h.fulfilled i request payload hrequest hok).concat

variable {request : IntentRequest} {a : Nat} {arm : ReplyArm}

lemma setRequest (h : Traced blake3 V after es s) {i : Nat} {request' : IntentRequest}
    (hrequest : s.requests[i]? = some request) (htrace : request'.traceId = request.traceId)
    (hsender : request'.expectedSender = request.expectedSender)
    (hfulfilled : ∀ payload,
      request'.channel = .sent (.ok payload) ∨ request'.stage = .returned (.ok payload) →
        Fulfilled after es i payload) :
    Traced blake3 V after es (s.setRequest i request') where
  asked new hnew := by
    rcases mem_or_eq_of_mem_set hnew with hold | rfl
    · exact h.asked new hold
    · rw [htrace, hsender]
      exact h.asked request (mem_of_getElem? hrequest)
  arrived := h.arrived
  held := h.held
  fulfilled j new payload hnew hok := by
    rcases getElem?_set_cases hnew with ⟨rfl, rfl⟩ | ⟨-, hold⟩
    · exact hfulfilled payload hok
    · exact h.fulfilled j new payload hold hok

lemma setArm (h : Traced blake3 V after es s) {stage : ReplyStage}
    (harm : s.arms[a]? = some arm)
    (hheld : ∀ pending, stage = .holding pending → Took after es a arm.frame arm.traceId pending) :
    Traced blake3 V after es (s.setArm a { arm with stage := stage }) where
  asked := h.asked
  arrived arm' harm' := by
    rcases mem_or_eq_of_mem_set harm' with hold | rfl
    · exact h.arrived arm' hold
    · exact h.arrived arm (mem_of_getElem? harm)
  held b arm' pending harm' hstage := by
    rcases getElem?_set_cases harm' with ⟨rfl, rfl⟩ | ⟨-, hold⟩
    · exact hheld pending hstage
    · exact h.held b arm' pending hold hstage
  fulfilled := h.fulfilled

lemma unpend (h : Traced blake3 V after es s) (traceId : TraceId) :
    Traced blake3 V after es (s.unpend traceId) :=
  ⟨h.asked, h.arrived, h.held, h.fulfilled⟩

lemma settle (h : Traced blake3 V after es s) {pending : PendingIntent}
    (harm : s.arms[a]? = some arm)
    (hrequest : s.requests[pending.tx]? = some request) (channel : ReplyChannel)
    (hsent : ∀ payload, channel = .sent (.ok payload) →
      Fulfilled after es pending.tx payload) :
    Traced blake3 V after es ((s.setArm a { arm with stage := .done }).setRequest pending.tx
      { request with channel := channel }) := by
  have hdone : ∀ pending, ReplyStage.done = .holding pending →
      Took after es a arm.frame arm.traceId pending := nofun
  refine (h.setArm harm hdone).setRequest hrequest rfl rfl ?_
  rintro payload (hchannel | hstage)
  · exact hsent payload hchannel
  · exact h.fulfilled pending.tx request payload hrequest (.inr hstage)

lemma move {fromUtf8Lossy : List UInt8 → String} {s' : IntentClient}
    (h : Traced blake3 V after es s) (hafter : s = after es)
    (hmove : ClientMove blake3 V fromUtf8Lossy s e s') :
    Traced blake3 V after (es ++ [e]) s' := by
  have hconcat : Traced blake3 V after (es ++ [e]) s := h.concat
  cases hmove with
  | idle => exact hconcat
  | @inserted call payload tables request hprovider hchannel hstage =>
    refine ⟨fun new hnew => ?_, hconcat.arrived, hconcat.held, fun i new payload hnew hok => ?_⟩
    · rcases mem_append.mp hnew with hold | hlast
      · exact hconcat.asked new hold
      · rw [mem_singleton.mp hlast]
        exact ⟨call, payload, tables, by simp, hprovider⟩
    · rcases getElem?_concat_cases hnew with ⟨-, rfl⟩ | hold
      · simp [hchannel, hstage] at hok
      · exact hconcat.fulfilled i new payload hold hok
  | @advanced _ i request stage hrequest hnot hnext =>
    refine hconcat.setRequest hrequest rfl rfl ?_
    rintro payload (hchannel | hstage)
    · exact hconcat.fulfilled i request payload hrequest (.inl hchannel)
    · exact hconcat.fulfilled i request payload hrequest (.inl ((hnext _ hstage).2 payload rfl))
  | @removed _ i request error hrequest hstage =>
    refine (hconcat.unpend _).setRequest hrequest rfl rfl ?_
    rintro payload (hchannel | hreturned)
    · exact hconcat.fulfilled i request payload hrequest (.inl hchannel)
    · cases hreturned
  | @received data addr relay now frame traceId hframe htrace =>
    refine ⟨hconcat.asked, fun arm harm => ?_, fun a arm pending harm hstage => ?_,
      hconcat.fulfilled⟩
    · rcases mem_append.mp harm with hold | hlast
      · exact hconcat.arrived arm hold
      · rw [mem_singleton.mp hlast]
        exact ⟨htrace, data, addr, relay, now, by simp, hframe⟩
    · rcases getElem?_concat_cases harm with ⟨-, rfl⟩ | hold
      · cases hstage
      · exact hconcat.held a arm pending hold hstage
  | missed harm => exact hconcat.setArm harm nofun
  | @taken a arm pending harm hstage hpending =>
    refine (hconcat.unpend _).setArm harm ?_
    rintro _ ⟨⟩
    subst hafter
    refine ⟨es, [], rfl, ?_, hpending⟩
    rw [harm, ← hstage]
  | @replied _ a arm pending request harm hstage hrequest hsender =>
    have hsent : ∀ payload, ReplyChannel.sent (reply fromUtf8Lossy arm.frame) =
        .sent (.ok payload) → Fulfilled after (es ++ [e]) pending.tx payload := by
      intro payload hok
      obtain ⟨htype, hpayload⟩ := reply_eq_ok (ReplyChannel.sent.inj hok)
      exact ⟨a, arm.frame, arm.traceId, pending, hconcat.held a arm pending harm hstage, rfl,
        hsender, htype, hpayload⟩
    have hsettle := hconcat.settle harm hrequest _ hsent
    exact ⟨hsettle.asked, hsettle.arrived, hsettle.held, hsettle.fulfilled⟩
  | dropped harm hstage hrequest => exact hconcat.settle harm hrequest _ nofun

end Traced

end Traces

def after (blake3 : List UInt8 → Digest) (V : Verify) (fromUtf8Lossy : List UInt8 → String)
    (identity : Keypair) (es : List IntentEvent) : IntentClient :=
  run (step blake3 V fromUtf8Lossy identity) .new es

section Runs

variable {blake3 : List UInt8 → Digest} {V : Verify} {fromUtf8Lossy : List UInt8 → String}
  {identity : Keypair} {es : List IntentEvent}

lemma coherent_after
    (hfresh : Guarded (step blake3 V fromUtf8Lossy identity) Fresh .new es) :
    (after blake3 V fromUtf8Lossy identity es).Coherent :=
  run_invariant_of_guarded
    (fun s e h hfresh => h.move hfresh (clientMove_step blake3 V fromUtf8Lossy identity s e))
    .new hfresh

lemma traced_after (blake3 : List UInt8 → Digest) (V : Verify)
    (fromUtf8Lossy : List UInt8 → String) (identity : Keypair) (es : List IntentEvent) :
    Traced blake3 V (after blake3 V fromUtf8Lossy identity) es
      (after blake3 V fromUtf8Lossy identity es) := by
  refine run_induction
    (P := Traced blake3 V (after blake3 V fromUtf8Lossy identity)) ?_ ?_ es
  · constructor
    all_goals simp [IntentClient.new]
  · intro es e h
    exact h.move rfl (clientMove_step blake3 V fromUtf8Lossy identity _ e)

lemma request_after_append {i : Nat} {request : IntentRequest}
    (hrequest : (after blake3 V fromUtf8Lossy identity es).requests[i]? = some request)
    (later : List IntentEvent) :
    ∃ request' : IntentRequest,
      (after blake3 V fromUtf8Lossy identity (es ++ later)).requests[i]? = some request' ∧
      request'.traceId = request.traceId ∧ request'.expectedSender = request.expectedSender ∧
      (request.Returned → request'.stage = request.stage) := by
  unfold after at *
  rw [run_append]
  generalize run (step blake3 V fromUtf8Lossy identity) .new es = s at hrequest ⊢
  induction later generalizing s request with
  | nil => exact ⟨request, hrequest, rfl, rfl, fun _ => rfl⟩
  | cons e later ih =>
    obtain ⟨next, hnext, htrace, hsender, hstage⟩ :=
      (clientMove_step blake3 V fromUtf8Lossy identity s e).request_persists hrequest
    obtain ⟨last, hlast, htrace', hsender', hstage'⟩ := ih _ hnext
    refine ⟨last, hlast, htrace'.trans htrace, hsender'.trans hsender, fun hreturned => ?_⟩
    have hsame := hstage hreturned
    obtain ⟨result, hresult⟩ := hreturned
    exact (hstage' ⟨result, hsame.trans hresult⟩).trans hsame

end Runs

end IntentClient

open IntentClient

/-- **Replies are correlated and authentic.** Requests, with trace ids that are drawn once, and
received datagrams are interleaved in any way. A request expects the provider it was made for, and
succeeds only with the payload of a Fulfill that verified under the provider's key, with its trace
id, and whose arm found its entry pending. It is answered once, what it returned stands, and then
there is no entry under its trace id. -/
theorem replies_correlated (blake3 : List UInt8 → Digest) (V : Verify)
    (fromUtf8Lossy : List UInt8 → String) (identity : Keypair) (es : List IntentEvent)
    (hfresh : Guarded (IntentClient.step blake3 V fromUtf8Lossy identity) IntentClient.Fresh .new
      es)
    (i : Nat) (request : IntentRequest)
    (hrequest : (IntentClient.after blake3 V fromUtf8Lossy identity es).requests[i]? =
      some request) :
    (∃ call payload tables, IntentEvent.request call payload tables request.traceId ∈ es ∧
      call.provider blake3 tables = some request.expectedSender) ∧
    (∀ payload, request.stage = .returned (.ok payload) →
      ∃ es₁ a es₂ frame data addr relay now waiting,
        es = es₁ ++ .take a :: es₂ ∧ IntentEvent.receive data addr relay now ∈ es₁ ∧
        decodeVerifiedFrame V data = some frame ∧ FrameVerifier.verify V frame = .ok true ∧
        frame.header.frameType = .fulfill ∧ frame.header.senderId = request.expectedSender ∧
        frame.traceId = some request.traceId ∧ frame.payload = payload ∧
        (IntentClient.after blake3 V fromUtf8Lossy identity es₁).arms[a]? =
          some ⟨frame, request.traceId, .verified⟩ ∧
        (IntentClient.after blake3 V fromUtf8Lossy identity es₁).requests[i]? = some waiting ∧
        ¬ waiting.Returned ∧
        (IntentClient.after blake3 V fromUtf8Lossy identity es₁).pending request.traceId =
          some ⟨request.expectedSender, i⟩) ∧
    (IntentClient.after blake3 V fromUtf8Lossy identity es).answered.count i ≤ 1 ∧
    (request.Returned → ∀ later, ∃ request' : IntentRequest,
      (IntentClient.after blake3 V fromUtf8Lossy identity (es ++ later)).requests[i]? =
        some request' ∧ request'.stage = request.stage) ∧
    (request.Returned →
      (IntentClient.after blake3 V fromUtf8Lossy identity es).pending request.traceId = none) := by
  have hcoherent := coherent_after hfresh
  have htraced := traced_after blake3 V fromUtf8Lossy identity es
  refine ⟨htraced.asked request (mem_of_getElem? hrequest), fun payload hstage => ?_,
    nodup_iff_count_le_one.mp hcoherent.once i, fun hreturned later => ?_,
    fun hreturned => hcoherent.pending_eq_none hrequest (.inl hreturned)⟩
  · obtain ⟨a, frame, traceId, pending, ⟨es₁, es₂, rfl, harm, hpending⟩, rfl, hsender, htype,
      rfl⟩ := htraced.fulfilled i request payload hrequest (.inr hstage)
    -- the entry that the arm found is that of this request, which was waiting
    have hfresh₁ := (guarded_append.mp hfresh).1
    obtain ⟨waiting, hwaiting, htrace, hexpected, hnot, -⟩ :=
      (coherent_after hfresh₁).entry traceId pending hpending
    obtain ⟨request', hrequest', htrace', hexpected', -⟩ :=
      request_after_append hwaiting (.take a :: es₂)
    cases hrequest.symm.trans hrequest'
    obtain rfl : request.traceId = traceId := htrace'.trans htrace
    have hsame : request.expectedSender = pending.expectedSender := hexpected'.trans hexpected
    have htraced₁ := traced_after blake3 V fromUtf8Lossy identity es₁
    obtain ⟨hframeTrace, data, addr, relay, now, hmem, hframe⟩ :=
      htraced₁.arrived _ (mem_of_getElem? harm)
    refine ⟨es₁, a, es₂, frame, data, addr, relay, now, waiting, rfl, hmem, hframe,
      (decodeVerifiedFrame_eq_some_iff.mp hframe).2, htype, ?_, hframeTrace, rfl, harm, hwaiting,
      hnot, ?_⟩
    · rw [hsame, hsender]
    · rw [hpending, hsame]
  · obtain ⟨request', hlater, -, -, hsame⟩ :=
      request_after_append hrequest later
    exact ⟨request', hlater, hsame hreturned⟩

def relayedTables : RequestTables where
  semanticRouter := .new
  reputation _ := none
  peers node := if node = ⟨Vector.replicate 32 7⟩ then some (sampleAddr 1) else none
  reachableVia _ := none

def relayedCall : IntentCall := .via ⟨Vector.replicate 32 7⟩ sampleProvider "echo"

def relayedRequest : List IntentEvent :=
  [.request relayedCall [104, 105] relayedTables sampleTraceId, .send 0 true,
    .receive signedReply.wireBytes (sampleAddr 1) ⟨sampleOrigin, ∅, .empty, fun _ => none, ∅⟩ 0,
    .take 0, .answer 0, .wake 0]

def afterRelayedRequest : IntentClient :=
  .after sampleBlake3 echoVerify (fun _ => "") requester relayedRequest

theorem relayed_request_fulfilled :
    ∃ request, afterRelayedRequest.requests[0]? = some request ∧
      request.stage = .returned (.ok [104, 105]) ∧
      afterRelayedRequest.pending request.traceId = none ∧
      ∃ frame data addr relay now, IntentEvent.receive data addr relay now ∈ relayedRequest ∧
        FrameVerifier.verify echoVerify frame = .ok true ∧
        frame.header.senderId = request.expectedSender ∧
        frame.traceId = some request.traceId ∧ frame.payload = [104, 105] := by
  have hreturns : afterRelayedRequest.requests[0]?.map (·.stage) =
      some (.returned (.ok [104, 105])) := by
    decide +kernel
  obtain ⟨request, hrequest, hstage⟩ := Option.map_eq_some_iff.mp hreturns
  have hfresh : Guarded (IntentClient.step sampleBlake3 echoVerify (fun _ => "") requester)
      IntentClient.Fresh .new relayedRequest :=
    ⟨nofun, trivial, trivial, trivial, trivial, trivial, trivial⟩
  obtain ⟨-, hok, -, -, hnone⟩ := replies_correlated sampleBlake3 echoVerify (fun _ => "") requester
    relayedRequest hfresh 0 request hrequest
  obtain ⟨es₁, a, es₂, frame, data, addr, relay, now, -, hes, hmem, -, hverify, -, hsender, htrace,
    hpayload, -⟩ := hok _ hstage
  have hpending : afterRelayedRequest.pending request.traceId = none := by
    rw [afterRelayedRequest]
    exact hnone ⟨_, hstage⟩
  refine ⟨request, hrequest, hstage, hpending, frame, data, addr, relay, now, ?_, hverify,
    hsender, htrace, hpayload⟩
  rw [hes]
  exact mem_append_left _ hmem

end AxiomCore
