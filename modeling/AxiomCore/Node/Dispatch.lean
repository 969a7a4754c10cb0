import AxiomCore.Gateway.ApprovalRuns
import AxiomCore.Gateway.Gate
import AxiomCore.Router.Semantic

/-!
# Capability dispatch on a node

`dispatch_intent` answers a capability request: it resolves the name, passes the gate
(`check_and_acquire`), runs the handler, and returns a reply frame. Its permit is a local variable,
dropped when the function returns. Most handlers act within the call. `wg_peer_manage` only
proposes a Tier 2 intent, hands the rest to a detached task, and returns at once; that task runs
`decide_and_execute`.

`Node` is everything these share: the gate, the approval flow, the requests, and a log of the
executions that began. One `NodeEvent` is one atomic step of one request or of one detached task, a
command of the admin socket, or the passing of time, so that any list of events is an
interleaving. Request `r` is caller `r` of the flow.

What is left open is an argument of the event: the parsed payload and the peer lookup of
`wg_peer_manage`, the replies of the other handlers, wall-clock readings, drawn ids, answers of the
approval channel.

Source: `forge-node/src/network.rs`.
-/

namespace AxiomCore

open Lib

/-! ## Requests -/

/-- What a node is configured with. -/
structure DispatchContext where
  /-- Names of the capabilities offered. -/
  localCapabilities : List String
  uaiConfigured : Bool
  /-- Whether there is a Tier 2 approval channel. -/
  tier2Configured : Bool
  policy : CapabilityPolicy

inductive Reply where
  | fulfill (payload : String)
  | error (text : String)
  /-- An Error frame with the text of a refused proposal. -/
  | proposeError (e : ProposeError)

def PolicyOutcome.errorText : PolicyOutcome → String
  | .allowed => ""
  | .notAuthorized => "not authorized for this capability"
  | .rateLimited => "rate limited, try again later"
  | .atConcurrencyLimit => "too many concurrent requests for this capability, try again shortly"
  | .suspended => "suspended by kill switch"
  | .frozen => "tier1+ execution frozen by kill switch"

inductive Stage where
  /-- Inside `check_and_acquire`. -/
  | gate (stage : GateStage)
  /-- Through the gate with a permit, before the handler's action. -/
  | admitted
  /-- The handler's action has begun. -/
  | running
  /-- The handler has its reply; the function has not returned yet. -/
  | answered (reply : Reply)
  | returned (reply : Reply)

structure Request where
  name : String
  sender : NodeId
  stage : Stage
  intent : Option IntentId

/-- The start of `dispatch_intent`, up to the gate. -/
def Request.arrive (X : Externals) (ctx : DispatchContext) (hash : IntentHash) (sender : NodeId) :
    Request :=
  match ctx.localCapabilities.find? fun name => capabilityHash X.blake3 name = hash with
  | none => ⟨"", sender, .returned (.error "unknown capability"), none⟩
  | some name =>
    if name = "network_clients" then
      ⟨name, sender, .returned
        (.error "network_clients disabled pending a properly-scoped UAI credential"), none⟩
    else ⟨name, sender, .gate .entered, none⟩

def actsInline (name : String) : Bool :=
  name ∈ ["echo", "sysinfo", "network_clients", "notify_send", "proxmox_restart",
    "home_assistant_toggle", "docker_restart", "wg_peers_list"]

/-! ## The Tier 2 capability -/

inductive WgPeerAction where
  | create
  | delete
  | enable
  | disable
  deriving DecidableEq

def WgPeerAction.asStr : WgPeerAction → String
  | .create => "create"
  | .delete => "delete"
  | .enable => "enable"
  | .disable => "disable"

structure WgPeerManageTarget where
  action : WgPeerAction
  name : String

/-- `WgPeerManageCapability`, as far as proposing goes. -/
def wgPeerManageCapability (target : WgPeerManageTarget) (priorEnabled : Bool) :
    Tier2Capability where
  capabilityName := "wg_peer_manage"
  dryRun _ := some <|
    match target.action with
    | .create => [⟨"peer", "(does not exist)", "created, name='" ++ target.name ++ "'"⟩]
    | .delete => [⟨"peer", "exists, enabled=" ++ toString priorEnabled, "permanently deleted"⟩]
    | .enable => [⟨"enabled", toString priorEnabled, "true"⟩]
    | .disable => [⟨"enabled", toString priorEnabled, "false"⟩]

def wgPeerManageParams (target : WgPeerManageTarget) : List Constraint :=
  [⟨"action", .string target.action.asStr⟩, ⟨"target", .string target.name⟩]

/-- Whether the target is enabled now, as `resolve_wg_peer_by_name` found it; a peer to be created
need not exist. -/
def priorEnabled (target : WgPeerManageTarget) (lookup : Except String (Option Bool)) :
    Except String Bool :=
  if target.action = .create then .ok false
  else
    match lookup with
    | .ok (some enabled) => .ok enabled
    | .ok none =>
      .error ("wg_peer_manage: no WireGuard peer named '" ++ target.name ++
        "' exists - nothing to " ++ target.action.asStr)
    | .error e => .error e

def proposedText (id : IntentId) (target : WgPeerManageTarget) : String :=
  "wg_peer_manage: Tier 2 approval requested (intent " ++ hexEncode id.bytes.toList ++
    ") for action='" ++ target.action.asStr ++ "' target='" ++ target.name ++
    "'. A Telegram approval request has been sent to the configured chat; this request expires " ++
    toString (defaultExpiry / 10 ^ 9 / 60) ++ " minutes from now if not answered. " ++
    "Check wg_peers_list (or the audit log) afterward for the actual outcome - this reply only " ++
    "confirms the request was proposed, not that it was approved or executed."

/-- `dispatch_wg_peer_manage` up to the spawn of the detached task: the reply, the proposed intent
if there is one, and the flow's records. -/
def dispatchWgPeerManage (X : Externals) (ctx : DispatchContext) (records : Records)
    (draw : IntentId) (now : Nat) (sender : NodeId) (parsed : Except String WgPeerManageTarget)
    (lookup : Except String (Option Bool)) : Reply × Option IntentId × Records :=
  match parsed with
  | .error e => (.error e, none, records)
  | .ok target =>
    match ctx.policy.checkDeniedParamSubstrings X "wg_peer_manage" (wgPeerManageParams target) with
    | some reason => (.error reason, none, records)
    | none =>
      if ¬ ctx.uaiConfigured then
        (.error "wg_peer_manage not configured on this node (no UAI backend)", none, records)
      else if ¬ ctx.tier2Configured then
        (.error ("wg_peer_manage not configured on this node (no Tier 2 approval channel - " ++
          "see telegram_bot_token/telegram_chat_id in config.toml)"), none, records)
      else
        match priorEnabled target lookup with
        | .error e => (.error e, none, records)
        | .ok enabled =>
          match propose X ctx.policy records draw now sender
              (wgPeerManageCapability target enabled) (wgPeerManageParams target)
              defaultExpiry with
          | (.error e, records) => (.proposeError e, none, records)
          | (.ok id, records) => (.fulfill (proposedText id target), some id, records)

/-! ## The node -/

/-- An execution began: of which capability, for whom, and what the kill switch said at that
moment. -/
structure Began where
  capability : String
  proposer : NodeId
  frozen : Bool
  /-- Whether the proposer was suspended. -/
  suspended : Bool
  deriving DecidableEq

structure Node where
  gate : GateState
  /-- The approval flow with its detached tasks, and the clock. -/
  flow : FlowSystem
  requests : List Request
  /-- The executions that began, oldest first. -/
  log : List Began

def Node.init (ctx : DispatchContext) (now : Nat) : Node :=
  ⟨.loaded ctx.policy, .init now, [], []⟩

/-- One atomic step. Source: `forge-node/src/network.rs`, `forge-node/src/control.rs`. -/
inductive NodeEvent where
  | freeze
  | unfreeze
  | suspendPeer (peer : NodeId)
  | unsuspendPeer (peer : NodeId)
  | arrive (hash : IntentHash) (sender : NodeId)
  /-- Request `r` makes its next access in `check_and_acquire`. -/
  | check (r : Nat) (nowSecs : Nat)
  /-- The handler of `r` begins its action. -/
  | start (r : Nat)
  /-- The handler of `r` answers without acting. -/
  | decline (r : Nat) (reply : Reply)
  | complete (r : Nat) (reply : Reply)
  /-- The `wg_peer_manage` handler of `r` runs up to the spawn of its task. -/
  | propose (r : Nat) (draw : IntentId) (parsed : Except String WgPeerManageTarget)
      (lookup : Except String (Option Bool))
  | reply (r : Nat)
  /-- The task of `r` runs the first critical section of `decide_and_execute`. -/
  | claim (r : Nat)
  | consult (r : Nat)
  | answer (r : Nat) (answer : Except ApprovalChannelError ApprovalDecision)
  /-- The task of `r` runs the second critical section. -/
  | conclude (r : Nat) (outcome : Except String String)
  | tick (elapsed : Nat)

namespace Node

variable (X : Externals) (ctx : DispatchContext)

def withSwitch (n : Node) (f : KillSwitch → KillSwitch) : Node :=
  { n with gate := { n.gate with killSwitch := f n.gate.killSwitch } }

def setRequest (n : Node) (r : Nat) (q : Request) : Node :=
  { n with requests := n.requests.set r q }

def began (n : Node) (capability : String) (proposer : NodeId) : Began :=
  ⟨capability, proposer, n.gate.killSwitch.frozen, proposer ∈ n.gate.killSwitch.suspended⟩

def stepCheck (n : Node) (r : Nat) (q : Request) (stage : GateStage) (nowSecs : Nat) : Node :=
  match gateStep ctx.policy n.gate q.name q.sender n.flow.now nowSecs stage with
  | (.inr stage, gate) => { n with gate := gate }.setRequest r { q with stage := .gate stage }
  | (.inl .allowed, gate) => { n with gate := gate }.setRequest r { q with stage := .admitted }
  | (.inl outcome, gate) =>
    { n with gate := gate }.setRequest r
      { q with stage := .returned (.error outcome.errorText) }

def stepPropose (n : Node) (r : Nat) (q : Request) (draw : IntentId)
    (parsed : Except String WgPeerManageTarget) (lookup : Except String (Option Bool)) : Node :=
  let (reply, intent, records) :=
    dispatchWgPeerManage X ctx n.flow.records draw n.flow.now q.sender parsed lookup
  let flow := n.flow.withRecords records
  let q : Request := { q with stage := .answered reply, intent := intent }
  match intent with
  | none => { n with flow := flow }.setRequest r q
  | some id => { n with flow := flow.moveTo r (.called id) }.setRequest r q

/-- The intent that the second critical section of caller `r` executes. Source:
`axiom-gateway/src/approval.rs`, `Tier2ApprovalFlow::decide_and_execute`. -/
def executedBy (flow : FlowSystem) (r : Nat) (outcome : Except String String) : Option Intent :=
  match flow.callers r with
  | .decided id decision => (finish X flow.records flow.now id decision outcome).executed
  | _ => none

def step (n : Node) : NodeEvent → Node
  | .freeze => n.withSwitch KillSwitch.freeze
  | .unfreeze => n.withSwitch KillSwitch.unfreeze
  | .suspendPeer peer => n.withSwitch (·.suspendPeer peer)
  | .unsuspendPeer peer => n.withSwitch (·.unsuspendPeer peer)
  | .arrive hash sender =>
    { n with requests := n.requests ++ [Request.arrive X ctx hash sender] }
  | .check r nowSecs =>
    match n.requests[r]? with
    | some q =>
      match q.stage with
      | .gate stage => n.stepCheck ctx r q stage nowSecs
      | _ => n
    | none => n
  | .start r =>
    match n.requests[r]? with
    | some q =>
      match q.stage with
      | .admitted =>
        if actsInline q.name then
          { n with log := n.log ++ [n.began q.name q.sender] }.setRequest r
            { q with stage := .running }
        else n
      | _ => n
    | none => n
  | .decline r reply =>
    match n.requests[r]? with
    | some q =>
      match q.stage with
      | .admitted =>
        if actsInline q.name then n.setRequest r { q with stage := .answered reply }
        else if q.name = "wg_peer_manage" then n
        else
          n.setRequest r
            { q with stage := .answered (.error "capability recognized but has no handler") }
      | _ => n
    | none => n
  | .complete r reply =>
    match n.requests[r]? with
    | some q =>
      match q.stage with
      | .running => n.setRequest r { q with stage := .answered reply }
      | _ => n
    | none => n
  | .propose r draw parsed lookup =>
    match n.requests[r]? with
    | some q =>
      match q.stage with
      | .admitted =>
        if q.name = "wg_peer_manage" then n.stepPropose X ctx r q draw parsed lookup else n
      | _ => n
    | none => n
  | .reply r =>
    match n.requests[r]? with
    | some q =>
      match q.stage with
      | .answered reply =>
        { n with gate := n.gate.release q.name }.setRequest r
          { q with stage := .returned reply }
      | _ => n
    | none => n
  | .claim r => { n with flow := n.flow.step X ctx.policy (.claim r) }
  | .consult r => { n with flow := n.flow.step X ctx.policy (.consult r) }
  | .answer r answer => { n with flow := n.flow.step X ctx.policy (.answer r answer) }
  | .conclude r outcome =>
    { n with
      flow := n.flow.step X ctx.policy (.finish r outcome)
      log := n.log ++ (executedBy X n.flow r outcome).toList.map fun intent =>
        n.began intent.capability intent.proposer }
  | .tick elapsed => { n with flow := n.flow.step X ctx.policy (.tick elapsed) }

end Node

/-! ## Sample data -/

def samplePeer : NodeId := ⟨Vector.replicate 32 1⟩

def sampleTarget : WgPeerManageTarget := ⟨.create, "tablet"⟩

/-- BLAKE3 of the capability's name and of the pre-image of the sample proposal, and ASCII
lower-casing. -/
def wgExternals : Externals where
  blake3 input :=
    if input = utf8 "wg_peer_manage" then wgPeerManageDigest
    else if input = hashInput (parameterDescriptor "wg_peer_manage" (wgPeerManageParams sampleTarget))
    then
      hex 32 0x0f9f0c61605ef65426bc4e6eb1f9c20dd110f5731f18b177d631f82da48b4baf
    else Vector.replicate 32 0
  toLowercase s := String.ofList (s.toList.map Char.toLower)

def wgContext : DispatchContext where
  localCapabilities := ["wg_peer_manage"]
  uaiConfigured := true
  tier2Configured := true
  policy :=
    { entries := fun name =>
        if name = "wg_peer_manage" then
          some ⟨fun peer => if peer = samplePeer then some none else none, 0, 1, .tier2, []⟩
        else none
      protectedResources := some [] }

/-- Request `r` of the sample peer, up to the reply that confirms the proposal. -/
def wgRequest (r : Nat) (draw : IntentId) : List NodeEvent :=
  [.arrive (capabilityHash wgExternals.blake3 "wg_peer_manage") samplePeer, .check r 0, .check r 0,
    .check r 0, .check r 0, .check r 0, .propose r draw (.ok sampleTarget) (.ok none), .reply r]

def wgApproval (r : Nat) (id : IntentId) : List NodeEvent :=
  [.claim r, .consult r, .answer r (.ok ⟨id, true, "telegram"⟩),
    .conclude r (.ok "wg_peer_manage create 'tablet' succeeded (new id=1)")]

end AxiomCore
