import AxiomCore.Lib.JsonValue
import AxiomCore.Lib.Text
import AxiomCore.Node.KillSwitch

/-!
# Managing WireGuard peers

A `wg_peer_manage` request names an action and a peer. `dispatch_wg_peer_manage` parses the payload,
looks the peer up in the list of the backend, proposes an intent with the action and the peer's name
as its parameters, and starts a task. The task has a capability of its own: when the intent is
approved, it executes from the fields of the capability, not from the parameters that were shown.

`WgSystem` is the approval flow with all these tasks, and a log of the calls that change something
at the backend. One `WgEvent` is one request, one step of a task, or the passing of time, so that
any list of events is an interleaving. What the backend and the channel answer is part of the event.

Source: `forge-node/src/network.rs`.
-/

namespace AxiomCore

open Lib FlowSystem List Function

/-! ## Parsing -/

def hardDeniedWgPeerTargets : List String := ["larry-laptop", "phone"]

def maxWgPeerNameLen : Nat := 64

def WgPeerAction.reducesAccess : WgPeerAction → Bool
  | .delete | .disable => true
  | .create | .enable => false

def WgPeerAction.ofStr (word : String) : Option WgPeerAction :=
  if word = "create" then some .create
  else if word = "delete" then some .delete
  else if word = "enable" then some .enable
  else if word = "disable" then some .disable
  else none

def eqIgnoreAsciiCase (a b : String) : Bool := a.toList.map Char.toLower = b.toList.map Char.toLower

/-- The characters of a name: a letter or digit first. -/
def isValidPeerName : List Char → Bool
  | [] => false
  | c :: cs =>
    c.isAlphanum && cs.all fun c => c.isAlphanum || c = '_' || c = '.' || c = '-' || c = ' '

/-- `parse_wg_peer_manage_target`, where `lossy` is `String::from_utf8_lossy`. -/
def parseWgPeerManageTarget (lossy : List UInt8 → String) (payload : List UInt8) :
    Except String WgPeerManageTarget :=
  let trimmed := trim (lossy payload).toList
  if trimmed = [] then
    .error ("wg_peer_manage: payload is empty - expected " ++
      "'<create|delete|enable|disable>:<peer name>'")
  else
    match splitOnce ':' trimmed with
    | none =>
      .error ("wg_peer_manage: '" ++ String.ofList trimmed ++ "' is not in the expected " ++
        "'<create|delete|enable|disable>:<peer name>' form")
    | some (actionStr, nameStr) =>
      let word := String.ofList ((trim actionStr).map Char.toLower)
      match WgPeerAction.ofStr word with
      | none =>
        .error ("wg_peer_manage: unknown action '" ++ word ++
          "' - expected 'create', 'delete', 'enable', or 'disable'")
      | some action =>
        let name := String.ofList (trim nameStr)
        if name = "" then .error "wg_peer_manage: peer name is empty"
        else if maxWgPeerNameLen < (utf8 name).length then
          .error ("wg_peer_manage: peer name is too long (" ++ toString (utf8 name).length ++
            " chars, max " ++ toString maxWgPeerNameLen ++ ")")
        else if ¬ isValidPeerName name.toList then
          .error ("wg_peer_manage: '" ++ name ++ "' is not a valid peer name (expected to " ++
            "start with a letter/digit, and contain only letters, digits, spaces, '_', " ++
            "'.', '-')")
        else if action.reducesAccess ∧
            hardDeniedWgPeerTargets.any fun denied => eqIgnoreAsciiCase denied name then
          .error ("wg_peer_manage: '" ++ name ++ "' is hard-denied in code for '" ++
            action.asStr ++ "' and can never be targeted by it, regardless of policy - it " ++
            "is one of Larry's own currently-relied-upon WireGuard peers (see " ++
            "HARD_DENIED_WG_PEER_TARGETS's own doc comment)")
        else .ok ⟨action, name⟩

/-- The target does not take access from a hard-denied peer, in whatever case its name is written. -/
def WgPeerManageTarget.Spares (target : WgPeerManageTarget) : Prop :=
  target.action.reducesAccess →
    ∀ denied ∈ hardDeniedWgPeerTargets, ¬ eqIgnoreAsciiCase denied target.name

variable {target : WgPeerManageTarget} {listing : UaiHttp} {X : Externals} {log log' : List Obs}
  {t : Nat}

lemma spares_of_parse {lossy : List UInt8 → String} {payload : List UInt8}
    (h : parseWgPeerManageTarget lossy payload = .ok target) :
    target.Spares := by
  unfold parseWgPeerManageTarget at h
  simp only at h
  split_ifs at h with hempty
  split at h
  · cases h
  rename_i actionStr nameStr hsplit
  split at h
  · cases h
  rename_i action haction
  split_ifs at h with hname hlength hvalid hdenied
  cases h
  intro hreduces denied hmem hequal
  exact hdenied ⟨hreduces, any_eq_true.mpr ⟨denied, hmem, hequal⟩⟩

/-! ## The backend -/

/-- How a request to the UAI broker ends. -/
inductive UaiHttp where
  /-- There is no HTTP client to make it with. -/
  | noClient (error : String)
  | unreachable (error : String)
  | badReply (error : String)
  | reply (body : JsonValue)

/-- `uai_dispatch`, with the client built before it. -/
def uaiDispatch (toolName : String) : UaiHttp → Except String JsonValue
  | .noClient error => .error ("building HTTP client: " ++ error)
  | .unreachable error => .error ("UAI unreachable: " ++ error)
  | .badReply error => .error ("bad UAI reply: " ++ error)
  | .reply body =>
    if (body.get "ok").bind JsonValue.asBool ≠ some true then
      .error (toolName ++ ": " ++ ((body.get "error").bind JsonValue.asStr).getD "unknown error")
    else .ok body

/-- The clients in the reply to `wg_clients`. -/
def wgClients (listing : UaiHttp) : List JsonValue :=
  match uaiDispatch "wg_clients" listing with
  | .ok resp => ((resp.get "clients").bind JsonValue.asArray).getD []
  | .error _ => []

def clientName (client : JsonValue) : Option String := (client.get "name").bind JsonValue.asStr

def clientId (client : JsonValue) : String :=
  ((client.get "id").bind JsonValue.asStr).getD ""

/-- `resolve_wg_peer_by_name`: id, enabled, connected. -/
def resolveWgPeerByName (listing : UaiHttp) (name : String) :
    Except String (Option (String × Bool × Bool)) :=
  match uaiDispatch "wg_clients" listing with
  | .error e => .error e
  | .ok _ =>
    .ok (((wgClients listing).find? fun client => clientName client = some name).map fun client =>
      (clientId client, ((client.get "enabled").bind JsonValue.asBool).getD true,
        ((client.get "connected").bind JsonValue.asBool).getD false))

/-- A request that changes something at the backend. -/
structure UaiCall where
  toolName : String
  inputArgs : List (String × String)
  deriving DecidableEq

structure WgPeerManageCapability where
  action : WgPeerAction
  name : String
  /-- Its id, unless it is to be created. -/
  resolvedId : Option String
  priorEnabled : Bool

namespace WgPeerManageCapability

/-- The request that `perform` makes, if it makes one. -/
def request (cap : WgPeerManageCapability) : Except String UaiCall :=
  match cap.action, cap.resolvedId with
  | .create, _ => .ok ⟨"wg_create_client", [("name", cap.name)]⟩
  | .delete, some id => .ok ⟨"wg_delete_client", [("client_id", id)]⟩
  | .delete, none => .error "internal error: no resolved client id for delete"
  | .enable, some id => .ok ⟨"wg_enable_client", [("client_id", id)]⟩
  | .disable, some id => .ok ⟨"wg_disable_client", [("client_id", id)]⟩
  | .enable, none | .disable, none => .error "internal error: no resolved client id"

def successText (cap : WgPeerManageCapability) (resp : JsonValue) : String :=
  match cap.action with
  | .create =>
    "wg_peer_manage create '" ++ cap.name ++ "' succeeded (new id=" ++
      (((resp.get "data").bind (·.get "id")).bind JsonValue.asStr).getD "(unknown id)" ++ ")"
  | action =>
    "wg_peer_manage " ++ action.asStr ++ " '" ++ cap.name ++ "' succeeded (id=" ++
      cap.resolvedId.getD "" ++ ")"

/-- `WgPeerManageCapability::perform`: the request, if one is made, and the result. -/
def perform (cap : WgPeerManageCapability) (http : UaiHttp) :
    Option UaiCall × Except String String :=
  match http with
  | .noClient error => (none, .error ("building HTTP client: " ++ error))
  | http =>
    match cap.request with
    | .error e => (none, .error e)
    | .ok call => (some call, (uaiDispatch call.toolName http).map cap.successText)

end WgPeerManageCapability

def capabilityFor (target : WgPeerManageTarget) (listing : UaiHttp) : WgPeerManageCapability :=
  match target.action, resolveWgPeerByName listing target.name with
  | .create, _ => ⟨.create, target.name, none, false⟩
  | action, .ok (some (id, enabled, _)) => ⟨action, target.name, some id, enabled⟩
  -- nothing is proposed then
  | action, _ => ⟨action, target.name, none, false⟩

/-! ## The system -/

/-- The task of a request: its capability, and the list that was read before proposing. -/
structure WgTask where
  capability : WgPeerManageCapability
  /-- The reply to `wg_clients`. -/
  listing : UaiHttp

structure WgCall where
  task : Nat
  /-- The list that was read before proposing. -/
  listing : UaiHttp
  intent : Intent
  call : UaiCall

/-- The approval flow with the tasks of `wg_peer_manage`; task `t` is caller `t` of the flow. -/
structure WgSystem where
  flow : FlowSystem
  tasks : List WgTask
  /-- The replies to requests, oldest first. -/
  replies : List Reply
  /-- The requests to the backend that change something, oldest first. -/
  calls : List WgCall

inductive WgEvent where
  /-- A request is dispatched, up to the start of its task. -/
  | manage (sender : NodeId) (draw : IntentId) (payload : List UInt8) (listing : UaiHttp)
  /-- A task runs the first critical section of `decide_and_execute`. -/
  | claim (t : Nat)
  | consult (t : Nat)
  | answer (t : Nat) (answer : Except ApprovalChannelError ApprovalDecision)
  /-- A task runs the second critical section, and the capability if it comes to that. -/
  | execute (t : Nat) (http : UaiHttp)
  | tick (elapsed : Nat)

namespace WgSystem

def init (now : Nat) : WgSystem := ⟨.init now, [], [], []⟩

def manage (X : Externals) (ctx : DispatchContext) (lossy : List UInt8 → String) (s : WgSystem)
    (sender : NodeId) (draw : IntentId) (payload : List UInt8) (listing : UaiHttp) : WgSystem :=
  match parseWgPeerManageTarget lossy payload with
  | .error e => { s with replies := s.replies ++ [.error e] }
  | .ok target =>
    let lookup := (resolveWgPeerByName listing target.name).map (·.map (·.2.1))
    match dispatchWgPeerManage X ctx s.flow.records draw s.flow.now sender (.ok target) lookup with
    | (reply, none, _) => { s with replies := s.replies ++ [reply] }
    | (reply, some id, records) =>
      { s with
        flow := (s.flow.withRecords records).moveTo s.tasks.length (.called id)
        tasks := s.tasks ++ [⟨capabilityFor target listing, listing⟩]
        replies := s.replies ++ [reply] }

/-- The second critical section of a task, with the call it makes. Source:
`axiom-gateway/src/approval.rs`, `Tier2ApprovalFlow::decide_and_execute`;
`forge-node/src/network.rs`, `WgPeerManageCapability::execute`. -/
def execute (X : Externals) (policy : CapabilityPolicy) (s : WgSystem) (t : Nat) (task : WgTask)
    (http : UaiHttp) : WgSystem :=
  let (call, outcome) := task.capability.perform http
  { s with
    flow := s.flow.step X policy (.finish t outcome)
    calls := s.calls ++
      match Node.executedBy X s.flow t outcome, call with
      | some intent, some call => [⟨t, task.listing, intent, call⟩]
      | _, _ => [] }

def step (X : Externals) (ctx : DispatchContext) (lossy : List UInt8 → String) (s : WgSystem) :
    WgEvent → WgSystem
  | .manage sender draw payload listing => s.manage X ctx lossy sender draw payload listing
  | .claim t => { s with flow := s.flow.step X ctx.policy (.claim t) }
  | .consult t => { s with flow := s.flow.step X ctx.policy (.consult t) }
  | .answer t answer => { s with flow := s.flow.step X ctx.policy (.answer t answer) }
  | .execute t http =>
    match s.tasks[t]? with
    | some task => s.execute X ctx.policy t task http
    | none => s
  | .tick elapsed => { s with flow := s.flow.step X ctx.policy (.tick elapsed) }

/-- Ids that are drawn are new. Source: crate `rand`. -/
def FreshDraw (s : WgSystem) : WgEvent → Prop
  | .manage _ draw _ _ => s.flow.records draw = none
  | _ => True

end WgSystem

/-! ## Proposals -/

def toolOf : WgPeerAction → String
  | .create => "wg_create_client"
  | .delete => "wg_delete_client"
  | .enable => "wg_enable_client"
  | .disable => "wg_disable_client"

/-- The call that a target stands for: with its name, or with the id of a client that is listed
under its name. -/
def Determines (target : WgPeerManageTarget) (listing : UaiHttp) (call : UaiCall) : Prop :=
  match target.action with
  | .create => call = ⟨toolOf .create, [("name", target.name)]⟩
  | action => ∃ client ∈ wgClients listing, clientName client = some target.name ∧
      call = ⟨toolOf action, [("client_id", clientId client)]⟩

lemma listed_of_resolveWgPeerByName {name id : String} {flags : Bool × Bool}
    (h : resolveWgPeerByName listing name = .ok (some (id, flags))) :
    ∃ client ∈ wgClients listing, clientName client = some name ∧ clientId client = id := by
  unfold resolveWgPeerByName at h
  split at h
  · cases h
  obtain ⟨client, hfind, hpeer⟩ := Option.map_eq_some_iff.mp (Except.ok.inj h)
  have hname := find?_some hfind
  exact ⟨client, mem_of_find?_eq_some hfind, of_decide_eq_true hname,
    congrArg Prod.fst hpeer⟩

lemma WgPeerManageCapability.request_eq_ok {cap : WgPeerManageCapability} {call : UaiCall}
    (haction : cap.action ≠ .create) (h : cap.request = .ok call) :
    ∃ id, cap.resolvedId = some id ∧ call = ⟨toolOf cap.action, [("client_id", id)]⟩ := by
  obtain ⟨action, name, resolvedId, enabled⟩ := cap
  cases resolvedId with
  | none => cases action <;> simp_all [request]
  | some id =>
    refine ⟨id, rfl, ?_⟩
    cases action with
    | create => exact absurd rfl haction
    | delete => exact (Except.ok.inj h).symm
    | enable => exact (Except.ok.inj h).symm
    | disable => exact (Except.ok.inj h).symm

lemma capabilityFor_resolvedId {id : String}
    (h : (capabilityFor target listing).resolvedId = some id) :
    ∃ flags, resolveWgPeerByName listing target.name = .ok (some (id, flags)) := by
  unfold capabilityFor at h
  split at h
  · cases h
  · rename_i id' enabled connected hresolve _
    exact ⟨(enabled, connected), by rw [hresolve, Option.some.inj h]⟩
  · cases h

lemma capabilityFor_action (target : WgPeerManageTarget) (listing : UaiHttp) :
    (capabilityFor target listing).action = target.action := by
  unfold capabilityFor
  split
  · exact Eq.symm ‹_›
  · rfl
  · rfl

lemma determines_of_request {call : UaiCall}
    (h : (capabilityFor target listing).request = .ok call) : Determines target listing call := by
  have hcap := capabilityFor_action target listing
  unfold Determines
  split
  · rename_i haction
    rw [capabilityFor, haction] at h
    exact (Except.ok.inj h).symm
  rename_i haction
  obtain ⟨id, hid, hcall⟩ := WgPeerManageCapability.request_eq_ok (hcap.trans_ne haction) h
  obtain ⟨flags, hresolve⟩ := capabilityFor_resolvedId hid
  obtain ⟨client, hmem, hname, hclient⟩ := listed_of_resolveWgPeerByName hresolve
  exact ⟨client, hmem, hname, by rw [hcall, hcap, hclient]⟩

lemma WgPeerManageCapability.request_of_perform {cap : WgPeerManageCapability} {http : UaiHttp}
    {call : UaiCall} (h : (cap.perform http).1 = some call) : cap.request = .ok call := by
  unfold perform at h
  split at h
  · cases h
  split at h
  · cases h
  · rename_i call' hrequest
    rw [hrequest, Option.some.inj h]

structure Vetted (X : Externals) (policy : CapabilityPolicy) (intent : Intent)
    (target : WgPeerManageTarget) : Prop where
  capability : intent.capability = "wg_peer_manage"
  /-- Its parameters are the action and the name. -/
  parameters : intent.parameters = wgPeerManageParams target
  spares : target.Spares
  /-- No parameter has a denied pattern in it. -/
  allowed : policy.checkDeniedParamSubstrings X "wg_peer_manage" intent.parameters = none
  /-- There is a section on protected resources. -/
  configured : policy.protectedResourcesConfigured
  unprotected : policy.findProtectedMatch intent.parameters = none

lemma proposeWithExpiry_eq_ok {policy : CapabilityPolicy}
    {records records' : Records} {draw id : IntentId} {now : Nat} {proposer : NodeId}
    {capability : Tier2Capability} {ps : List Constraint} {expiry : Nat}
    (h : proposeWithExpiry X policy records draw now proposer capability ps expiry =
      (.ok id, records')) :
    policy.protectedResourcesConfigured ∧ policy.findProtectedMatch ps = none ∧
      policy.checkDeniedParamSubstrings X capability.capabilityName ps = none ∧ id = draw ∧
      records' = update records draw
        (some ⟨Intent.propose X draw now proposer capability.capabilityName ps
          (capability.dryRun ps) expiry, none, none, .pending⟩) := by
  unfold proposeWithExpiry at h
  split_ifs at h with hconfigured
  · split at h
    · cases h
    rename_i hunprotected
    split at h
    · cases h
    rename_i hallowed
    obtain ⟨hid, hrecords⟩ := Prod.mk.inj h
    exact ⟨hconfigured, hunprotected, hallowed, (Except.ok.inj hid).symm, hrecords.symm⟩
  · cases h

lemma vetted_of_dispatch {ctx : DispatchContext} {records records' : Records}
    {draw id : IntentId} {now : Nat} {sender : NodeId}
    {lookup : Except String (Option Bool)} {reply : Reply} (hspares : target.Spares)
    (h : dispatchWgPeerManage X ctx records draw now sender (.ok target) lookup =
      (reply, some id, records')) :
    ∃ record, id = draw ∧ records' = update records draw (some record) ∧
      record.intent.id = draw ∧ Vetted X ctx.policy record.intent target := by
  unfold dispatchWgPeerManage at h
  simp only at h
  split at h
  · cases h
  split_ifs at h with huai htier2
  · split at h
    · cases h
    rename_i enabled hprior
    split at h
    · cases h
    rename_i id' records'' hpropose
    obtain ⟨hconfigured, hunprotected, hallowed, rfl, rfl⟩ := proposeWithExpiry_eq_ok hpropose
    obtain ⟨hid, hrecords⟩ := Prod.mk.inj (Prod.mk.inj h).2
    exact ⟨_, (Option.some.inj hid).symm, hrecords.symm, rfl, rfl, rfl, hspares, hallowed,
      hconfigured, hunprotected⟩
  · cases h
  · cases h

/-! ## What a task has behind it -/

def Shown (log : List Obs) (t : Nat) (intent : Intent) : Prop :=
  ∃ now, .consulted t (intent.asApprovalRequest now) ∈ log

/-- What a caller that is to settle `intent` has behind it. Source: `axiom-gateway/src/approval.rs`,
`Tier2ApprovalFlow::decide_and_execute`. -/
def Story (log : List Obs) (t : Nat) (intent : Intent) : Phase → Prop
  | .claimed _ request => ∃ now, request = intent.asApprovalRequest now
  | .asking _ => Shown log t intent
  | .decided id decision =>
    Shown log t intent ∧ .answered t id (.ok decision) ∈ log ∧ decision.intentId = id
  | .idle | .called _ | .returned _ => True

lemma Shown.mono {intent : Intent} (h : Shown log t intent)
    (hlog : log ⊆ log') : Shown log' t intent := by
  obtain ⟨now, hshown⟩ := h
  exact ⟨now, hlog hshown⟩

lemma Story.mono {intent : Intent} {phase : Phase}
    (h : Story log t intent phase) (hlog : log ⊆ log') : Story log' t intent phase := by
  cases phase with
  | idle => trivial
  | called => trivial
  | returned => trivial
  | claimed => exact h
  | asking => exact Shown.mono h hlog
  | decided =>
    obtain ⟨hshown, hanswered, hid⟩ := h
    exact ⟨hshown.mono hlog, hlog hanswered, hid⟩

/-- What a step of the flow leaves to the tasks, and what it adds to their stories. -/
structure StoryFrame (f f' : FlowSystem) : Prop extends FlowFrame f f' where
  log : f.log ⊆ f'.log
  story : ∀ t id record, (f'.callers t).unsettled = some id → f.records id = some record →
    Story f.log t record.intent (f.callers t) → Story f'.log t record.intent (f'.callers t)

lemma storyFrame_refl (f : FlowSystem) : StoryFrame f f :=
  ⟨flowFrame_refl f, fun _ h => h, fun _ _ _ _ _ h => h⟩

lemma storyFrame_move {f f' : FlowSystem} {phase : Phase} (hframe : FlowFrame f f')
    (hcallers : f'.callers = update f.callers t phase) (hlog : f.log ⊆ f'.log)
    (hstory : ∀ id record, phase.unsettled = some id → f.records id = some record →
      Story f.log t record.intent (f.callers t) → Story f'.log t record.intent phase) :
    StoryFrame f f' := by
  refine ⟨hframe, hlog, ?_⟩
  intro t' id record hid hrecord hold
  rw [hcallers] at hid ⊢
  by_cases ht : t' = t
  · subst ht
    rw [update_self] at hid ⊢
    exact hstory id record hid hrecord hold
  · rw [update_of_ne ht]
    exact hold.mono hlog

section Steps

variable {X : Externals}

lemma claim_eq_claimed {records records' : Records} {now : Nat} {id : IntentId} {intent : Intent}
    {request : ApprovalRequest} (h : claim X records now id = (.claimed intent request, records')) :
    ∃ record, records id = some record ∧ request = record.intent.asApprovalRequest now := by
  unfold claim at h
  split at h
  · cases h
  rename_i record hrecord
  split_ifs at h
  · cases h
  · cases h
  · obtain ⟨-, hrequest⟩ := ClaimOutcome.claimed.inj (Prod.mk.inj h).1
    exact ⟨record, hrecord, hrequest.symm⟩
  · cases h

variable (policy : CapabilityPolicy) (f : FlowSystem)

lemma storyFrame_claim (t : Nat) : StoryFrame f (f.step X policy (.claim t)) := by
  have hframe := flowFrame_claim (X := X) policy f t
  revert hframe
  simp only [FlowSystem.step]
  split
  · rename_i id hphase
    intro hframe
    unfold stepClaim at hframe ⊢
    rcases hclaim : claim X f.records f.now id with ⟨outcome, records⟩
    rw [hclaim] at hframe
    cases outcome with
    | returned result =>
      apply storyFrame_move hframe rfl (List.Subset.refl _)
      intro id' record hid
      cases hid
    | claimed intent request =>
      apply storyFrame_move hframe rfl (subset_append_left ..)
      intro id' record hid hrecord _
      obtain ⟨record', hrecord', hrequest⟩ := claim_eq_claimed hclaim
      cases hid
      cases hrecord'.symm.trans hrecord
      exact ⟨f.now, hrequest⟩
  · intro _
    exact storyFrame_refl f

lemma storyFrame_consult (t : Nat) : StoryFrame f (f.step X policy (.consult t)) := by
  have hframe := flowFrame_consult (X := X) policy f t
  revert hframe
  simp only [FlowSystem.step]
  split
  · rename_i id request hphase
    intro hframe
    apply storyFrame_move hframe rfl (subset_append_left ..)
    intro id' record _ _ hold
    rw [hphase] at hold
    obtain ⟨now, rfl⟩ := hold
    exact ⟨now, mem_append_right _ (mem_singleton_self _)⟩
  · intro _
    exact storyFrame_refl f

lemma checkDecision_eq_ok {id : IntentId}
    {answer : Except ApprovalChannelError ApprovalDecision} {decision : ApprovalDecision}
    (h : checkDecision id answer = .ok decision) :
    answer = .ok decision ∧ decision.intentId = id := by
  unfold checkDecision at h
  split at h
  · cases h
  split_ifs at h with hid
  cases h
  exact ⟨rfl, not_not.mp hid⟩

lemma storyFrame_answer (t : Nat) (answer : Except ApprovalChannelError ApprovalDecision) :
    StoryFrame f (f.step X policy (.answer t answer)) := by
  have hframe := flowFrame_answer (X := X) policy f t answer
  revert hframe
  simp only [FlowSystem.step]
  split
  · rename_i id hphase
    intro hframe
    unfold stepAnswer at hframe ⊢
    rcases hcheck : checkDecision id answer with e | decision
    · rw [hcheck] at hframe
      apply storyFrame_move hframe rfl (subset_append_left ..)
      intro id' record hid
      cases hid
    rw [hcheck] at hframe
    apply storyFrame_move hframe rfl (subset_append_left ..)
    intro id' record _ _ hold
    rw [hphase] at hold
    obtain ⟨hanswer, hid⟩ := checkDecision_eq_ok hcheck
    rw [hanswer]
    exact ⟨Shown.mono hold (subset_append_left ..),
      mem_append_right _ (mem_singleton_self _), hid⟩
  · intro _
    exact storyFrame_refl f

lemma storyFrame_finish (t : Nat) (outcome : Except String String) :
    StoryFrame f (f.step X policy (.finish t outcome)) := by
  have hframe := flowFrame_finish (X := X) policy f t outcome
  revert hframe
  simp only [FlowSystem.step]
  split
  · rename_i id decision hphase
    intro hframe
    apply storyFrame_move hframe rfl (subset_append_left ..)
    intro id' record hid
    cases hid
  · intro _
    exact storyFrame_refl f

lemma storyFrame_tick (elapsed : Nat) : StoryFrame f (f.step X policy (.tick elapsed)) :=
  ⟨⟨fun _ _ h => h, .refl _⟩, fun _ h => h, fun _ _ _ _ _ h => h⟩

end Steps

/-! ## Runs -/

/-- **What is known of a call**: its intent was shown to the approver, who approved it; the intent's
parameters are an action and a name that passed the checks on parameters; and the call is the one
that these two stand for. -/
structure AsApproved (X : Externals) (policy : CapabilityPolicy) (log : List Obs) (c : WgCall)
    (target : WgPeerManageTarget) : Prop where
  shown : Shown log c.task c.intent
  approved : ∃ decision, .answered c.task c.intent.id (.ok decision) ∈ log ∧
    decision.intentId = c.intent.id ∧ decision.approved = true
  vetted : Vetted X policy c.intent target
  determined : Determines target c.listing c.call

lemma AsApproved.mono {policy : CapabilityPolicy}
    {c : WgCall} (h : AsApproved X policy log c target)
    (hlog : log ⊆ log') : AsApproved X policy log' c target := by
  obtain ⟨decision, hanswered, hdecision⟩ := h.approved
  exact ⟨h.shown.mono hlog, ⟨decision, hlog hanswered, hdecision⟩, h.vetted, h.determined⟩

structure WgInv (X : Externals) (policy : CapabilityPolicy) (s : WgSystem) : Prop where
  /-- A caller that is to settle an intent is a task, and the intent is the one proposed for it. -/
  tasks : ∀ t id, (s.flow.callers t).unsettled = some id →
    ∃ task record target, s.tasks[t]? = some task ∧ s.flow.records id = some record ∧
      record.intent.id = id ∧ task.capability = capabilityFor target task.listing ∧
      Vetted X policy record.intent target ∧
      Story s.flow.log t record.intent (s.flow.callers t)
  /-- A call was made by a task that is through. -/
  settled : ∀ c ∈ s.calls, c.task < s.tasks.length ∧ (s.flow.callers c.task).unsettled = none
  calls : ∀ c ∈ s.calls, ∃ target, AsApproved X policy s.flow.log c target
  single : s.calls.Pairwise fun c c' => c.task ≠ c'.task

section Invariant

variable {X : Externals} {policy : CapabilityPolicy} {ctx : DispatchContext} {s : WgSystem}

lemma WgInv.init (now : Nat) : WgInv X policy (.init now) where
  tasks t id h := by cases h
  settled c h := absurd h not_mem_nil
  calls c h := absurd h not_mem_nil
  single := .nil

lemma WgInv.flow (h : WgInv X policy s) {f : FlowSystem} (hframe : StoryFrame s.flow f) :
    WgInv X policy { s with flow := f } where
  tasks t id hid := by
    obtain ⟨task, record, target, htask, hrecord, hintent, hcap, hvetted, hstory⟩ :=
      h.tasks t id (hframe.tasks t id hid)
    obtain ⟨record', hrecord', hsame⟩ := hframe.records id record hrecord
    refine ⟨task, record', target, htask, hrecord', ?_, hcap, ?_, ?_⟩
    · rw [hsame, hintent]
    · rwa [hsame]
    · rw [hsame]
      exact hframe.story t id record hid hrecord hstory
  settled c hc := by
    obtain ⟨hlt, hnone⟩ := h.settled c hc
    refine ⟨hlt, Option.eq_none_iff_forall_ne_some.mpr fun id hid => ?_⟩
    rw [hframe.tasks c.task id hid] at hnone
    cases hnone
  calls c hc := by
    obtain ⟨target, happroved⟩ := h.calls c hc
    exact ⟨target, happroved.mono hframe.log⟩
  single := h.single

lemma WgInv.call (h : WgInv X policy s) {c : WgCall} (hlt : c.task < s.tasks.length)
    (hnone : (s.flow.callers c.task).unsettled = none) {target : WgPeerManageTarget}
    (happroved : AsApproved X policy s.flow.log c target)
    (hnew : ∀ c' ∈ s.calls, c'.task ≠ c.task) :
    WgInv X policy { s with calls := s.calls ++ [c] } where
  tasks := h.tasks
  settled c' hc' := by
    rcases mem_append.mp hc' with hold | hsingle
    · exact h.settled c' hold
    · rw [mem_singleton.mp hsingle]
      exact ⟨hlt, hnone⟩
  calls c' hc' := by
    rcases mem_append.mp hc' with hold | hsingle
    · exact h.calls c' hold
    · rw [mem_singleton.mp hsingle]
      exact ⟨target, happroved⟩
  single := by
    refine pairwise_append.mpr ⟨h.single, pairwise_singleton .., ?_⟩
    intro c' hc' c'' hc''
    rw [mem_singleton.mp hc'']
    exact hnew c' hc'

lemma WgInv.manage (h : WgInv X ctx.policy s) {lossy : List UInt8 → String} {sender : NodeId}
    {draw : IntentId} {payload : List UInt8} {listing : UaiHttp}
    (hfresh : s.flow.records draw = none) :
    WgInv X ctx.policy (s.manage X ctx lossy sender draw payload listing) := by
  unfold WgSystem.manage
  split
  · exact ⟨h.tasks, h.settled, h.calls, h.single⟩
  rename_i target hparse
  simp only
  split
  · exact ⟨h.tasks, h.settled, h.calls, h.single⟩
  rename_i reply id records hdispatch
  obtain ⟨record, rfl, rfl, hintent, hvetted⟩ :=
    vetted_of_dispatch (spares_of_parse hparse) hdispatch
  refine ⟨?_, ?_, h.calls, h.single⟩
  · intro t id' hid'
    by_cases ht : t = s.tasks.length
    · subst ht
      simp only [moveTo, withRecords, update_self] at hid' ⊢
      cases hid'
      exact ⟨_, record, target, getElem?_concat_length, update_self .., hintent,
        rfl, hvetted, trivial⟩
    · simp only [moveTo, withRecords, update_of_ne ht] at hid' ⊢
      obtain ⟨task, record', target', htask, hrecord', hrest⟩ := h.tasks t id' hid'
      have hne : id' ≠ id := by
        rintro rfl
        rw [hfresh] at hrecord'
        cases hrecord'
      exact ⟨task, record', target', getElem?_concat_of_some htask,
        by rw [update_of_ne hne]; exact hrecord', hrest⟩
  · intro c hc
    obtain ⟨hlt, hnone⟩ := h.settled c hc
    refine ⟨by rw [length_append]; exact Nat.lt_add_right _ hlt, ?_⟩
    simpa only [moveTo, withRecords,
      update_of_ne (Nat.ne_of_lt hlt)] using hnone

lemma unsettled_finish (policy : CapabilityPolicy) {f : FlowSystem} {t : Nat} {id : IntentId}
    {decision : ApprovalDecision} (hphase : f.callers t = .decided id decision)
    (outcome : Except String String) :
    ((f.step X policy (.finish t outcome)).callers t).unsettled = none := by
  simp [FlowSystem.step, hphase, stepFinish, moveTo, observe,
    withRecords, Phase.unsettled]

lemma WgInv.execute (h : WgInv X policy s) {t : Nat} {task : WgTask}
    (htask : s.tasks[t]? = some task) (http : UaiHttp) :
    WgInv X policy (s.execute X policy t task http) := by
  have hframe := storyFrame_finish (X := X) policy s.flow t (task.capability.perform http).2
  have hflow := h.flow hframe
  unfold WgSystem.execute
  simp only
  split
  · rename_i intent call hexecuted hcall
    obtain ⟨id, decision, record, hphase, happroved, hrecord, rfl⟩ :=
      decided_of_executedBy hexecuted
    have hunsettled : (s.flow.callers t).unsettled = some id := by
      rw [hphase]
      rfl
    obtain ⟨task', record', target, htask', hrecord', hid, hcap, hvetted, hstory⟩ :=
      h.tasks t id hunsettled
    cases htask.symm.trans htask'
    cases hrecord.symm.trans hrecord'
    rw [hphase] at hstory
    obtain ⟨hshown, hanswered, hdecision⟩ := hstory
    have hrequest := WgPeerManageCapability.request_of_perform hcall
    rw [hcap] at hrequest
    have hbefore : AsApproved X policy s.flow.log ⟨t, task.listing, record.intent, call⟩ target :=
      ⟨hshown, ⟨decision, hid.symm ▸ hanswered, hdecision.trans hid.symm, happroved⟩, hvetted,
        determines_of_request hrequest⟩
    apply hflow.call (List.getElem?_eq_some_iff.mp htask).1 (unsettled_finish policy hphase _)
      (hbefore.mono hframe.log)
    rintro c' hc' rfl
    rw [(h.settled c' hc').2] at hunsettled
    cases hunsettled
  · rw [append_nil]
    exact hflow

lemma WgInv.step (h : WgInv X ctx.policy s) {lossy : List UInt8 → String} {e : WgEvent}
    (hfresh : s.FreshDraw e) : WgInv X ctx.policy (s.step X ctx lossy e) := by
  cases e with
  | manage sender draw payload listing => exact h.manage hfresh
  | claim t => exact h.flow (storyFrame_claim ..)
  | consult t => exact h.flow (storyFrame_consult ..)
  | answer t answer => exact h.flow (storyFrame_answer ..)
  | execute t http =>
    simp only [WgSystem.step]
    split
    · exact h.execute ‹_› http
    · exact h
  | tick elapsed => exact h.flow (storyFrame_tick ..)

end Invariant

def HardDenied (client : JsonValue) : Prop :=
  ∃ name, clientName client = some name ∧
    ∃ denied ∈ hardDeniedWgPeerTargets, eqIgnoreAsciiCase denied name

lemma not_hardDenied {client : JsonValue} (hspares : target.Spares)
    (hreduces : target.action.reducesAccess) (hname : clientName client = some target.name) :
    ¬ HardDenied client := by
  rintro ⟨name, hname', denied, hmem, hequal⟩
  cases hname.symm.trans hname'
  exact hspares hreduces denied hmem hequal

lemma spared_of_determines {call : UaiCall}
    (h : Determines target listing call) (hspares : target.Spares)
    (htool : call.toolName = toolOf .delete ∨ call.toolName = toolOf .disable) :
    ∃ client ∈ wgClients listing, ¬ HardDenied client ∧
      call.inputArgs = [("client_id", clientId client)] := by
  obtain ⟨action, name⟩ := target
  cases action with
  | create =>
    rw [h] at htool
    exact absurd htool (by simp [toolOf])
  | enable =>
    obtain ⟨client, -, -, rfl⟩ := h
    exact absurd htool (by simp [toolOf])
  | delete =>
    obtain ⟨client, hmem, hname, rfl⟩ := h
    exact ⟨client, hmem, not_hardDenied hspares rfl hname, rfl⟩
  | disable =>
    obtain ⟨client, hmem, hname, rfl⟩ := h
    exact ⟨client, hmem, not_hardDenied hspares rfl hname, rfl⟩

/-- **What is done is what was approved.** In any run, whatever the payloads, the policy, the lists
of the backend and the answers of the channel: every call that changes something at the backend has
an intent that was shown and approved, and is the call that its two parameters stand for, which
passed both checks; a task makes at most one call; and what is deleted or disabled is the id of a
listed client that is not hard-denied. Drawn ids are assumed new. -/
theorem wg_peer_manage_as_approved (X : Externals) (ctx : DispatchContext)
    (lossy : List UInt8 → String) (now : Nat) (es : List WgEvent)
    (hfresh : Guarded (WgSystem.step X ctx lossy) WgSystem.FreshDraw (.init now) es) :
    let s := run (WgSystem.step X ctx lossy) (.init now) es
    (∀ c ∈ s.calls, ∃ target, AsApproved X ctx.policy s.flow.log c target) ∧
      (s.calls.Pairwise fun c c' => c.task ≠ c'.task) ∧
      ∀ c ∈ s.calls, c.call.toolName = toolOf .delete ∨ c.call.toolName = toolOf .disable →
        ∃ client ∈ wgClients c.listing, ¬ HardDenied client ∧
          c.call.inputArgs = [("client_id", clientId client)] ∧
          (((wgClients c.listing).map clientId).Nodup →
            ∀ client' ∈ wgClients c.listing, HardDenied client' →
              clientId client' ≠ clientId client) := by
  intro s
  have hinv : WgInv X ctx.policy s :=
    run_invariant_of_guarded (fun _ _ h hfresh => h.step hfresh) (.init now) hfresh
  refine ⟨hinv.calls, hinv.single, ?_⟩
  intro c hc htool
  obtain ⟨target, happroved⟩ := hinv.calls c hc
  obtain ⟨client, hmem, hspared, hargs⟩ :=
    spared_of_determines happroved.determined happroved.vetted.spares htool
  refine ⟨client, hmem, hspared, hargs, ?_⟩
  intro hnodup client' hmem' hdenied hid
  obtain rfl := inj_on_of_nodup_map hnodup hmem' hmem hid
  exact hspared hdenied

/-- BLAKE3 on the pre-image of the proposal to disable `tablet`, and ASCII lower-casing. -/
def disableExternals : Externals where
  blake3 input :=
    if input = hashInput (parameterDescriptor "wg_peer_manage"
        (wgPeerManageParams ⟨.disable, "tablet"⟩)) then
      hex 32 0x4acac34d831abce8e9d0ed1f4a437f6d2fc1673df90c9aba1c36de0da05c0f6e
    else Vector.replicate 32 0
  toLowercase := wgExternals.toLowercase

/-- A reply with two clients, one of them hard-denied. -/
def sampleListing : UaiHttp :=
  .reply (.object [("ok", .bool true), ("clients", .array
    [.object [("id", .string "a1"), ("name", .string "larry-laptop"), ("enabled", .bool true)],
      .object [("id", .string "b2"), ("name", .string "tablet"), ("enabled", .bool true)]])])

/-- A request to disable `tablet`, and its approval. -/
def disableRun : List WgEvent :=
  [.manage samplePeer ⟨Vector.replicate 16 7⟩ (utf8 " DISABLE : tablet ") sampleListing,
    .claim 0, .consult 0, .answer 0 (.ok ⟨⟨Vector.replicate 16 7⟩, true, "telegram"⟩),
    .execute 0 (.reply (.object [("ok", .bool true)]))]

def disabled : WgSystem :=
  run (WgSystem.step disableExternals wgContext fun bytes =>
    String.ofList (bytes.map fun b => Char.ofNat b.toNat)) (.init 0) disableRun

theorem wg_peer_manage_disables_tablet :
    disabled.calls.map (·.call) = [⟨"wg_disable_client", [("client_id", "b2")]⟩] ∧
      ∀ c ∈ disabled.calls,
        ∃ target, AsApproved disableExternals wgContext.policy disabled.flow.log c target := by
  refine ⟨by decide +kernel, ?_⟩
  exact (wg_peer_manage_as_approved disableExternals wgContext _ 0 disableRun
    ⟨rfl, trivial, trivial, trivial, trivial, trivial⟩).1

end AxiomCore
