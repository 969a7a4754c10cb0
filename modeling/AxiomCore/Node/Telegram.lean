import AxiomCore.Gateway.Approval
import AxiomCore.Lib.JsonValue
import AxiomCore.Lib.Run
import AxiomCore.Lib.Text

/-!
# Approval by Telegram

A request for approval is a message with two buttons. The data of a button names the decision and
the intent. `request_approval` registers a one-shot channel for its intent, sends the message, and
waits, up to a timeout. One task polls for updates; `process_update` takes the channel of the intent
that a button names, acknowledges, and sends the decision.

`TelegramSystem` is the table of channels with all calls of `request_approval` and the poller. One
`TelegramEvent` is one step of a call or of the poller, so that any list of events is an
interleaving. Updates are any JSON; timeouts come at any time.

Source: `forge-node/src/telegram_approval.rs`.
-/

namespace AxiomCore

open Lib

/-! ## Buttons -/

/-- Source: `axiom-gateway/src/approval.rs`, `IntentId::to_hex`. -/
def IntentId.toHex (id : IntentId) : String := hexEncode id.bytes.toList

def callbackData (action hexId : String) : String := "wg:" ++ action ++ ":" ++ hexId

def isAsciiHexdigit (b : UInt8) : Bool := (hexVal b).isSome

def parseCallbackData (data : String) : Option (String × String) :=
  match splitN ':' 3 data.toList with
  | [start, action, hexId] =>
    if String.ofList start ≠ "wg" then none
    else if String.ofList action ≠ "approve" ∧ String.ofList action ≠ "deny" then none
    else if (utf8 (String.ofList hexId)).length ≠ 32 ∨
        ¬ (utf8 (String.ofList hexId)).all isAsciiHexdigit then none
    else some (String.ofList action, String.ofList hexId)
  | _ => none

lemma toList_callbackData (action hexId : String) :
    (callbackData action hexId).toList =
      ['w', 'g'] ++ ':' :: (action.toList ++ ':' :: hexId.toList) := by
  have hprefix : "wg:".toList = ['w', 'g', ':'] := by decide
  have hcolon : ":".toList = [':'] := by decide
  simp [callbackData, String.toList_append, hprefix, hcolon]

variable {action : String} {chatId : Int64} {update : JsonValue}

lemma parseCallbackData_eq_some_iff {data hexId : String} :
    parseCallbackData data = some (action, hexId) ↔
      data = callbackData action hexId ∧ (action = "approve" ∨ action = "deny") ∧
        (utf8 hexId).length = 32 ∧ (utf8 hexId).all isAsciiHexdigit := by
  constructor
  · intro h
    unfold parseCallbackData at h
    split at h
    · rename_i start action' hexId' hsplit
      split_ifs at h with hstart haction hhex
      cases h
      obtain ⟨hdata, -, -⟩ := splitN_three_eq_iff.mp hsplit
      have hwg : start = ['w', 'g'] := by
        rw [← String.toList_ofList (l := start), not_not.mp hstart]
        decide
      refine ⟨?_, ?_, ?_⟩
      · apply String.toList_inj.mp
        rw [hdata, toList_callbackData, hwg, String.toList_ofList, String.toList_ofList]
      · by_contra hneither
        exact haction (not_or.mp hneither)
      · obtain ⟨hlength, hall⟩ := not_or.mp hhex
        exact ⟨not_not.mp hlength, not_not.mp hall⟩
    · cases h
  · rintro ⟨rfl, haction, hlength, hall⟩
    have hcolon : ':' ∉ action.toList := by
      rcases haction with rfl | rfl <;> decide
    have hsplit : splitN ':' 3 (callbackData action hexId).toList =
        [['w', 'g'], action.toList, hexId.toList] :=
      splitN_three_eq_iff.mpr ⟨toList_callbackData action hexId, by decide, hcolon⟩
    have hwg : String.ofList ['w', 'g'] = "wg" := by decide
    have hknown : ¬ (action ≠ "approve" ∧ action ≠ "deny") := not_and_or.mpr (by
      rcases haction with h | h
      · exact .inl (not_not.mpr h)
      · exact .inr (not_not.mpr h))
    have hvalid : ¬ ((utf8 hexId).length ≠ 32 ∨ ¬ (utf8 hexId).all isAsciiHexdigit) :=
      not_or.mpr ⟨not_not.mpr hlength, not_not.mpr hall⟩
    simp only [parseCallbackData, hsplit, String.ofList_toList]
    rw [if_neg (not_not.mpr hwg), if_neg hknown, if_neg hvalid]

/-! ## Updates -/

inductive UpdateOutcome where
  /-- Nothing but an answer, if the update has an id to answer to. -/
  | ignored (answer : Option (String × String))
  /-- A waiter is taken out of the table, to be sent a decision after the answer. -/
  | taken (answer : Option (String × String)) (hexId : String) (waiter : Nat) (approved : Bool)

/-- `answer_callback_query`, unless there is no id. -/
def answerTo (callbackQueryId text : String) : Option (String × String) :=
  if callbackQueryId = "" then none else some (callbackQueryId, text)

/-- Who pressed the button. -/
def callbackFromId (cb : JsonValue) : Option Int64 :=
  (cb.get "from").bind fun sender => (sender.get "id").bind JsonValue.asI64

/-- `process_update`, up to the answer. -/
def processUpdate (chatId : Int64) (pending : String → Option Nat) (update : JsonValue) :
    UpdateOutcome :=
  match update.get "callback_query" with
  | none => .ignored none
  | some cb =>
    let callbackQueryId := ((cb.get "id").bind JsonValue.asStr).getD ""
    let data := ((cb.get "data").bind JsonValue.asStr).getD ""
    if callbackFromId cb ≠ some chatId then
      .ignored (answerTo callbackQueryId "Not authorized.")
    else
      match parseCallbackData data with
      | none => .ignored (answerTo callbackQueryId "Malformed request - ignored.")
      | some (action, hexId) =>
        match pending hexId with
        | none =>
          .ignored (answerTo callbackQueryId
            "This request is no longer pending (expired or already decided).")
        | some waiter =>
          let approved : Bool := action = "approve"
          .taken (answerTo callbackQueryId (if approved then "Approved." else "Denied."))
            hexId waiter approved

def Decides (chatId : Int64) (action : String) (id : IntentId) (update : JsonValue) : Prop :=
  ∃ cb, update.get "callback_query" = some cb ∧ callbackFromId cb = some chatId ∧
    (cb.get "data").bind JsonValue.asStr = some (callbackData action id.toHex)

lemma processUpdate_eq_taken {pending : String → Option Nat}
    {answer : Option (String × String)} {hexId : String} {waiter : Nat}
    {approved : Bool} (h : processUpdate chatId pending update = .taken answer hexId waiter approved) :
    pending hexId = some waiter ∧ ∃ action, (action = "approve" ∨ action = "deny") ∧
      (approved = true ↔ action = "approve") ∧
      ∀ id : IntentId, id.toHex = hexId → Decides chatId action id update := by
  unfold processUpdate at h
  rcases hcb : update.get "callback_query" with _ | cb
  · simp only [hcb] at h
    cases h
  simp only [hcb] at h
  split_ifs at h with hfrom
  rcases hparse : parseCallbackData (((cb.get "data").bind JsonValue.asStr).getD "") with
    _ | ⟨action, hexId'⟩
  · simp only [hparse] at h
    cases h
  rcases hpending : pending hexId' with _ | waiter'
  · simp only [hparse, hpending] at h
    cases h
  simp only [hparse, hpending] at h
  obtain ⟨-, rfl, rfl, rfl⟩ := UpdateOutcome.taken.inj h
  obtain ⟨hdata, haction, -⟩ := parseCallbackData_eq_some_iff.mp hparse
  refine ⟨hpending, action, haction, decide_eq_true_iff, ?_⟩
  rintro id rfl
  refine ⟨cb, hcb, not_not.mp hfrom, ?_⟩
  rcases htext : (cb.get "data").bind JsonValue.asStr with _ | text
  · -- an update without data is not for any intent
    rw [htext] at hparse
    have hempty : parseCallbackData "" = none := by decide
    rw [Option.getD_none, hempty] at hparse
    cases hparse
  · rw [htext, Option.getD_some] at hdata
    rw [hdata]

/-! ## The system -/

/-- A one-shot channel, as the receiver sees it. Source: crate `tokio`, `oneshot`. -/
inductive OneShot where
  /-- The sender is there and has not sent. -/
  | unsent
  | sent (value : Bool)
  /-- The sender was dropped without sending. -/
  | dropped
  deriving DecidableEq

/-- Where a call of `request_approval` is. -/
inductive RequestStage where
  /-- The waiter is registered; the message is being sent. -/
  | sending
  | waiting
  /-- The wait is over; the waiter is not yet removed. -/
  | decided (approved : Bool)
  | returned (result : Except ApprovalChannelError ApprovalDecision)
  deriving DecidableEq

structure ApprovalCall where
  intentId : IntentId
  stage : RequestStage
  reply : OneShot

inductive SendResult where
  | success
  | http (status detail : String)
  | unreachable (error : String)

/-- The table of waiters, the calls that wait, and the poller. A waiter is the call it is of. -/
structure TelegramSystem where
  pending : String → Option Nat
  calls : List ApprovalCall
  /-- The waiter that the poller has taken, and the decision it is going to send. -/
  poller : Option (Nat × Bool)
  /-- The answers to updates, oldest first. -/
  answers : List (String × String)

inductive TelegramEvent where
  /-- `request_approval` is called and registers its waiter. -/
  | request (id : IntentId)
  /-- The message of a call is sent, or is not. -/
  | sendMessage (k : Nat) (result : SendResult)
  | update (update : JsonValue)
  | deliver
  /-- A call finds that its channel was sent to or dropped. -/
  | wake (k : Nat)
  | timeout (k : Nat)
  /-- A call removes its waiter and returns. -/
  | cleanup (k : Nat)

namespace TelegramSystem

def start : TelegramSystem := ⟨fun _ => none, [], none, []⟩

def setCall (s : TelegramSystem) (k : Nat) (call : ApprovalCall) : TelegramSystem :=
  { s with calls := s.calls.set k call }

def settle (s : TelegramSystem) (waiter : Option Nat) (reply : OneShot) : TelegramSystem :=
  match waiter with
  | none => s
  | some k =>
    match s.calls[k]? with
    | some call => if call.reply = .unsent then s.setCall k { call with reply := reply } else s
    | none => s

def remove (s : TelegramSystem) (hexId : String) : TelegramSystem :=
  { s.settle (s.pending hexId) .dropped with pending := Function.update s.pending hexId none }

/-- The first part of `send_approval_request`: an older waiter of the same intent is dropped. -/
def register (s : TelegramSystem) (id : IntentId) : TelegramSystem :=
  let s' := s.settle (s.pending id.toHex) .dropped
  { s' with
    pending := Function.update s.pending id.toHex (some s.calls.length)
    calls := s'.calls ++ [⟨id, .sending, .unsent⟩] }

def sendError : SendResult → Option String
  | .success => none
  | .http status detail => some ("Telegram sendMessage failed: HTTP " ++ status ++ ": " ++ detail)
  | .unreachable error => some ("Telegram sendMessage unreachable: " ++ error)

def finish (s : TelegramSystem) (k : Nat) (call : ApprovalCall)
    (result : Except ApprovalChannelError ApprovalDecision) : TelegramSystem :=
  (s.setCall k { call with stage := .returned result }).remove call.intentId.toHex

def stepCall (s : TelegramSystem) (k : Nat) (call : ApprovalCall) : TelegramEvent → TelegramSystem
  | .sendMessage _ result =>
    if call.stage = .sending then
      match sendError result with
      | none => s.setCall k { call with stage := .waiting }
      | some e => s.finish k call (.error (.io e))
    else s
  | .wake _ =>
    if call.stage = .waiting then
      match call.reply with
      | .unsent => s
      | .sent approved => s.setCall k { call with stage := .decided approved }
      | .dropped => s.setCall k { call with stage := .decided false }
    else s
  | .timeout _ =>
    -- the channel is looked at once more before the wait is given up
    if call.stage = .waiting then
      s.setCall k { call with stage := .decided (call.reply = .sent true) }
    else s
  | .cleanup _ =>
    match call.stage with
    | .decided approved => s.finish k call (.ok ⟨call.intentId, approved, "telegram"⟩)
    | _ => s
  | _ => s

def stepUpdate (chatId : Int64) (s : TelegramSystem) (update : JsonValue) : TelegramSystem :=
  match processUpdate chatId s.pending update with
  | .ignored answer => { s with answers := s.answers ++ answer.toList }
  | .taken answer hexId waiter approved =>
    { s with
      pending := Function.update s.pending hexId none
      poller := some (waiter, approved)
      answers := s.answers ++ answer.toList }

def step (chatId : Int64) (s : TelegramSystem) (e : TelegramEvent) : TelegramSystem :=
  match e with
  | .request id => s.register id
  | .update update =>
    -- the poller looks at one update after the other
    if s.poller = none then s.stepUpdate chatId update else s
  | .deliver =>
    match s.poller with
    | some (waiter, approved) => { s.settle (some waiter) (.sent approved) with poller := none }
    | none => s
  | .sendMessage k _ | .wake k | .timeout k | .cleanup k =>
    match s.calls[k]? with
    | some call => s.stepCall k call e
    | none => s

/-! ## What a step can do -/

end TelegramSystem

open TelegramSystem

def ApprovalCall.SaysYes (call : ApprovalCall) : Prop :=
  call.reply = .sent true ∨ call.stage = .decided true ∨
    ∃ decision, call.stage = .returned (.ok decision) ∧ decision.approved

/-- The calls after a step are those before it, still for the same intents; and only a call that
`sentTo` allows comes to a yes that it did not have. -/
structure Evolves (sentTo : Nat → Prop) (calls calls' : List ApprovalCall) : Prop where
  length_eq : calls'.length = calls.length
  same : ∀ (j : Nat) (call' : ApprovalCall), calls'[j]? = some call' → ∃ call,
    calls[j]? = some call ∧ call'.intentId = call.intentId ∧
      (call'.SaysYes → call.SaysYes ∨ sentTo j)

namespace Evolves

variable {sentTo : Nat → Prop} {calls calls' calls'' : List ApprovalCall}

lemma refl (sentTo : Nat → Prop) (calls : List ApprovalCall) : Evolves sentTo calls calls :=
  ⟨rfl, fun _ call' h => ⟨call', h, rfl, .inl⟩⟩

lemma trans (h : Evolves sentTo calls calls') (h' : Evolves sentTo calls' calls'') :
    Evolves sentTo calls calls'' := by
  refine ⟨h'.length_eq.trans h.length_eq, ?_⟩
  intro j call'' hcall''
  obtain ⟨call', hcall', hid', hyes'⟩ := h'.same j call'' hcall''
  obtain ⟨call, hcall, hid, hyes⟩ := h.same j call' hcall'
  refine ⟨call, hcall, hid'.trans hid, fun hsays => ?_⟩
  rcases hyes' hsays with hsays' | hsent
  · exact hyes hsays'
  · exact .inr hsent

lemma mono {sentTo' : Nat → Prop} (h : Evolves sentTo calls calls')
    (hmono : ∀ j, sentTo j → sentTo' j) : Evolves sentTo' calls calls' := by
  refine ⟨h.length_eq, ?_⟩
  intro j call' hcall'
  obtain ⟨call, hcall, hid, hyes⟩ := h.same j call' hcall'
  exact ⟨call, hcall, hid, fun hsays => (hyes hsays).imp_right (hmono j)⟩

lemma set {k : Nat} {call call' : ApprovalCall} (hcall : calls[k]? = some call)
    (hid : call'.intentId = call.intentId) (hyes : call'.SaysYes → call.SaysYes ∨ sentTo k) :
    Evolves sentTo calls (calls.set k call') := by
  refine ⟨List.length_set, ?_⟩
  intro j other hother
  rcases getElem?_set_cases hother with ⟨rfl, rfl⟩ | ⟨-, hold⟩
  · exact ⟨call, hcall, hid, hyes⟩
  · exact ⟨other, hold, rfl, .inl⟩

lemma exists_of_some (h : Evolves sentTo calls calls') {j : Nat} {call : ApprovalCall}
    (hcall : calls[j]? = some call) :
    ∃ call', calls'[j]? = some call' ∧ call'.intentId = call.intentId := by
  have hlt : j < calls'.length := h.length_eq ▸ (List.getElem?_eq_some_iff.mp hcall).1
  have hcall' : calls'[j]? = some calls'[j] := List.getElem?_eq_getElem hlt
  obtain ⟨old, hold, hid, -⟩ := h.same j _ hcall'
  cases hold.symm.trans hcall
  exact ⟨_, hcall', hid⟩

end Evolves

namespace TelegramSystem

variable {s : TelegramSystem}

variable {waiter k : Nat} {call : ApprovalCall} {chatId : Int64} {e : TelegramEvent}

variable {hexId : String} {s' : TelegramSystem} {approved : Bool} {es : List TelegramEvent}
  {id : IntentId}

lemma of_update_none {f : String → Option Nat} {removed : String}
    (h : Function.update f removed none hexId = some waiter) :
    hexId ≠ removed ∧ f hexId = some waiter := by
  by_cases hhex : hexId = removed
  · rw [hhex, Function.update_self] at h
    cases h
  · rw [Function.update_of_ne hhex] at h
    exact ⟨hhex, h⟩

@[simp] lemma pending_settle (s : TelegramSystem) (waiter : Option Nat) (reply : OneShot) :
    (s.settle waiter reply).pending = s.pending := by
  unfold settle
  split
  · rfl
  split
  · split_ifs <;> rfl
  · rfl

@[simp] lemma poller_settle (s : TelegramSystem) (waiter : Option Nat) (reply : OneShot) :
    (s.settle waiter reply).poller = s.poller := by
  unfold settle
  split
  · rfl
  split
  · split_ifs <;> rfl
  · rfl

lemma evolves_settle (s : TelegramSystem) (waiter : Option Nat) (reply : OneShot) :
    Evolves (fun j => waiter = some j ∧ reply = .sent true) s.calls
      (s.settle waiter reply).calls := by
  unfold settle
  split
  · exact .refl _ _
  rename_i k
  split
  · rename_i call hcall
    split_ifs with hunsent
    · refine .set hcall rfl ?_
      rintro (hsent | hrest)
      · exact .inr ⟨rfl, hsent⟩
      · exact .inl (.inr hrest)
    · exact .refl _ _
  · exact .refl _ _

lemma evolves_dropped (s : TelegramSystem) (waiter : Option Nat) :
    Evolves (fun _ => False) s.calls (s.settle waiter .dropped).calls :=
  (evolves_settle s waiter .dropped).mono fun _ h => by cases h.2

/-- **A step of a call**, by what it does. -/
inductive CallMove (s : TelegramSystem) (k : Nat) (call : ApprovalCall) : TelegramSystem → Prop
  | idle : CallMove s k call s
  /-- It goes on; after the wait with a yes only if its channel has one. -/
  | moved (stage : RequestStage) (hreturned : ∀ result, stage ≠ .returned result)
      (hyes : stage = .decided true → call.reply = .sent true) :
      CallMove s k call (s.setCall k { call with stage := stage })
  /-- It returns, with the decision it came to. -/
  | finished (result : Except ApprovalChannelError ApprovalDecision)
      (hresult : ∀ decision, result = .ok decision →
        decision.intentId = call.intentId ∧ call.stage = .decided decision.approved) :
      CallMove s k call (s.finish k call result)

lemma callMove_stepCall (k : Nat) (call : ApprovalCall) (e : TelegramEvent) :
    CallMove s k call (s.stepCall k call e) := by
  cases e with
  | sendMessage _ result =>
    simp only [stepCall]
    split_ifs with hstage
    · rcases sendError result with _ | e
      · exact .moved .waiting nofun nofun
      · exact .finished (.error (.io e)) nofun
    · exact .idle
  | wake _ =>
    simp only [stepCall]
    split_ifs with hstage
    · split
      · exact .idle
      · rename_i approved hreply
        refine .moved (.decided approved) nofun ?_
        rintro ⟨⟩
        exact hreply
      · exact .moved (.decided false) nofun nofun
    · exact .idle
  | timeout _ =>
    simp only [stepCall]
    split_ifs with hstage
    · refine .moved _ nofun fun hyes => ?_
      exact of_decide_eq_true (RequestStage.decided.inj hyes)
    · exact .idle
  | cleanup _ =>
    simp only [stepCall]
    split
    · rename_i approved hstage
      refine .finished (.ok ⟨call.intentId, approved, "telegram"⟩) ?_
      rintro decision ⟨⟩
      exact ⟨rfl, hstage⟩
    · exact .idle
  | request _ => exact .idle
  | update _ => exact .idle
  | deliver => exact .idle

lemma CallMove.evolves
    (hmove : CallMove s k call s') (hcall : s.calls[k]? = some call) :
    Evolves (fun _ => False) s.calls s'.calls := by
  cases hmove with
  | idle => exact .refl _ _
  | moved stage hreturned hyes =>
    refine .set hcall rfl ?_
    rintro (hsent | hdecided | ⟨decision, hok, -⟩)
    · exact .inl (.inl hsent)
    · exact .inl (.inl (hyes hdecided))
    · exact absurd hok (hreturned _)
  | finished result hresult =>
    have hset : Evolves (fun _ => False) s.calls
        (s.setCall k { call with stage := .returned result }).calls := by
      refine .set hcall rfl ?_
      rintro (hsent | hdecided | ⟨decision, hreturned, happroved⟩)
      · exact .inl (.inl hsent)
      · cases hdecided
      · obtain ⟨-, hstage⟩ := hresult decision (RequestStage.returned.inj hreturned)
        rw [happroved] at hstage
        exact .inl (.inr (.inl hstage))
    exact hset.trans (evolves_dropped _ _)

lemma CallMove.keeps
    (hmove : CallMove s k call s') :
    (∀ hexId waiter, s'.pending hexId = some waiter → s.pending hexId = some waiter) ∧
      s'.poller = s.poller := by
  cases hmove with
  | idle => exact ⟨fun _ _ h => h, rfl⟩
  | moved stage _ _ => exact ⟨fun _ _ h => h, rfl⟩
  | finished result _ =>
    refine ⟨fun hexId waiter h => ?_, poller_settle _ _ _⟩
    exact (of_update_none (f := s.pending) h).2

lemma calls_step (chatId : Int64) (s : TelegramSystem) (e : TelegramEvent) :
    (∃ id calls', e = .request id ∧ Evolves (fun _ => False) s.calls calls' ∧
      (s.step chatId e).calls = calls' ++ [⟨id, .sending, .unsent⟩]) ∨
    Evolves (fun j => e = .deliver ∧ s.poller = some (j, true)) s.calls
      (s.step chatId e).calls := by
  have hnever : ∀ {sentTo : Nat → Prop} (j : Nat), False → sentTo j := fun _ h => h.elim
  cases e with
  | request id => exact .inl ⟨id, _, rfl, evolves_dropped _ _, rfl⟩
  | update update =>
    refine .inr ?_
    simp only [step, stepUpdate]
    split_ifs with hidle
    · split <;> exact .refl _ _
    · exact .refl _ _
  | deliver =>
    refine .inr ?_
    rcases hpoller : s.poller with _ | ⟨waiter, approved⟩
    · simp only [step, hpoller]
      exact .refl _ _
    simp only [step, hpoller]
    refine (evolves_settle s (some waiter) (.sent approved)).mono ?_
    rintro j ⟨⟨⟩, ⟨⟩⟩
    exact ⟨trivial, rfl⟩
  | sendMessage k _ | wake k | timeout k | cleanup k =>
    refine .inr ?_
    rcases hcall : s.calls[k]? with _ | call
    · simp only [step, hcall]
      exact .refl _ _
    · simp only [step, hcall]
      exact ((callMove_stepCall k call _).evolves hcall).mono hnever

lemma pending_step
    (h : (s.step chatId e).pending hexId = some waiter) :
    s.pending hexId = some waiter ∨
      ∃ id, e = .request id ∧ hexId = id.toHex ∧ waiter = s.calls.length := by
  cases e with
  | request id =>
    by_cases hhex : hexId = id.toHex
    · have hnew : (s.step chatId (.request id)).pending hexId = some s.calls.length := by
        rw [hhex]
        exact Function.update_self ..
      exact .inr ⟨id, rfl, hhex, Option.some.inj (h.symm.trans hnew)⟩
    have hkept : (s.step chatId (.request id)).pending hexId = s.pending hexId :=
      Function.update_of_ne hhex ..
    exact .inl (hkept.symm.trans h)
  | update update =>
    refine .inl ?_
    simp only [step, stepUpdate] at h
    split_ifs at h with hidle
    · split at h
      · exact h
      · exact (of_update_none h).2
    · exact h
  | deliver =>
    refine .inl ?_
    rcases hpoller : s.poller with _ | ⟨k, approved⟩
    · simpa only [step, hpoller] using h
    · simpa only [step, hpoller, pending_settle] using h
  | sendMessage k _ | wake k | timeout k | cleanup k =>
    refine .inl ?_
    rcases hcall : s.calls[k]? with _ | call
    · simpa only [step, hcall] using h
    · simp only [step, hcall] at h
      exact (callMove_stepCall k call _).keeps.1 hexId waiter h

lemma poller_step
    (h : (s.step chatId e).poller = some (waiter, approved)) :
    s.poller = some (waiter, approved) ∨
      ∃ update answer hexId, e = .update update ∧ s.poller = none ∧
        processUpdate chatId s.pending update = .taken answer hexId waiter approved := by
  cases e with
  | request id => exact .inl ((poller_settle _ _ _).symm.trans h)
  | update update =>
    simp only [step, stepUpdate] at h
    split_ifs at h with hidle
    · split at h
      · exact .inl h
      rename_i answer hexId k decision htaken
      cases h
      exact .inr ⟨update, answer, hexId, rfl, hidle, htaken⟩
    · exact .inl h
  | deliver =>
    rcases hpoller : s.poller with _ | ⟨k, decision⟩
    · simp only [step, hpoller] at h
      cases h
    · simp only [step, hpoller] at h
      cases h
  | sendMessage k _ | wake k | timeout k | cleanup k =>
    refine .inl ?_
    rcases hcall : s.calls[k]? with _ | call
    · simpa only [step, hcall] using h
    · simp only [step, hcall] at h
      exact (callMove_stepCall k call _).keeps.2.symm.trans h

/-! ## Where a yes comes from -/

/-- In this run, an update was looked at that is the press of the intent's Approve button by the
configured user, and at that moment the waiter of call `k` was registered for the intent. -/
def Approved (chatId : Int64) (es : List TelegramEvent) (k : Nat) (id : IntentId) : Prop :=
  ∃ before update after, es = before ++ .update update :: after ∧
    (run (step chatId) start before).poller = none ∧
    (run (step chatId) start before).pending id.toHex = some k ∧
    Decides chatId "approve" id update

lemma Approved.append
    (h : Approved chatId es k id) (e : TelegramEvent) : Approved chatId (es ++ [e]) k id := by
  obtain ⟨before, update, after, rfl, hrest⟩ := h
  exact ⟨before, update, after ++ [e], by simp, hrest⟩

/-- Every yes has its update. -/
structure Grounded (chatId : Int64) (es : List TelegramEvent) (s : TelegramSystem) : Prop where
  /-- A waiter is registered under its intent. -/
  registered : ∀ (hexId : String) (k : Nat), s.pending hexId = some k →
    ∃ call, s.calls[k]? = some call ∧ call.intentId.toHex = hexId
  poller : ∀ (k : Nat), s.poller = some (k, true) →
    ∃ call, s.calls[k]? = some call ∧ Approved chatId es k call.intentId
  calls : ∀ (k : Nat) (call : ApprovalCall), s.calls[k]? = some call → call.SaysYes →
    Approved chatId es k call.intentId

lemma exists_call_step
    (hcall : s.calls[k]? = some call) :
    ∃ call', (s.step chatId e).calls[k]? = some call' ∧ call'.intentId = call.intentId := by
  rcases calls_step chatId s e with ⟨id, calls', -, hevolves, hcalls⟩ | hevolves
  · obtain ⟨call', hcall', hid⟩ := hevolves.exists_of_some hcall
    rw [hcalls]
    exact ⟨call', getElem?_concat_of_some hcall', hid⟩
  · exact hevolves.exists_of_some hcall

lemma grounded_step (e : TelegramEvent)
    (h : Grounded chatId es (run (step chatId) start es)) :
    Grounded chatId (es ++ [e]) ((run (step chatId) start es).step chatId e) := by
  set s := run (step chatId) start es with hs
  refine ⟨?_, ?_, ?_⟩
  · intro hexId k hpending
    rcases pending_step hpending with hold | ⟨id, rfl, rfl, rfl⟩
    · obtain ⟨call, hcall, hhex⟩ := h.registered hexId k hold
      obtain ⟨call', hcall', hid⟩ := exists_call_step hcall
      exact ⟨call', hcall', by rw [hid, hhex]⟩
    -- the new call is the last one
    rcases calls_step chatId s (.request id) with ⟨id', calls', ⟨⟩, hevolves, hcalls⟩ | hevolves
    · rw [hcalls, ← hevolves.length_eq]
      exact ⟨⟨id, .sending, .unsent⟩, List.getElem?_concat_length, rfl⟩
    · have hlength := hevolves.length_eq
      simp [step, register, (evolves_dropped s _).length_eq] at hlength
  · intro k hpoller
    rcases poller_step hpoller with hold | ⟨update, answer, hexId, rfl, hidle, htaken⟩
    · obtain ⟨call, hcall, happroved⟩ := h.poller k hold
      obtain ⟨call', hcall', hid⟩ := exists_call_step hcall
      rw [← hid] at happroved
      exact ⟨call', hcall', happroved.append e⟩
    obtain ⟨hpending, action, -, hyes, hdecides⟩ := processUpdate_eq_taken htaken
    obtain ⟨call, hcall, rfl⟩ := h.registered hexId k hpending
    obtain ⟨call', hcall', hid⟩ := exists_call_step hcall
    obtain rfl : action = "approve" := hyes.mp rfl
    refine ⟨call', hcall', es, update, [], rfl, hidle, ?_, ?_⟩
    · rw [hid]
      exact hpending
    · rw [hid]
      exact hdecides call.intentId rfl
  · intro k call' hcall' hsays
    rcases calls_step chatId s e with ⟨id, calls', rfl, hevolves, hcalls⟩ | hevolves
    · rw [hcalls] at hcall'
      rcases getElem?_concat_cases hcall' with ⟨-, rfl⟩ | hold
      · rcases hsays with h | h | ⟨_, h, -⟩ <;> cases h
      obtain ⟨call, hcall, hid, hyes⟩ := hevolves.same k call' hold
      rw [hid]
      exact (h.calls k call hcall ((hyes hsays).resolve_right not_false)).append _
    · obtain ⟨call, hcall, hid, hyes⟩ := hevolves.same k call' hcall'
      rw [hid]
      rcases hyes hsays with hbefore | ⟨-, hpoller⟩
      · exact (h.calls k call hcall hbefore).append e
      obtain ⟨other, hother, happroved⟩ := h.poller k hpoller
      cases hother.symm.trans hcall
      exact happroved.append e

/-! ## The guarantees -/

def Registered (s : TelegramSystem) (k : Nat) : Prop := ∃ hexId, s.pending hexId = some k

lemma poller_of_not_registered {update : JsonValue}
    (hbefore : s.Registered k) (hafter : ¬ (s.step chatId (.update update)).Registered k) :
    ∃ approved, (s.step chatId (.update update)).poller = some (k, approved) := by
  obtain ⟨hexId, hpending⟩ := hbefore
  by_cases hidle : s.poller = none
  · rcases hout : processUpdate chatId s.pending update with answer | ⟨answer, taken, waiter, approved⟩
    · simp only [step, stepUpdate, if_pos hidle, hout] at hafter
      exact absurd ⟨hexId, hpending⟩ hafter
    simp only [step, stepUpdate, if_pos hidle, hout] at hafter ⊢
    obtain ⟨hwaiter, -⟩ := processUpdate_eq_taken hout
    by_cases hhex : hexId = taken
    · rw [hhex] at hpending
      cases hpending.symm.trans hwaiter
      exact ⟨approved, rfl⟩
    · exact absurd ⟨hexId, (Function.update_of_ne hhex ..).trans hpending⟩ hafter
  · rw [step, if_neg hidle] at hafter
    exact absurd ⟨hexId, hpending⟩ hafter

lemma pending_of_not_decides {update : JsonValue}
    (happrove : ¬ Decides chatId "approve" id update) (hdeny : ¬ Decides chatId "deny" id update) :
    (s.step chatId (.update update)).pending id.toHex = s.pending id.toHex := by
  simp only [step, stepUpdate]
  split_ifs with hidle
  · split
    · rfl
    rename_i answer taken waiter approved htaken
    obtain ⟨-, action, haction, -, hdecides⟩ := processUpdate_eq_taken htaken
    have hother : id.toHex ≠ taken := by
      intro hhex
      rcases haction with rfl | rfl
      · exact happrove (hdecides id hhex)
      · exact hdeny (hdecides id hhex)
    exact Function.update_of_ne hother ..
  · rfl

lemma calls_step_update (chatId : Int64) (update : JsonValue) :
    (s.step chatId (.update update)).calls = s.calls := by
  simp only [step, stepUpdate]
  split_ifs with hidle
  · split <;> rfl
  · rfl

lemma calls_step_deliver (chatId : Int64) {j : Nat}
    (hpoller : s.poller = some (k, approved)) (hj : j ≠ k) :
    (s.step chatId .deliver).calls[j]? = s.calls[j]? := by
  simp only [step, hpoller, settle]
  split
  · split_ifs with hunsent
    · exact List.getElem?_set_ne (Ne.symm hj)
    · rfl
  · rfl

end TelegramSystem

/-- **Decisions by Telegram are authentic and unambiguous.** In every run: a call returns a yes only
if, while its waiter was registered, an update was looked at that is the configured user's press of
the Approve button of its intent; an update resolves at most one waiter; and an update that is not
the configured user's press of a button of an intent leaves the waiter of this intent and every call
as they are. -/
theorem telegram_decisions_authentic (chatId : Int64) (es : List TelegramEvent) :
    let s := run (TelegramSystem.step chatId) .start es
    (∀ (k : Nat) (call : ApprovalCall) (decision : ApprovalDecision), s.calls[k]? = some call →
      call.stage = .returned (.ok decision) → decision.approved →
        TelegramSystem.Approved chatId es k call.intentId) ∧
    (∀ (update : JsonValue) (k k' : Nat),
      let s' := s.step chatId (.update update)
      s.Registered k → ¬ s'.Registered k → s.Registered k' → ¬ s'.Registered k' → k = k') ∧
    (∀ (k j : Nat) (approved : Bool), s.poller = some (k, approved) → j ≠ k →
      (s.step chatId .deliver).calls[j]? = s.calls[j]?) ∧
    ∀ (update : JsonValue) (id : IntentId),
      let s' := s.step chatId (.update update)
      ¬ Decides chatId "approve" id update → ¬ Decides chatId "deny" id update →
        s'.pending id.toHex = s.pending id.toHex ∧ s'.calls = s.calls := by
  intro s
  have hgrounded : TelegramSystem.Grounded chatId es s := by
    refine run_induction ⟨?_, ?_, ?_⟩ (fun es e => grounded_step e) es
    · intro hexId k h
      cases h
    · intro k h
      cases h
    · intro k call h
      cases h
  refine ⟨?_, ?_, ?_, ?_⟩
  · intro k call decision hcall hreturned happroved
    exact hgrounded.calls k call hcall (.inr (.inr ⟨decision, hreturned, happroved⟩))
  · intro update k k' s' hk hgone hk' hgone'
    obtain ⟨approved, hpoller⟩ := poller_of_not_registered hk hgone
    obtain ⟨approved', hpoller'⟩ := poller_of_not_registered hk' hgone'
    exact (Prod.mk.inj (Option.some.inj (hpoller.symm.trans hpoller'))).1
  · intro k j approved hpoller hj
    exact calls_step_deliver chatId hpoller hj
  · intro update id s' happrove hdeny
    exact ⟨pending_of_not_decides happrove hdeny,
      calls_step_update chatId update⟩

end AxiomCore
