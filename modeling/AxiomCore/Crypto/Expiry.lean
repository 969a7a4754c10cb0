import AxiomCore.Crypto.Negotiate

/-!
# Expiry of negotiations

A challenge may be answered for thirty seconds, and a negotiation may be open for thirty seconds.
The negotiator of `Negotiate` is extended here by when each context was made, and by `cleanup`.

Source: `axiom-crypto/src/negotiate.rs`.
-/

namespace AxiomCore

open Lib Function

/-! ## The negotiator with its clock -/

def EstablishedSession.isValid (session : EstablishedSession) (now : Nat) : Bool :=
  now - session.establishedAt < session.expiresIn

structure TimedNegotiator where
  negotiator : TrustNegotiator
  /-- `started_at` of the context in a slot. -/
  startedAt : NodeId → Nat
  /-- `timeout` of every context. -/
  negotiationTimeout : Nat

inductive TimedTrustEvent where
  | start (peerId : NodeId) (requestedTrust : TrustLevel) (nonce : Nonce) (now : Nat)
  | deliver (frame : Frame) (timestamp : UInt64) (nonce : Nonce) (now : Nat)
  | cleanup (now : Nat)

namespace TimedTrustEvent

def call : TimedTrustEvent → Option TrustEvent
  | .start peerId requestedTrust nonce _ => some (.start peerId requestedTrust nonce)
  | .deliver frame timestamp nonce now => some (.deliver frame timestamp nonce now)
  | .cleanup _ => none

def now : TimedTrustEvent → Nat
  | .start _ _ _ now => now
  | .deliver _ _ _ now => now
  | .cleanup now => now

/-- The challenge that a Hello is answered with. -/
def issued : TimedTrustEvent → Option ChallengePayload
  | .deliver _ timestamp nonce _ => some (.new nonce timestamp)
  | _ => none

/-- The call makes a context in this slot. -/
def opens (slot : NodeId) (e : TimedTrustEvent) : Bool :=
  match e.call with
  | none => false
  | some call => decide (call.slot = slot) && call.opening.isSome

end TimedTrustEvent

namespace TimedNegotiator

def new (keypair : Keypair) (localId : NodeId) : TimedNegotiator where
  negotiator := .new keypair localId
  startedAt _ := 0
  negotiationTimeout := 30 * 10 ^ 9

def isTimedOut (s : TimedNegotiator) (slot : NodeId) (now : Nat) : Bool :=
  now - s.startedAt slot > s.negotiationTimeout

def cleanup (s : TimedNegotiator) (now : Nat) : TimedNegotiator :=
  { s with
    negotiator :=
      { s.negotiator with
        negotiations := fun slot =>
          if s.isTimedOut slot now then none else s.negotiator.negotiations slot
        sessions := fun slot => (s.negotiator.sessions slot).filter fun session =>
          session.isValid now } }

def step (V : Verify) (s : TimedNegotiator) (e : TimedTrustEvent) : TimedNegotiator :=
  match e.call with
  | none => s.cleanup e.now
  | some call =>
    { s with
      negotiator := s.negotiator.step V call
      startedAt := if call.opening.isSome then update s.startedAt call.slot e.now
        else s.startedAt }

end TimedNegotiator

/-! ## What a frame installs -/

namespace TrustNegotiator

/-- The session that the Response branch installs. -/
def responseInstalls (V : Verify) (s : TrustNegotiator) (peerId : NodeId) (data : List UInt8)
    (now : Nat) : Option EstablishedSession :=
  match ResponsePayload.decode data with
  | none => none
  | some response =>
    match s.negotiations peerId with
    | none => none
    | some ctx =>
      match ctx.verifyResponse V response with
      | .error _ => none
      | .ok ctx =>
        match ctx.createAck .sig with
        | .error _ => none
        | .ok _ => ctx.getSession .sig now

def installs (V : Verify) (s : TrustNegotiator) (frame : Frame) (now : Nat) :
    Option EstablishedSession :=
  match frame.trustMessage with
  | some (.response, data) => s.responseInstalls V frame.header.senderId data now
  | some (.ack, _) => s.ackInstalls V frame now
  | _ => none

end TrustNegotiator

open TrustNegotiator

namespace NegotiationContext

/-- A frame verifies in a negotiation: it is a Response that `verify_response` accepts, or an Ack
that `verify_ack_transcript` accepts. -/
def verifies (V : Verify) (ctx : NegotiationContext) (frame : Frame) : Bool :=
  match frame.trustMessage with
  | some (.response, data) =>
    match ResponsePayload.decode data with
    | none => false
    | some response => (ctx.verifyResponse V response).isOk
  | some (.ack, data) =>
    decide (data.length ≥ 1 + 32 + 64) &&
      ctx.verifyAckTranscript V (ackPublicKey data) (ackTrustLevel data) (ackSignature data)
  | _ => false

end NegotiationContext

namespace TrustNegotiator

variable {V : Verify} {s : TrustNegotiator} {ctx : NegotiationContext} {e : TrustEvent}

variable {peerId : NodeId} {data : List UInt8} {now : Nat}

lemma isSome_responseInstalls_iff
    {response : ResponsePayload} (hctx : s.negotiations peerId = some ctx)
    (hnonce : ctx.initiatorNonce.isSome) (hdecode : ResponsePayload.decode data = some response) :
    (s.responseInstalls V peerId data now).isSome ↔ (ctx.verifyResponse V response).isOk := by
  simp only [responseInstalls, hdecode, hctx]
  rcases hverified : ctx.verifyResponse V response with error | verified
  · exact ⟨nofun, nofun⟩
  obtain ⟨rfl, challenge, peerKey, peerId, hpending, hkey, hid, -⟩ :=
    NegotiationContext.of_verifyResponse hverified
  obtain ⟨nonce, hnonce⟩ := Option.isSome_iff_exists.mp hnonce
  simp [NegotiationContext.createAck, NegotiationContext.getSession, hpending, hkey, hid, hnonce,
    Except.isOk, Except.toBool]

lemma isSome_acceptedAck_iff :
    (acceptedAck V ctx peerId data now).isSome ↔
      ctx.verifyAckTranscript V (ackPublicKey data) (ackTrustLevel data) (ackSignature data) := by
  unfold acceptedAck
  split_ifs with hverified
  · simp [NegotiationContext.getSession, hverified]
  · simp [hverified]

lemma isSome_installs_iff {frame : Frame}
    (hnonce : ∀ ctx, s.negotiations frame.header.senderId = some ctx → ctx.initiatorNonce.isSome) :
    (s.installs V frame now).isSome ↔
      ∃ ctx, s.negotiations frame.header.senderId = some ctx ∧ ctx.verifies V frame := by
  unfold installs NegotiationContext.verifies
  rcases hctx : s.negotiations frame.header.senderId with _ | ctx
  · split
    · simp only [responseInstalls, hctx]
      split <;> simp
    · next data hmessage => simp [ackInstalls, hmessage, hctx]
    · simp
  · simp only [Option.some.injEq, exists_eq_left']
    split
    · next data hmessage =>
      rcases hdecode : ResponsePayload.decode data with _ | response
      · simp [responseInstalls, hdecode]
      · exact isSome_responseInstalls_iff hctx (hnonce ctx hctx) hdecode
    · next data hmessage =>
      simp only [ackInstalls, hmessage, hctx, Option.bind_some, Bool.and_eq_true, decide_eq_true_eq]
      split_ifs with hlength
      · rw [isSome_acceptedAck_iff]
        exact (and_iff_right hlength).symm
      · exact ⟨nofun, fun h => absurd h.1 hlength⟩
    · simp

/-! ## When a context was made -/

lemma step_of_opening {e : TimedTrustEvent} {call : TrustEvent} (hcall : e.call = some call)
    (hopening : call.opening.isSome) :
    ∃ ctx, s.step V call = s.setNegotiation call.slot (some ctx) ∧
      ctx.pendingChallenge = e.issued ∧ ctx.initiatorNonce.isSome := by
  rcases e with ⟨peerId, requestedTrust, nonce, now⟩ | ⟨frame, timestamp, nonce, now⟩ | now
  · cases hcall
    exact ⟨_, rfl, rfl, rfl⟩
  · cases hcall
    rw [step, processFrame_snd]
    dsimp only [TrustEvent.opening] at hopening
    split at hopening
    · next data hmessage =>
      rw [hmessage]
      rcases hdecode : HelloPayload.decode data with _ | hello
      · rw [hdecode] at hopening
        cases hopening
      have hversion : hello.version = 1 := by
        by_contra hne
        simp [hdecode, hne] at hopening
      obtain ⟨ctx, hctx, hnonce⟩ : ∃ ctx,
          (NegotiationContext.new s.keypair s.localId).processHello hello = .ok ctx ∧
            ctx.initiatorNonce.isSome := ⟨_, if_neg (not_not.mpr hversion), rfl⟩
      refine ⟨(ctx.createChallenge timestamp nonce).2, ?_, rfl, hnonce⟩
      simp only [onHello, hdecode, hctx]
      rfl
    · cases hopening
  · cases hcall

lemma step_of_not_opening (hopening : e.opening = none) {slot : NodeId}
    (h : (s.step V e).negotiations slot = some ctx) :
    ∃ ctx₀, s.negotiations slot = some ctx₀ ∧ ctx.pendingChallenge = ctx₀.pendingChallenge ∧
      ctx.initiatorNonce = ctx₀.initiatorNonce := by
  have hkeep {ctx₀ new : NegotiationContext} (hctx₀ : s.negotiations e.slot = some ctx₀)
      (hnew : (s.setNegotiation e.slot (some new)).negotiations slot = some ctx)
      (hpending : new.pendingChallenge = ctx₀.pendingChallenge)
      (hnonce : new.initiatorNonce = ctx₀.initiatorNonce) :
      ∃ ctx₀, s.negotiations slot = some ctx₀ ∧ ctx.pendingChallenge = ctx₀.pendingChallenge ∧
        ctx.initiatorNonce = ctx₀.initiatorNonce := by
    by_cases hslot : slot = e.slot
    · subst hslot
      simp only [setNegotiation, update_self, Option.some.injEq] at hnew
      subst hnew
      exact ⟨ctx₀, hctx₀, hpending, hnonce⟩
    · simp only [setNegotiation, update_of_ne hslot] at hnew
      exact ⟨ctx, hnew, rfl, rfl⟩
  have hmove := slotMove_step V s e
  generalize s.step V e = s' at h hmove
  rcases hmove with ⟨hopened, -⟩ | ⟨-, -, hctx⟩ | ⟨-, -, hctx⟩ | ⟨-, -, -⟩ | -
  · rw [hopening] at hopened
    cases hopened
  · exact hkeep hctx h rfl rfl
  · exact hkeep hctx h rfl rfl
  · by_cases hslot : slot = e.slot
    · subst hslot
      simp [setNegotiation] at h
    · simp only [setNegotiation, update_of_ne hslot, negotiations_insertSession] at h
      exact ⟨ctx, h, rfl, rfl⟩
  · exact ⟨ctx, h, rfl, rfl⟩

end TrustNegotiator

def lastOpening (slot : NodeId) (es : List TimedTrustEvent) : Option TimedTrustEvent :=
  (es.filter (·.opens slot)).getLast?

variable {slot : NodeId} {e : TimedTrustEvent}

lemma lastOpening_of_opens (h : e.opens slot)
    (es : List TimedTrustEvent) : lastOpening slot (es ++ [e]) = some e := by
  simp [lastOpening, h]

lemma lastOpening_of_not_opens (h : ¬ e.opens slot)
    (es : List TimedTrustEvent) : lastOpening slot (es ++ [e]) = lastOpening slot es := by
  simp [lastOpening, h]

namespace TimedNegotiator

variable {V : Verify} {s : TimedNegotiator} {es : List TimedTrustEvent} {e : TimedTrustEvent}

structure MadeBy (s : TimedNegotiator) (slot : NodeId) (ctx : NegotiationContext)
    (opening : TimedTrustEvent) : Prop where
  startedAt : s.startedAt slot = opening.now
  pending : ctx.pendingChallenge = opening.issued
  nonce : ctx.initiatorNonce.isSome

/-- Every context in the table was made by the last call that opened its slot. -/
def Dated (s : TimedNegotiator) (es : List TimedTrustEvent) : Prop :=
  ∀ slot ctx, s.negotiator.negotiations slot = some ctx →
    ∃ opening, lastOpening slot es = some opening ∧ s.MadeBy slot ctx opening

lemma Dated.cleanup (h : s.Dated es) (hcall : e.call = none) :
    (s.cleanup e.now).Dated (es ++ [e]) := by
  intro slot ctx hctx
  have hopens : ¬ e.opens slot := by simp [TimedTrustEvent.opens, hcall]
  rw [lastOpening_of_not_opens hopens]
  simp only [TimedNegotiator.cleanup] at hctx
  split_ifs at hctx
  obtain ⟨opening, hlast, hmade⟩ := h slot ctx hctx
  exact ⟨opening, hlast, hmade.startedAt, hmade.pending, hmade.nonce⟩

lemma Dated.step (h : s.Dated es) : (s.step V e).Dated (es ++ [e]) := by
  unfold TimedNegotiator.step
  split
  · next hcall => exact h.cleanup hcall
  next call hcall =>
  intro slot ctx hctx
  by_cases hopening : call.opening.isSome
  · obtain ⟨new, hstep, hpending, hnonce⟩ :=
      step_of_opening (V := V) (s := s.negotiator) hcall hopening
    by_cases hslot : slot = call.slot
    · subst hslot
      have hopens : e.opens call.slot := by simp [TimedTrustEvent.opens, hcall, hopening]
      simp only [hstep, TrustNegotiator.setNegotiation, update_self,
        Option.some.injEq] at hctx
      subst hctx
      refine ⟨e, lastOpening_of_opens hopens es, ?_, hpending, hnonce⟩
      simp [hopening]
    · have hopens : ¬ e.opens slot := by
        simp [TimedTrustEvent.opens, hcall, Ne.symm hslot]
      simp only [hstep, TrustNegotiator.setNegotiation, update_of_ne hslot] at hctx
      obtain ⟨opening, hlast, hmade⟩ := h slot ctx hctx
      refine ⟨opening, by rw [lastOpening_of_not_opens hopens, hlast], ?_, hmade.pending,
        hmade.nonce⟩
      simp [hopening, update_of_ne hslot, hmade.startedAt]
  · have hopens : ¬ e.opens slot := by simp [TimedTrustEvent.opens, hcall, hopening]
    obtain ⟨ctx₀, hctx₀, hpending, hnonce⟩ :=
      step_of_not_opening (Option.not_isSome_iff_eq_none.mp hopening) hctx
    obtain ⟨opening, hlast, hmade⟩ := h slot ctx₀ hctx₀
    refine ⟨opening, by rw [lastOpening_of_not_opens hopens, hlast], ?_,
      hpending.trans hmade.pending, by rw [hnonce]; exact hmade.nonce⟩
    simp [hopening, hmade.startedAt]

end TimedNegotiator

/-! ## Sessions in time -/

def Frame.isResponse (frame : Frame) : Bool := frame.trustMessage.map Prod.fst = some .response

/-- A challenge may be answered at this time. -/
def ChallengePayload.OpenAt (challenge : ChallengePayload) (timestamp : UInt64) : Prop :=
  timestamp.toNat ≤ challenge.timestamp.toNat + challenge.expirySecs.toNat

/-- If the call after `es` installs a session, then the negotiation in its slot was opened not
longer ago than the timeout, and the challenge that a Response answers was issued when it was opened
and is open. -/
def InstallsTimely (V : Verify) (es : List TimedTrustEvent) (s : TimedNegotiator) :
    TimedTrustEvent → Prop
  | .deliver frame timestamp _ now =>
    (s.negotiator.installs V frame now).isSome →
      ∃ opening, lastOpening frame.header.senderId es = some opening ∧
        now - opening.now ≤ s.negotiationTimeout ∧
        (frame.isResponse → ∃ challenge, opening.issued = some challenge ∧
          challenge.OpenAt timestamp)
  | _ => True

/-- No frame that verifies comes late: not when the context in its slot is timed out, nor, if it is
a Response, when the pending challenge has expired. -/
def VerifiesInTime (V : Verify) (s : TimedNegotiator) : TimedTrustEvent → Prop
  | .deliver frame timestamp _ now =>
    ∀ ctx, s.negotiator.negotiations frame.header.senderId = some ctx → ctx.verifies V frame →
      ¬ s.isTimedOut frame.header.senderId now ∧
        (frame.isResponse → ∀ challenge, ctx.pendingChallenge = some challenge →
          challenge.OpenAt timestamp)
  | _ => True

lemma NegotiationContext.pending_of_verifies {V : Verify} {ctx : NegotiationContext}
    {frame : Frame} (hresponse : frame.isResponse) (h : ctx.verifies V frame) :
    ∃ challenge, ctx.pendingChallenge = some challenge := by
  unfold Frame.isResponse at hresponse
  unfold verifies at h
  split at h
  · split at h
    · cases h
    next response hdecode =>
    rcases hverified : ctx.verifyResponse V response with error | verified
    · rw [hverified] at h
      cases h
    · obtain ⟨-, challenge, -, -, hpending, -⟩ := of_verifyResponse hverified
      exact ⟨challenge, hpending⟩
  · next data hmessage => simp [hmessage] at hresponse
  · cases h

namespace TimedNegotiator

variable {V : Verify} {s : TimedNegotiator} {es : List TimedTrustEvent}

lemma Dated.installsTimely_iff (h : s.Dated es) (e : TimedTrustEvent) :
    InstallsTimely V es s e ↔ VerifiesInTime V s e := by
  rcases e with - | ⟨frame, timestamp, nonce, now⟩ | -
  · exact Iff.rfl
  · have hinstalls : (s.negotiator.installs V frame now).isSome ↔
        ∃ ctx, s.negotiator.negotiations frame.header.senderId = some ctx ∧
          ctx.verifies V frame := by
      apply isSome_installs_iff
      intro ctx hctx
      obtain ⟨opening, -, hmade⟩ := h _ ctx hctx
      exact hmade.nonce
    simp only [InstallsTimely, VerifiesInTime, hinstalls]
    constructor
    · intro htimely ctx hctx hverifies
      obtain ⟨opening, hlast, helapsed, hchallenge⟩ := htimely ⟨ctx, hctx, hverifies⟩
      obtain ⟨opening', hlast', hmade⟩ := h _ ctx hctx
      cases hlast.symm.trans hlast'
      refine ⟨?_, fun hresponse challenge hpending => ?_⟩
      · simpa [isTimedOut, hmade.startedAt] using helapsed
      · obtain ⟨challenge', hissued, hopen⟩ := hchallenge hresponse
        rw [hmade.pending, hissued] at hpending
        cases hpending
        exact hopen
    · rintro htimely ⟨ctx, hctx, hverifies⟩
      obtain ⟨hopen, hchallenge⟩ := htimely ctx hctx hverifies
      obtain ⟨opening, hlast, hmade⟩ := h _ ctx hctx
      refine ⟨opening, hlast, ?_, fun hresponse => ?_⟩
      · simpa [isTimedOut, hmade.startedAt] using hopen
      · obtain ⟨challenge, hpending⟩ := ctx.pending_of_verifies hresponse hverifies
        exact ⟨challenge, hmade.pending.symm.trans hpending,
          hchallenge hresponse challenge hpending⟩
  · exact Iff.rfl

lemma dated_run (V : Verify) (keypair : Keypair) (localId : NodeId)
    (es : List TimedTrustEvent) : (run (step V) (new keypair localId) es).Dated es := by
  apply run_induction (P := fun es (s : TimedNegotiator) => s.Dated es)
  · intro slot ctx hctx
    cases hctx
  · intro es e h
    exact h.step

end TimedNegotiator

/-- **When sessions are installed in time.** In every run of a negotiator: every session is
installed while the negotiation that it completes has been open for no longer than the timeout, and,
by a Response, while the challenge that it answers is open, exactly if no frame that verifies comes
when its negotiation is timed out or its challenge has expired. The code checks neither. -/
theorem installs_timely_iff (V : Verify) (keypair : Keypair) (localId : NodeId)
    (es : List TimedTrustEvent) :
    (∀ es₁ e es₂, es = es₁ ++ e :: es₂ →
        InstallsTimely V es₁
          (run (TimedNegotiator.step V) (TimedNegotiator.new keypair localId) es₁) e) ↔
      Guarded (TimedNegotiator.step V) (VerifiesInTime V) (TimedNegotiator.new keypair localId)
        es := by
  induction es using List.reverseRecOn with
  | nil =>
    refine ⟨fun _ => trivial, fun _ es₁ e es₂ hnil => ?_⟩
    simp at hnil
  | append_singleton es e ih =>
    have hlast := (TimedNegotiator.dated_run V keypair localId es).installsTimely_iff (V := V) e
    rw [guarded_append, ← ih]
    constructor
    · intro h
      refine ⟨fun es₁ e' es₂ hes => h es₁ e' (es₂ ++ [e]) (by simp [hes]), ?_, trivial⟩
      exact hlast.mp (h es e [] rfl)
    · rintro ⟨hearlier, hguard, -⟩ es₁ e' es₂ hes
      -- the call is the last one, or one of those before
      rcases concat_eq_append_cons hes with ⟨rfl, rfl, -⟩ | ⟨es₃, -, hold⟩
      · exact hlast.mpr hguard
      · exact hearlier es₁ e' es₃ hold

/-! ### Samples -/

def helloAtZero : TimedTrustEvent :=
  .deliver (negotiationFrame sampleOrigin .hello (peerHello (sampleNonce 0x44)).encode) 1700000000
    (sampleNonce 0x33) 0

def lateResponse : TimedTrustEvent :=
  .deliver (negotiationFrame sampleOrigin .response
      (ResponsePayload.mk (sampleNonce 0x33) peerResponseSignature).encode) 1700000100
    (sampleNonce 0) (100 * 10 ^ 9)

def negotiated (events : List TimedTrustEvent) : TimedNegotiator :=
  run (TimedNegotiator.step negotiationVerify) (.new negotiatorKeypair negotiatorId) events

/-- **A late Response.** A hundred seconds after the challenge, which was open for thirty, its
answer is accepted and a session installed. Both bounds are exceeded. -/
theorem late_response_installs :
    (negotiated [helloAtZero, lateResponse]).negotiator.sessions sampleOrigin =
      some (peerSession (100 * 10 ^ 9)) ∧
    (∀ opening, lastOpening sampleOrigin [helloAtZero] = some opening →
      ¬ 100 * 10 ^ 9 - opening.now ≤ 30 * 10 ^ 9 ∧
        ∀ challenge, opening.issued = some challenge → ¬ challenge.OpenAt 1700000100) ∧
    ¬ InstallsTimely negotiationVerify [helloAtZero] (negotiated [helloAtZero])
      lateResponse := by
  have hopens : helloAtZero.opens sampleOrigin := by decide +kernel
  have hlast : lastOpening sampleOrigin [helloAtZero] = some helloAtZero :=
    lastOpening_of_opens hopens []
  refine ⟨by decide +kernel, ?_, ?_⟩
  · intro opening hopening
    cases hlast.symm.trans hopening
    refine ⟨by decide, ?_⟩
    rintro challenge ⟨⟩
    unfold ChallengePayload.OpenAt
    decide
  · intro htimely
    have hsome : (installs negotiationVerify (negotiated [helloAtZero]).negotiator
        (negotiationFrame sampleOrigin .response
          (ResponsePayload.mk (sampleNonce 0x33) peerResponseSignature).encode)
        (100 * 10 ^ 9)).isSome := by
      decide +kernel
    obtain ⟨opening, hopening, helapsed, -⟩ := htimely hsome
    cases hlast.symm.trans hopening
    revert helapsed
    decide +kernel

end AxiomCore
