import AxiomCore.Node.Gossip

/-!
# Gossip and the registry

The Announce arm installs the whole capability list of a claim, but whether the claim is new is
decided capability by capability. An older claim that arrives late is accepted if it has a
capability the newer one lacks, and then replaces it.
-/

namespace AxiomCore

open Lib AnnouncePayload Claim GossipNode HybridClock SemanticRouter List

/-! ## Full replacement -/

/-- What the registry has for a claim: the intents of known names. Source:
`forge-node/src/network.rs`, `handle_axiom_frame` (Announce arm). -/
def Claim.Installs (blake3 : List UInt8 → Digest) (claim : Claim) (hash : IntentHash) : Prop :=
  hash ∈ claim.hashes ∧ ∃ name ∈ knownCapabilityNames, capabilityHash blake3 name = hash

section Replace

variable {blake3 : List UInt8 → Digest} {origin node : NodeId} {hash : IntentHash}

lemma provides_registerNames (cap : AnnouncedCapability) (names : List String)
    (router : SemanticRouter) :
    (names.foldl (fun router name =>
        if capabilityHash blake3 name = cap.intentHash then
          router.register origin (.new blake3 name)
        else router) router).provides node hash ↔
      (node = origin ∧ hash = cap.intentHash ∧
        ∃ name ∈ names, capabilityHash blake3 name = hash) ∨ router.provides node hash := by
  induction names generalizing router with
  | nil => simp
  | cons name names ih =>
    rw [foldl_cons, ih]
    by_cases hname : capabilityHash blake3 name = cap.intentHash
    · rw [if_pos hname, provides_register]
      constructor
      · rintro (⟨hnode, hhash, name', hmem, hname'⟩ | ⟨hnode, hhash⟩ | h)
        · exact .inl ⟨hnode, hhash, name', mem_cons_of_mem name hmem, hname'⟩
        · exact .inl ⟨hnode, hhash.trans hname, name, mem_cons_self, hhash.symm⟩
        · exact .inr h
      · rintro (⟨hnode, hhash, -⟩ | h)
        · exact .inr (.inl ⟨hnode, hhash.trans hname.symm⟩)
        · exact .inr (.inr h)
    · rw [if_neg hname]
      constructor
      · rintro (⟨hnode, hhash, name', hmem, hname'⟩ | h)
        · exact .inl ⟨hnode, hhash, name', mem_cons_of_mem name hmem, hname'⟩
        · exact .inr h
      · rintro (⟨hnode, hhash, name', hmem, hname'⟩ | h)
        · rcases mem_cons.mp hmem with rfl | hmem
          · exact absurd (hname'.trans hhash) hname
          · exact .inl ⟨hnode, hhash, name', hmem, hname'⟩
        · exact .inr h

lemma provides_registerCapabilities (names : List String) (caps : List AnnouncedCapability)
    (router : SemanticRouter) :
    (caps.foldl (fun router cap =>
        names.foldl (fun router name =>
          if capabilityHash blake3 name = cap.intentHash then
            router.register origin (.new blake3 name)
          else router) router) router).provides node hash ↔
      (node = origin ∧ hash ∈ caps.map (·.intentHash) ∧
        ∃ name ∈ names, capabilityHash blake3 name = hash) ∨ router.provides node hash := by
  induction caps generalizing router with
  | nil => simp
  | cons cap caps ih =>
    rw [foldl_cons, ih, provides_registerNames, map_cons, mem_cons]
    constructor
    · rintro (⟨hnode, hmem, hname⟩ | ⟨hnode, hhash, hname⟩ | h)
      · exact .inl ⟨hnode, .inr hmem, hname⟩
      · exact .inl ⟨hnode, .inl hhash, hname⟩
      · exact .inr h
    · rintro (⟨hnode, hhash | hmem, hname⟩ | h)
      · exact .inr (.inl ⟨hnode, hhash, hname⟩)
      · exact .inl ⟨hnode, hmem, hname⟩
      · exact .inr (.inr h)

lemma provides_replaceRegistrations (router : SemanticRouter) (claim : Claim) :
    (replaceRegistrations blake3 router claim.origin claim.capabilities).provides node hash ↔
      (node = claim.origin ∧ claim.Installs blake3 hash) ∨
        (node ≠ claim.origin ∧ router.provides node hash) := by
  rw [replaceRegistrations, provides_registerCapabilities, provides_unregisterNode,
    Claim.Installs, hashes]

end Replace

/-! ## What one origin announced -/

/-- Claims of one origin as they are on the wire, each signed by it, with distinct clocks. Source:
`axiom-router/src/announce.rs`, `AnnouncementManager::create_announcement`. -/
structure Announced (V : Verify) (origin : NodeId) where
  claims : Set Claim
  origin_eq : ∀ c ∈ claims, c.origin = origin
  clock_inj : ∀ c ∈ claims, ∀ d ∈ claims, c.clock = d.clock → c = d
  signed : ∀ c ∈ claims, ∃ signature, V origin c.signingBytes signature
  count : ∀ c ∈ claims, c.capabilities.length < 2 ^ 16
  clock : ∀ c ∈ claims, c.clock.physical.toNat < 2 ^ 40

/-- Nothing is delivered in the origin's name that it did not announce. Other frames are free. -/
def GossipEvent.Carries {V : Verify} {origin : NodeId} (A : Announced V origin) :
    GossipEvent → Prop
  | .deliver frame _ _ => ∀ c, verifiedClaim V frame = some c → c.origin = origin → c ∈ A.claims
  | _ => True

def GossipNode.acceptedFrom (n : GossipNode) (origin : NodeId) : List Claim :=
  n.accepted.filter (·.origin = origin)

structure NeverRollsBack (blake3 : List UInt8 → Digest) (origin : NodeId) (n : GossipNode) :
    Prop where
  /-- The clocks of the claims accepted increase. -/
  increasing : (n.acceptedFrom origin).Pairwise fun c d => c.clock.happensBefore d.clock
  /-- What is registered is what the newest of them installs. -/
  installed : ∀ hash, n.router.provides origin hash ↔
    ∃ newest ∈ n.acceptedFrom origin,
      (∀ c ∈ n.acceptedFrom origin, ¬ newest.clock.happensBefore c.clock) ∧
        newest.Installs blake3 hash

namespace Announced

variable {V : Verify} {origin : NodeId} (A : Announced V origin)

/-- Among claims whose skew windows meet, a newer one has all capabilities of an older one, unless
it has none at all. -/
def Grows : Prop :=
  ∀ c ∈ A.claims, ∀ d ∈ A.claims, c.clock.happensBefore d.clock → d.capabilities ≠ [] →
    d.clock.physical.toNat ≤ c.clock.physical.toNat + 2 * maxAnnounceClockSkew →
      c.hashes ⊆ d.hashes

/-- Cleanups spare what was touched within the skew window of a claim. -/
def Outlived (minAge : Nat) : Prop :=
  ∀ c ∈ A.claims, c.capabilities ≠ [] → c.clock.window ≤ minAge

end Announced

/-! ## The condition suffices -/

section Sufficient

variable {blake3 : List UInt8 → Digest} {V : Verify} {origin : NodeId} {A : Announced V origin}
  {minAge : Nat} {n n' : GossipNode}

/-- What every run keeps whose events carry `A` and spare `minAge`. -/
structure RegistryInv (blake3 : List UInt8 → Digest) (A : Announced V origin) (minAge : Nat)
    (n : GossipNode) : Prop extends DedupInv minAge n, NeverRollsBack blake3 origin n where
  /-- What was accepted from the origin is the origin's, and not empty. -/
  genuine : ∀ c ∈ n.acceptedFrom origin, c ∈ A.claims ∧ c.capabilities ≠ []

lemma registryInv_start (identity : Keypair) (now epoch : Nat) :
    RegistryInv blake3 A minAge (.start identity now epoch) where
  toDedupInv := dedupInv_start identity now epoch
  increasing := List.Pairwise.nil
  installed hash := by simp [GossipNode.start, provides_new, acceptedFrom,
    GossipNode.accepted]
  genuine c hc := by simp [GossipNode.start, acceptedFrom, GossipNode.accepted] at hc

variable {c claim : Claim}

lemma mem_acceptedFrom_iff :
    c ∈ n.acceptedFrom origin ↔ (∃ a ∈ n.log, a.claim = c) ∧ c.origin = origin := by
  rw [acceptedFrom, mem_filter, decide_eq_true_iff, GossipNode.accepted,
    mem_map]

lemma RegistryInv.lt_of_accepted (h : RegistryInv blake3 A minAge n) (hgrows : A.Grows)
    (houtlived : A.Outlived minAge) {frame : Frame}
    (hadmits : n.manager.Admits V frame (n.secsAt n.now) claim) {clock : Nat → Nat}
    (hfresh : (touchAll claim.clock clock claim.keys n.table).1) (hclaim : claim ∈ A.claims)
    (hnonempty : claim.capabilities ≠ []) (hc : c ∈ n.acceptedFrom origin) :
    c.clock < claim.clock := by
  obtain ⟨⟨a, ha, rfl⟩, horigin⟩ := mem_acceptedFrom_iff.mp hc
  obtain ⟨hgenuine, hfull⟩ := h.genuine a.claim hc
  by_contra hnot
  have hle : claim.clock ≤ a.claim.clock := not_lt.mp hnot
  have hsame : a.claim.origin = claim.origin := horigin.trans (A.origin_eq claim hclaim).symm
  apply h.toDedupInv.not_subset_of_accepted hadmits hfresh (houtlived claim hclaim hnonempty) ha
    hsame hle
  rcases hle.lt_or_eq with hlt | heq
  · apply hgrows claim hclaim a.claim hgenuine (happensBefore_iff_lt.mpr hlt) hfull
    -- the newer claim was within the skew first, the older one is now
    have hthen := (AnnouncementManager.withinSkew_iff.mp (h.skew a ha)).2
    have hnow := (AnnouncementManager.withinSkew_iff.mp hadmits.skew).1
    have hpast : n.secsAt a.time ≤ n.secsAt n.now :=
      Nat.div_le_div_right (Nat.add_le_add_left (h.past a ha) n.epoch)
    omega
  · rw [A.clock_inj claim hclaim a.claim hgenuine heq]
    exact List.Subset.refl _

lemma acceptedFrom_of_log_eq (hlog : n'.log = n.log) :
    n'.acceptedFrom origin = n.acceptedFrom origin := by
  rw [acceptedFrom, GossipNode.accepted, hlog]
  rfl

lemma acceptedFrom_of_log_append (origin : NodeId) {a : Accepted} (hlog : n'.log = n.log ++ [a]) :
    n'.acceptedFrom origin =
      n.acceptedFrom origin ++ if a.claim.origin = origin then [a.claim] else [] := by
  rw [acceptedFrom, GossipNode.accepted, hlog, map_append, filter_append]
  congr 1
  by_cases horigin : a.claim.origin = origin
  · simp [horigin]
  · simp [horigin]

lemma RegistryInv.keep (h : RegistryInv blake3 A minAge n) (hdedup : DedupInv minAge n')
    (hprovides : ∀ hash, n'.router.provides origin hash ↔ n.router.provides origin hash)
    (haccepted : n'.acceptedFrom origin = n.acceptedFrom origin) :
    RegistryInv blake3 A minAge n' where
  toDedupInv := hdedup
  increasing := haccepted ▸ h.increasing
  installed hash := by
    rw [hprovides, haccepted]
    exact h.installed hash
  genuine := haccepted ▸ h.genuine

lemma RegistryInv.install (h : RegistryInv blake3 A minAge n) (hdedup : DedupInv minAge n')
    (hclaim : claim ∈ A.claims) (hnonempty : claim.capabilities ≠ [])
    (hnewest : ∀ c ∈ n.acceptedFrom origin, c.clock < claim.clock)
    (hprovides : ∀ hash, n'.router.provides origin hash ↔ claim.Installs blake3 hash)
    (haccepted : n'.acceptedFrom origin = n.acceptedFrom origin ++ [claim]) :
    RegistryInv blake3 A minAge n' := by
  have hmem : ∀ c ∈ n'.acceptedFrom origin, c ∈ n.acceptedFrom origin ∨ c = claim := by
    intro c hc
    rwa [haccepted, mem_append, mem_singleton] at hc
  have hlast : claim ∈ n'.acceptedFrom origin := by
    rw [haccepted]
    exact mem_append_right _ (mem_singleton_self claim)
  refine ⟨hdedup, ⟨?_, fun hash => ?_⟩, fun c hc => ?_⟩
  · rw [haccepted, pairwise_append]
    refine ⟨h.increasing, pairwise_singleton _ _, fun c hc d hd => ?_⟩
    rw [mem_singleton.mp hd]
    exact happensBefore_iff_lt.mpr (hnewest c hc)
  · rw [hprovides]
    constructor
    · intro hinstalls
      refine ⟨claim, hlast, fun c hc hbefore => ?_, hinstalls⟩
      have hlt := happensBefore_iff_lt.mp hbefore
      rcases hmem c hc with hold | rfl
      · exact lt_asymm hlt (hnewest c hold)
      · exact lt_irrefl _ hlt
    · rintro ⟨newest, hc, hmax, hinstalls⟩
      rcases hmem newest hc with hold | rfl
      · exact absurd (happensBefore_iff_lt.mpr (hnewest newest hold))
          (hmax claim hlast)
      · exact hinstalls
  · rcases hmem c hc with hold | rfl
    · exact h.genuine c hold
    · exact ⟨hclaim, hnonempty⟩

lemma RegistryInv.step (h : RegistryInv blake3 A minAge n) (hgrows : A.Grows)
    (houtlived : A.Outlived minAge) {e : GossipEvent} (hcarries : e.Carries A)
    (hspares : e.Spares minAge) : RegistryInv blake3 A minAge (n.step blake3 V e) := by
  have hdedup : DedupInv minAge (n.step blake3 V e) := h.toDedupInv.step hspares
  cases GossipNode.change_step blake3 V n e with
  | idle htable hrouter hlog =>
    exact h.keep hdedup (fun hash => by rw [hrouter]) (acceptedFrom_of_log_eq hlog)
  | evicted htable hrouter hlog =>
    exact h.keep hdedup (fun hash => by rw [hrouter]) (acceptedFrom_of_log_eq hlog)
  | stale claim htable hrouter hlog =>
    exact h.keep hdedup (fun hash => by rw [hrouter]) (acceptedFrom_of_log_eq hlog)
  | accepted claim forward hadmits hfresh htable hrouter hlog =>
    have haccepted := acceptedFrom_of_log_append origin hlog
    by_cases horigin : claim.origin = origin
    · have hclaim : claim ∈ A.claims := hcarries claim hadmits.verified horigin
      have hnonempty : claim.capabilities ≠ [] := by
        obtain ⟨key, hkey, -⟩ := (touchAll_fresh_iff _ _ _ _).mp hfresh
        rintro hnil
        simp [Claim.keys, hnil] at hkey
      rw [if_pos horigin] at haccepted
      refine h.install hdedup hclaim hnonempty
        (fun c hc => h.lt_of_accepted hgrows houtlived hadmits hfresh hclaim hnonempty hc)
        (fun hash => ?_) haccepted
      rw [hrouter, provides_replaceRegistrations]
      simp [horigin]
    · rw [if_neg horigin, append_nil] at haccepted
      refine h.keep hdedup (fun hash => ?_) haccepted
      rw [hrouter, provides_replaceRegistrations]
      simp [Ne.symm horigin]

end Sufficient

/-! ## The condition is needed -/

section Necessary

variable {blake3 : List UInt8 → Digest} {V : Verify} {origin : NodeId} {A : Announced V origin}
  {minAge : Nat} {n : GossipNode}

variable {c : Claim} {frame : Frame} {identity : Keypair} {epoch : Nat}

lemma Announced.exists_frame (A : Announced V origin) (hc : c ∈ A.claims) :
    ∃ frame, verifiedClaim V frame = some c := by
  obtain ⟨signature, hsigned⟩ := A.signed c hc
  rw [← A.origin_eq c hc] at hsigned
  exact ⟨_, verifiedClaim_payload (A.count c hc) (A.clock c hc) hsigned (.new .announce c.origin) 0⟩

lemma carries_deliverAtOnce (hframe : verifiedClaim V frame = some c)
    (hc : c ∈ A.claims) : (deliverAtOnce frame).Carries A := by
  intro c' hc' _
  rw [hframe, Option.some.injEq] at hc'
  rwa [← hc']

lemma deliverAtOnce_accepted (blake3 : List UInt8 → Digest) {claim : Claim}
    (hadmits : n.manager.Admits V frame (n.secsAt n.now) claim)
    (hnew : ∃ key ∈ claim.keys, ¬ Covers n.table key claim.clock 0) :
    ∃ n', n.step blake3 V (deliverAtOnce frame) = n' ∧
      n'.acceptedFrom claim.origin = n.acceptedFrom claim.origin ++ [claim] ∧
      n'.table = (touchAll claim.clock (fun _ => n.now) claim.keys n.table).2 ∧
      n'.now = n.now ∧ n'.epoch = n.epoch ∧ n'.manager.identity = n.manager.identity ∧
      n'.router = replaceRegistrations blake3 n.router claim.origin claim.capabilities := by
  obtain ⟨manager, forward, hidentity, htable, harm⟩ :=
    announceArm_of_admits blake3 hadmits fun _ => n.now
  rw [if_pos ((touchAll_fresh_iff _ _ _ _).mpr hnew)] at harm
  have hstep : n.step blake3 V (deliverAtOnce frame) =
      { n.announceArm blake3 V frame (fun _ => n.now) with now := n.now } := rfl
  rw [hstep, harm]
  refine ⟨_, rfl, ?_, htable, rfl, rfl, hidentity, rfl⟩
  rw [acceptedFrom_of_log_append claim.origin rfl, if_pos rfl]

lemma not_covers_of_eq_none {T : FreshTable (NodeId × IntentHash) HybridClock}
    {key : NodeId × IntentHash} (h : T key = none) (clock : HybridClock) :
    ¬ Covers T key clock 0 := by
  rintro ⟨at', s, hrow, -⟩
  rw [h] at hrow
  exact absurd hrow (by simp)

lemma Claim.exists_mem_keys (h : c.capabilities ≠ []) : ∃ key, key ∈ c.keys := by
  obtain ⟨cap, rest, hcaps⟩ := exists_cons_of_ne_nil h
  exact ⟨(c.origin, cap.intentHash), by simp [Claim.keys, hcaps]⟩

lemma first_accepted (blake3 : List UInt8 → Digest)
    (hframe : verifiedClaim V frame = some c)
    (hforeign : c.origin ≠ identity.nodeId) (hnonempty : c.capabilities ≠ [])
    (hskew : AnnouncementManager.withinSkew (epoch / 10 ^ 9) c.clock) :
    ∃ n', (GossipNode.start identity 0 epoch).step blake3 V (deliverAtOnce frame) = n' ∧
      n'.acceptedFrom c.origin = [c] ∧
      n'.table = (touchAll c.clock (fun _ => 0) c.keys fun _ => none).2 ∧
      n'.now = 0 ∧ n'.epoch = epoch ∧ n'.manager.identity = identity := by
  obtain ⟨key, hkey⟩ := exists_mem_keys hnonempty
  have hadmits : (GossipNode.start identity 0 epoch).manager.Admits V frame
      ((GossipNode.start identity 0 epoch).secsAt 0) c := ⟨hframe, hskew, hforeign⟩
  obtain ⟨n', hn', haccepted, htable, hnow, hepoch, hidentity, -⟩ :=
    deliverAtOnce_accepted blake3 hadmits
      ⟨key, hkey, not_covers_of_eq_none rfl c.clock⟩
  exact ⟨n', hn', haccepted, htable, hnow, hepoch, hidentity⟩

lemma accepted_again (blake3 : List UInt8 → Digest) {wait : Nat}
    (hframe : verifiedClaim V frame = some c)
    (hforeign : c.origin ≠ identity.nodeId) (hnonempty : c.capabilities ≠ [])
    (hfirst : AnnouncementManager.withinSkew (epoch / 10 ^ 9) c.clock)
    (hsecond : AnnouncementManager.withinSkew ((epoch + wait) / 10 ^ 9) c.clock)
    (hwait : minAge ≤ wait) :
    (run (GossipNode.step blake3 V) (.start identity 0 epoch)
      [deliverAtOnce frame, .tick wait, .cleanup minAge,
        deliverAtOnce frame]).acceptedFrom c.origin = [c, c] := by
  obtain ⟨key, hkey⟩ := exists_mem_keys hnonempty
  obtain ⟨n₁, hn₁, haccepted, htable, hnow, hepoch, hidentity⟩ :=
    first_accepted blake3 hframe hforeign hnonempty hfirst
  simp only [run_cons, run_nil, hn₁]
  -- the state before the second copy
  obtain ⟨n₂, hn₂⟩ : ∃ n₂, n₂ = (n₁.step blake3 V (.tick wait)).step blake3 V (.cleanup minAge) :=
    ⟨_, rfl⟩
  have hevicted : n₂.table key = none := by
    have hrows : n₂.table = evict n₁.table (n₁.now + wait) minAge := by
      rw [hn₂]
      exact table_cleanupStale n₁.manager _ minAge
    rw [hrows, htable]
    apply evict_eq_none
    intro at' s hrow
    rcases touchAll_row _ _ _ hrow with hstart | ⟨-, hat⟩
    · exact absurd hstart (by simp)
    · omega
  have hadmits : n₂.manager.Admits V frame (n₂.secsAt n₂.now) c := by
    refine ⟨hframe, ?_, ?_⟩
    · have htime : n₂.secsAt n₂.now = (n₁.epoch + (n₁.now + wait)) / 10 ^ 9 := by
        rw [hn₂]
        rfl
      rwa [htime, hepoch, hnow, Nat.zero_add]
    · have hsame : n₂.manager.identity = n₁.manager.identity := by
        rw [hn₂]
        rfl
      rwa [hsame, hidentity]
  obtain ⟨n₃, hn₃, haccepted₃, -⟩ := deliverAtOnce_accepted blake3 hadmits
    ⟨key, hkey, not_covers_of_eq_none hevicted c.clock⟩
  have hsame : n₂.acceptedFrom c.origin = n₁.acceptedFrom c.origin := by
    rw [hn₂]
    rfl
  rw [← hn₂, hn₃, haccepted₃, hsame, haccepted]
  rfl

lemma accepted_late (blake3 : List UInt8 → Digest)
    {frame' : Frame} {d : Claim} (hframe : verifiedClaim V frame = some c)
    (hframe' : verifiedClaim V frame' = some d) (hsame : c.origin = d.origin)
    (hforeign : d.origin ≠ identity.nodeId) (hnonempty : d.capabilities ≠ [])
    (hskew : AnnouncementManager.withinSkew (epoch / 10 ^ 9) c.clock)
    (hskew' : AnnouncementManager.withinSkew (epoch / 10 ^ 9) d.clock)
    (hlacks : ¬ c.hashes ⊆ d.hashes) :
    (run (GossipNode.step blake3 V) (.start identity 0 epoch)
      [deliverAtOnce frame', deliverAtOnce frame]).acceptedFrom d.origin = [d, c] ∧
    ∀ hash, c.Installs blake3 hash →
      (run (GossipNode.step blake3 V) (.start identity 0 epoch)
        [deliverAtOnce frame', deliverAtOnce frame]).router.provides d.origin hash := by
  obtain ⟨hash, hhash, hnot⟩ : ∃ hash ∈ c.hashes, hash ∉ d.hashes := by
    simpa [subset_def] using hlacks
  obtain ⟨n₁, hn₁, haccepted, htable, hnow, hepoch, hidentity⟩ :=
    first_accepted blake3 hframe' hforeign hnonempty hskew'
  simp only [run_cons, run_nil, hn₁]
  have hunseen : n₁.table (c.origin, hash) = none := by
    rw [htable, touchAll_of_not_mem]
    exact fun hkey => hnot (mem_keys_iff.mp hkey).2
  have hadmits : n₁.manager.Admits V frame (n₁.secsAt n₁.now) c := by
    refine ⟨hframe, ?_, ?_⟩
    · rwa [secsAt, hepoch, hnow, Nat.add_zero]
    · rwa [hidentity, hsame]
  obtain ⟨n₂, hn₂, haccepted₂, -, -, -, -, hrouter⟩ := deliverAtOnce_accepted blake3 hadmits
    ⟨(c.origin, hash), mem_keys_iff.mpr ⟨rfl, hhash⟩, not_covers_of_eq_none hunseen c.clock⟩
  rw [hn₂]
  constructor
  · rw [← hsame, haccepted₂, hsame, haccepted]
    rfl
  · intro hash' hinstalls
    rw [hrouter, provides_replaceRegistrations]
    exact .inl ⟨hsame.symm, hinstalls⟩

end Necessary

/-! ## The condition is exact -/

/-- The second at which the skew window of a clock value opens, in nanoseconds. Source:
`axiom-router/src/announce.rs`, `MAX_ANNOUNCE_CLOCK_SKEW`. -/
def HybridClock.windowStart (clock : HybridClock) : Nat :=
  (clock.physical.toNat - maxAnnounceClockSkew) * 10 ^ 9

variable (blake3 : List UInt8 → Digest) (clock : HybridClock) (claim : Claim)

lemma windowStart_div : clock.windowStart / 10 ^ 9 = clock.physical.toNat - maxAnnounceClockSkew :=
  Nat.mul_div_cancel _ (by norm_num)

/-- **When gossip never rolls the registry back.** A node receives what one other origin announced,
in any order, any number of times and among any other frames, with cleanups that spare everything
touched within `minAge`. In every such run the accepted clocks increase and the newest claim
accepted is registered, exactly if cleanups spare what was touched within the skew window of a claim
that is not empty, and, among claims whose skew windows meet, a newer one that is not empty has
every capability of an older one. -/
theorem never_rolls_back_iff (blake3 : List UInt8 → Digest) {V : Verify} {origin : NodeId}
    (A : Announced V origin) (identity : Keypair) (hforeign : origin ≠ identity.nodeId)
    (minAge : Nat) :
    (∀ (now epoch : Nat) (es : List GossipEvent), (∀ e ∈ es, e.Carries A ∧ e.Spares minAge) →
      NeverRollsBack blake3 origin
        (run (GossipNode.step blake3 V) (.start identity now epoch) es)) ↔
      A.Outlived minAge ∧ A.Grows := by
  constructor
  · intro hall
    constructor
    · -- were a window longer, a cleanup inside it would let the same claim in again
      intro c hc hnonempty
      by_contra hshort
      obtain ⟨frame, hframe⟩ := A.exists_frame hc
      have hopen : AnnouncementManager.withinSkew (c.clock.windowStart / 10 ^ 9) c.clock := by
        rw [AnnouncementManager.withinSkew_iff, windowStart_div]
        omega
      have hclose : AnnouncementManager.withinSkew
          ((c.clock.windowStart + (c.clock.window - 1)) / 10 ^ 9) c.clock := by
        rw [AnnouncementManager.withinSkew_iff, windowStart, HybridClock.window]
        omega
      have horigin := A.origin_eq c hc
      have htwice := accepted_again (V := V) blake3 hframe (horigin ▸ hforeign) hnonempty hopen
        hclose (show minAge ≤ c.clock.window - 1 by omega)
      have hrun := hall 0 c.clock.windowStart
        [deliverAtOnce frame, .tick (c.clock.window - 1), .cleanup minAge, deliverAtOnce frame] ?_
      · have hincreasing := hrun.increasing
        rw [← horigin, htwice, pairwise_pair] at hincreasing
        exact lt_irrefl _ (happensBefore_iff_lt.mp hincreasing)
      · have hcarries := carries_deliverAtOnce hframe hc
        simp only [mem_cons, not_mem_nil, or_false]
        rintro e (rfl | rfl | rfl | rfl)
        · exact ⟨hcarries, trivial⟩
        · exact ⟨trivial, trivial⟩
        · exact ⟨trivial, le_rfl⟩
        · exact ⟨hcarries, trivial⟩
    · -- were a capability withdrawn, the older claim would be accepted after the newer one
      intro c hc d hd hbefore hnonempty hnear
      by_contra hlacks
      obtain ⟨frame, hframe⟩ := A.exists_frame hc
      obtain ⟨frame', hframe'⟩ := A.exists_frame hd
      have hlt := happensBefore_iff_lt.mp hbefore
      have hphysical := physical_le_of_le hlt.le
      have hskew : AnnouncementManager.withinSkew (d.clock.windowStart / 10 ^ 9) c.clock := by
        rw [AnnouncementManager.withinSkew_iff, windowStart_div]
        omega
      have hskew' : AnnouncementManager.withinSkew (d.clock.windowStart / 10 ^ 9) d.clock := by
        rw [AnnouncementManager.withinSkew_iff, windowStart_div]
        omega
      have horigin := A.origin_eq d hd
      have hboth := accepted_late (V := V) blake3 hframe hframe'
        ((A.origin_eq c hc).trans horigin.symm) (horigin ▸ hforeign) hnonempty hskew hskew' hlacks
      have hrun := hall 0 d.clock.windowStart [deliverAtOnce frame', deliverAtOnce frame] ?_
      · have hincreasing := hrun.increasing
        rw [← horigin, hboth.1, pairwise_pair] at hincreasing
        exact lt_asymm hlt (happensBefore_iff_lt.mp hincreasing)
      · simp only [mem_cons, not_mem_nil, or_false]
        rintro e (rfl | rfl)
        · exact ⟨carries_deliverAtOnce hframe' hd, trivial⟩
        · exact ⟨carries_deliverAtOnce hframe hc, trivial⟩
  · rintro ⟨houtlived, hgrows⟩ now epoch es hes
    have hinv : RegistryInv blake3 A minAge
        (run (GossipNode.step blake3 V) (.start identity now epoch) es) :=
      run_invariant_of_guarded (I := RegistryInv blake3 A minAge)
        (G := fun _ e => e.Carries A ∧ e.Spares minAge)
        (fun _ _ h he => h.step hgrows houtlived he.1 he.2) (registryInv_start identity now epoch)
        (guarded_of_forall fun e he _ => hes e he)
    exact hinv.toNeverRollsBack

lemma verifiedClaim_samples :
    verifiedClaim sampleVerify (sampleFrame earlyClaim earlyClaimSignature) = some earlyClaim ∧
      verifiedClaim sampleVerify (sampleFrame fullClaim fullClaimSignature) = some fullClaim ∧
      verifiedClaim sampleVerify (sampleFrame lateClaim lateClaimSignature) = some lateClaim := by
  decide +kernel

lemma hashes_sampleClaim (offset : UInt64) (names : List String) :
    (sampleClaim offset names).hashes = names.map (capabilityHash sampleBlake3) := by
  simp only [hashes, sampleClaim, map_map]
  rfl

def growingAnnounced : Announced sampleVerify sampleOrigin where
  claims := {earlyClaim, fullClaim}
  origin_eq := by
    rintro c (rfl | rfl)
    · rfl
    · rfl
  clock_inj := by
    rintro c (rfl | rfl) d (rfl | rfl) h
    · rfl
    · exact absurd (congrArg physical h) (by decide)
    · exact absurd (congrArg physical h) (by decide)
    · rfl
  signed := by
    rintro c (rfl | rfl)
    · exact ⟨earlyClaimSignature, by simp [sampleVerify]⟩
    · exact ⟨fullClaimSignature, by simp [sampleVerify]⟩
  count := by
    rintro c (rfl | rfl)
    · simp [earlyClaim, sampleClaim]
    · simp [fullClaim, sampleClaim]
  clock := by
    rintro c (rfl | rfl)
    · decide
    · decide

theorem growing_claims_out_of_order :
    growingAnnounced.Grows ∧
      NeverRollsBack sampleBlake3 sampleOrigin
        (run (GossipNode.step sampleBlake3 sampleVerify)
          (.start sampleReceiver 0 (1700000100 * 10 ^ 9))
          [deliverAtOnce (sampleFrame fullClaim fullClaimSignature), .cleanup announcementMaxAge,
            deliverAtOnce (sampleFrame earlyClaim earlyClaimSignature)]) := by
  have hgrows : growingAnnounced.Grows := by
    rintro c (rfl | rfl) d (rfl | rfl) hbefore - -
    · exact List.Subset.refl _
    · simp [earlyClaim, fullClaim, hashes_sampleClaim]
    · exact absurd hbefore (by decide)
    · exact List.Subset.refl _
  obtain ⟨hearly, hfull, -⟩ := verifiedClaim_samples
  refine ⟨hgrows, (never_rolls_back_iff sampleBlake3 growingAnnounced sampleReceiver
    (by decide +kernel) announcementMaxAge).mpr
      ⟨fun c _ _ => window_le_announcementMaxAge c.clock, hgrows⟩ 0 _ _ ?_⟩
  simp only [mem_cons, not_mem_nil, or_false]
  rintro e (rfl | rfl | rfl)
  · exact ⟨carries_deliverAtOnce hfull (.inr rfl), trivial⟩
  · exact ⟨trivial, le_rfl⟩
  · exact ⟨carries_deliverAtOnce hearly (.inl rfl), trivial⟩

/-- A node receives the announcement that withdraws a capability, and then the one before it,
delayed on another path. -/
def delayedRun : GossipNode :=
  run (GossipNode.step sampleBlake3 sampleVerify) (.start sampleReceiver 0 (1700000130 * 10 ^ 9))
    [deliverAtOnce (sampleFrame lateClaim lateClaimSignature),
      deliverAtOnce (sampleFrame fullClaim fullClaimSignature)]

/-- **A withdrawn capability comes back.** Both announcements are genuine, the older one is accepted
after the newer one, and what the origin withdrew is registered again. -/
theorem late_claim_rolls_back :
    delayedRun.acceptedFrom sampleOrigin = [lateClaim, fullClaim] ∧
      fullClaim.clock.happensBefore lateClaim.clock ∧
      delayedRun.router.provides sampleOrigin (capabilityHash sampleBlake3 "sysinfo") ∧
      capabilityHash sampleBlake3 "sysinfo" ∉ lateClaim.hashes := by
  obtain ⟨-, hfull, hlate⟩ := verifiedClaim_samples
  have hskew : ∀ c ∈ [fullClaim, lateClaim],
      AnnouncementManager.withinSkew (1700000130 * 10 ^ 9 / 10 ^ 9) c.clock := by decide
  have hlacks : capabilityHash sampleBlake3 "sysinfo" ∉ lateClaim.hashes := by
    have hne : capabilityHash sampleBlake3 "sysinfo" ≠ capabilityHash sampleBlake3 "echo" := by
      decide +kernel
    simpa [lateClaim, hashes_sampleClaim] using hne
  have hhas : capabilityHash sampleBlake3 "sysinfo" ∈ fullClaim.hashes := by
    simp [fullClaim, hashes_sampleClaim]
  obtain ⟨haccepted, hinstalled⟩ := accepted_late sampleBlake3 hfull hlate rfl
    (show lateClaim.origin ≠ sampleReceiver.nodeId by decide +kernel) (by decide +kernel)
    (hskew fullClaim (by simp)) (hskew lateClaim (by simp)) fun hsubset => hlacks (hsubset hhas)
  exact ⟨haccepted, by decide +kernel,
    hinstalled _ ⟨hhas, "sysinfo", by simp [knownCapabilityNames], rfl⟩, hlacks⟩

end AxiomCore
