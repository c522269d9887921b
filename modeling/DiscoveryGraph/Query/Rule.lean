import DiscoveryGraph.Entity.Kind

/-! How entities of one kind are found from an entity of another: one row per pair of distinct
kinds, with the hops that lead from the origin to the target along stored edges. -/
namespace DiscoveryGraph

/-- The kinds entered in one step. -/
abbrev Hop := List EntityKind

/-- The steps from an origin to its target; the last one enters the target kind alone. -/
abbrev Route := List Hop

/-- The direction a route takes. -/
inductive Manner where
  | ancestor
  | descendant
  | adjacent
  | topicMatch
  | lateral
  deriving DecidableEq, Repr

/-- How a query for a pair of kinds is answered. -/
inductive Strategy where
  /-- The origin itself. -/
  | reflexive
  /-- What the route reaches. -/
  | walk (manner : Manner) (route : Route)
  /-- Nothing. -/
  | unrelated
  deriving DecidableEq, Repr

/-- One row of the rule table. -/
structure QueryRule where
  origin : EntityKind
  target : EntityKind
  manner : Manner
  route : Route
  deriving DecidableEq, Repr

def QueryRule.strategy (rule : QueryRule) : Strategy := .walk rule.manner rule.route

def Strategy.route? : Strategy → Option Route
  | walk _ route => some route
  | reflexive | unrelated => none

open EntityKind Manner in
/-- The rules for all pairs of distinct kinds. -/
def queryRules : List QueryRule :=
  [⟨host, user, descendant, [[user]]⟩,
    ⟨host, process, descendant, [[user], [process]]⟩,
    ⟨host, domain, lateral, [[user], [process], [participant], [domain]]⟩,
    ⟨host, participant, descendant, [[user], [process], [participant]]⟩,
    ⟨host, topic, lateral, [[user], [process], [participant], endpoints, [topic]]⟩,
    ⟨host, dataWriter, descendant, [[user], [process], [participant], [dataWriter]]⟩,
    ⟨host, dataReader, descendant, [[user], [process], [participant], [dataReader]]⟩,
    ⟨host, locator, descendant, [[user], [process], [participant], endpoints, [locator]]⟩,
    ⟨user, host, ancestor, [[host]]⟩,
    ⟨user, process, descendant, [[process]]⟩,
    ⟨user, domain, lateral, [[process], [participant], [domain]]⟩,
    ⟨user, participant, descendant, [[process], [participant]]⟩,
    ⟨user, topic, lateral, [[process], [participant], endpoints, [topic]]⟩,
    ⟨user, dataWriter, descendant, [[process], [participant], [dataWriter]]⟩,
    ⟨user, dataReader, descendant, [[process], [participant], [dataReader]]⟩,
    ⟨user, locator, descendant, [[process], [participant], endpoints, [locator]]⟩,
    ⟨process, host, ancestor, [[user], [host]]⟩,
    ⟨process, user, ancestor, [[user]]⟩,
    ⟨process, domain, lateral, [[participant], [domain]]⟩,
    ⟨process, participant, descendant, [[participant]]⟩,
    ⟨process, topic, lateral, [[participant], endpoints, [topic]]⟩,
    ⟨process, dataWriter, descendant, [[participant], [dataWriter]]⟩,
    ⟨process, dataReader, descendant, [[participant], [dataReader]]⟩,
    ⟨process, locator, descendant, [[participant], endpoints, [locator]]⟩,
    ⟨domain, host, lateral, [[participant], [process], [user], [host]]⟩,
    ⟨domain, user, lateral, [[participant], [process], [user]]⟩,
    ⟨domain, process, lateral, [[participant], [process]]⟩,
    ⟨domain, participant, descendant, [[participant]]⟩,
    ⟨domain, topic, descendant, [[topic]]⟩,
    ⟨domain, dataWriter, descendant, [[participant], [dataWriter]]⟩,
    ⟨domain, dataReader, descendant, [[participant], [dataReader]]⟩,
    ⟨domain, locator, descendant, [[participant], endpoints, [locator]]⟩,
    ⟨participant, host, ancestor, [[process], [user], [host]]⟩,
    ⟨participant, user, ancestor, [[process], [user]]⟩,
    ⟨participant, process, ancestor, [[process]]⟩,
    ⟨participant, domain, ancestor, [[domain]]⟩,
    ⟨participant, topic, lateral, [endpoints, [topic]]⟩,
    ⟨participant, dataWriter, descendant, [[dataWriter]]⟩,
    ⟨participant, dataReader, descendant, [[dataReader]]⟩,
    ⟨participant, locator, descendant, [endpoints, [locator]]⟩,
    ⟨topic, host, lateral, [endpoints, [participant], [process], [user], [host]]⟩,
    ⟨topic, user, lateral, [endpoints, [participant], [process], [user]]⟩,
    ⟨topic, process, lateral, [endpoints, [participant], [process]]⟩,
    ⟨topic, domain, ancestor, [[domain]]⟩,
    ⟨topic, participant, lateral, [endpoints, [participant]]⟩,
    ⟨topic, dataWriter, descendant, [[dataWriter]]⟩,
    ⟨topic, dataReader, descendant, [[dataReader]]⟩,
    ⟨topic, locator, descendant, [endpoints, [locator]]⟩,
    ⟨dataWriter, host, ancestor, [[participant], [process], [user], [host]]⟩,
    ⟨dataWriter, user, ancestor, [[participant], [process], [user]]⟩,
    ⟨dataWriter, process, ancestor, [[participant], [process]]⟩,
    ⟨dataWriter, domain, ancestor, [[participant], [domain]]⟩,
    ⟨dataWriter, participant, ancestor, [[participant]]⟩,
    ⟨dataWriter, topic, ancestor, [[topic]]⟩,
    ⟨dataWriter, dataReader, topicMatch, [[topic], [dataReader]]⟩,
    ⟨dataWriter, locator, adjacent, [[locator]]⟩,
    ⟨dataReader, host, ancestor, [[participant], [process], [user], [host]]⟩,
    ⟨dataReader, user, ancestor, [[participant], [process], [user]]⟩,
    ⟨dataReader, process, ancestor, [[participant], [process]]⟩,
    ⟨dataReader, domain, ancestor, [[participant], [domain]]⟩,
    ⟨dataReader, participant, ancestor, [[participant]]⟩,
    ⟨dataReader, topic, ancestor, [[topic]]⟩,
    ⟨dataReader, dataWriter, topicMatch, [[topic], [dataWriter]]⟩,
    ⟨dataReader, locator, adjacent, [[locator]]⟩,
    ⟨locator, host, lateral, [endpoints, [participant], [process], [user], [host]]⟩,
    ⟨locator, user, lateral, [endpoints, [participant], [process], [user]]⟩,
    ⟨locator, process, lateral, [endpoints, [participant], [process]]⟩,
    ⟨locator, domain, lateral, [endpoints, [participant], [domain]]⟩,
    ⟨locator, participant, lateral, [endpoints, [participant]]⟩,
    ⟨locator, topic, lateral, [endpoints, [topic]]⟩,
    ⟨locator, dataWriter, adjacent, [[dataWriter]]⟩,
    ⟨locator, dataReader, adjacent, [[dataReader]]⟩]

/-- The strategy for a pair of kinds: a kind is found from itself, and a pair without a row has
nothing in common. -/
def strategyFor (origin target : EntityKind) : Strategy :=
  if origin = target then .reflexive
  else
    match queryRules.find? fun rule => rule.origin = origin ∧ rule.target = target with
    | some rule => rule.strategy
    | none => .unrelated

end DiscoveryGraph
