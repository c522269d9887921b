import DiscoveryGraph.Graph.Basic
import DiscoveryGraph.Query.Rule

/-! Queries: the entities of one kind that are related to an origin. A route is expanded one
hop at a time over sets, so nothing is found twice. -/
namespace DiscoveryGraph

/-- Restricts an answer by activity. -/
inductive ActivityFilter where
  | all
  | active
  | inactive
  deriving DecidableEq, Repr

instance : Inhabited ActivityFilter := ⟨.all⟩

def ActivityFilter.accepts : ActivityFilter → Bool → Bool
  | all, _ => true
  | active, flag => flag
  | inactive, flag => !flag

namespace Graph

/-- The neighbors of any of `ids` that have one of the kinds of `hop`. -/
def step (g : Graph) (hop : Hop) (ids : IdSet) : IdSet :=
  ids.toList.foldl (fun found id => hop.foldl (fun found kind => found ∪ g.neighbors id kind) found) ∅

/-- Takes the hops of a route in turn, and stops early once nothing is left to start from. -/
def expand (g : Graph) : Route → IdSet → IdSet
  | [], frontier => frontier
  | hop :: route, frontier =>
    let next := g.step hop frontier
    if next.isEmpty then ∅ else g.expand route next

/-- What an existing origin finds of a kind. -/
def reach (g : Graph) (kind : EntityKind) (origin : Entity) : IdSet :=
  match strategyFor origin.kind kind with
  | .reflexive => {origin.id}
  | .unrelated => ∅
  | .walk _ route => g.expand route {origin.id}

/-- The entities of a kind that are related to an origin; from the universal root, all of the
kind. -/
def related (g : Graph) (kind : EntityKind) (origin : EntityId) : Except ValidationError IdSet :=
  if origin.isAll then
    if kind.isValid then .ok (g.ofKind kind) else .error (.invalidKind kind)
  else
    match g.entity? origin with
    | none => .error (.unknownOrigin origin)
    | some entity => if kind.isValid then .ok (g.reach kind entity) else .error (.invalidKind kind)

/-- Keeps the entities whose flag the filter accepts. -/
def restrict (g : Graph) (filter : ActivityFilter) (ids : IdSet) : IdSet :=
  ids.filter fun id => (g.entity? id).any fun entity => filter.accepts entity.active

/-- Like `related`, keeping only what the filter accepts. -/
def relatedBy (g : Graph) (filter : ActivityFilter) (kind : EntityKind) (origin : EntityId) :
    Except ValidationError IdSet :=
  (g.related kind origin).map fun ids => if filter = .all then ids else g.restrict filter ids

end Graph
end DiscoveryGraph
