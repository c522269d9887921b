import Mathlib.Data.Sym.Sym2
import DiscoveryGraph.Proofs.Graph.Primitive

/-! The relations of a graph as one set of undirected edges. An edge is filed under its parent and under
its child, each time under the kind of the other; of a well-formed graph nothing more is to be known than
which pairs of entities are edges. -/
namespace DiscoveryGraph

/-- The two ends of an edge, in no order. -/
def Edge.ends (edge : Edge) : Sym2 EntityId := s(edge.parent, edge.child)

namespace Graph
variable {g h : Graph} {a b x y : EntityId} {k : EntityKind} {edge edge' : Edge} {edges : Set (Sym2 EntityId)}

/-- The pairs of entities that share an edge. -/
def edgeSet (g : Graph) : Set (Sym2 EntityId) := {pair | ∃ x y k, y ∈ g.neighbors x k ∧ pair = s(x, y)}

/-- An edge is seen from either of its ends. -/
theorem mem_edgeSet (wf : g.WellFormed) : s(x, y) ∈ g.edgeSet ↔ ∃ k, y ∈ g.neighbors x k := by
  constructor
  · intro edge
    obtain ⟨x', y', k, near, same⟩ := edge
    obtain ⟨rfl, rfl⟩ | ⟨rfl, rfl⟩ := Sym2.eq_iff.mp same
    · exact ⟨k, near⟩
    · obtain ⟨-, kind, -, -, back⟩ := wf.twoSided near
      exact ⟨kind, back⟩
  · intro neighbor
    obtain ⟨k, near⟩ := neighbor
    exact ⟨x, y, k, near, rfl⟩

/-- A neighbor is filed under its kind and no other. -/
theorem mem_neighbors_iff (wf : g.WellFormed) :
    y ∈ g.neighbors x k ↔ s(x, y) ∈ g.edgeSet ∧ g.kind? y = some k := by
  rw [mem_edgeSet wf]
  constructor
  · exact fun near => ⟨⟨k, near⟩, wf.kind?_of_mem near⟩
  · intro fact
    obtain ⟨⟨k', near⟩, known⟩ := fact
    rwa [← kind_unique (wf.kind?_of_mem near) known]

/-! ### Other edges between the same entities -/

/-- The second graph is the first one with these edges instead of its own. -/
structure Redrawn (g h : Graph) (edges : Set (Sym2 EntityId)) : Prop where
  rest : h = { g with relations := h.relations }
  edgeSet : h.edgeSet = edges
  neighbors : ∀ x k y, y ∈ h.neighbors x k ↔ s(x, y) ∈ edges ∧ g.kind? y = some k

namespace Redrawn

theorem of_wellFormed (wf : h.WellFormed) (rest : h = { g with relations := h.relations })
    (whole : h.edgeSet = edges) : Redrawn g h edges := by
  refine ⟨rest, whole, fun x k y => ?_⟩
  have kinds : h.kind? y = g.kind? y := by rw [rest]; rfl
  rw [mem_neighbors_iff wf, whole, kinds]

theorem refl (wf : g.WellFormed) : Redrawn g g g.edgeSet := .of_wellFormed wf rfl rfl

/-- The edges are all there is to the relations. -/
theorem unique {h' : Graph} (redrawn : Redrawn g h edges) (redrawn' : Redrawn g h' edges) : h = h' := by
  have relations : h.relations = h'.relations := Index.ext_find fun key =>
    Std.ExtTreeSet.ext_mem fun y => (redrawn.neighbors key.owner key.kind y).trans
      (redrawn'.neighbors key.owner key.kind y).symm
  rw [redrawn.rest, redrawn'.rest, relations]

theorem trans {h' : Graph} {edges' : Set (Sym2 EntityId)} (first : Redrawn g h edges)
    (second : Redrawn h h' edges') : Redrawn g h' edges' := by
  have rest : h' = { g with relations := h'.relations } := by rw [second.rest, first.rest]
  have kinds : ∀ y, h.kind? y = g.kind? y := fun y => by rw [first.rest]; rfl
  exact ⟨rest, second.edgeSet, fun x k y => by rw [second.neighbors, kinds]⟩

end Redrawn

/-! ### Single edges -/

/-- The entities at the ends of an edge see each other along it, and nobody else does. -/
theorem joins_iff (legal : edge.Legal g) : edge.Joins x k y ↔ s(x, y) = edge.ends ∧ g.kind? y = some k := by
  rw [Edge.ends, Sym2.eq_iff]
  constructor
  · intro joins
    obtain ⟨rfl, rfl, rfl⟩ | ⟨rfl, rfl, rfl⟩ := joins
    · exact ⟨.inl ⟨rfl, rfl⟩, legal.child⟩
    · exact ⟨.inr ⟨rfl, rfl⟩, legal.parent⟩
  · intro fact
    obtain ⟨⟨rfl, rfl⟩ | ⟨rfl, rfl⟩, known⟩ := fact
    · exact .inl ⟨rfl, kind_unique known legal.child, rfl⟩
    · exact .inr ⟨rfl, kind_unique known legal.parent, rfl⟩

theorem child_mem_neighbors (wf : g.WellFormed) (legal : edge.Legal g) :
    edge.child ∈ g.neighbors edge.parent edge.rule.child ↔ edge.ends ∈ g.edgeSet := by
  rw [mem_neighbors_iff wf, Edge.ends, and_iff_left legal.child]

theorem parent_mem_neighbors (wf : g.WellFormed) (legal : edge.Legal g) :
    edge.parent ∈ g.neighbors edge.child edge.rule.parent ↔ edge.ends ∈ g.edgeSet := by
  rw [mem_neighbors_iff wf, Edge.ends, Sym2.eq_swap, and_iff_left legal.parent]

/-- Filing an edge adds it. -/
theorem link_redrawn (wf : g.WellFormed) (legal : edge.Legal g) (vacant : edge.Vacant g) :
    Redrawn g (g.link edge) (insert edge.ends g.edgeSet) := by
  have linked : (g.link edge).WellFormed := wf.link legal.rule legal.parent legal.child vacant
  refine .of_wellFormed linked rfl (Set.ext fun pair => ?_)
  induction pair with
  | _ x y =>
    rw [mem_edgeSet linked, Set.mem_insert_iff, mem_edgeSet wf]
    simp only [mem_neighbors_link, joins_iff legal, exists_or, exists_and_left]
    refine or_congr_left ⟨And.left, fun same => ⟨same, ?_⟩⟩
    rw [Edge.ends, Sym2.eq_iff] at same
    obtain ⟨-, rfl⟩ | ⟨-, rfl⟩ := same
    · exact ⟨_, legal.child⟩
    · exact ⟨_, legal.parent⟩

/-- Taking an edge away takes nothing else away. -/
theorem unlink_redrawn (wf : g.WellFormed) (legal : edge.Legal g) :
    Redrawn g (g.unlink edge) (g.edgeSet \ {edge.ends}) := by
  have unlinked : (g.unlink edge).WellFormed := wf.unlink legal.parent legal.child
  refine .of_wellFormed unlinked rfl (Set.ext fun pair => ?_)
  induction pair with
  | _ x y =>
    rw [mem_edgeSet unlinked, Set.mem_sdiff, Set.mem_singleton_iff, mem_edgeSet wf]
    simp only [mem_neighbors_unlink, joins_iff legal]
    constructor
    · intro neighbor
      obtain ⟨k, other, near⟩ := neighbor
      exact ⟨⟨k, near⟩, fun same => other ⟨same, wf.kind?_of_mem near⟩⟩
    · intro fact
      obtain ⟨⟨k, near⟩, other⟩ := fact
      exact ⟨k, fun joins => other joins.1, near⟩

/-- Taking away an edge that is not there changes nothing. -/
theorem unlink_of_not_mem (wf : g.WellFormed) (legal : edge.Legal g) (absent : edge.ends ∉ g.edgeSet) :
    g.unlink edge = g := by
  refine (unlink_redrawn wf legal).unique ?_
  rw [Set.sdiff_singleton_eq_self absent]
  exact .refl wf

/-- An edge that was not there is filed and taken away without a trace. -/
theorem unlink_link (wf : g.WellFormed) (legal : edge.Legal g) (vacant : edge.Vacant g)
    (absent : edge.ends ∉ g.edgeSet) : (g.link edge).unlink edge = g := by
  have linked := link_redrawn wf legal vacant
  have legal' : edge.Legal (g.link edge) := ⟨legal.rule, legal.parent, legal.child⟩
  have unlinked := unlink_redrawn (wf.link legal.rule legal.parent legal.child vacant) legal'
  rw [linked.edgeSet, Set.insert_sdiff_self_of_notMem absent] at unlinked
  exact (linked.trans unlinked).unique (.refl wf)

/-- Two entities share one edge at most, whichever of them is named first. -/
theorem edgeBetween_eq_ok_iff : g.edgeBetween a b = .ok edge ↔ edge.Legal g ∧ edge.ends = s(a, b) := by
  constructor
  · intro found
    refine ⟨legal_of_edgeBetween found, ?_⟩
    simp only [edgeBetween, Bind.bind, Except.bind] at found
    split at found
    · cases found
    · split at found
      · cases found
      · split at found
        · cases found
        · cases found
          rfl
        · cases found
          exact Sym2.eq_swap
  · intro fact
    obtain ⟨legal, same⟩ := fact
    rw [Edge.ends, Sym2.eq_iff] at same
    refine edgeBetween_of_legal legal (same.imp ?_ ?_)
    · exact fun ends => ⟨ends.1.symm, ends.2.symm⟩
    · exact fun ends => ⟨ends.2.symm, ends.1.symm⟩

theorem legal_unique (legal : edge.Legal g) (legal' : edge'.Legal g) (same : edge.ends = edge'.ends) :
    edge = edge' := by
  have found : g.edgeBetween edge'.parent edge'.child = .ok edge := edgeBetween_eq_ok_iff.mpr ⟨legal, same⟩
  have found' : g.edgeBetween edge'.parent edge'.child = .ok edge' := edgeBetween_eq_ok_iff.mpr ⟨legal', rfl⟩
  exact Except.ok.inj (found.symm.trans found')

/-- Every edge that is there is legal between its ends. -/
theorem exists_legal_of_mem (wf : g.WellFormed) (mem : s(a, b) ∈ g.edgeSet) :
    ∃ edge : Edge, edge.Legal g ∧ edge.ends = s(a, b) := by
  obtain ⟨k, near⟩ := (mem_edgeSet wf).mp mem
  obtain ⟨known, kind, known', adjoins, -⟩ := wf.twoSided near
  obtain ⟨⟨rule, first⟩, found⟩ := Option.isSome_iff_exists.mp adjoins
  obtain ⟨listed, ⟨-, rfl, rfl⟩ | ⟨-, rfl, rfl⟩⟩ := mem_edgeRules_of_edgeRule? found
  · exact ⟨⟨rule, a, b⟩, ⟨listed, known', known⟩, rfl⟩
  · exact ⟨⟨rule, b, a⟩, ⟨listed, known, known'⟩, Sym2.eq_swap⟩

end Graph
end DiscoveryGraph
