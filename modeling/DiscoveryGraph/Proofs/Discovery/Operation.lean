import DiscoveryGraph.Proofs.Discovery.Ingestion

/-! The graphs that public operations build, whether or not the operations succeed. They are all
well-formed, so every edge in them is legal and found from both of its ends, and where a kind has one
parent of another kind, no entity of it has two. -/
namespace DiscoveryGraph
namespace Graph
open Update

/-- The public operations on a graph. -/
inductive Operation where
  | create (kind : EntityKind) (name : String) (attributes : Attributes)
  | setActive (id : EntityId) (active : Bool)
  | remove (id : EntityId)
  | bind (a b : EntityId)
  | unbind (a b : EntityId)
  | apply (transition : Transition)
  | rederiveLocators (locators : IdSet)
  | clearDomain (domain : EntityId)
  | ingest (notification : Notification)

/-- The graph that an operation leaves behind, whether or not it succeeds. -/
def Operation.act (g : Graph) : Operation → Graph
  | create kind name attributes => (Graph.create kind name attributes).after g
  | setActive id active => (Graph.setActive id active).after g
  | remove id => (Graph.remove id).after g
  | bind a b => (Graph.bind a b).after g
  | unbind a b => (Graph.unbind a b).after g
  | apply transition => (Graph.apply transition).after g
  | rederiveLocators locators => (Graph.rederiveLocators locators).after g
  | clearDomain domain => (Graph.clearDomain domain).after g
  | ingest notification => (Graph.ingest notification).after g

/-- The graphs that public operations build from the empty one. -/
inductive Built : Graph → Prop
  | empty : Built ∅
  | step {g : Graph} (operation : Operation) : Built g → Built (operation.act g)

theorem Built.foldl {g : Graph} (built : g.Built) (operations : List Operation) :
    (operations.foldl Operation.act g).Built := by
  induction operations generalizing g with
  | nil => exact built
  | cons operation operations ih => exact ih (.step operation built)

/-- Whatever an operation does comes down to actions. -/
theorem Operation.becomes_act {g : Graph} (operation : Operation) (wf : g.WellFormed) :
    g.Becomes (operation.act g) := by
  cases operation with
  | create => exact create_atMostOne.becomes
  | setActive => exact setActive_atMostOne.becomes
  | remove => exact (remove_atMostOne wf).becomes
  | bind => exact bind_atMostOne.becomes
  | unbind => exact unbind_atMostOne.becomes
  | apply => exact becomes_apply wf
  | rederiveLocators =>
    refine ((rederiveLocators_ends wf).imp ?_ ?_).after
    · exact fun _ _ run => run.becomes
    · intro _ _ fact
      obtain ⟨⟨_, run⟩, -⟩ := fact
      exact run.becomes
  | clearDomain => exact becomes_clearDomain wf
  | ingest =>
    refine ((ingest_ends wf).imp ?_ ?_).after
    · exact fun _ _ held => held.2.run.becomes
    · intro _ _ given
      obtain ⟨-, rfl⟩ | ⟨-, _, -, -, -, _, run⟩ := given
      · exact .refl
      · exact run.becomes

theorem Operation.wellFormed_act {g : Graph} (operation : Operation) (wf : g.WellFormed) :
    (operation.act g).WellFormed :=
  (operation.becomes_act wf).wellFormed wf

theorem Built.wellFormed {g : Graph} (built : g.Built) : g.WellFormed := by
  induction built with
  | empty => exact wellFormed_empty
  | step operation _ ih => exact operation.wellFormed_act ih

/-- In every graph that was built, neighbors exist, are of the kind they are filed under, are related by
an edge that is legal between their kinds, and are neighbors of one another; and no child has two
parents of one kind, but for the endpoints of a locator. -/
theorem Built.neighbors_legal {g : Graph} (built : g.Built) :
    (∀ a k b, b ∈ g.neighbors a k → ∃ kind, g.kind? a = some kind ∧ g.kind? b = some k ∧
      (∃ rule ∈ edgeRules, rule.parent = kind ∧ rule.child = k ∨ rule.parent = k ∧ rule.child = kind) ∧
      a ∈ g.neighbors b kind) ∧
    ∀ rule ∈ edgeRules, rule.kind ≠ .locatorBinding → ∀ x, g.kind? x = some rule.child →
      ∀ y ∈ g.neighbors x rule.parent, ∀ z ∈ g.neighbors x rule.parent, y = z := by
  have wf := built.wellFormed
  constructor
  · intro a k b near
    obtain ⟨known, kind, known', adjoins, back⟩ := wf.twoSided near
    refine ⟨kind, known', known, ?_, back⟩
    obtain ⟨⟨rule, first⟩, found⟩ := Option.isSome_iff_exists.mp adjoins
    obtain ⟨mem, ⟨-, ends⟩ | ⟨-, ends⟩⟩ := mem_edgeRules_of_edgeRule? found
    · exact ⟨rule, mem, .inl ends⟩
    · exact ⟨rule, mem, .inr ends⟩
  · intro rule mem other x known y neary z nearz
    refine wf.single known ?_ neary nearz
    rw [EntityKind.mem_parents_of_mem_edgeRules rule mem, EdgeKind.isSingleParent, bne_iff_ne]
    exact other

/-- A process is removed from under its participant, which is a neighbor of its domain all the same. -/
theorem Built.neighbors_legal_removal :
    let participant : Announcement := .participant ⟨⟨.replicate 16 1⟩, "node", "host", "user", "process", none⟩
    let g := (Operation.remove ⟨4⟩).act ((Operation.ingest ⟨⟨1⟩, .discovered, participant⟩).act
      ((Operation.create .domain "0" (.domain 0)).act ∅))
    g.kind? ⟨4⟩ = none ∧ ∃ kind, g.kind? ⟨1⟩ = some kind ∧ g.kind? ⟨5⟩ = some .participant ∧
      ⟨1⟩ ∈ g.neighbors ⟨5⟩ kind := by
  intro participant g
  have built : g.Built := .step _ (.step _ (.step _ .empty))
  obtain ⟨kind, known, known', -, near⟩ :=
    (Built.neighbors_legal built).1 ⟨1⟩ .participant ⟨5⟩ (by decide +kernel)
  exact ⟨by decide +kernel, kind, known, known', near⟩

end Graph
end DiscoveryGraph
