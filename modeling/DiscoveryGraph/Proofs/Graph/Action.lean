import DiscoveryGraph.Lifecycle.Transition
import DiscoveryGraph.Proofs.Graph.WellFormed

/-! What operations are made of. A new entity comes with the edges to its parents; edges are
filed and taken away, flags are set and entities forgotten. Every operation of the library is a
run of such actions, so that a fact about one action is a fact about all operations. -/
namespace DiscoveryGraph

/-- One change of a graph. -/
inductive Action where
  | born (entity : Entity) (edges : List Edge)
  | linked (edge : Edge)
  | unlinked (edge : Edge)
  | flagged (id : EntityId) (kind : EntityKind) (active : Bool)
  | forgotten (entity : Entity)

namespace Edge

/-- The edge is legal between entities of the kinds it has. -/
structure Legal (edge : Edge) (g : Graph) : Prop where
  rule : edge.rule ∈ edgeRules
  parent : g.kind? edge.parent = some edge.rule.parent
  child : g.kind? edge.child = some edge.rule.child

/-- The child has no parent of this kind yet, where it may have only one. -/
def Vacant (edge : Edge) (g : Graph) : Prop :=
  edge.rule.kind.isSingleParent → ∀ y, y ∉ g.neighbors edge.child edge.rule.parent

end Edge

namespace Action

/-- The graph after an action. -/
def act (g : Graph) : Action → Graph
  | born entity edges => edges.foldl Graph.link (g.add entity)
  | linked edge => g.link edge
  | unlinked edge => g.unlink edge
  | flagged id _ active => g.reflag id active
  | forgotten entity => g.forget entity

/-- The changes of state that an action amounts to. -/
def changes : Action → List StateChange
  | born entity _ => [⟨entity.id, entity.kind, true⟩]
  | flagged id kind active => [⟨id, kind, active⟩]
  | forgotten entity => if entity.active then [⟨entity.id, entity.kind, false⟩] else []
  | linked _ | unlinked _ => []

/-- The edges of a new entity lead to existing parents of different kinds. -/
structure Upward (g : Graph) (entity : Entity) (edges : List Edge) : Prop where
  rule : ∀ edge ∈ edges, edge.rule ∈ edgeRules
  parent : ∀ edge ∈ edges, g.kind? edge.parent = some edge.rule.parent
  child : ∀ edge ∈ edges, edge.child = entity.id ∧ edge.rule.child = entity.kind
  distinct : edges.Pairwise (·.rule.parent ≠ ·.rule.parent)

/-- An action that the operations take only under its guard. -/
def Enabled (g : Graph) : Action → Prop
  | born entity edges => g.lastId.next? = some entity.id ∧ entity.kind ≠ .invalid ∧
      entity.active = true ∧ Upward g entity edges
  | linked edge => edge.Legal g ∧ edge.Vacant g
  | unlinked edge => edge.Legal g ∧ edge.rule.kind.isRemovable
  | flagged id kind active => g.kind? id = some kind ∧ g.alive id = !active
  | forgotten entity => g.entity? entity.id = some entity

end Action

namespace Graph
variable {g g' : Graph} {x y : EntityId} {k : EntityKind} {edge : Edge} {edges : List Edge}

@[simp] theorem entity?_links : (edges.foldl link g).entity? x = g.entity? x := by
  induction edges generalizing g with
  | nil => rfl
  | cons edge edges ih => simp [ih]

@[simp] theorem lastId_links : (edges.foldl link g).lastId = g.lastId := by
  induction edges generalizing g with
  | nil => rfl
  | cons edge edges ih => simp [ih]

@[simp] theorem size_links : (edges.foldl link g).size = g.size := by
  induction edges generalizing g with
  | nil => rfl
  | cons edge edges ih => simp [ih]

theorem mem_neighbors_links :
    y ∈ (edges.foldl link g).neighbors x k ↔ (∃ edge ∈ edges, edge.Joins x k y) ∨ y ∈ g.neighbors x k := by
  induction edges generalizing g with
  | nil => simp
  | cons edge edges ih =>
    rw [List.foldl_cons, ih, mem_neighbors_link]
    simp only [List.mem_cons, exists_eq_or_imp]
    grind

/-- Edges from one child to parents of different kinds, each of which may be filed. -/
structure Fan (g : Graph) (edges : List Edge) : Prop where
  legal : ∀ edge ∈ edges, edge.Legal g
  vacant : ∀ edge ∈ edges, edge.Vacant g
  apart : edges.Pairwise (·.rule.parent ≠ ·.rule.parent)
  single : ∀ a ∈ edges, ∀ b ∈ edges, a.child = b.child

/-- Filing one of the edges leaves room for the others. -/
theorem Fan.tail (fan : g.Fan (edge :: edges)) : (g.link edge).Fan edges := by
  have here := fan.legal edge (by simp)
  constructor
  case legal =>
    intro other mem
    have there := fan.legal other (by simp [mem])
    exact ⟨there.rule, there.parent, there.child⟩
  case vacant =>
    -- The new edge meets the shared child from below, and there under another kind.
    intro other mem once y
    rw [mem_neighbors_link]
    intro held
    obtain (⟨same, -, -⟩ | ⟨-, same, -⟩) | old := held
    · have loop := here.parent
      rw [← same, ← fan.single edge (by simp) other (by simp [mem]), here.child, Option.some_inj] at loop
      exact EntityKind.parent_ne_child_of_mem_edgeRules _ here.rule loop.symm
    · exact (List.pairwise_cons.mp fan.apart).1 other mem same.symm
    · exact fan.vacant other (by simp [mem]) once y old
  case apart => exact (List.pairwise_cons.mp fan.apart).2
  case single => exact fun a mem b mem' => fan.single a (by simp [mem]) b (by simp [mem'])

theorem WellFormed.link_head (wf : g.WellFormed) (fan : g.Fan (edge :: edges)) : (g.link edge).WellFormed := by
  have here := fan.legal edge (by simp)
  exact wf.link here.rule here.parent here.child (fan.vacant edge (by simp))

theorem WellFormed.links (wf : g.WellFormed) (fan : g.Fan edges) : (edges.foldl Graph.link g).WellFormed := by
  induction edges generalizing g with
  | nil => exact wf
  | cons edge edges ih => exact ih (wf.link_head fan) fan.tail

/-- A new entity has no parents yet. -/
theorem WellFormed.fan_add (wf : g.WellFormed) {entity : Entity} (next : g.lastId.next? = some entity.id)
    (up : Action.Upward g entity edges) : (g.add entity).Fan edges := by
  constructor
  case legal =>
    intro edge mem
    refine ⟨up.rule edge mem, ?_, ?_⟩
    · rw [kind?_add, if_neg (wf.ne_fresh next (up.parent edge mem)), up.parent edge mem]
    · rw [kind?_add, (up.child edge mem).1, if_pos rfl, (up.child edge mem).2]
  case vacant =>
    intro edge mem _ y old
    rw [neighbors_add, (up.child edge mem).1] at old
    obtain ⟨kind, known, -⟩ := wf.exists_of_mem old
    exact absurd rfl (wf.ne_fresh next known)
  case apart => exact up.distinct
  case single =>
    intro edge mem other mem'
    rw [(up.child edge mem).1, (up.child other mem').1]

end Graph

namespace Action
variable {g : Graph} {a : Action}

theorem kind?_born {entity : Entity} {edges : List Edge} {x : EntityId} :
    ((born entity edges).act g).kind? x = if entity.id = x then some entity.kind else g.kind? x := by
  rw [act, Graph.kind?, Graph.entity?_links, ← Graph.kind?, Graph.kind?_add]

/-- An action that may be taken keeps the graph well-formed. -/
theorem wellFormed_act (wf : g.WellFormed) (enabled : a.Enabled g) : (a.act g).WellFormed := by
  cases a with
  | born entity edges =>
    obtain ⟨next, valid, -, up⟩ := enabled
    exact (wf.add next valid).links (wf.fan_add next up)
  | linked edge => exact wf.link enabled.1.rule enabled.1.parent enabled.1.child enabled.2
  | unlinked edge => exact wf.unlink enabled.1.parent enabled.1.child
  | flagged id kind active => exact wf.reflag id active
  | forgotten entity => exact wf.forget enabled

/-- Identifiers are handed out in ascending order and never again. -/
theorem lastId_le_act (enabled : a.Enabled g) : g.lastId.value.toNat ≤ (a.act g).lastId.value.toNat := by
  cases a with
  | born entity edges =>
    have succ := EntityId.value_next enabled.1
    simp only [act, Graph.lastId_links, Graph.lastId_add]
    omega
  | linked | unlinked | flagged | forgotten => exact Nat.le_refl _

end Action

/-- A run of actions, each allowed where it is taken, and the changes of state it amounts to. -/
inductive Run (p : Graph → Action → Prop) : Graph → List StateChange → Graph → Prop
  | nil {g : Graph} : Run p g [] g
  | cons {g g' : Graph} {a : Action} {changes : List StateChange} : a.Enabled g → p g a →
      Run p (a.act g) changes g' → Run p g (a.changes ++ changes) g'

namespace Run
variable {p q : Graph → Action → Prop} {g g' g'' : Graph} {changes changes' : List StateChange}

theorem single {a : Action} (enabled : a.Enabled g) (allowed : p g a) : Run p g a.changes (a.act g) := by
  simpa using Run.cons enabled allowed .nil

theorem trans (first : Run p g changes g') (second : Run p g' changes' g'') :
    Run p g (changes ++ changes') g'' := by
  induction first with
  | nil => exact second
  | cons enabled allowed _ ih => simpa only [List.append_assoc] using Run.cons enabled allowed (ih second)

theorem mono (run : Run p g changes g') (weaker : ∀ g a, p g a → q g a) : Run q g changes g' := by
  induction run with
  | nil => exact .nil
  | cons enabled allowed _ ih => exact .cons enabled (weaker _ _ allowed) ih

/-- What is true of the changes of every allowed action is true of those of a run. -/
theorem forall_changes (run : Run p g changes g') (said : StateChange → Prop)
    (each : ∀ g a, p g a → ∀ change ∈ a.changes, said change) : ∀ change ∈ changes, said change := by
  induction run with
  | nil => simp
  | cons _ allowed _ ih =>
    intro change mem
    obtain here | later := List.mem_append.mp mem
    · exact each _ _ allowed change here
    · exact ih change later

/-- What every allowed action keeps, a run keeps. -/
theorem invariant (inv : Graph → Prop) (run : Run p g changes g') (wf : g.WellFormed) (start : inv g)
    (keeps : ∀ {g a}, g.WellFormed → a.Enabled g → p g a → inv g → inv (a.act g)) : inv g' := by
  induction run with
  | nil => exact start
  | cons enabled allowed _ ih =>
    exact ih (Action.wellFormed_act wf enabled) (keeps wf enabled allowed start)

theorem wellFormed (run : Run p g changes g') (wf : g.WellFormed) : g'.WellFormed :=
  run.invariant Graph.WellFormed wf wf fun _ enabled _ held => Action.wellFormed_act held enabled

/-- An invariant of a run may be used to tell what its actions are. -/
theorem imp_of_invariant (inv : Graph → Prop) (run : Run p g changes g') (wf : g.WellFormed) (start : inv g)
    (keeps : ∀ {g a}, g.WellFormed → a.Enabled g → p g a → inv g → inv (a.act g))
    (weaker : ∀ {g a}, g.WellFormed → a.Enabled g → p g a → inv g → q g a) : Run q g changes g' := by
  induction run with
  | nil => exact .nil
  | cons enabled allowed _ ih =>
    exact .cons enabled (weaker wf enabled allowed start)
      (ih (Action.wellFormed_act wf enabled) (keeps wf enabled allowed start))

/-- What is gone by now never comes back. -/
theorem kind?_eq_none (run : Run p g changes g') {x : EntityId} (unknown : g.kind? x = none)
    (issued : x.value.toNat ≤ g.lastId.value.toNat) : g'.kind? x = none := by
  induction run with
  | nil => exact unknown
  | @cons g _ a _ enabled _ _ ih =>
    refine ih ?_ (Nat.le_trans issued (Action.lastId_le_act enabled))
    cases a with
    | born entity edges =>
      have later := EntityId.value_next enabled.1
      rw [Action.kind?_born, if_neg, unknown]
      rintro rfl
      omega
    | linked | unlinked => exact unknown
    | flagged => rwa [Action.act, Graph.kind?_of_profile? Graph.profile?_reflag]
    | forgotten entity => rw [Action.act, Graph.kind?_forget, unknown, ite_self]

theorem lastId_le (run : Run p g changes g') : g.lastId.value.toNat ≤ g'.lastId.value.toNat := by
  induction run with
  | nil => exact Nat.le_refl _
  | cons enabled _ _ ih => exact Nat.le_trans (Action.lastId_le_act enabled) ih

end Run

/-- Some run leads from the first graph to the second one. -/
def Graph.Becomes (g g' : Graph) : Prop := ∃ changes, Run (fun _ _ => True) g changes g'

theorem Graph.Becomes.refl {g : Graph} : g.Becomes g := ⟨[], .nil⟩

theorem Graph.Becomes.wellFormed {g g' : Graph} (becomes : g.Becomes g') (wf : g.WellFormed) : g'.WellFormed :=
  let ⟨_, run⟩ := becomes
  run.wellFormed wf

theorem Run.becomes {p : Graph → Action → Prop} {g g' : Graph} {changes : List StateChange}
    (run : Run p g changes g') : g.Becomes g' :=
  ⟨changes, run.mono fun _ _ _ => trivial⟩

end DiscoveryGraph
