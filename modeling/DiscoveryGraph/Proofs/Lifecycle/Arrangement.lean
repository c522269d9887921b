import DiscoveryGraph.Proofs.Lifecycle.Flags

/-! Propagation with the order left open. Wherever an activation or a deactivation goes through
entities or kinds, an arrangement says in which order it does. Taking everything as it is listed
gives back the activation and the deactivation that run. -/
namespace DiscoveryGraph

/-- The order in which to take entities and kinds, which may depend on how the graph is by then. -/
structure Arrangement where
  ids : Graph → List EntityId → List EntityId
  kinds : Graph → List EntityKind → List EntityKind
  ids_perm : ∀ g xs, (ids g xs).Perm xs
  kinds_perm : ∀ g ks, (kinds g ks).Perm ks

namespace Arrangement

def asListed : Arrangement := ⟨fun _ xs => xs, fun _ ks => ks, fun _ _ => .refl _, fun _ _ => .refl _⟩

variable (order : Arrangement) {g : Graph} {x : EntityId} {xs : List EntityId} {k : EntityKind} {ks : List EntityKind}

@[simp] theorem mem_ids : x ∈ order.ids g xs ↔ x ∈ xs := (order.ids_perm g xs).mem_iff

@[simp] theorem mem_kinds : k ∈ order.kinds g ks ↔ k ∈ ks := (order.kinds_perm g ks).mem_iff

end Arrangement

/-- Visits as `visits` does, each time the entity that comes first once the list has been rearranged. -/
def Activation.visitsBy (order : Arrangement) : Nat → Activation → Update StorageError Activation
  | 0, run => pure run
  | n + 1, run => do
    let g ← get
    let run := { run with pending := order.ids g run.pending }
    if run.pending.isEmpty then pure run else run.visit >>= visitsBy order n

theorem Activation.visitsBy_asListed (n : Nat) : visitsBy .asListed n = visits n := by
  induction n with
  | zero => rfl
  | succ n ih =>
    funext run
    rw [visits, ← ih]
    rfl

namespace Graph

def activateBy (order : Arrangement) (id : EntityId) : Update StorageError (List StateChange) := do
  let bound := Activation.chainSize (← get) Activation.chainLength id
  let run ← Activation.visitsBy order bound { pending := [id] }
  return run.changes

def hasActiveChildBy (order : Arrangement) (g : Graph) (id : EntityId) (kind : EntityKind) :
    Except StorageError Bool :=
  g.anyActive (order.ids g (g.children id kind))

def refreshDependentsBy (order : Arrangement) (deactivate : EntityId → Update StorageError (List StateChange))
    (id : EntityId) (kind : EntityKind) : Update StorageError (List StateChange) := do
  let g ← get
  order.kinds g kind.dependents |> Update.gather fun parentKind => do
    let g ← get
    order.ids g (g.neighbors id parentKind).toList |> Update.gather fun parent => do
      if ← Update.read (·.isActive parent) then
        if ← Update.read (·.hasActiveChildBy order parent parentKind) then return [] else deactivate parent
      else
        return []

def deactivateWithinBy (order : Arrangement) : Nat → EntityId → Update StorageError (List StateChange)
  | 0, _ => pure []
  | n + 1, id => do
    let kind := (← Update.read (·.lookup id)).kind
    match ← flag id false with
    | [] => return []
    | changed =>
      let g ← get
      let owned := if kind = .participant then g.endpointsOf id else []
      let below ← Update.gather (deactivateWithinBy order n) (order.ids g owned)
      let above ← refreshDependentsBy order (deactivateWithinBy order n) id kind
      return changed ++ below ++ above

def deactivateBy (order : Arrangement) (id : EntityId) : Update StorageError (List StateChange) :=
  deactivateWithinBy order cascadeLength id

theorem activateBy_asListed (id : EntityId) : activateBy .asListed id = activate id := by
  rw [activateBy, activate]
  simp only [Activation.visitsBy_asListed]

theorem refreshDependentsBy_asListed (deactivate : EntityId → Update StorageError (List StateChange))
    (id : EntityId) (kind : EntityKind) :
    refreshDependentsBy .asListed deactivate id kind = refreshDependents deactivate id kind := rfl

theorem deactivateWithinBy_asListed (n : Nat) : deactivateWithinBy .asListed n = deactivateWithin n := by
  induction n with
  | zero => rfl
  | succ n ih =>
    funext id
    rw [deactivateWithinBy, ih]
    rfl

theorem deactivateBy_asListed : deactivateBy .asListed = deactivate := by
  funext id
  rw [deactivateBy, deactivateWithinBy_asListed, deactivate]

variable {g : Graph} {id : EntityId} {kind : EntityKind}

theorem hasActiveChildBy_eq (order : Arrangement) (wf : g.WellFormed) :
    g.hasActiveChildBy order id kind = .ok ((g.children id kind).any g.alive) := by
  rw [hasActiveChildBy, anyActive_eq, (order.ids_perm g _).any_eq]
  intro x mem
  obtain ⟨k, -, near⟩ := mem_children.mp (order.mem_ids.mp mem)
  exact ⟨k, wf.kind?_of_mem near⟩

end Graph
end DiscoveryGraph
