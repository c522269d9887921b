import DiscoveryGraph.Proofs.Lifecycle.Activation
import DiscoveryGraph.Proofs.Lifecycle.Deactivation

/-! Backing. An entity is backed while one of the entities it derives its activity from is active.
A cascade of deactivations looks after whatever it takes the last such entity from, and an
activation raises nothing but what it backs. -/
namespace DiscoveryGraph

namespace EntityKind

/-- The length of the longest cascade that starts with a kind. -/
def cascade : EntityKind → Nat
  | participant => 4
  | process => 3
  | user | dataWriter | dataReader => 2
  | _ => 1

theorem cascade_lt {kind k : EntityKind} (follows : k ∈ kind.dependents ∨ kind = participant ∧ k.isEndpoint) :
    k.cascade < kind.cascade := by
  revert follows
  cases kind <;> cases k <;> decide

theorem cascade_pos (kind : EntityKind) : 0 < kind.cascade := by cases kind <;> decide

theorem cascade_le (kind : EntityKind) : kind.cascade ≤ Graph.cascadeLength := by cases kind <;> decide

/-- Whatever an entity keeps alive is derived from it, but for participants. -/
theorem mem_derivedFrom_of_mem_sustains {kind k : EntityKind} (mem : k ∈ kind.sustains)
    (other : k ≠ participant) : kind ∈ k.derivedFrom := by
  revert mem other
  cases kind <;> cases k <;> decide

end EntityKind

namespace Graph
open Update
variable {g g' h : Graph} {id x y : EntityId} {k kind : EntityKind} {n : Nat}
    {changes changes' : List StateChange} {s : EntityId → Prop}

/-- One of the entities that an entity derives its activity from is active. -/
def Backed (g : Graph) (x : EntityId) : Prop :=
  ∃ kind, g.kind? x = some kind ∧ ∃ y ∈ g.children x kind, g.alive y = true

/-- The entity is backed if it is active. -/
def Justified (g : Graph) (x : EntityId) : Prop := g.alive x = true → g.Backed x

theorem Backed.of_alike (backed : g.Backed x) (alike : g.Alike h)
    (kept : ∀ kind y, g.kind? x = some kind → y ∈ g.children x kind → g.alive y = true → h.alive y = true) :
    h.Backed x := by
  obtain ⟨kind, known, y, child, active⟩ := backed
  exact ⟨kind, by rw [alike.kind?, known], y, by rwa [alike.children], kept kind y known child active⟩

/-- An entity is found among the dependents of its children. -/
theorem mem_neighbors_of_mem_children (wf : g.WellFormed) (known : g.kind? x = some k)
    (child : y ∈ g.children x k) :
    ∃ kind, g.kind? y = some kind ∧ k ∈ kind.dependents ∧ x ∈ g.neighbors y k := by
  obtain ⟨kind, derived, near⟩ := mem_children.mp child
  exact ⟨kind, wf.kind?_of_mem near, (EntityKind.mem_dependents_iff kind k).mpr derived, wf.mem_symm near known⟩

/-! ### Deactivation -/

/-- Flags only fall, and what was backed and stays active is backed still. -/
structure Subsides (g : Graph) (changes : List StateChange) (h : Graph) : Prop where
  lowered : Run (Action.Flags false fun _ => True) g changes h
  upheld : ∀ x, g.Backed x → h.Justified x

namespace Subsides

theorem nil : g.Subsides [] g := ⟨.nil, fun _ backed _ => backed⟩

theorem justified (subsides : g.Subsides changes h) (before : g.Justified x) : h.Justified x :=
  fun active => subsides.upheld x (before (subsides.lowered.alive_before active)) active

theorem trans (first : g.Subsides changes g') (second : g'.Subsides changes' h) :
    g.Subsides (changes ++ changes') h :=
  ⟨first.lowered.trans second.lowered, fun x backed => second.justified (first.upheld x backed)⟩

end Subsides

/-- Lowering flags takes the backing from the dependents of what was lowered, at most. -/
theorem backed_or_dependent (run : Run (Action.Flags false s) g changes h) (wf : g.WellFormed)
    (backed : g.Backed x) : h.Backed x ∨ ∃ y kind k, s y ∧ g.kind? y = some kind ∧ k ∈ kind.dependents ∧
      g.kind? x = some k ∧ x ∈ g.neighbors y k := by
  obtain ⟨k, known, y, child, active⟩ := backed
  obtain same | ⟨mine, -⟩ := run.alive_eq_or (x := y)
  · left
    exact ⟨k, by rw [run.alike.kind?, known], y, by rwa [run.alike.children], by rw [same, active]⟩
  · right
    obtain ⟨kind, knowny, dependent, near⟩ := mem_neighbors_of_mem_children wf known child
    exact ⟨y, kind, k, mine, knowny, dependent, known, near⟩

/-- Once an entity has been lowered, it is enough to look after its dependents. -/
theorem Subsides.of_lowered (lowers : Run (Action.Flags false (· = id)) g changes g') (wf : g.WellFormed)
    (known : g.kind? id = some kind) (rest : g'.Subsides changes' h)
    (settled : ∀ k ∈ kind.dependents, ∀ p ∈ g.neighbors id k, h.Justified p) :
    g.Subsides (changes ++ changes') h := by
  refine ⟨(lowers.flags_mono fun _ _ => trivial).trans rest.lowered, fun x backed => ?_⟩
  obtain backed | ⟨y, kind', k, rfl, known', dependent, -, near⟩ := backed_or_dependent lowers wf backed
  · exact rest.upheld x backed
  · obtain rfl := kind_unique known known'
    exact settled k dependent x near

/-- What is asked of a way to deactivate the dependents of a kind. -/
def Relieves (deactivate : EntityId → Update StorageError (List StateChange)) (kind : EntityKind) : Prop :=
  ∀ (g : Graph) (p : EntityId) (k : EntityKind), g.WellFormed → g.kind? p = some k → k ∈ kind.dependents →
    (deactivate p).Ends g (fun changes h => g.Subsides changes h ∧ h.alive p = false) fun _ _ => False

/-- After a refresh the dependents of an entity are backed, or inactive. -/
theorem refreshDependentsBy_subsides (order : Arrangement)
    {deactivate : EntityId → Update StorageError (List StateChange)}
    (relieves : Relieves deactivate kind) (id : EntityId) (wf : g.WellFormed) :
    (refreshDependentsBy order deactivate id kind).Ends g
      (fun changes h => g.Subsides changes h ∧ ∀ k ∈ kind.dependents, ∀ p ∈ g.neighbors id k, h.Justified p)
      fun _ _ => False := by
  refine refreshDependentsBy_ends order (fun done h => g.Subsides done h) (fun p h => h.Justified p) wf
    (fun subsides => ⟨subsides.lowered.alike, subsides.lowered.wellFormed wf⟩) ?_ ?_ .nil
  · intro done h subsides k dependent p mem backed active
    obtain ⟨y, child, alive⟩ := backed active
    have alike := subsides.lowered.alike
    exact ⟨k, by rw [alike.kind?, wf.kind?_of_mem mem], y, by rwa [alike.children], alive⟩
  · intro done h subsides k dependent p mem active childless
    have known : h.kind? p = some k := by rw [subsides.lowered.alike.kind?, wf.kind?_of_mem mem]
    refine (relieves h p k (subsides.lowered.wellFormed wf) known dependent).imp_ok ?_
    intro changes h' fact
    obtain ⟨last, dead⟩ := fact
    exact ⟨subsides.trans last, fun active => by simp [dead] at active, fun _ => last.justified⟩

/-- A cascade that is deep enough looks after everything it takes the backing from, and if it starts
at an active participant, it takes the endpoints down. -/
theorem deactivateWithinBy_subsides (order : Arrangement) (wf : g.WellFormed) (known : g.kind? id = some kind)
    (deep : kind.cascade ≤ n) :
    (deactivateWithinBy order n id).Ends g (fun changes h => (g.Subsides changes h ∧ h.alive id = false) ∧
        (g.alive id = true → kind = .participant → ∀ y ∈ g.endpointsOf id, h.alive y = false))
      fun _ _ => False := by
  induction n generalizing g id kind with
  | zero =>
    have := kind.cascade_pos
    omega
  | succ n ih =>
    refine deactivateWithinBy_succ_ends order known (fun idle => ?_) fun active => ?_
    · exact ⟨⟨.nil, idle⟩, fun active => by simp [idle] at active⟩
    have lowers : Run (Action.Flags false (· = id)) g [⟨id, kind, false⟩] (g.reflag id false) :=
      run_reflag known active
    have alike : g.Alike (g.reflag id false) := .reflag
    have wf₁ := wf.reflag id false
    rw [ends_bind]
    -- The endpoints of a participant have shallower cascades.
    refine (ends_gather_all (fun done h => (g.reflag id false).Subsides done h)
      (fun y h => h.alive y = false) ?_ .nil).imp_ok ?_
    · intro y mem done h subsides
      rw [order.mem_ids] at mem
      split at mem
      · rename_i participant
        obtain ⟨k, isEndpoint, near⟩ := mem_endpointsOf.mp mem
        have knowny : h.kind? y = some k := by rw [subsides.lowered.alike.kind?, wf₁.kind?_of_mem near]
        have shallower : k.cascade < kind.cascade :=
          EntityKind.cascade_lt (.inr ⟨participant, isEndpoint⟩)
        refine (ih (subsides.lowered.wellFormed wf₁) knowny (by omega)).imp_ok ?_
        intro changes h' fact
        obtain ⟨⟨further, dead⟩, -⟩ := fact
        exact ⟨subsides.trans further, dead, fun _ => further.lowered.not_alive_of_lowered⟩
      · cases mem
    intro below h₂ fact
    obtain ⟨subsides, contents, -⟩ := fact
    have relieves : Relieves (deactivateWithinBy order n) kind := by
      intro h p k wf known dependent
      have shallower := EntityKind.cascade_lt (.inl dependent)
      exact (ih wf known (by omega)).imp_ok fun _ _ fact => fact.1
    rw [ends_bind]
    refine (refreshDependentsBy_subsides order relieves id (subsides.lowered.wellFormed wf₁)).imp_ok ?_
    intro above h₃ fact
    obtain ⟨further, settled⟩ := fact
    have whole := subsides.trans further
    refine ⟨⟨?_, whole.lowered.not_alive_of_lowered (alive_reflag_self known)⟩, fun _ participant y mem => ?_⟩
    · rw [List.append_assoc]
      refine .of_lowered lowers wf known whole fun k dependent p near => settled k dependent p ?_
      rwa [subsides.lowered.alike.neighbors, alike.neighbors]
    · refine further.lowered.not_alive_of_lowered (contents y ?_)
      rwa [order.mem_ids, if_pos participant, alike.endpointsOf]

theorem deactivate_subsides (wf : g.WellFormed) (known : g.kind? id = some kind) :
    (deactivate id).Ends g (fun changes h => g.Subsides changes h ∧ h.alive id = false) fun _ _ => False := by
  rw [← deactivateBy_asListed]
  exact (deactivateWithinBy_subsides .asListed wf known kind.cascade_le).imp_ok fun _ _ fact => fact.1

/-! ### Activation -/

/-- An activation raises everything its start revives. -/
theorem Activated.alive_of_revives (activated : Activated g id changes h) (revives : g.Revives id x) :
    h.alive x = true := by
  have raised : h.alive x = true ∧ (x = id ∨ g.alive x = false) := by
    induction revives with
    | self => exact ⟨activated.alive, .inl rfl⟩
    | step _ sustains dead ih =>
      refine ⟨activated.sustained _ _ ?_ sustains, .inr dead⟩
      exact ih.2.imp (fun same => same) fun before => ⟨before, ih.1⟩
  exact raised.1

/-- An activation backs what it raises, its start and participants apart. -/
theorem Activated.justified (activated : Activated g id changes h) (wf : g.WellFormed)
    (known : g.kind? x = some kind) (other : kind ≠ .participant) (apart : x ≠ id) (before : g.Justified x) :
    h.Justified x := by
  have alike := activated.raised.alike
  intro active
  obtain same | ⟨revives, -⟩ := activated.raised.alive_eq_or (x := x)
  · exact (before (by rw [← same, active])).of_alike alike fun _ _ _ _ => activated.raised.alive_of_raised
  · cases revives with
    | self => exact absurd rfl apart
    | @step y _ revives sustains _ =>
      obtain ⟨kindy, knowny, k, mem, near⟩ := sustains_iff.mp sustains
      obtain rfl := kind_unique known (wf.kind?_of_mem near)
      refine ⟨kind, by rw [alike.kind?, known], y, ?_, activated.alive_of_revives revives⟩
      rw [alike.children, mem_children]
      exact ⟨kindy, EntityKind.mem_derivedFrom_of_mem_sustains mem other, wf.mem_symm near knowny⟩

end Graph
end DiscoveryGraph
