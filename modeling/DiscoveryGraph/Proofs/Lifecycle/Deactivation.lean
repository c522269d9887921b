import DiscoveryGraph.Proofs.Lifecycle.Arrangement

/-! Deactivation only lowers flags, and only of what follows from its start. It does not leave
an active entity inside an inactive one unless the start itself, being no participant, is
inactivated over active contents. None of this depends on the order in which it goes on. -/
namespace DiscoveryGraph

namespace EntityKind

/-- The kind of the entity that contains an entity of this kind. -/
def container : EntityKind → Option EntityKind
  | user => some host
  | process => some user
  | participant => some process
  | dataWriter | dataReader => some participant
  | _ => none

theorem container_of_isEndpoint {kind : EntityKind} (isEndpoint : kind.isEndpoint) :
    kind.container = some .participant := by
  revert isEndpoint
  cases kind <;> decide

/-- An entity derives its activity from what it contains, but for participants. -/
theorem derived_of_container {kind k : EntityKind} (inside : kind.container = some k) :
    (kind ∈ k.derivedFrom ∧ k ≠ .participant) ∨ (k = .participant ∧ kind.isEndpoint) := by
  revert inside
  cases kind <;> cases k <;> decide

theorem ne_participant_of_mem_dependents {kind k : EntityKind} (mem : k ∈ kind.dependents) :
    k ≠ .participant := by
  cases kind <;> revert k <;> decide

end EntityKind

namespace Graph
open Update
variable {g g' h : Graph} {id x y : EntityId} {k : EntityKind} {n : Nat} {s t : EntityId → Prop}

/-! ### Containment -/

/-- An entity lies inside another one. -/
def Inside (g : Graph) (x y : EntityId) : Prop :=
  ∃ kind k, g.kind? x = some kind ∧ kind.container = some k ∧ y ∈ g.neighbors x k

/-- An active entity lies inside an inactive one. -/
def Exposed (g : Graph) (x y : EntityId) : Prop :=
  g.Inside x y ∧ g.alive x = true ∧ g.alive y = false

theorem Alike.inside_iff (alike : g.Alike h) : h.Inside x y ↔ g.Inside x y := by
  simp only [Inside, alike.kind?, alike.neighbors]

/-- The contents of an entity are found from it as well. -/
theorem Inside.mem (inside : g.Inside x y) (wf : g.WellFormed) (known : g.kind? y = some k) :
    (x ∈ g.children y k ∧ k ≠ .participant) ∨ (k = .participant ∧ x ∈ g.endpointsOf y) := by
  obtain ⟨kind, k', knownx, container, near⟩ := inside
  have same := wf.kind?_of_mem near
  obtain rfl := kind_unique known same
  have back := wf.mem_symm near knownx
  obtain ⟨derived, other⟩ | ⟨rfl, endpoint⟩ := EntityKind.derived_of_container container
  · exact .inl ⟨mem_children.mpr ⟨kind, derived, back⟩, other⟩
  · exact .inr ⟨rfl, mem_endpointsOf.mpr ⟨kind, endpoint, back⟩⟩

/-- Nothing lies inside an entity whose kind contains none. -/
theorem not_inside (wf : g.WellFormed) (known : g.kind? y = some k)
    (empty : ∀ kind : EntityKind, kind.container ≠ some k) :
    ¬ g.Inside x y := by
  intro held
  obtain ⟨kind, k', -, container, near⟩ := held
  have same := wf.kind?_of_mem near
  obtain rfl := kind_unique known same
  exact empty kind container

/-! ### What follows from a deactivation -/

/-- The deactivation of an entity is passed on to another one. -/
def Passes (g : Graph) (x y : EntityId) : Prop :=
  ∃ kind, g.kind? x = some kind ∧
    ∃ k, (k ∈ kind.dependents ∨ kind = .participant ∧ k.isEndpoint) ∧ y ∈ g.neighbors x k

/-- What a deactivation may take along. -/
inductive Drags (g : Graph) (id : EntityId) : EntityId → Prop
  | self : Drags g id id
  | step {x y : EntityId} : Drags g id x → g.Passes x y → Drags g id y

theorem Alike.passes_iff (alike : g.Alike h) : h.Passes x y ↔ g.Passes x y := by
  simp only [Passes, alike.kind?, alike.neighbors]

theorem Drags.through (passes : g.Passes id x) (drags : g.Drags x y) : g.Drags id y := by
  induction drags with
  | self => exact .step .self passes
  | step _ further ih => exact ih.step further

theorem Drags.of_alike (drags : h.Drags x y) (alike : g.Alike h) : g.Drags x y := by
  induction drags with
  | self => exact .self
  | step _ further ih => exact ih.step (alike.passes_iff.mp further)

/-- A run that lowers flags and exposes nothing. -/
structure Lowered (s : EntityId → Prop) (g : Graph) (changes : List StateChange) (g' : Graph) : Prop where
  run : Run (Action.Flags false s) g changes g'
  covered : ∀ x y, g'.Exposed x y → g.Exposed x y

namespace Lowered
variable {changes changes' : List StateChange}

theorem nil : Lowered s g [] g := ⟨.nil, fun _ _ => id⟩

theorem trans (first : Lowered s g changes g') (second : Lowered s g' changes' h) :
    Lowered s g (changes ++ changes') h :=
  ⟨first.run.trans second.run, fun x y exposed => first.covered x y (second.covered x y exposed)⟩

theorem mono (lowered : Lowered s g changes g') (sub : ∀ x, s x → t x) : Lowered t g changes g' :=
  ⟨lowered.run.flags_mono sub, lowered.covered⟩

end Lowered

/-- What refreshing asks of the way it deactivates: an entity without active contents is taken
down properly. -/
def Deactivates (deactivate : EntityId → Update StorageError (List StateChange)) : Prop :=
  ∀ (g : Graph) (id : EntityId) (k : EntityKind), g.WellFormed → g.kind? id = some k → k ≠ .participant →
    (∀ x, g.Inside x id → g.alive x = false) → (deactivate id).Ends g (Lowered (g.Drags id) g) fun _ _ => False

/-- What the dependents of an entity may take along. -/
def Spreads (g : Graph) (id : EntityId) (kind : EntityKind) (x : EntityId) : Prop :=
  ∃ k ∈ kind.dependents, ∃ p ∈ g.neighbors id k, g.Drags p x

theorem Spreads.drags (spreads : g.Spreads id k x) (known : g.kind? id = some k) : g.Drags id x := by
  obtain ⟨kind, dependent, p, near, drags⟩ := spreads
  exact drags.through ⟨k, known, kind, .inl dependent, near⟩

theorem Spreads.of_alike (spreads : h.Spreads id k x) (alike : g.Alike h) : g.Spreads id k x := by
  obtain ⟨kind, dependent, p, near, drags⟩ := spreads
  rw [alike.neighbors] at near
  exact ⟨kind, dependent, p, near, drags.of_alike alike⟩

/-- A refresh takes the dependents of an entity in turn. It goes on from the ones that are active
without an active child, and passes over the others. -/
theorem refreshDependentsBy_ends (order : Arrangement)
    {deactivate : EntityId → Update StorageError (List StateChange)} (inv : List StateChange → Graph → Prop)
    (post : EntityId → Graph → Prop) (wf : g.WellFormed)
    (tame : ∀ {done h}, inv done h → g.Alike h ∧ h.WellFormed)
    (passed : ∀ {done h}, inv done h → ∀ kind ∈ k.dependents, ∀ p ∈ g.neighbors id kind,
      (h.alive p = true → ∃ y ∈ g.children p kind, h.alive y = true) → post p h)
    (taken : ∀ {done h}, inv done h → ∀ kind ∈ k.dependents, ∀ p ∈ g.neighbors id kind, h.alive p = true →
      (∀ y ∈ g.children p kind, h.alive y = false) → (deactivate p).Ends h
        (fun more h' => inv (done ++ more) h' ∧ post p h' ∧ ∀ q, post q h → post q h') fun _ _ => False)
    (start : inv [] g) :
    (refreshDependentsBy order deactivate id k).Ends g
      (fun changes h => inv changes h ∧ ∀ kind ∈ k.dependents, ∀ p ∈ g.neighbors id kind, post p h)
      fun _ _ => False := by
  rw [refreshDependentsBy, ends_bind, ends_get]
  refine (ends_gather_all inv (fun kind h => ∀ p ∈ g.neighbors id kind, post p h) ?_ start).imp_ok
    fun _ _ held => ⟨held.1, fun kind dependent => held.2.1 kind (order.mem_kinds.mpr dependent)⟩
  intro kind dependent done h held
  rw [order.mem_kinds] at dependent
  rw [ends_bind, ends_get, (tame held).1.neighbors]
  refine (ends_gather_all (fun more h' => inv (done ++ more) h') post ?_ (by simpa using held)).imp_ok ?_
  · intro p mem more h' further
    rw [order.mem_ids, Std.ExtTreeSet.mem_toList] at mem
    obtain ⟨alike, wf'⟩ := tame further
    have known : h'.kind? p = some kind := by rw [alike.kind?, wf.kind?_of_mem mem]
    have unchanged : (h'.alive p = true → ∃ y ∈ g.children p kind, h'.alive y = true) →
        inv (done ++ (more ++ [])) h' ∧ post p h' ∧ ∀ q, post q h' → post q h' := fun backed =>
      ⟨by simpa using further, passed further kind dependent p mem backed, fun _ earlier => earlier⟩
    rw [ends_bind, ends_read, isActive_of_kind? known]
    refine ⟨?_, by simp⟩
    rintro active ⟨⟩
    split
    · rename_i active
      rw [ends_bind, ends_read, hasActiveChildBy_eq order wf', alike.children]
      refine ⟨?_, by simp⟩
      rintro held ⟨⟩
      split
      · rename_i backed
        exact unchanged fun _ => List.any_eq_true.mp backed
      · rename_i childless
        simp only [List.any_eq_true, not_exists, not_and, Bool.not_eq_true] at childless
        simpa only [List.append_assoc] using taken further kind dependent p mem active childless
    · rename_i inactive
      exact unchanged fun active => absurd active inactive
  · intro more h' fact
    exact ⟨fact.1, fun p mem => fact.2.1 p (order.mem_ids.mpr (Std.ExtTreeSet.mem_toList.mpr mem)),
      fun _ earlier p mem => fact.2.2 p (earlier p mem)⟩

theorem refreshDependentsBy_lowers (order : Arrangement)
    {deactivate : EntityId → Update StorageError (List StateChange)} (deactivates : Deactivates deactivate)
    (id : EntityId) (wf : g.WellFormed) :
    (refreshDependentsBy order deactivate id k).Ends g (Lowered (g.Spreads id k) g) fun _ _ => False := by
  refine (refreshDependentsBy_ends order (fun done h => Lowered (g.Spreads id k) g done h) (fun _ _ => True) wf
    (fun lowered => ⟨lowered.run.alike, lowered.run.wellFormed wf⟩) (fun _ _ _ _ _ _ => trivial) ?_
    .nil).imp_ok fun _ _ held => held.1
  intro done h lowered kind dependent p mem active childless
  have alike := lowered.run.alike
  have wf' := lowered.run.wellFormed wf
  have known : h.kind? p = some kind := by rw [alike.kind?, wf.kind?_of_mem mem]
  have other := EntityKind.ne_participant_of_mem_dependents dependent
  refine (deactivates h p kind wf' known other ?_).imp_ok ?_
  · intro x inside
    obtain ⟨child, -⟩ | ⟨same, -⟩ := inside.mem wf' known
    · exact childless x (by rwa [alike.children] at child)
    · exact absurd same other
  · intro changes h' further
    refine ⟨lowered.trans (further.mono fun x drags => ?_), trivial, fun _ _ => trivial⟩
    exact ⟨kind, dependent, p, mem, drags.of_alike alike⟩

/-- A finished deactivation within depth `n`. It lowered only what its start drags along. If the
depth was enough for the contents of a participant, and nothing but a participant was taken down
over active contents, then nothing is newly exposed. -/
structure Deactivated (n : Nat) (id : EntityId) (k : EntityKind) (g : Graph) (changes : List StateChange)
    (h : Graph) : Prop where
  run : Run (Action.Flags false (g.Drags id)) g changes h
  dead : 0 < n → h.alive id = false
  covered : (k = .participant → 1 < n) → (∀ x, g.Inside x id → g.alive x = true → k = .participant) →
    ∀ x y, h.Exposed x y → g.Exposed x y

section Within
variable {deactivate : EntityId → Update StorageError (List StateChange)}
  (ends : ∀ {g : Graph} {id : EntityId} {k : EntityKind}, g.WellFormed → g.kind? id = some k →
    (deactivate id).Ends g (Deactivated n id k g) fun _ _ => False)

include ends

theorem deactivates_of_ends : Deactivates deactivate := by
  intro g id k wf known other covered
  refine (ends wf known).imp_ok ?_
  intro changes h done
  refine ⟨done.run, done.covered (fun same => absurd same other) ?_⟩
  intro x inside active
  rw [covered x inside] at active
  cases active

/-- A participant takes its endpoints down, one after the other; they contain nothing. -/
theorem gather_endpoints_ends (id : EntityId) {ids : List EntityId} (wf : g.WellFormed)
    (own : ∀ y ∈ ids, g.Passes id y ∧ ∃ kind, g.kind? y = some kind ∧ kind.isEndpoint) :
    (gather deactivate ids).Ends g
      (fun changes h => Lowered (g.Drags id) g changes h ∧ ∀ y ∈ ids, 0 < n → h.alive y = false)
      fun _ _ => False := by
  refine (ends_gather_all (fun done h => Lowered (g.Drags id) g done h)
    (fun y h => 0 < n → h.alive y = false) ?_ .nil).imp_ok fun _ _ held => ⟨held.1, held.2.1⟩
  intro y mem done h lowered
  obtain ⟨passes, kind, known, endpoint⟩ := own y mem
  have alike := lowered.run.alike
  have wf' := lowered.run.wellFormed wf
  have known' : h.kind? y = some kind := by rw [alike.kind?, known]
  have empty : ∀ x, ¬ h.Inside x y := fun x => by
    apply not_inside wf' known'
    intro k
    revert endpoint
    cases kind <;> cases k <;> decide
  refine (ends wf' known').imp_ok ?_
  intro changes h' taken
  refine ⟨lowered.trans ⟨taken.run.flags_mono ?_, taken.covered ?_ ?_⟩, taken.dead, ?_⟩
  · exact fun x drags => (drags.of_alike alike).through passes
  · intro same
    subst same
    cases endpoint
  · exact fun x inside => absurd inside (empty x)
  · exact fun x earlier deep => taken.run.not_alive_of_lowered (earlier deep)

end Within

/-- Lowering one flag exposes what the entity contains, at most. -/
theorem Exposed.of_reflag (exposed : (g.reflag id false).Exposed x y) :
    g.Exposed x y ∨ y = id ∧ g.Inside x id ∧ g.alive x = true := by
  obtain ⟨inside, active, inactive⟩ := exposed
  rw [Alike.reflag.inside_iff] at inside
  rw [alive_reflag] at active inactive
  have active' : g.alive x = true := by
    split at active
    · cases active
    · exact active
  by_cases here : id = y
  · subst here
    exact .inr ⟨rfl, inside, active'⟩
  · exact .inl ⟨inside, active', by rwa [if_neg (fun both => here both.1)] at inactive⟩

/-- A deactivation finds the entity inactive, or lowers its flag and goes on to what follows from that. -/
theorem deactivateWithinBy_succ_ends (order : Arrangement) {post : List StateChange → Graph → Prop}
    (known : g.kind? id = some k) (idle : g.alive id = false → post [] g)
    (follows : g.alive id = true → (do
      let owned := if k = .participant then (g.reflag id false).endpointsOf id else []
      let below ← gather (deactivateWithinBy order n) (order.ids (g.reflag id false) owned)
      let above ← refreshDependentsBy order (deactivateWithinBy order n) id k
      return [⟨id, k, false⟩] ++ below ++ above : Update StorageError (List StateChange)).Ends
        (g.reflag id false) post fun _ _ => False) :
    (deactivateWithinBy order (n + 1) id).Ends g post fun _ _ => False := by
  obtain ⟨entity, found, rfl⟩ := kind?_eq_some.mp known
  simp only [deactivateWithinBy, ends_bind, ends_read, lookup_eq_ok, lookup_eq_error, found, Option.some.injEq]
  refine ⟨?_, by simp⟩
  intro _ equal
  subst equal
  refine flag_ends.imp ?_ (by simp [known])
  intro changed h held
  obtain ⟨kind, known', ⟨same, rfl, rfl⟩ | ⟨other, rfl, rfl⟩⟩ := held
  · exact idle same
  · obtain rfl := kind_unique known known'
    exact follows other

theorem deactivateWithinBy_ends (order : Arrangement) (wf : g.WellFormed) (known : g.kind? id = some k) :
    (deactivateWithinBy order n id).Ends g (Deactivated n id k g) fun _ _ => False := by
  induction n generalizing g id k with
  | zero => exact ⟨.nil, by simp, fun _ _ _ _ exposed => exposed⟩
  | succ n ih =>
    refine deactivateWithinBy_succ_ends order known (fun idle => ?_) fun active => ?_
    · exact ⟨.nil, fun _ => idle, fun _ _ _ _ exposed => exposed⟩
    have lowers : Run (Action.Flags false (· = id)) g [⟨id, k, false⟩] (g.reflag id false) :=
      run_reflag known active
    have alike : g.Alike (g.reflag id false) := .reflag
    have wf₁ := wf.reflag id false
    have known₁ : (g.reflag id false).kind? id = some k := by rw [alike.kind?, known]
    rw [ends_bind]
    refine (gather_endpoints_ends ih id wf₁ ?_).imp_ok ?_
    · intro y mem
      rw [order.mem_ids] at mem
      split at mem
      · rename_i participant
        obtain ⟨kind, endpoint, near⟩ := mem_endpointsOf.mp mem
        exact ⟨⟨_, known₁, kind, .inr ⟨participant, endpoint⟩, near⟩, kind, wf₁.kind?_of_mem near, endpoint⟩
      · cases mem
    intro below h fact
    obtain ⟨lowered, contents⟩ := fact
    have known₂ : h.kind? id = some k := by rw [lowered.run.alike.kind?, known₁]
    rw [ends_bind]
    refine (refreshDependentsBy_lowers order (deactivates_of_ends ih) id (lowered.run.wellFormed wf₁)).imp_ok ?_
    intro above h' lowered'
    have whole : Lowered ((g.reflag id false).Drags id) (g.reflag id false) (below ++ above) h' :=
      lowered.trans (lowered'.mono fun x spreads => (spreads.drags known₂).of_alike lowered.run.alike)
    refine ⟨?_, fun _ => whole.run.not_alive_of_lowered (alive_reflag_self known), ?_⟩
    · have start : Run (Action.Flags false (g.Drags id)) g [⟨id, k, false⟩] (g.reflag id false) :=
        lowers.flags_mono fun x same => same ▸ .self
      rw [List.append_assoc]
      exact start.trans (whole.run.flags_mono fun x drags => drags.of_alike alike)
    · intro deep covered x y exposed
      obtain earlier | ⟨rfl, inside, active⟩ := (whole.covered x y exposed).of_reflag
      · exact earlier
      -- The start has active contents only as a participant, and those have gone too.
      have participant := covered x inside active
      obtain ⟨-, different⟩ | ⟨-, mem⟩ := inside.mem wf known
      · exact absurd participant different
      · have taken := deep participant
        have gone := contents x (by rwa [order.mem_ids, if_pos participant, alike.endpointsOf]) (by omega)
        have alive := exposed.2.1
        rw [lowered'.run.not_alive_of_lowered gone] at alive
        cases alive

theorem deactivate_ends (wf : g.WellFormed) (known : g.kind? id = some k) :
    (deactivate id).Ends g (Deactivated cascadeLength id k g) fun _ _ => False := by
  rw [← deactivateBy_asListed]
  exact deactivateWithinBy_ends .asListed wf known

theorem deactivates_deactivate : Deactivates deactivate := deactivates_of_ends deactivate_ends

end Graph
end DiscoveryGraph
