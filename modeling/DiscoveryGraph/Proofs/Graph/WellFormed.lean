import DiscoveryGraph.Proofs.Graph.View

/-! Well-formed graphs: every entity is filed under its own identifier and in every index it
belongs to, identifiers have all been handed out, and every edge is legal and stored at both ends,
with one parent where a kind has one. Each primitive change keeps this under its own guard. -/
namespace DiscoveryGraph

/-- The last identifier handed out is the one before the invalid one. -/
theorem EntityId.next?_eq_none_iff {id : EntityId} :
    id.next? = none ↔ invalid.value.toNat ≤ id.value.toNat + 1 := by
  unfold next?
  split
  · rename_i room
    simpa using room
  · rename_i full
    simpa using full

theorem EntityId.next_lt_invalid {id next : EntityId} (h : id.next? = some next) :
    next.value.toNat < invalid.value.toNat := by
  have succ := value_next h
  unfold next? at h
  split at h
  · omega
  · cases h

namespace Graph

/-- What every sequence of changes leaves true of a graph. -/
structure WellFormed (g : Graph) : Prop where
  keyed : ∀ {id entity}, g.entity? id = some entity → entity.id = id
  valid : ∀ {id kind}, g.kind? id = some kind → kind ≠ .invalid
  issued : ∀ {id kind}, g.kind? id = some kind →
    0 < id.value.toNat ∧ id.value.toNat ≤ g.lastId.value.toNat
  unreserved : g.lastId.value.toNat < EntityId.invalid.value.toNat
  twoSided : ∀ {x k y}, y ∈ g.neighbors x k →
    g.kind? y = some k ∧ ∃ kind, g.kind? x = some kind ∧ kind.Adjoins k ∧ x ∈ g.neighbors y kind
  single : ∀ {x kind k y z}, g.kind? x = some kind → k ∈ kind.parents →
    y ∈ g.neighbors x k → z ∈ g.neighbors x k → y = z
  ofKind_iff : ∀ {id k}, id ∈ g.ofKind k ↔ g.kind? id = some k
  named_iff : ∀ {id k name}, id ∈ g.named k name ↔
    ∃ entity, g.entity? id = some entity ∧ entity.kind = k ∧ entity.name = name
  withGuid_iff : ∀ {id guid}, id ∈ g.withGuid guid ↔
    ∃ entity, g.entity? id = some entity ∧ entity.guid? = some guid

namespace WellFormed
variable {g : Graph} {x y : EntityId} {k : EntityKind}

theorem kind?_of_mem (wf : g.WellFormed) (mem : y ∈ g.neighbors x k) : g.kind? y = some k :=
  (wf.twoSided mem).1

theorem mem_symm (wf : g.WellFormed) {kind : EntityKind} (mem : y ∈ g.neighbors x k)
    (known : g.kind? x = some kind) : x ∈ g.neighbors y kind := by
  obtain ⟨-, kind', known', -, back⟩ := wf.twoSided mem
  rw [known] at known'
  cases known'
  exact back

/-- What is not there has no neighbors. -/
theorem exists_of_mem (wf : g.WellFormed) (mem : y ∈ g.neighbors x k) :
    ∃ kind, g.kind? x = some kind ∧ kind.Adjoins k :=
  let ⟨_, kind, known, adjoins, _⟩ := wf.twoSided mem
  ⟨kind, known, adjoins⟩

theorem not_mem (wf : g.WellFormed) {kind : EntityKind} (known : g.kind? x = some kind)
    (apart : ¬ kind.Adjoins k) : y ∉ g.neighbors x k := by
  intro near
  obtain ⟨kind', known', adjoins⟩ := wf.exists_of_mem near
  obtain rfl := kind_unique known known'
  exact apart adjoins

theorem not_isAll (wf : g.WellFormed) (known : g.kind? x = some k) : x.isAll = false := by
  have pos := (wf.issued known).1
  simp only [EntityId.isAll, beq_eq_false_iff_ne]
  intro same
  subst same
  exact absurd pos (by decide)

/-- An identifier that has not been handed out yet names nothing. -/
theorem fresh (wf : g.WellFormed) (next : g.lastId.next? = some x) : g.kind? x = none := by
  cases known : g.kind? x with
  | none => rfl
  | some kind =>
    have bound := (wf.issued known).2
    have succ := EntityId.value_next next
    omega

/-- What is there does not bear the next identifier. -/
theorem ne_fresh (wf : g.WellFormed) (next : g.lastId.next? = some x) (known : g.kind? y = some k) : x ≠ y := by
  intro same
  subst same
  rw [wf.fresh next] at known
  cases known

/-- The parent of an entity is the only neighbor of its kind. -/
theorem parent?_eq_some_iff (wf : g.WellFormed) {kind : EntityKind} (known : g.kind? x = some kind)
    (parent : k ∈ kind.parents) : g.parent? x k = some y ↔ y ∈ g.neighbors x k := by
  constructor
  · exact mem_of_parent?
  · intro mem
    have first : ∃ z, g.parent? x k = some z := by
      rw [← Option.isSome_iff_exists, parent?, IdSet.first?, List.isSome_head?]
      rintro empty
      have : y ∈ (g.neighbors x k).toList := by simpa using mem
      simp [empty] at this
    obtain ⟨z, first⟩ := first
    rw [first, wf.single known parent (mem_of_parent? first) mem]

end WellFormed

/-! ### The primitive changes keep a graph well-formed -/

theorem wellFormed_empty : (∅ : Graph).WellFormed := by
  have nothing : ∀ id, (∅ : Graph).entity? id = none := fun id => by
    show (∅ : Std.ExtTreeMap EntityId Entity)[id]? = none
    simp
  have unfiled : ∀ {κ : Type} [Ord κ] [Std.TransOrd κ] (key : κ) (id : EntityId),
      id ∉ (∅ : Index κ).find key := by simp
  have unknown : ∀ id, (∅ : Graph).kind? id = none := fun id => by simp [kind?, nothing]
  constructor
  case keyed => simp [nothing]
  case valid => simp [unknown]
  case issued => simp [unknown]
  case unreserved => decide
  case twoSided => exact fun mem => absurd mem (unfiled _ _)
  case single => simp [unknown]
  case ofKind_iff => exact fun {id k} => iff_of_false (unfiled k id) (by simp [unknown])
  case named_iff => exact fun {id k name} => iff_of_false (unfiled (⟨k, name⟩ : NameKey) id) (by simp [nothing])
  case withGuid_iff => exact fun {id guid} => iff_of_false (unfiled guid id) (by simp [nothing])

namespace WellFormed
variable {g : Graph}

/-- Filing an active entity under the next identifier. -/
theorem add (wf : g.WellFormed) {entity : Entity} (next : g.lastId.next? = some entity.id)
    (valid : entity.kind ≠ .invalid) : (g.add entity).WellFormed := by
  have unknown : g.kind? entity.id = none := wf.fresh next
  have nothing : g.entity? entity.id = none := kind?_eq_none.mp unknown
  have old : ∀ {x k}, g.kind? x = some k → (g.add entity).kind? x = some k := by
    intro x k known
    rw [kind?_add, if_neg (wf.ne_fresh next known), known]
  have succ := EntityId.value_next next
  constructor
  case keyed =>
    intro id found h
    rw [entity?_add] at h
    split at h
    · cases h
      assumption
    · exact wf.keyed h
  case valid =>
    intro id kind known
    rw [kind?_add] at known
    split at known
    · cases known
      exact valid
    · exact wf.valid known
  case issued =>
    intro id kind known
    rw [kind?_add] at known
    rw [lastId_add]
    split at known
    · rename_i same
      subst same
      omega
    · have bounds := wf.issued known
      omega
  case unreserved => exact EntityId.next_lt_invalid next
  case twoSided =>
    intro x k y mem
    rw [neighbors_add] at mem
    obtain ⟨known, kind, known', adjoins, back⟩ := wf.twoSided mem
    exact ⟨old known, kind, old known', adjoins, by rwa [neighbors_add]⟩
  case single =>
    intro x kind k y z known parent memy memz
    rw [neighbors_add] at memy memz
    obtain ⟨kind', known', -⟩ := wf.exists_of_mem memy
    have same := old known'
    rw [known] at same
    cases same
    exact wf.single known' parent memy memz
  case ofKind_iff =>
    intro id k
    rw [mem_ofKind_add, kind?_add, wf.ofKind_iff]
    by_cases same : entity.id = id
    · subst same
      simp [unknown]
    · simp [same, Ne.symm same]
  case named_iff =>
    intro id k name
    rw [mem_named_add, entity?_add, wf.named_iff]
    by_cases same : entity.id = id
    · subst same
      simp [nothing]
    · simp [same, Ne.symm same]
  case withGuid_iff =>
    intro id guid
    rw [mem_withGuid_add, entity?_add, wf.withGuid_iff]
    by_cases same : entity.id = id
    · subst same
      simp [nothing]
    · simp [same, Ne.symm same]

/-- A change that leaves identity, kind, name and attributes alone only answers for the edges. -/
theorem of_profiles {g' : Graph} (wf : g.WellFormed) (profiles : ∀ x, g'.profile? x = g.profile? x)
    (kinds : g'.byKind = g.byKind) (names : g'.byName = g.byName) (guids : g'.byGuid = g.byGuid)
    (last : g'.lastId = g.lastId)
    (twoSided : ∀ {x k y}, y ∈ g'.neighbors x k →
      g.kind? y = some k ∧ ∃ kind, g.kind? x = some kind ∧ kind.Adjoins k ∧ x ∈ g'.neighbors y kind)
    (single : ∀ {x kind k y z}, g.kind? x = some kind → k ∈ kind.parents →
      y ∈ g'.neighbors x k → z ∈ g'.neighbors x k → y = z) : g'.WellFormed := by
  have kind? : ∀ x, g'.kind? x = g.kind? x := fun x => kind?_of_profile? (profiles x)
  constructor
  case keyed =>
    intro id entity found
    obtain ⟨entity', found', same⟩ := (exists_entity_congr (p := fun e => e.id = entity.id)
      (fun _ _ => Iff.rfl) (profiles id)).mp ⟨entity, found, rfl⟩
    rw [← same, wf.keyed found']
  case valid => exact fun known => wf.valid (by rwa [kind?] at known)
  case issued =>
    intro id kind known
    rw [last]
    exact wf.issued (by rwa [kind?] at known)
  case unreserved =>
    rw [last]
    exact wf.unreserved
  case twoSided =>
    intro x k y mem
    rw [kind?, kind?]
    exact twoSided mem
  case single => exact fun known => single (by rwa [kind?] at known)
  case ofKind_iff =>
    intro id k
    rw [ofKind, kinds, kind?]
    exact wf.ofKind_iff
  case named_iff =>
    intro id k name
    rw [named, names]
    exact wf.named_iff.trans (exists_entity_congr (fun _ _ => Iff.rfl) (profiles id)).symm
  case withGuid_iff =>
    intro id guid
    rw [withGuid, guids]
    exact wf.withGuid_iff.trans (exists_entity_congr (fun _ _ => Iff.rfl) (profiles id)).symm

theorem reflag (wf : g.WellFormed) (id : EntityId) (active : Bool) : (g.reflag id active).WellFormed :=
  wf.of_profiles (fun _ => profile?_reflag) rfl rfl rfl rfl wf.twoSided wf.single

/-- Filing a legal edge whose child has no such parent yet. -/
theorem link (wf : g.WellFormed) {edge : Edge} (legal : edge.rule ∈ edgeRules)
    (parent : g.kind? edge.parent = some edge.rule.parent)
    (child : g.kind? edge.child = some edge.rule.child)
    (orphan : edge.rule.kind.isSingleParent → ∀ z, z ∉ g.neighbors edge.child edge.rule.parent) :
    (g.link edge).WellFormed := by
  refine wf.of_profiles (fun _ => rfl) rfl rfl rfl rfl ?_ ?_
  · intro x k y mem
    rw [mem_neighbors_link] at mem
    obtain ⟨down, up⟩ := EntityKind.adjoins_of_mem legal
    obtain (⟨rfl, rfl, rfl⟩ | ⟨rfl, rfl, rfl⟩) | mem := mem
    · exact ⟨child, _, parent, down, mem_neighbors_link.mpr (.inl (.inr ⟨rfl, rfl, rfl⟩))⟩
    · exact ⟨parent, _, child, up, mem_neighbors_link.mpr (.inl (.inl ⟨rfl, rfl, rfl⟩))⟩
    · obtain ⟨known, kind, known', adjoins, back⟩ := wf.twoSided mem
      exact ⟨known, kind, known', adjoins, mem_neighbors_link.mpr (.inr back)⟩
  · intro x kind k y z known above memy memz
    rw [mem_neighbors_link] at memy memz
    -- An entity that has `k` as a parent kind meets the new edge from below, where it has no other.
    have joined : ∀ {w}, edge.Joins x k w → w = edge.parent ∧ ∀ z, z ∉ g.neighbors x k := by
      intro w held
      obtain ⟨rfl, rfl, rfl⟩ | ⟨rfl, rfl, rfl⟩ := held
      · rw [parent] at known
        cases known
        exact absurd above (EntityKind.not_mem_parents_of_mem_edgeRules _ legal)
      · rw [child] at known
        cases known
        exact ⟨rfl, orphan ((EntityKind.mem_parents_of_mem_edgeRules _ legal).mp above)⟩
    obtain joy | memy := memy
    · obtain joz | memz := memz
      · rw [(joined joy).1, (joined joz).1]
      · exact absurd memz ((joined joy).2 z)
    · obtain joz | memz := memz
      · exact absurd memy ((joined joz).2 y)
      · exact wf.single known above memy memz

theorem unlink (wf : g.WellFormed) {edge : Edge} (parent : g.kind? edge.parent = some edge.rule.parent)
    (child : g.kind? edge.child = some edge.rule.child) : (g.unlink edge).WellFormed := by
  refine wf.of_profiles (fun _ => rfl) rfl rfl rfl rfl ?_ ?_
  · intro x k y mem
    rw [mem_neighbors_unlink] at mem
    obtain ⟨known, kind, known', adjoins, back⟩ := wf.twoSided mem.2
    refine ⟨known, kind, known', adjoins, mem_neighbors_unlink.mpr ⟨fun join => mem.1 ?_, back⟩⟩
    obtain ⟨rfl, rfl, rfl⟩ | ⟨rfl, rfl, rfl⟩ := join
    · rw [parent] at known
      cases known
      exact .inr ⟨rfl, rfl, rfl⟩
    · rw [child] at known
      cases known
      exact .inl ⟨rfl, rfl, rfl⟩
  · intro x kind k y z known above memy memz
    exact wf.single known above (mem_neighbors_unlink.mp memy).2 (mem_neighbors_unlink.mp memz).2

/-- Removing an entity takes its edges away at both ends and no others. -/
theorem mem_neighbors_forget (wf : g.WellFormed) {entity : Entity}
    (found : g.entity? entity.id = some entity) {x y : EntityId} {k : EntityKind} :
    y ∈ (g.forget entity).neighbors x k ↔ x ≠ entity.id ∧ y ≠ entity.id ∧ y ∈ g.neighbors x k := by
  have known := kind?_of_entity? found
  rw [neighbors_forget, mem_neighbors_isolate]
  constructor
  · intro held
    obtain ⟨dropped, erased, mem⟩ := held
    refine ⟨?_, ?_, mem⟩
    · intro same
      rw [dropped same] at mem
      exact wf.valid (wf.kind?_of_mem mem) rfl
    · intro equal
      subst equal
      have same := wf.kind?_of_mem mem
      rw [known] at same
      cases same
      obtain ⟨kind, known', -⟩ := wf.exists_of_mem mem
      exact erased ⟨rfl, rfl, mem_allNeighbors.mpr ⟨kind, wf.valid known', wf.mem_symm mem known'⟩⟩
  · intro fact
    obtain ⟨notx, noty, mem⟩ := fact
    exact ⟨fun same => absurd same notx, fun erased => noty erased.2.1, mem⟩

theorem forget (wf : g.WellFormed) {entity : Entity} (found : g.entity? entity.id = some entity) :
    (g.forget entity).WellFormed := by
  have kept : ∀ {x k}, g.kind? x = some k → x ≠ entity.id → (g.forget entity).kind? x = some k := by
    intro x k known other
    rw [kind?_forget, if_neg (Ne.symm other), known]
  have old : ∀ {x k}, (g.forget entity).kind? x = some k → g.kind? x = some k := by
    intro x k known
    rw [kind?_forget] at known
    split at known
    · cases known
    · exact known
  constructor
  case keyed =>
    intro id other h
    rw [entity?_forget] at h
    split at h
    · cases h
    · exact wf.keyed h
  case valid => exact fun known => wf.valid (old known)
  case issued => exact fun known => wf.issued (old known)
  case unreserved => exact wf.unreserved
  case twoSided =>
    intro x k y mem
    obtain ⟨notx, noty, mem⟩ := (wf.mem_neighbors_forget found).mp mem
    obtain ⟨known, kind, known', adjoins, back⟩ := wf.twoSided mem
    exact ⟨kept known noty, kind, kept known' notx, adjoins,
      (wf.mem_neighbors_forget found).mpr ⟨noty, notx, back⟩⟩
  case single =>
    intro x kind k y z known above memy memz
    exact wf.single (old known) above ((wf.mem_neighbors_forget found).mp memy).2.2
      ((wf.mem_neighbors_forget found).mp memz).2.2
  case ofKind_iff =>
    intro id k
    rw [mem_ofKind_forget, kind?_forget, wf.ofKind_iff]
    by_cases same : entity.id = id
    · subst same
      simp [kind?_of_entity? found]
    · simp [same, Ne.symm same]
  case named_iff =>
    intro id k name
    rw [mem_named_forget, entity?_forget, wf.named_iff]
    by_cases same : entity.id = id
    · subst same
      simp [found]
    · simp [same, Ne.symm same]
  case withGuid_iff =>
    intro id guid
    rw [mem_withGuid_forget, entity?_forget, wf.withGuid_iff]
    by_cases same : entity.id = id
    · subst same
      simp [found]
    · simp [same, Ne.symm same]

end WellFormed

end Graph
end DiscoveryGraph
