import DiscoveryGraph.Graph.Update

/-! What can be seen of a graph: the kind of an entity, whether it is alive, its neighbors and
the indexes. Every primitive change is described by what it does to each of these, and the rest
of the theory speaks of nothing else. -/
namespace DiscoveryGraph

/-! ### Rules -/

namespace EntityKind

/-- The kinds of which an entity of this kind has one fixed neighbor, its parents. -/
def parents (kind : EntityKind) : List EntityKind :=
  (edgeRules.filter fun rule => rule.child = kind ∧ rule.kind.isSingleParent).map (·.parent)

theorem parents_eq (kind : EntityKind) : kind.parents = match kind with
    | user => [host]
    | process => [user]
    | participant => [process, domain]
    | topic => [domain]
    | dataWriter | dataReader => [participant, topic]
    | host | domain | locator | invalid => [] := by
  cases kind <;> rfl

theorem participant_mem_parents {kind : EntityKind} (isEndpoint : kind.isEndpoint) :
    participant ∈ kind.parents := by
  revert isEndpoint
  cases kind <;> decide

theorem topic_mem_parents {kind : EntityKind} (isEndpoint : kind.isEndpoint) : topic ∈ kind.parents := by
  revert isEndpoint
  cases kind <;> decide

/-- No kind is above and below another at once. -/
theorem not_mem_parents_of_mem_edgeRules :
    ∀ rule ∈ edgeRules, rule.child ∉ rule.parent.parents := by decide

theorem parent_ne_child_of_mem_edgeRules : ∀ rule ∈ edgeRules, rule.parent ≠ rule.child := by decide

theorem mem_parents_of_mem_edgeRules :
    ∀ rule ∈ edgeRules, rule.parent ∈ rule.child.parents ↔ rule.kind.isSingleParent := by decide

end EntityKind

/-- Two kinds whose entities may share an edge. -/
def EntityKind.Adjoins (a b : EntityKind) : Prop := (edgeRule? a b).isSome

instance (a b : EntityKind) : Decidable (a.Adjoins b) := inferInstanceAs (Decidable (_ = true))

theorem edgeRule?_of_mem : ∀ rule ∈ edgeRules,
    edgeRule? rule.parent rule.child = some (rule, true) ∧
      edgeRule? rule.child rule.parent = some (rule, false) := by decide

theorem mem_edgeRules_of_edgeRule? {a b : EntityKind} {rule : EdgeRule} {first : Bool}
    (found : edgeRule? a b = some (rule, first)) :
    rule ∈ edgeRules ∧ ((first = true ∧ rule.parent = a ∧ rule.child = b) ∨
      (first = false ∧ rule.parent = b ∧ rule.child = a)) := by
  obtain ⟨rule', mem, found⟩ := List.exists_of_findSome?_eq_some found
  split at found
  · rename_i ends
    cases found
    exact ⟨mem, .inl ⟨rfl, ends⟩⟩
  · split at found
    · rename_i ends
      cases found
      exact ⟨mem, .inr ⟨rfl, ends⟩⟩
    · cases found

theorem EntityKind.adjoins_of_mem {rule : EdgeRule} (mem : rule ∈ edgeRules) :
    rule.parent.Adjoins rule.child ∧ rule.child.Adjoins rule.parent := by
  simp [Adjoins, edgeRule?_of_mem rule mem]

/-- An edge lies between an entity and a neighbor that is filed under a kind. -/
def Edge.Joins (edge : Edge) (x : EntityId) (k : EntityKind) (y : EntityId) : Prop :=
  (x = edge.parent ∧ k = edge.rule.child ∧ y = edge.child) ∨
    (x = edge.child ∧ k = edge.rule.parent ∧ y = edge.parent)

namespace Graph
variable {g : Graph} {id x y : EntityId} {k : EntityKind}

/-! ### Observations -/

/-- The kind of an entity, if it exists. -/
def kind? (g : Graph) (id : EntityId) : Option EntityKind := (g.entity? id).map (·.kind)

/-- The entity exists and is active. -/
def alive (g : Graph) (id : EntityId) : Bool := (g.entity? id).any (·.active)

/-- An entity apart from its flag, if it exists. -/
def profile? (g : Graph) (id : EntityId) : Option Entity :=
  (g.entity? id).map fun entity => { entity with active := false }

theorem kind?_eq_some : g.kind? id = some k ↔ ∃ entity, g.entity? id = some entity ∧ entity.kind = k := by
  simp [kind?]

theorem kind?_eq_none : g.kind? id = none ↔ g.entity? id = none := by simp [kind?]

theorem kind?_of_entity? {entity : Entity} (found : g.entity? id = some entity) :
    g.kind? id = some entity.kind := by simp [kind?, found]

theorem contains_iff : g.contains x ↔ ∃ kind, g.kind? x = some kind := by
  rw [contains, Std.ExtTreeMap.contains_eq_isSome_getElem?, Option.isSome_iff_exists]
  constructor
  · intro here
    obtain ⟨entity, found⟩ := here
    exact ⟨_, kind?_of_entity? found⟩
  · intro here
    obtain ⟨kind, known⟩ := here
    obtain ⟨entity, found, -⟩ := kind?_eq_some.mp known
    exact ⟨entity, found⟩

/-- An entity is of one kind. -/
theorem kind_unique {kind : EntityKind} (known : g.kind? id = some k)
    (known' : g.kind? id = some kind) : k = kind := by
  rw [known, Option.some_inj] at known'
  exact known'

theorem alive_of_entity? {entity : Entity} (found : g.entity? id = some entity) :
    g.alive id = entity.active := by simp [alive, found]

theorem alive_iff : g.alive id = true ↔ ∃ entity, g.entity? id = some entity ∧ entity.active = true := by
  unfold alive
  cases g.entity? id <;> simp

theorem exists_of_alive (h : g.alive id = true) : ∃ k, g.kind? id = some k := by
  obtain ⟨entity, found, -⟩ := alive_iff.mp h
  exact ⟨entity.kind, kind?_of_entity? found⟩

theorem kind?_of_profile? {g' : Graph} (h : g'.profile? id = g.profile? id) :
    g'.kind? id = g.kind? id := by
  have kinds := congrArg (Option.map Entity.kind) h
  simpa [profile?, kind?, Function.comp_def] using kinds

/-- What is said of an entity without its flag carries over to a graph with the same profiles. -/
theorem exists_entity_congr {g' : Graph} {p : Entity → Prop}
    (flagless : ∀ entity active, p { entity with active } ↔ p entity)
    (same : g'.profile? id = g.profile? id) :
    (∃ entity, g'.entity? id = some entity ∧ p entity) ↔ ∃ entity, g.entity? id = some entity ∧ p entity := by
  have through : ∀ h : Graph, (∃ entity, h.entity? id = some entity ∧ p entity) ↔
      ∃ entity, h.profile? id = some entity ∧ p entity := fun h => by
    simp only [profile?, Option.map_eq_some_iff]
    constructor
    · intro fact
      obtain ⟨entity, found, held⟩ := fact
      exact ⟨_, ⟨entity, found, rfl⟩, (flagless entity false).mpr held⟩
    · intro given
      obtain ⟨_, ⟨entity, found, rfl⟩, held⟩ := given
      exact ⟨entity, found, (flagless entity false).mp held⟩
  rw [through, through, same]

theorem lookup_eq_ok {entity : Entity} : g.lookup id = .ok entity ↔ g.entity? id = some entity := by
  unfold lookup
  cases g.entity? id <;> simp

theorem lookup_eq_error {e : StorageError} :
    g.lookup id = .error e ↔ g.entity? id = none ∧ e = .entityNotFound id := by
  unfold lookup
  cases g.entity? id <;> simp [eq_comm]

theorem kindOf_eq_ok : g.kindOf id = .ok k ↔ g.kind? id = some k := by
  unfold kindOf lookup kind?
  cases g.entity? id <;> simp [Except.map]

theorem isActive_of_kind? (known : g.kind? id = some k) : g.isActive id = .ok (g.alive id) := by
  obtain ⟨entity, found, -⟩ := kind?_eq_some.mp known
  simp [isActive, lookup, found, alive, Except.map]

/-- The first neighbor of a kind is one of them. -/
theorem mem_of_parent? (h : g.parent? id k = some x) : x ∈ g.neighbors id k := by
  have first : x ∈ (g.neighbors id k).toList := List.mem_of_mem_head? h
  simpa using first

/-! ### What the primitive changes do -/

/-- The graph with the flag of one entity set; an identifier of nothing changes nothing. -/
def reflag (g : Graph) (id : EntityId) (active : Bool) : Graph :=
  { g with entities := g.entities.alter id (Option.map ({ · with active })) }

section Add
variable {entity : Entity}

@[simp] theorem entity?_add :
    (g.add entity).entity? x = if entity.id = x then some entity else g.entity? x := by
  simp [entity?, add, Std.ExtTreeMap.getElem?_insert]

theorem kind?_add : (g.add entity).kind? x = if entity.id = x then some entity.kind else g.kind? x := by
  simp only [kind?, entity?_add]
  split <;> rfl

@[simp] theorem neighbors_add : (g.add entity).neighbors x k = g.neighbors x k := rfl

@[simp] theorem lastId_add : (g.add entity).lastId = entity.id := rfl

theorem mem_ofKind_add : x ∈ (g.add entity).ofKind k ↔ (entity.kind = k ∧ x = entity.id) ∨ x ∈ g.ofKind k := by
  simp [ofKind, add, Index.mem_find_insert]

theorem mem_named_add {name : String} : x ∈ (g.add entity).named k name ↔
    (entity.kind = k ∧ entity.name = name ∧ x = entity.id) ∨ x ∈ g.named k name := by
  simp [named, add, Index.mem_find_insert, and_assoc]

theorem mem_withGuid_add {guid : Guid} : x ∈ (g.add entity).withGuid guid ↔
    (entity.guid? = some guid ∧ x = entity.id) ∨ x ∈ g.withGuid guid := by
  unfold withGuid add
  cases entity.guid? <;> simp [Index.mem_find_insert]

theorem size_add (unknown : g.kind? entity.id = none) : (g.add entity).size = g.size + 1 := by
  have absent : ¬ g.contains entity.id := by simp [contains_iff, unknown]
  rw [size, add, Std.ExtTreeMap.size_insert]
  exact if_neg absent

end Add

section Link
variable {edge : Edge}

@[simp] theorem entity?_link : (g.link edge).entity? x = g.entity? x := rfl

@[simp] theorem lastId_link : (g.link edge).lastId = g.lastId := rfl

@[simp] theorem size_link : (g.link edge).size = g.size := rfl

theorem mem_neighbors_link :
    y ∈ (g.link edge).neighbors x k ↔ edge.Joins x k y ∨ y ∈ g.neighbors x k := by
  simp only [neighbors, link, Index.mem_find_insert, NeighborKey.mk.injEq, Edge.Joins]
  grind

/-- It makes no difference which end of which edge is cut first. -/
theorem detach_comm {x' y' : EntityId} {k' : EntityKind} :
    (g.detach x y k).detach x' y' k' = (g.detach x' y' k').detach x y k := by
  simp only [detach, Index.erase_comm]

@[simp] theorem entity?_unlink : (g.unlink edge).entity? x = g.entity? x := rfl

@[simp] theorem size_unlink : (g.unlink edge).size = g.size := rfl

theorem mem_neighbors_unlink :
    y ∈ (g.unlink edge).neighbors x k ↔ ¬ edge.Joins x k y ∧ y ∈ g.neighbors x k := by
  simp only [neighbors, unlink, detach, Index.mem_find_erase, NeighborKey.mk.injEq, Edge.Joins]
  grind

end Link

section Reflag
variable {active : Bool}

theorem entity?_reflag : (g.reflag id active).entity? x =
    if id = x then (g.entity? x).map ({ · with active }) else g.entity? x := by
  simp only [entity?, reflag, Std.ExtTreeMap.getElem?_alter, Std.LawfulEqOrd.compare_eq_iff_eq]
  split
  · rename_i same
    rw [same]
  · rfl

theorem insert_eq_reflag {entity : Entity} (found : g.entity? id = some entity) :
    { g with entities := g.entities.insert id { entity with active } } = g.reflag id active := by
  have same : g.entities.insert id { entity with active } =
      g.entities.alter id (Option.map ({ · with active })) := by
    apply Std.ExtTreeMap.ext_getElem?
    intro x
    simp only [Std.ExtTreeMap.getElem?_insert, Std.ExtTreeMap.getElem?_alter]
    split
    · change g.entities[id]? = some entity at found
      rw [found]
      rfl
    · rfl
  rw [reflag, same]

@[simp] theorem profile?_reflag : (g.reflag id active).profile? x = g.profile? x := by
  unfold profile?
  rw [entity?_reflag]
  split <;> simp [Function.comp_def]

theorem alive_reflag : (g.reflag id active).alive x =
    if id = x ∧ g.kind? x ≠ none then active else g.alive x := by
  unfold alive kind?
  rw [entity?_reflag]
  by_cases same : id = x
  · cases g.entity? x <;> simp [same]
  · simp [same]

@[simp] theorem size_reflag : (g.reflag id active).size = g.size := by
  rw [size, reflag, Std.ExtTreeMap.size_alter, size]
  simp

end Reflag

section Forget
variable {entity : Entity}

theorem mem_allNeighbors : y ∈ g.allNeighbors x ↔ ∃ k ≠ .invalid, y ∈ g.neighbors x k := by
  simp [allNeighbors]

theorem mem_find_foldl_drop {relations : Index NeighborKey} {kinds : List EntityKind} {key : NeighborKey} :
    y ∈ (kinds.foldl (fun relations k => relations.drop ⟨id, k⟩) relations).find key ↔
      (∀ k ∈ kinds, (⟨id, k⟩ : NeighborKey) ≠ key) ∧ y ∈ relations.find key := by
  induction kinds generalizing relations with
  | nil => simp
  | cons k kinds ih => simp [ih, Index.mem_find_drop, and_assoc, and_left_comm]

theorem mem_find_foldl_erase {relations : Index NeighborKey} {others : List EntityId} {key : NeighborKey} :
    y ∈ (others.foldl (fun relations other => relations.erase ⟨other, k⟩ id) relations).find key ↔
      (∀ other ∈ others, ¬ ((⟨other, k⟩ : NeighborKey) = key ∧ y = id)) ∧ y ∈ relations.find key := by
  induction others generalizing relations with
  | nil => simp
  | cons other others ih => simp only [List.foldl_cons, ih, Index.mem_find_erase, List.mem_cons]; grind

theorem mem_neighbors_isolate {kind : EntityKind} : y ∈ (g.isolate id kind).neighbors x k ↔
    (x = id → k = .invalid) ∧ ¬ (k = kind ∧ y = id ∧ x ∈ g.allNeighbors id) ∧ y ∈ g.neighbors x k := by
  simp only [neighbors, isolate, mem_find_foldl_erase, mem_find_foldl_drop, NeighborKey.mk.injEq,
    EntityKind.mem_valid]
  grind

theorem entity?_forget : (g.forget entity).entity? x =
    if entity.id = x then none else g.entity? x := by
  simp [entity?, forget, isolate, Std.ExtTreeMap.getElem?_erase]

theorem kind?_forget : (g.forget entity).kind? x = if entity.id = x then none else g.kind? x := by
  simp only [kind?, entity?_forget]
  split <;> rfl

@[simp] theorem neighbors_forget :
    (g.forget entity).neighbors x k = (g.isolate entity.id entity.kind).neighbors x k := rfl

theorem mem_ofKind_forget : x ∈ (g.forget entity).ofKind k ↔
    ¬ (entity.kind = k ∧ x = entity.id) ∧ x ∈ g.ofKind k := by
  simp [ofKind, forget, isolate, Index.mem_find_erase]

theorem mem_named_forget {name : String} : x ∈ (g.forget entity).named k name ↔
    ¬ (entity.kind = k ∧ entity.name = name ∧ x = entity.id) ∧ x ∈ g.named k name := by
  simp [named, forget, isolate, Index.mem_find_erase, and_assoc]

theorem mem_withGuid_forget {guid : Guid} : x ∈ (g.forget entity).withGuid guid ↔
    ¬ (entity.guid? = some guid ∧ x = entity.id) ∧ x ∈ g.withGuid guid := by
  unfold withGuid forget isolate
  cases entity.guid? <;> simp [Index.mem_find_erase]

theorem size_forget (known : g.kind? entity.id = some k) : (g.forget entity).size + 1 = g.size := by
  have mem : g.entities.contains entity.id := contains_iff.mpr ⟨k, known⟩
  have occupied : g.entities.size ≠ 0 := by
    rw [Ne, ← Std.ExtTreeMap.eq_empty_iff_size_eq_zero]
    intro empty
    simp [empty] at mem
  have erased : (g.forget entity).size = (g.entities.erase entity.id).size := rfl
  rw [erased, Std.ExtTreeMap.size_erase, if_pos mem, size]
  omega

end Forget

end Graph
end DiscoveryGraph
