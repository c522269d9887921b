import DiscoveryGraph.Proofs.Graph.WellFormed
import DiscoveryGraph.Lifecycle.Basic

/-! A query answers with the ends of paths along its route, so its answer is read off the
neighbors of the entities on the way. -/
namespace DiscoveryGraph.Graph
variable {g g' : Graph} {id x y : EntityId} {k origin : EntityKind} {hop : Hop} {route : Route} {ids : IdSet}

/-- A path that takes the hops of a route in turn. -/
def Path (g : Graph) : Route → EntityId → EntityId → Prop
  | [], x, y => x = y
  | hop :: route, x, y => ∃ k ∈ hop, ∃ z ∈ g.neighbors x k, g.Path route z y

/-- What an entity of a kind finds of another kind. -/
def Finds (g : Graph) (origin k : EntityKind) (x y : EntityId) : Prop :=
  match strategyFor origin k with
  | .reflexive => x = y
  | .unrelated => False
  | .walk _ route => g.Path route x y

theorem finds_iff_path (manner : Manner) (route : Route) (walk : strategyFor origin k = .walk manner route) :
    g.Finds origin k x y ↔ g.Path route x y := by
  rw [Finds, walk]

theorem finds_iff_of_route? (walk : (strategyFor origin k).route? = some route) :
    g.Finds origin k x y ↔ g.Path route x y := by
  cases found : strategyFor origin k with
  | walk manner route' =>
    rw [found] at walk
    obtain rfl : route' = route := Option.some.inj walk
    exact finds_iff_path manner route' found
  | reflexive => rw [found] at walk; cases walk
  | unrelated => rw [found] at walk; cases walk

/-- A path along two routes is one path after the other. -/
theorem path_append {route' : Route} :
    g.Path (route ++ route') x y ↔ ∃ z, g.Path route x z ∧ g.Path route' z y := by
  induction route generalizing x with
  | nil => simp [Path]
  | cons hop route ih =>
    simp only [List.cons_append, Path, ih]
    constructor
    · intro path
      obtain ⟨k, mem, w, near, z, rest, last⟩ := path
      exact ⟨z, ⟨k, mem, w, near, rest⟩, last⟩
    · intro path
      obtain ⟨z, ⟨k, mem, w, near, rest⟩, last⟩ := path
      exact ⟨k, mem, w, near, z, rest, last⟩

theorem mem_foldl_union {kinds : List EntityKind} {found : IdSet} :
    y ∈ kinds.foldl (fun found k => found ∪ g.neighbors x k) found ↔
      y ∈ found ∨ ∃ k ∈ kinds, y ∈ g.neighbors x k := by
  induction kinds generalizing found with
  | nil => simp
  | cons k kinds ih => simp [ih, Std.ExtTreeSet.mem_union_iff, or_assoc]

theorem mem_step : y ∈ g.step hop ids ↔ ∃ x ∈ ids, ∃ k ∈ hop, y ∈ g.neighbors x k := by
  have fold : ∀ (xs : List EntityId) (found : IdSet),
      y ∈ xs.foldl (fun found id => hop.foldl (fun found kind => found ∪ g.neighbors id kind) found) found ↔
        y ∈ found ∨ ∃ x ∈ xs, ∃ k ∈ hop, y ∈ g.neighbors x k := by
    intro xs
    induction xs with
    | nil => simp
    | cons x xs ih =>
      intro found
      simp only [List.foldl_cons, ih, mem_foldl_union, List.mem_cons, exists_eq_or_imp, or_assoc]
  simp [step, fold]

theorem mem_expand : y ∈ g.expand route ids ↔ ∃ x ∈ ids, g.Path route x y := by
  induction route generalizing ids with
  | nil => simp [expand, Path]
  | cons hop route ih =>
    have next : (∃ x ∈ ids, g.Path (hop :: route) x y) ↔ ∃ z ∈ g.step hop ids, g.Path route z y := by
      simp only [Path, mem_step]
      constructor
      · intro held
        obtain ⟨x, mem, k, hk, z, near, path⟩ := held
        exact ⟨z, ⟨x, mem, k, hk, near⟩, path⟩
      · intro fact
        obtain ⟨z, ⟨x, mem, k, hk, near⟩, path⟩ := fact
        exact ⟨x, mem, k, hk, z, near, path⟩
    rw [next, expand]
    split
    · rename_i empty
      rw [Std.ExtTreeSet.isEmpty_iff] at empty
      simp [empty]
    · exact ih

theorem mem_reach {entity : Entity} : y ∈ g.reach k entity ↔ g.Finds entity.kind k entity.id y := by
  unfold reach Finds
  cases strategyFor entity.kind k with
  | reflexive => simp
  | unrelated => simp
  | walk manner route => simp [mem_expand]

/-! ### The kinds of answers -/

theorem exists_rule_of_walk {manner : Manner} (walk : strategyFor origin k = .walk manner route) :
    ∃ rule ∈ queryRules, rule.origin = origin ∧ rule.target = k ∧ rule.route = route := by
  unfold strategyFor at walk
  split at walk
  · cases walk
  · split at walk
    · rename_i rule found
      have ends := List.find?_some found
      simp only [decide_eq_true_eq] at ends
      cases walk
      exact ⟨rule, List.mem_of_find?_eq_some found, ends.1, ends.2, rfl⟩
    · cases walk

theorem getLast?_route {manner : Manner} (walk : strategyFor origin k = .walk manner route) :
    route.getLast? = some [k] := by
  have rows : ∀ rule ∈ queryRules, rule.route.getLast? = some [rule.target] := by decide
  obtain ⟨rule, mem, -, rfl, rfl⟩ := exists_rule_of_walk walk
  exact rows rule mem

theorem Path.kind? (wf : g.WellFormed) (path : g.Path route x y) (last : route.getLast? = some [k]) :
    g.kind? y = some k := by
  induction route generalizing x with
  | nil => cases last
  | cons hop route ih =>
    obtain ⟨k', mem, z, near, rest⟩ := path
    cases route with
    | nil =>
      cases last
      cases rest
      rw [wf.kind?_of_mem near, List.mem_singleton.mp mem]
    | cons next route => exact ih rest (by simpa using last)

/-- What is found has the kind that was asked for. -/
theorem Finds.kind? (wf : g.WellFormed) (known : g.kind? x = some origin) (finds : g.Finds origin k x y) :
    g.kind? y = some k := by
  unfold Finds at finds
  split at finds
  · rename_i reflexive
    subst finds
    unfold strategyFor at reflexive
    split at reflexive
    · rename_i same
      rw [known, same]
    · split at reflexive <;> cases reflexive
  · cases finds
  · rename_i walk
    exact Path.kind? wf finds (getLast?_route walk)

/-- An existing origin is always answered when it asks for a kind that there is. -/
theorem related_eq_ok (wf : g.WellFormed) (known : g.kind? id = some origin) (valid : k ≠ .invalid) :
    ∃ ids, g.related k id = .ok ids ∧ ∀ y, y ∈ ids ↔ g.Finds origin k id y := by
  obtain ⟨entity, found, rfl⟩ := kind?_eq_some.mp known
  refine ⟨g.reach k entity, ?_, ?_⟩
  · simp [related, wf.not_isAll known, found, valid]
  · intro y
    rw [mem_reach, wf.keyed found]

/-- Whatever a query finds exists and has the kind that was asked for, from the universal root as well. -/
theorem kind?_of_mem_related {found : IdSet} (wf : g.WellFormed) (answer : g.related k x = .ok found)
    (mem : y ∈ found) : g.kind? y = some k := by
  unfold related at answer
  split at answer
  · split at answer
    · cases answer
      exact wf.ofKind_iff.mp mem
    · cases answer
  · split at answer
    · cases answer
    · rename_i entity there
      split at answer
      · cases answer
        have known : g.kind? entity.id = some entity.kind := by
          rw [wf.keyed there]
          exact kind?_of_entity? there
        exact (mem_reach.mp mem).kind? wf known
      · cases answer

theorem mem_restrict {filter : ActivityFilter} : x ∈ g.restrict filter ids ↔
    x ∈ ids ∧ ∃ entity, g.entity? x = some entity ∧ filter.accepts entity.active := by
  rw [restrict, Std.ExtTreeSet.mem_filter]
  simp only [Std.ExtTreeSet.get_eq, exists_prop, Option.any_eq_true]

/-- A filter keeps what has the flags it asks for. -/
theorem relatedBy_of_related {found : IdSet} (filter : ActivityFilter) (wf : g.WellFormed)
    (answer : g.related k x = .ok found) :
    ∃ kept, g.relatedBy filter k x = .ok kept ∧ ∀ y, y ∈ kept ↔ y ∈ found ∧ filter.accepts (g.alive y) := by
  refine ⟨_, by rw [relatedBy, answer, Except.map], fun y => ?_⟩
  split
  · rename_i all
    simp [all, ActivityFilter.accepts]
  · rw [mem_restrict]
    refine and_congr_right fun mem => ?_
    obtain ⟨entity, there, -⟩ := kind?_eq_some.mp (kind?_of_mem_related wf answer mem)
    simp [there, alive_of_entity? there]

/-- What a query finds among the entities whose flags it asks for. -/
theorem relatedBy_eq_ok (filter : ActivityFilter) (wf : g.WellFormed) (known : g.kind? id = some origin)
    (valid : k ≠ .invalid) :
    ∃ ids, g.relatedBy filter k id = .ok ids ∧
      ∀ y, y ∈ ids ↔ g.Finds origin k id y ∧ filter.accepts (g.alive y) := by
  obtain ⟨found, answer, iff⟩ := related_eq_ok wf known valid
  obtain ⟨kept, filtered, mem⟩ := relatedBy_of_related filter wf answer
  exact ⟨kept, filtered, fun y => by rw [mem, iff]⟩

/-- What a union of queries of an existing origin finds. -/
theorem relatedOfKinds_eq_ok (kinds : List EntityKind) (wf : g.WellFormed) (known : g.kind? id = some origin)
    (valid : .invalid ∉ kinds) :
    ∃ ids, g.relatedOfKinds id kinds = .ok ids ∧ ∀ y, y ∈ ids ↔ ∃ k ∈ kinds, g.Finds origin k id y := by
  induction kinds with
  | nil => exact ⟨∅, rfl, by simp⟩
  | cons k kinds ih =>
    simp only [List.mem_cons, not_or] at valid
    obtain ⟨first, found, iff⟩ := related_eq_ok wf known (Ne.symm valid.1)
    obtain ⟨rest, found', iff'⟩ := ih valid.2
    refine ⟨first ∪ rest, ?_, ?_⟩
    · simp only [relatedOfKinds, found, found']
      rfl
    · intro y
      simp [Std.ExtTreeSet.mem_union_iff, iff, iff']

end DiscoveryGraph.Graph
