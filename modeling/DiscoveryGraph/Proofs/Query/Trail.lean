import DiscoveryGraph.Proofs.Query.Symmetry

/-! Queries of a graph that was built are answered with the ends of the trails along their route, entity
by entity over direct neighbors, and with nothing else. Whatever is found exists and is of the kind that
was asked for, so the active and the inactive ones among it make up all of it. -/
namespace DiscoveryGraph.Graph
variable {g : Graph} {x y : EntityId} {k origin : EntityKind} {hop : Hop} {route : Route} {stops : List EntityId}

/-- A hop leads from an entity to a direct neighbor, whose kind belongs to it. -/
def Enters (g : Graph) (hop : Hop) (x y : EntityId) : Prop :=
  (∃ k, y ∈ g.neighbors x k) ∧ ∃ k ∈ hop, g.kind? y = some k

/-- The entities on the way from one entity to another, by the hops of a route in turn. -/
structure Trail (g : Graph) (route : Route) (x y : EntityId) (stops : List EntityId) : Prop where
  length : stops.length = route.length + 1
  first : stops[0] = x
  last : stops[route.length] = y
  step : ∀ i (_ : i < route.length), g.Enters route[i] stops[i] stops[i + 1]

/-- How the queries of a graph are answered. -/
structure Answering (g : Graph) : Prop where
  /-- An entity of another kind is found exactly if a trail along the route of the two kinds ends there. -/
  walk : ∀ o origin k, g.kind? o = some origin → k ≠ .invalid → k ≠ origin →
    ∃ manner route found, strategyFor origin k = .walk manner route ∧ g.related k o = .ok found ∧
      ∀ x, x ∈ found ↔ ∃ stops, g.Trail route o x stops
  reflexive : ∀ o k, g.kind? o = some k → g.related k o = .ok {o}
  root : ∀ k ≠ .invalid, ∃ found, g.related k .all = .ok found ∧ ∀ x, x ∈ found ↔ g.kind? x = some k
  /-- Whatever is found, also by the root and by an entity of the kind itself, exists and has the kind. -/
  kind : ∀ o k found, g.related k o = .ok found → ∀ x ∈ found, g.kind? x = some k
  /-- The filters split what is found. -/
  split : ∀ o k found, g.related k o = .ok found → ∃ active inactive,
    g.relatedBy .active k o = .ok active ∧ g.relatedBy .inactive k o = .ok inactive ∧
      (∀ x, x ∈ active ↔ x ∈ found ∧ g.alive x = true) ∧
      ∀ x, x ∈ inactive ↔ x ∈ found ∧ g.alive x = false

/-! ### Trails -/

theorem enters_iff (wf : g.WellFormed) : g.Enters hop x y ↔ ∃ k ∈ hop, y ∈ g.neighbors x k := by
  constructor
  · intro enters
    obtain ⟨⟨k, near⟩, k', mem, known⟩ := enters
    obtain rfl := kind_unique known (wf.kind?_of_mem near)
    exact ⟨k', mem, near⟩
  · intro held
    obtain ⟨k, mem, near⟩ := held
    exact ⟨⟨k, near⟩, k, mem, wf.kind?_of_mem near⟩

theorem trail_nil : g.Trail [] x y stops ↔ x = y ∧ stops = [x] := by
  constructor
  · intro trail
    obtain ⟨length, first, last, -⟩ := trail
    obtain ⟨z, rfl⟩ := List.length_eq_one_iff.mp length
    exact ⟨first.symm.trans last, by rw [← first]; rfl⟩
  · rintro ⟨rfl, rfl⟩
    exact ⟨rfl, rfl, rfl, fun i within => by simp at within⟩

/-- The first hop of a trail leads to where the rest of it starts. -/
theorem trail_cons : g.Trail (hop :: route) x y stops ↔
    ∃ z rest, stops = x :: rest ∧ g.Enters hop x z ∧ g.Trail route z y rest := by
  constructor
  · intro trail
    obtain ⟨length, first, last, step⟩ := trail
    match stops, length with
    | w :: z :: rest, length =>
      obtain rfl : w = x := first
      refine ⟨z, z :: rest, rfl, step 0 (by simp), by simpa using length, rfl, by simpa using last, ?_⟩
      intro i within
      exact step (i + 1) (by simpa using within)
  · rintro ⟨z, rest, rfl, enters, length, first, last, step⟩
    refine ⟨by simp [length], rfl, by simpa using last, fun i within => ?_⟩
    cases i with
    | zero => simpa [first] using enters
    | succ i => simpa using step i (by simpa using within)

theorem path_iff_trail (wf : g.WellFormed) : g.Path route x y ↔ ∃ stops, g.Trail route x y stops := by
  induction route generalizing x with
  | nil => simp [Path, trail_nil]
  | cons hop route ih =>
    constructor
    · intro path
      obtain ⟨k, mem, z, near, rest⟩ := path
      obtain ⟨stops, trail⟩ := ih.mp rest
      exact ⟨x :: stops, trail_cons.mpr ⟨z, stops, rfl, (enters_iff wf).mpr ⟨k, mem, near⟩, trail⟩⟩
    · intro held
      obtain ⟨stops, trail⟩ := held
      obtain ⟨z, rest, -, enters, trail⟩ := trail_cons.mp trail
      obtain ⟨k, mem, near⟩ := (enters_iff wf).mp enters
      exact ⟨k, mem, z, near, ih.mpr ⟨rest, trail⟩⟩

/-! ### Answers -/

/-- The universal root finds every entity of a kind. -/
theorem related_all (valid : k ≠ .invalid) : g.related k .all = .ok (g.ofKind k) := by
  simp [related, EntityId.isAll, valid]

theorem WellFormed.answering (wf : g.WellFormed) : g.Answering := by
  constructor
  case walk =>
    intro o origin k known valid other
    obtain ⟨manner, route, walk⟩ := exists_walk_of_ne (wf.valid known) valid (Ne.symm other)
    obtain ⟨found, answer, mem⟩ := related_eq_ok wf known valid
    refine ⟨manner, route, found, walk, answer, fun x => ?_⟩
    rw [mem, finds_iff_path manner route walk, path_iff_trail wf]
  case reflexive =>
    intro o k known
    obtain ⟨found, answer, mem⟩ := related_eq_ok wf known (wf.valid known)
    rw [answer]
    refine congrArg _ (Std.ExtTreeSet.ext_mem fun x => ?_)
    simp [mem, Finds, strategyFor]
  case root => exact fun k valid => ⟨g.ofKind k, related_all valid, fun x => wf.ofKind_iff⟩
  case kind => exact fun o k found answer x => kind?_of_mem_related wf answer
  case split =>
    intro o k found answer
    obtain ⟨active, filtered, mem⟩ := relatedBy_of_related .active wf answer
    obtain ⟨inactive, filtered', mem'⟩ := relatedBy_of_related .inactive wf answer
    exact ⟨active, inactive, filtered, filtered', mem, fun x => by simp [mem', ActivityFilter.accepts]⟩

end DiscoveryGraph.Graph
