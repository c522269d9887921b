import DiscoveryGraph.Proofs.Discovery.Operation
import DiscoveryGraph.Proofs.Query.Path

/-! Queries are symmetric: of two entities of a graph that was built, each finds the other or neither
does. The rule for the opposite pair of kinds takes the same route from its other end, and every edge
can be taken from both of its ends. -/
namespace DiscoveryGraph

/-- The route taken from its other end, back to where it was entered from a hop `start`. -/
def Route.back (start : Hop) : Route → Route
  | [] => []
  | hop :: route => back hop route ++ [start]

/-- The rows of the two orders of a pair of kinds take one route in both directions. -/
theorem route?_strategyFor_back {rule : QueryRule} (mem : rule ∈ queryRules) :
    (strategyFor rule.target rule.origin).route? = some (Route.back [rule.origin] rule.route) := by
  have rows : ∀ rule ∈ queryRules,
      (strategyFor rule.target rule.origin).route? = some (Route.back [rule.origin] rule.route) := by
    decide
  exact rows rule mem

/-- Every pair of distinct kinds that exist has a row. -/
theorem exists_walk_of_ne {origin k : EntityKind} (valid : origin ≠ .invalid) (valid' : k ≠ .invalid)
    (distinct : origin ≠ k) : ∃ manner route, strategyFor origin k = .walk manner route := by
  have pairs : ∀ origin ∈ EntityKind.valid, ∀ k ∈ EntityKind.valid, origin ≠ k →
      (strategyFor origin k).route?.isSome := by decide
  have row := pairs origin ((EntityKind.mem_valid origin).mpr valid) k ((EntityKind.mem_valid k).mpr valid')
    distinct
  cases found : strategyFor origin k with
  | walk manner route => exact ⟨manner, route, rfl⟩
  | reflexive => rw [found] at row; cases row
  | unrelated => rw [found] at row; cases row

namespace Graph
variable {g : Graph} {x y : EntityId} {k origin : EntityKind} {hop start : Hop} {route : Route}

/-- A path whose origin has a kind of the hop `start` is a path back to it. The hop that is taken back
is the one by which the path came to the entity where it now starts, so along the induction it becomes
the hop that was just taken. -/
theorem Path.back (wf : g.WellFormed) (known : g.kind? x = some k) (mem : k ∈ start)
    (path : g.Path route x y) : g.Path (route.back start) y x := by
  induction route generalizing x k start with
  | nil => exact path.symm
  | cons hop route ih =>
    obtain ⟨next, taken, z, near, rest⟩ := path
    have home : g.Path (Route.back hop route) y z := ih (wf.kind?_of_mem near) taken rest
    exact path_append.mpr ⟨z, home, k, mem, x, wf.mem_symm near known, rfl⟩

/-- What is found finds its origin. -/
theorem Finds.symm (wf : g.WellFormed) (known : g.kind? x = some origin) (finds : g.Finds origin k x y) :
    g.Finds k origin y x := by
  have known' : g.kind? y = some k := finds.kind? wf known
  by_cases same : origin = k
  · subst same
    simp only [Finds, strategyFor, if_true] at finds ⊢
    exact finds.symm
  · obtain ⟨manner, route, walk⟩ := exists_walk_of_ne (wf.valid known) (wf.valid known') same
    obtain ⟨rule, mem, rfl, rfl, rfl⟩ := exists_rule_of_walk walk
    have path : g.Path rule.route x y := (finds_iff_path manner rule.route walk).mp finds
    have home : g.Path (Route.back [rule.origin] rule.route) y x :=
      path.back wf known (List.mem_singleton_self rule.origin)
    exact (finds_iff_of_route? (route?_strategyFor_back mem)).mpr home

theorem finds_comm (wf : g.WellFormed) (known : g.kind? x = some origin) (known' : g.kind? y = some k) :
    g.Finds origin k x y ↔ g.Finds k origin y x :=
  ⟨Finds.symm wf known, Finds.symm wf known'⟩

/-- In every graph that was built, two entities each ask for the kind of the other: both are answered,
and each of them is in the answer to the other or neither is. -/
theorem Built.mem_related_comm (built : g.Built) (known : g.kind? x = some origin)
    (known' : g.kind? y = some k) :
    ∃ found found', g.related k x = .ok found ∧ g.related origin y = .ok found' ∧
      (y ∈ found ↔ x ∈ found') := by
  have wf := built.wellFormed
  obtain ⟨found, answer, mem⟩ := related_eq_ok wf known (wf.valid known')
  obtain ⟨found', answer', mem'⟩ := related_eq_ok wf known' (wf.valid known)
  refine ⟨found, found', answer, answer', ?_⟩
  rw [mem, mem']
  exact finds_comm wf known known'

/-- A writer matches the reader of its topic, and so the reader the writer, after another reader of
the topic has been removed. -/
theorem Built.mem_related_comm_matched :
    let participant : ParticipantInfo := ⟨⟨.replicate 16 1⟩, "node", "host", "user", "process", none⟩
    let endpoint (byte : UInt8) : EndpointInfo :=
      ⟨⟨.replicate 16 byte⟩, "endpoint", participant, ⟨"topic", "type"⟩, ["udp"]⟩
    let g := (Operation.remove ⟨9⟩).act
      ((Operation.ingest ⟨⟨1⟩, .discovered, .reader (endpoint 4)⟩).act
      ((Operation.ingest ⟨⟨1⟩, .discovered, .reader (endpoint 3)⟩).act
      ((Operation.ingest ⟨⟨1⟩, .discovered, .writer (endpoint 2)⟩).act
      ((Operation.create .domain "0" (.domain 0)).act ∅))))
    g.kind? ⟨7⟩ = some .dataWriter ∧ g.kind? ⟨10⟩ = some .dataReader ∧
      ∃ found found', g.related .dataReader ⟨7⟩ = .ok found ∧ g.related .dataWriter ⟨10⟩ = .ok found' ∧
        ⟨10⟩ ∈ found ∧ ⟨7⟩ ∈ found' := by
  intro participant endpoint g
  have built : g.Built := .step _ (.step _ (.step _ (.step _ (.step _ .empty))))
  have writer : g.kind? ⟨7⟩ = some .dataWriter := by decide +kernel
  have reader : g.kind? ⟨10⟩ = some .dataReader := by decide +kernel
  obtain ⟨found, found', answer, answer', both⟩ := Built.mem_related_comm built writer reader
  have matched : (g.related .dataReader ⟨7⟩).toOption.any (·.contains ⟨10⟩) = true := by decide +kernel
  rw [answer] at matched
  have mem : ⟨10⟩ ∈ found := matched
  exact ⟨writer, reader, found, found', answer, answer', mem, both.mp mem⟩

end Graph
end DiscoveryGraph
