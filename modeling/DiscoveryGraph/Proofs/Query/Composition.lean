import DiscoveryGraph.Proofs.Discovery.Clearance
import DiscoveryGraph.Proofs.Query.Symmetry

/-! Queries compose. Where the route from one kind to another crosses a hop, what is found at the end of it
is what the entities that are found at that hop find there, taken together. -/
namespace DiscoveryGraph
variable {origin k v : EntityKind} {via : Hop} {parts : Route × Route}

/-- The route from one kind to another crosses a hop `via` between two parts: the first one leads to each
kind of the hop, and the second one is the route of each of them. -/
structure Crosses (origin k : EntityKind) (via : Hop) (parts : Route × Route) : Prop where
  whole : (strategyFor origin k).route? = some (parts.1 ++ via :: parts.2)
  before : ∀ v ∈ via, (strategyFor origin v).route? = some (parts.1 ++ [[v]])
  behind : ∀ v ∈ via, (strategyFor v k).route? = some parts.2

instance : Decidable (Crosses origin k via parts) :=
  decidable_of_iff
    ((strategyFor origin k).route? = some (parts.1 ++ via :: parts.2) ∧
      (∀ v ∈ via, (strategyFor origin v).route? = some (parts.1 ++ [[v]])) ∧
      ∀ v ∈ via, (strategyFor v k).route? = some parts.2)
    ⟨fun ⟨whole, before, behind⟩ => ⟨whole, before, behind⟩,
      fun ⟨whole, before, behind⟩ => ⟨whole, before, behind⟩⟩

/-- The route from one kind to another before a hop and behind it. -/
def Route.around (origin k : EntityKind) (via : Hop) : Route × Route :=
  let route := (strategyFor origin k).route?.getD []
  (route.takeWhile (· ≠ via), (route.dropWhile (· ≠ via)).tail)

namespace Graph
variable {g : Graph} {o x y z : EntityId} {via : List EntityKind} {xs : List EntityId}

/-- What some entities find of a kind, taken together. -/
def relatedOfEach (g : Graph) (k : EntityKind) : List EntityId → Except ValidationError IdSet
  | [] => .ok ∅
  | x :: xs => do
    let first ← g.related k x
    let rest ← g.relatedOfEach k xs
    return first ∪ rest

/-- What is found of a kind from the entities of the kinds `via` that an origin finds. -/
def relatedVia (g : Graph) (via : List EntityKind) (k : EntityKind) (o : EntityId) :
    Except ValidationError IdSet := do
  let between ← g.relatedOfKinds o via
  g.relatedOfEach k between.toList

/-- A query that crosses a hop finds what is found from there. -/
theorem finds_iff_of_crosses (crosses : Crosses origin k via parts) :
    g.Finds origin k x y ↔ ∃ v ∈ via, ∃ z, g.Finds origin v x z ∧ g.Finds v k z y := by
  rw [finds_iff_of_route? crosses.whole, path_append]
  constructor
  · intro path
    obtain ⟨w, start, v, mem, z, near, rest⟩ := path
    have first : g.Path (parts.1 ++ [[v]]) x z :=
      path_append.mpr ⟨w, start, v, List.mem_singleton_self v, z, near, rfl⟩
    exact ⟨v, mem, z, (finds_iff_of_route? (crosses.before v mem)).mpr first,
      (finds_iff_of_route? (crosses.behind v mem)).mpr rest⟩
  · intro held
    obtain ⟨v, mem, z, first, rest⟩ := held
    obtain ⟨w, start, v', single, z', near, rfl⟩ :=
      path_append.mp ((finds_iff_of_route? (crosses.before v mem)).mp first)
    obtain rfl := List.mem_singleton.mp single
    exact ⟨w, start, v', mem, z', near, (finds_iff_of_route? (crosses.behind v' mem)).mp rest⟩

theorem relatedOfEach_eq_ok (wf : g.WellFormed) (valid : k ≠ .invalid)
    (known : ∀ x ∈ xs, ∃ v, g.kind? x = some v) :
    ∃ found, g.relatedOfEach k xs = .ok found ∧
      ∀ y, y ∈ found ↔ ∃ x ∈ xs, ∃ v, g.kind? x = some v ∧ g.Finds v k x y := by
  induction xs with
  | nil => exact ⟨∅, rfl, by simp⟩
  | cons x xs ih =>
    obtain ⟨v, here⟩ := known x (by simp)
    obtain ⟨first, answer, mem⟩ := related_eq_ok wf here valid
    obtain ⟨rest, answers, mem'⟩ := ih fun z there => known z (by simp [there])
    refine ⟨first ∪ rest, ?_, fun y => ?_⟩
    · simp only [relatedOfEach, answer, answers]
      rfl
    · simp [Std.ExtTreeSet.mem_union_iff, mem, mem', here]

theorem relatedVia_eq_ok (wf : g.WellFormed) (known : g.kind? o = some origin) (valid : k ≠ .invalid)
    (valid' : .invalid ∉ via) :
    ∃ found, g.relatedVia via k o = .ok found ∧
      ∀ y, y ∈ found ↔ ∃ v ∈ via, ∃ z, g.Finds origin v o z ∧ g.Finds v k z y := by
  obtain ⟨between, answer, mem⟩ := relatedOfKinds_eq_ok via wf known valid'
  have kinds : ∀ z ∈ between.toList, ∃ v, g.kind? z = some v := by
    intro z there
    obtain ⟨v, -, finds⟩ := (mem z).mp (Std.ExtTreeSet.mem_toList.mp there)
    exact ⟨v, finds.kind? wf known⟩
  obtain ⟨found, answers, mem'⟩ := relatedOfEach_eq_ok wf valid kinds
  refine ⟨found, ?_, fun y => ?_⟩
  · rw [relatedVia, answer]
    exact answers
  · simp only [mem', Std.ExtTreeSet.mem_toList, mem]
    constructor
    · intro held
      obtain ⟨z, ⟨v, within, first⟩, v', kind, rest⟩ := held
      obtain rfl := kind_unique kind (first.kind? wf known)
      exact ⟨v', within, z, first, rest⟩
    · intro held
      obtain ⟨v, within, z, first, rest⟩ := held
      exact ⟨z, ⟨v, within, first⟩, v, first.kind? wf known, rest⟩

/-- A query that crosses a hop is answered with what is found from there. -/
theorem related_eq_relatedVia (wf : g.WellFormed) (known : g.kind? o = some origin) (valid : k ≠ .invalid)
    (valid' : .invalid ∉ via) (crosses : Crosses origin k via parts) :
    ∃ found, g.related k o = .ok found ∧ g.relatedVia via k o = .ok found := by
  obtain ⟨found, answer, mem⟩ := related_eq_ok wf known valid
  obtain ⟨found', answer', mem'⟩ := relatedVia_eq_ok wf known valid valid'
  have same : found = found' := Std.ExtTreeSet.ext_mem fun y => by
    rw [mem, mem', finds_iff_of_crosses crosses]
  exact ⟨found, answer, same ▸ answer'⟩

/-- In every graph that was built, the locators of whatever has endpoints are those of its endpoints, what
a host, a user or a process has in a domain is what its participants have there, and the processes, users
and hosts of a locator or a topic are those of its participants. -/
theorem Built.related_composed (built : g.Built) (known : g.kind? o = some origin) :
    (origin ∈ [.host, .user, .process, .domain, .participant, .topic] → ∃ found,
      g.related .locator o = .ok found ∧ g.relatedVia [.dataWriter, .dataReader] .locator o = .ok found) ∧
    (origin ∈ [.host, .user, .process] → ∀ k ∈ [.domain, .topic, .dataWriter, .dataReader, .locator],
      ∃ found, g.related k o = .ok found ∧ g.relatedVia [.participant] k o = .ok found) ∧
    (origin ∈ [.locator, .topic] → ∀ k ∈ [.process, .user, .host],
      ∃ found, g.related k o = .ok found ∧ g.relatedVia [.participant] k o = .ok found) := by
  have wf := built.wellFormed
  have endpoints : ∀ origin ∈ [.host, .user, .process, .domain, .participant, .topic],
      Crosses origin .locator [.dataWriter, .dataReader]
        (Route.around origin .locator [.dataWriter, .dataReader]) := by
    decide
  have downwards : ∀ origin ∈ [.host, .user, .process],
      ∀ k ∈ [.domain, .topic, .dataWriter, .dataReader, .locator],
      k ≠ .invalid ∧ Crosses origin k [.participant] (Route.around origin k [.participant]) := by
    decide
  have upwards : ∀ origin ∈ [.locator, .topic], ∀ k ∈ [.process, .user, .host],
      k ≠ .invalid ∧ Crosses origin k [.participant] (Route.around origin k [.participant]) := by
    decide
  refine ⟨fun mem => ?_, fun mem k within => ?_, fun mem k within => ?_⟩
  · exact related_eq_relatedVia wf known (by decide) (by decide) (endpoints origin mem)
  · obtain ⟨valid, crosses⟩ := downwards origin mem k within
    exact related_eq_relatedVia wf known valid (by decide) crosses
  · obtain ⟨valid, crosses⟩ := upwards origin mem k within
    exact related_eq_relatedVia wf known valid (by decide) crosses

/-- A reader and a writer share a topic and a locator, and the participant of the writer was removed. The
topic still finds the locators of both, as its endpoints do, and the host that the remaining participant
finds; the host finds the locators of the reader only. -/
theorem Built.related_composed_orphan :
    let participant (byte : UInt8) : ParticipantInfo :=
      ⟨⟨.replicate 16 byte⟩, "node", "host", "user", "process", none⟩
    let endpoint (byte : UInt8) (locators : List String) : EndpointInfo :=
      ⟨⟨.replicate 16 byte⟩, "endpoint", participant (byte + 1), ⟨"topic", "type"⟩, locators⟩
    let g := [Operation.create .domain "0" (.domain 0),
      .ingest ⟨⟨1⟩, .discovered, .reader (endpoint 1 ["udp:1"])⟩,
      .ingest ⟨⟨1⟩, .discovered, .writer (endpoint 3 ["udp:1", "udp:2"])⟩, .remove ⟨9⟩].foldl Operation.act ∅
    g.Built ∧ g.kind? ⟨6⟩ = some .topic ∧ g.kind? ⟨2⟩ = some .host ∧
      (∃ found, g.related .locator ⟨6⟩ = .ok found ∧
        g.relatedVia [.dataWriter, .dataReader] .locator ⟨6⟩ = .ok found ∧ found.toList = [⟨8⟩, ⟨11⟩]) ∧
      (∃ found, g.related .host ⟨6⟩ = .ok found ∧ g.relatedVia [.participant] .host ⟨6⟩ = .ok found ∧
        found.toList = [⟨2⟩]) ∧
      ∃ found, g.related .locator ⟨2⟩ = .ok found ∧ g.relatedVia [.participant] .locator ⟨2⟩ = .ok found ∧
        found.toList = [⟨8⟩] := by
  intro participant endpoint g
  have built : g.Built := Built.empty.foldl _
  have topic : g.kind? ⟨6⟩ = some .topic := by decide +kernel
  have host : g.kind? ⟨2⟩ = some .host := by decide +kernel
  have locators : (g.related .locator ⟨6⟩).toOption.map (·.toList) = some [⟨8⟩, ⟨11⟩] := by decide +kernel
  have hosts : (g.related .host ⟨6⟩).toOption.map (·.toList) = some [⟨2⟩] := by decide +kernel
  have locators' : (g.related .locator ⟨2⟩).toOption.map (·.toList) = some [⟨8⟩] := by decide +kernel
  clear_value g
  obtain ⟨endpoints, -, upwards⟩ := Built.related_composed built topic
  obtain ⟨-, downwards, -⟩ := Built.related_composed built host
  obtain ⟨found, answer, composed⟩ := endpoints (by decide)
  obtain ⟨found', answer', composed'⟩ := upwards (by decide) .host (by decide)
  obtain ⟨found'', answer'', composed''⟩ := downwards (by decide) .locator (by decide)
  rw [answer] at locators
  rw [answer'] at hosts
  rw [answer''] at locators'
  exact ⟨built, topic, host, ⟨found, answer, composed, Option.some.inj locators⟩,
    ⟨found', answer', composed', Option.some.inj hosts⟩,
    found'', answer'', composed'', Option.some.inj locators'⟩

end Graph
end DiscoveryGraph
