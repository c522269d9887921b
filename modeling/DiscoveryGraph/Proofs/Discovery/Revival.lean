import Mathlib.Logic.Relation
import DiscoveryGraph.Proofs.Discovery.Clearance

/-! What an appearance raises in a graph that operations built: the entity itself, if it was inactive,
and every inactive entity that a path of edges upwards leads to from there, over inactive entities
only. The order in which the entities on the way are visited makes no difference. -/
namespace DiscoveryGraph.Graph
open Update
variable {g h : Graph} {id x y : EntityId} {k kind : EntityKind} {changes changes' : List StateChange}

/-- Each kind with the kinds that an activation goes on to from there. -/
def supportKinds : List (EntityKind × EntityKind) :=
  [(.dataWriter, .participant), (.dataWriter, .topic), (.dataWriter, .locator),
    (.dataReader, .participant), (.dataReader, .topic), (.dataReader, .locator),
    (.participant, .process), (.process, .user), (.user, .host)]

/-- An edge along which an activation goes on. -/
def RestsOn (g : Graph) (x y : EntityId) : Prop :=
  ∃ kinds ∈ supportKinds, g.kind? x = some kinds.1 ∧ y ∈ g.neighbors x kinds.2

/-- A path of such edges, all of whose entities but the first one are inactive. -/
def Leads (g : Graph) : EntityId → EntityId → Prop :=
  Relation.ReflTransGen fun x y => g.RestsOn x y ∧ g.alive y = false

/-- What an appearance of an entity brings about. -/
structure Revival (g : Graph) (id : EntityId) (changes : List StateChange) (h : Graph) : Prop where
  raised : ∀ x, g.alive x = false ∧ h.alive x = true ↔ g.alive x = false ∧ g.Leads id x
  kept : ∀ x, g.alive x = true → h.alive x = true
  domains : ∀ x, g.kind? x = some .domain → h.entity? x = g.entity? x
  reports : g.Reports changes h
  rest : g.UpToFlags h

theorem mem_supportKinds : (k, kind) ∈ supportKinds ↔ kind ∈ k.sustains := by
  cases k <;> cases kind <;> decide

theorem restsOn_iff : g.RestsOn x y ↔ g.Sustains x y := by
  rw [sustains_iff]
  constructor
  · intro held
    obtain ⟨⟨k, kind⟩, listed, known, near⟩ := held
    exact ⟨k, known, kind, mem_supportKinds.mp listed, near⟩
  · intro held
    obtain ⟨k, known, kind, mem, near⟩ := held
    exact ⟨(k, kind), mem_supportKinds.mpr mem, known, near⟩

theorem leads_iff : g.Leads id x ↔ g.Revives id x := by
  constructor
  · intro path
    induction path with
    | refl => exact .self
    | tail _ edge ih => exact ih.step (restsOn_iff.mp edge.1) edge.2
  · intro revives
    induction revives with
    | self => exact .refl
    | step _ sustains dead ih => exact ih.tail ⟨restsOn_iff.mpr sustains, dead⟩

theorem Activated.revival (activated : Activated g id changes h) (wf : g.WellFormed)
    (known : g.kind? id = some k) (discovered : k ≠ .domain) : g.Revival id changes h := by
  have run := activated.raised
  constructor
  case raised =>
    intro x
    refine and_congr_right fun dead => ?_
    rw [leads_iff]
    constructor
    · intro raised
      obtain same | ⟨revives, -⟩ := run.alive_eq_or (x := x)
      · simp [same, dead] at raised
      · exact revives
    · exact activated.alive_of_revives
  case kept => exact fun x => run.alive_of_raised
  case domains =>
    intro x domain
    refine entity?_congr (run.alike.profile x) ?_
    obtain same | ⟨revives, -⟩ := run.alive_eq_or (x := x)
    · exact same
    · obtain ⟨kind, knownx, other⟩ := revives.known wf known discovered
      exact absurd (kind_unique knownx domain) other
  case reports => exact run.reports
  case rest => exact run.upToFlags

/-- What is raised is settled, so the graph is, and the changes are but for their order. -/
theorem Revival.unique {h' : Graph} (revival : g.Revival id changes h) (revival' : g.Revival id changes' h') :
    h' = h ∧ changes'.Perm changes := by
  have same : h' = h := by
    refine revival'.rest.eq_of_alive revival.rest fun x => ?_
    cases before : g.alive x
    · have either := (revival'.raised x).trans (revival.raised x).symm
      simp only [before, true_and] at either
      exact Bool.eq_iff_iff.mpr either
    · rw [revival'.kept x before, revival.kept x before]
  subst same
  exact ⟨rfl, revival.reports.perm revival'.reports⟩

/-- An entity that appears is raised with whatever inactive entities it leads to, and nothing else
changes. In whatever order the entities are visited, the outcome is the same. -/
theorem Built.appeared_exact (built : g.Built) (known : g.kind? id = some k) (discovered : k ≠ .domain) :
    ∃ changes h, apply (.appeared id) g = .ok changes h ∧ g.Revival id changes h ∧
      ∀ order : Arrangement, ∃ changes', activateBy order id g = .ok changes' h ∧ changes'.Perm changes := by
  have wf := built.wellFormed
  obtain ⟨changes, h, run, activated⟩ := (apply_appeared_ends wf known discovered).exists_ok
  have revival := activated.revival wf known discovered
  refine ⟨changes, h, run, revival, fun order => ?_⟩
  obtain ⟨changes', h', run', activated'⟩ := (activateBy_ends order wf known discovered).exists_ok
  obtain ⟨rfl, perm⟩ := revival.unique (activated'.revival wf known discovered)
  exact ⟨changes', run', perm⟩

/-- The domain of a reader was stopped, and its process was started again since. The reader raises what
it rests on as far as the process, but neither that nor the user and host above it, nor the domain. -/
theorem Built.appeared_exact_stopped :
    let g := [.create .domain "0" (.domain 0),
      .ingest ⟨⟨1⟩, .discovered, .reader ⟨⟨.replicate 16 1⟩, "reader",
        ⟨⟨.replicate 16 2⟩, "node", "host", "user", "process", none⟩, ⟨"square", "ShapeType"⟩, ["udp:1"]⟩⟩,
      .apply (.domainStopped ⟨1⟩), .setActive ⟨4⟩ true].foldl Operation.act ∅
    g.Built ∧ g.kind? ⟨7⟩ = some .dataReader ∧
      ∃ changes h, apply (.appeared ⟨7⟩) g = .ok changes h ∧ g.Revival ⟨7⟩ changes h ∧
        changes.map (·.id) = [⟨7⟩, ⟨8⟩, ⟨6⟩, ⟨5⟩] ∧
        ∀ order : Arrangement, ∃ changes', activateBy order ⟨7⟩ g = .ok changes' h ∧ changes'.Perm changes := by
  intro g
  have built : g.Built := Built.empty.foldl _
  have reader : g.kind? ⟨7⟩ = some .dataReader := by decide +kernel
  have raised : (match apply (.appeared ⟨7⟩) g with
      | .ok changes _ => changes.map (·.id)
      | .error .. => []) = [⟨7⟩, ⟨8⟩, ⟨6⟩, ⟨5⟩] := by decide +kernel
  clear_value g
  obtain ⟨changes, h, run, revival, ordered⟩ := Built.appeared_exact built reader (by decide)
  rw [run] at raised
  exact ⟨built, reader, changes, h, run, revival, raised, ordered⟩

end DiscoveryGraph.Graph
