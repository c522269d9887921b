import DiscoveryGraph.Proofs.Discovery.Clearance
import DiscoveryGraph.Proofs.Lifecycle.Cascade

/-! What stopping a domain does to a graph that operations built, said by queries and by what entities
run in: what the domain finds is taken down, and processes, users and hosts go with the last of what
they hold if the stop took some of it. Nothing else changes. -/
namespace DiscoveryGraph

namespace EntityKind

/-- A cascade goes on from processes, users and hosts to such again. -/
theorem isPhysical_of_follows {kind k : EntityKind} (physical : kind.isPhysical)
    (follows : k ∈ kind.dependents ∨ kind = participant ∧ k.isEndpoint) : k.isPhysical := by
  revert physical follows
  cases kind <;> cases k <;> decide

/-- A process holds participants, and everything above it holds what is physical as well. -/
theorem cases_of_mem_derivedFrom {kind k : EntityKind} (physical : k.isPhysical)
    (derived : kind ∈ k.derivedFrom) : k = process ∧ kind = participant ∨ kind.isPhysical := by
  revert physical derived
  cases k <;> cases kind <;> decide

end EntityKind

namespace Graph
open Update
variable {g h : Graph} {d x y : EntityId} {k kind : EntityKind} {changes : List StateChange}

/-- The kinds that a domain takes down with it. -/
def haltedKinds : List EntityKind := [.participant, .topic, .dataWriter, .dataReader, .locator]

/-- A process that a participant of the domain runs in. -/
def Hosts (g : Graph) (d x : EntityId) : Prop :=
  g.kind? x = some .process ∧ ∃ p ∈ g.neighbors x .participant, g.Queried d .participant p

/-- What stopping a domain brings about. -/
structure Standstill (g : Graph) (d : EntityId) (changes : List StateChange) (h : Graph) : Prop where
  domain : h.alive d = false
  found : ∀ k ∈ haltedKinds, ∃ found, g.related k d = .ok found ∧ ∀ x ∈ found, h.alive x = false
  processes : ∀ x, g.Hosts d x →
    (h.alive x = true ↔ g.alive x = true ∧ ∃ p ∈ g.neighbors x .participant, h.alive p = true)
  above : ∀ kinds ∈ [(EntityKind.user, EntityKind.process), (.host, .user)], ∀ x,
    g.kind? x = some kinds.1 → g.alive x = true → (h.alive x = false ↔
      (∃ y ∈ g.neighbors x kinds.2, g.alive y = true ∧ h.alive y = false) ∧
        ∀ y ∈ g.neighbors x kinds.2, h.alive y = false)
  others : ∀ x, x ≠ d → (∀ k ∈ haltedKinds, ¬ g.Queried d k x) → ¬ g.Hosts d x →
    ¬ ((g.kind? x = some .user ∨ g.kind? x = some .host) ∧ g.alive x = true) → h.alive x = g.alive x
  lowered : ∀ x, h.alive x = true → g.alive x = true
  reports : g.Reports changes h
  rest : g.UpToFlags h

theorem halts_iff (wf : g.WellFormed) (known : g.kind? d = some .domain) :
    g.Halts d x ↔ x = d ∨ ∃ k ∈ haltedKinds, g.Queried d k x := by
  have queried : ∀ k ∈ haltedKinds, (g.Queried d k x ↔ g.Finds .domain k d x) := fun k listed =>
    queried_iff wf known fun same => by simp [same, haltedKinds] at listed
  constructor
  · intro halts
    obtain same | near | ⟨k, listed, finds⟩ := halts
    · exact .inl same
    · exact .inr ⟨.participant, by decide, (queried _ (by decide)).mpr (finds_participant.mpr near)⟩
    · exact .inr ⟨k, .tail _ listed, (queried k (.tail _ listed)).mpr finds⟩
  · intro held
    obtain same | ⟨k, listed, found⟩ := held
    · exact .inl same
    · have finds := (queried k listed).mp found
      obtain rfl | rest := List.mem_cons.mp listed
      · exact .inr (.inl (finds_participant.mp finds))
      · exact .inr (.inr ⟨k, rest, finds⟩)

theorem Drags.isPhysical (drags : g.Drags x y) (wf : g.WellFormed) (known : g.kind? x = some k)
    (physical : k.isPhysical) : ∃ kind, g.kind? y = some kind ∧ kind.isPhysical := by
  induction drags with
  | self => exact ⟨k, known, physical⟩
  | step _ passes ih =>
    obtain ⟨kind, here, physical⟩ := ih
    obtain ⟨kind', same, k', follows, near⟩ := passes
    obtain rfl := kind_unique here same
    exact ⟨k', wf.kind?_of_mem near, EntityKind.isPhysical_of_follows physical follows⟩

/-- Besides what a stop flags itself, it takes down processes, users and hosts only. -/
theorem Sinks.cases (sinks : g.Sinks d x) (wf : g.WellFormed) :
    g.Halts d x ∨ ∃ k, g.kind? x = some k ∧ k.isPhysical := by
  obtain halts | ⟨p, -, k, dependent, q, near, drags⟩ := sinks
  · exact .inl halts
  · obtain rfl : k = .process := by simpa [EntityKind.dependents] using dependent
    exact .inr (drags.isPhysical wf (wf.kind?_of_mem near) rfl)

/-- A process, a user or a host falls with something that it holds, and only with all of that. -/
theorem Falls.of_isPhysical (falls : g.Falls (g.Halts d) x) (wf : g.WellFormed)
    (domain : g.kind? d = some .domain) (known : g.kind? x = some k) (physical : k.isPhysical) :
    g.alive x = true ∧ (∃ c ∈ g.children x k, g.Falls (g.Halts d) c) ∧
      ∀ y ∈ g.children x k, g.alive y = true → g.Falls (g.Halts d) y := by
  cases falls with
  | start halts =>
    obtain ⟨kind, listed, here⟩ := halts.kind? wf domain
    obtain rfl := kind_unique known here
    refine absurd physical ?_
    revert listed
    cases k <;> decide
  | endpoint _ _ mem _ =>
    obtain ⟨kind, endpoint, near⟩ := mem_endpointsOf.mp mem
    obtain rfl := kind_unique known (wf.kind?_of_mem near)
    refine absurd physical ?_
    revert endpoint
    cases k <;> decide
  | derived here active child falls rest =>
    obtain rfl := kind_unique known here
    exact ⟨active, ⟨_, child, falls⟩, rest⟩

theorem Falls.mem_participants (falls : g.Falls (g.Halts d) x) (wf : g.WellFormed)
    (domain : g.kind? d = some .domain) (known : g.kind? x = some .participant) :
    x ∈ g.neighbors d .participant :=
  finds_participant.mp ((falls.of_participant wf known).finds wf domain known (by decide))

section Settled
variable (wf : g.WellFormed) (domain : g.kind? d = some .domain)
    (run : Run (Action.Flags false (g.Falls (g.Halts d))) g changes h) (halted : g.Halted d h)
include wf domain run halted

/-- Processes, users and hosts that may fall do. -/
theorem Halted.not_alive (falls : g.Falls (g.Halts d) x) (known : g.kind? x = some k)
    (among : k = .participant ∨ k.isPhysical) : h.alive x = false := by
  induction falls generalizing k with
  | start halts => exact halted.gone _ halts
  | endpoint _ _ mem _ _ =>
    obtain ⟨kind, endpoint, near⟩ := mem_endpointsOf.mp mem
    obtain rfl := kind_unique known (wf.kind?_of_mem near)
    refine absurd among ?_
    revert endpoint
    cases k <;> decide
  | @derived x c k' here active child falls rest _ ihs =>
    obtain rfl := kind_unique known here
    obtain ⟨kind, derived, near⟩ := mem_children.mp child
    have physical : k.isPhysical := among.resolve_left (by rintro rfl; cases derived)
    have knownc := wf.kind?_of_mem near
    -- Either a participant of the domain runs in it, or it was backed by what fell.
    have justified : h.Justified x := by
      obtain ⟨rfl, rfl⟩ | below := EntityKind.cases_of_mem_derivedFrom physical derived
      · exact halted.processes c (falls.mem_participants wf domain knownc) x (wf.mem_symm near known)
      · have backed : g.Backed x := ⟨k, known, c, child, (falls.of_isPhysical wf domain knownc below).1⟩
        refine halted.upheld x ?_ backed
        rw [known]
        rintro ⟨⟩
        cases physical
    cases after : h.alive x
    · rfl
    · obtain ⟨kind, same, y, child, alive⟩ := justified after
      rw [run.alike.kind?] at same
      obtain rfl := kind_unique known same
      rw [run.alike.children] at child
      obtain ⟨kind, derived, near⟩ := mem_children.mp child
      have among := EntityKind.cases_of_mem_derivedFrom physical derived
      rw [ihs y child (run.alive_before alive) (wf.kind?_of_mem near) (among.imp_left (·.2))] at alive
      cases alive

/-- A process of the domain stays active while one of its participants does. -/
theorem Halted.alive_iff (hosts : g.Hosts d x) :
    h.alive x = true ↔ g.alive x = true ∧ ∃ p ∈ g.neighbors x .participant, h.alive p = true := by
  obtain ⟨known, p, near, found⟩ := hosts
  constructor
  · intro after
    have member := finds_participant.mp ((queried_iff wf domain (by decide)).mp found)
    obtain ⟨k, same, y, child, alive⟩ := halted.processes p member x (wf.mem_symm near known) after
    rw [run.alike.kind?] at same
    obtain rfl := kind_unique known same
    rw [run.alike.children] at child
    exact ⟨run.alive_before after, y, by simpa [children, EntityKind.derivedFrom] using child, alive⟩
  · intro held
    obtain ⟨before, y, neary, alive⟩ := held
    obtain same | ⟨falls, -⟩ := run.alive_eq_or (x := x)
    · rw [same, before]
    · have child : y ∈ g.children x .process := by simpa [children, EntityKind.derivedFrom] using neary
      have fallsy := (falls.of_isPhysical wf domain known rfl).2.2 y child (run.alive_before alive)
      rw [halted.not_alive wf domain run fallsy (wf.kind?_of_mem neary) (.inl rfl)] at alive
      cases alive

/-- A user or a host that was active goes exactly if the stop took something it holds and left nothing. -/
theorem Halted.not_alive_iff (known : g.kind? x = some k) (physical : k.isPhysical)
    (holds : k.derivedFrom = [kind]) (below : kind.isPhysical) (before : g.alive x = true) :
    h.alive x = false ↔ (∃ y ∈ g.neighbors x kind, g.alive y = true ∧ h.alive y = false) ∧
      ∀ y ∈ g.neighbors x kind, h.alive y = false := by
  have mem : ∀ y, y ∈ g.children x k ↔ y ∈ g.neighbors x kind := fun y => by simp [mem_children, holds]
  constructor
  · intro dead
    obtain same | ⟨falls, -⟩ := run.alive_eq_or (x := x)
    · rw [same, before] at dead
      cases dead
    obtain ⟨-, ⟨c, child, fallsc⟩, rest⟩ := falls.of_isPhysical wf domain known physical
    have near := (mem c).mp child
    have knownc := wf.kind?_of_mem near
    refine ⟨⟨c, near, (fallsc.of_isPhysical wf domain knownc below).1, ?_⟩, fun y neary => ?_⟩
    · exact halted.not_alive wf domain run fallsc knownc (.inr below)
    · cases after : h.alive y
      · rfl
      · rw [← after]
        have fallsy := rest y ((mem y).mpr neary) (run.alive_before after)
        exact halted.not_alive wf domain run fallsy (wf.kind?_of_mem neary) (.inr below)
  · intro held
    obtain ⟨⟨y, near, active, -⟩, rest⟩ := held
    cases after : h.alive x
    · rfl
    · have other : g.kind? x ≠ some .topic := by
        rw [known]
        rintro ⟨⟩
        cases physical
      obtain ⟨k', same, z, child, alive⟩ := halted.upheld x other ⟨k, known, y, (mem y).mpr near, active⟩ after
      rw [run.alike.kind?] at same
      obtain rfl := kind_unique known same
      rw [run.alike.children] at child
      rw [rest z ((mem z).mp child)] at alive
      cases alive

end Settled

theorem stopDomain_standstill (wf : g.WellFormed) (known : g.kind? d = some .domain) :
    (stopDomain d).Ends g (g.Standstill d) fun _ _ => False := by
  refine ((stopDomain_falls wf known).and ((stopDomain_lowers wf known).and (stopDomain_halted wf known))).imp
    ?_ fun _ _ fails => fails.1
  intro changes h held
  obtain ⟨run, ⟨sinks, -⟩, halted⟩ := held
  have halts := fun x => halts_iff (x := x) wf known
  constructor
  case domain => exact halted.gone d (.inl rfl)
  case found =>
    intro k listed
    obtain ⟨found, eq, iff⟩ := related_eq_ok (k := k) wf known (fun same => by simp [same, haltedKinds] at listed)
    refine ⟨found, eq, fun x mem => halted.gone x ((halts x).mpr (.inr ⟨k, listed, found, eq, mem⟩))⟩
  case processes => exact fun x => halted.alive_iff wf known run
  case above =>
    intro kinds listed x here active
    simp only [List.mem_cons, List.not_mem_nil, or_false] at listed
    obtain rfl | rfl := listed <;> exact halted.not_alive_iff wf known run here rfl rfl rfl active
  case others =>
    intro x apart unfound unhosted low
    obtain same | ⟨falls, dead⟩ := run.alive_eq_or (x := x)
    · exact same
    obtain same | ⟨sunk, -⟩ := sinks.alive_eq_or (x := x)
    · exact same
    exfalso
    obtain stops | ⟨k, here, physical⟩ := sunk.cases wf
    · obtain same | ⟨k, listed, found⟩ := (halts x).mp stops
      · exact apart same
      · exact unfound k listed found
    · obtain ⟨active, ⟨c, child, fallsc⟩, -⟩ := falls.of_isPhysical wf known here physical
      have cases : k = .process ∨ k = .user ∨ k = .host := by
        revert physical
        cases k <;> decide
      obtain rfl | above := cases
      · have near : c ∈ g.neighbors x .participant := by simpa [children, EntityKind.derivedFrom] using child
        have member := fallsc.mem_participants wf known (wf.kind?_of_mem near)
        exact unhosted ⟨here, c, near, (queried_iff wf known (by decide)).mpr (finds_participant.mpr member)⟩
      · exact low ⟨by simpa [here] using above, active⟩
  case lowered => exact fun x => run.alive_before
  case reports => exact run.reports
  case rest => exact run.upToFlags

/-- Stopping a domain takes down what it finds, and processes, users and hosts as far as that leaves them
with nothing active. -/
theorem Built.stopDomain_exact (built : g.Built) (known : g.kind? d = some .domain) :
    ∃ changes h, apply (.domainStopped d) g = .ok changes h ∧ g.Standstill d changes h :=
  (stopDomain_standstill built.wellFormed known).exists_ok

/-- Two readers of a domain run in processes of one user, and one of the processes runs a reader of another
domain as well. The stop takes the other process and leaves this one, its user and its host. -/
theorem Built.stopDomain_exact_shared :
    let reader (domain : EntityId) (byte : UInt8) (process : String) : Operation :=
      .ingest ⟨domain, .discovered, .reader ⟨⟨.replicate 16 byte⟩, "reader",
        ⟨⟨.replicate 16 (byte + 1)⟩, "node", "host", "user", process, none⟩, ⟨"square", "ShapeType"⟩, ["udp:1"]⟩⟩
    let g := [.create .domain "0" (.domain 0), .create .domain "1" (.domain 1), reader ⟨1⟩ 1 "own",
      reader ⟨1⟩ 3 "shared", reader ⟨2⟩ 5 "shared"].foldl Operation.act ∅
    g.Built ∧ g.kind? ⟨1⟩ = some .domain ∧
      ∃ changes h, apply (.domainStopped ⟨1⟩) g = .ok changes h ∧ g.Standstill ⟨1⟩ changes h ∧
        changes.map (·.id) = [⟨1⟩, ⟨6⟩, ⟨11⟩, ⟨7⟩, ⟨8⟩, ⟨9⟩, ⟨12⟩, ⟨5⟩] := by
  intro reader g
  have built : g.Built := Built.empty.foldl _
  have domain : g.kind? ⟨1⟩ = some .domain := by decide +kernel
  have fallen : (match apply (.domainStopped ⟨1⟩) g with
      | .ok changes _ => changes.map (·.id)
      | .error .. => []) = [⟨1⟩, ⟨6⟩, ⟨11⟩, ⟨7⟩, ⟨8⟩, ⟨9⟩, ⟨12⟩, ⟨5⟩] := by decide +kernel
  clear_value g
  obtain ⟨changes, h, run, standstill⟩ := Built.stopDomain_exact built domain
  rw [run] at fallen
  exact ⟨built, domain, changes, h, run, standstill, fallen⟩

end Graph
end DiscoveryGraph
