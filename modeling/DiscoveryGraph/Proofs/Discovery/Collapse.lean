import Mathlib.Order.Bounds.Basic
import DiscoveryGraph.Proofs.Discovery.Clearance
import DiscoveryGraph.Proofs.Lifecycle.Cascade

/-! What a disappearance takes down in a graph that operations built: the least set that holds the
entity, the endpoints of a participant in it, and whatever is left without an active child outside.
The order in which neighbors are visited makes no difference. -/
namespace DiscoveryGraph.Graph
open Update
variable {g h : Graph} {id x c : EntityId} {k kind : EntityKind} {changes changes' : List StateChange}

/-- The kinds whose activity is derived, each with the kinds it is derived from. -/
def childKinds : List (EntityKind × EntityKind) :=
  [(.process, .participant), (.user, .process), (.host, .user), (.topic, .dataWriter), (.topic, .dataReader),
    (.locator, .dataWriter), (.locator, .dataReader)]

/-- The activity of the first entity is derived from the second one, among others. -/
def HasChild (g : Graph) (x c : EntityId) : Prop :=
  ∃ kinds ∈ childKinds, g.kind? x = some kinds.1 ∧ c ∈ g.neighbors x kinds.2

/-- A set of entities that may go together with one of them. -/
structure Collapse (g : Graph) (id : EntityId) (s : Set EntityId) : Prop where
  start : id ∈ s
  endpoints : ∀ p ∈ s, g.kind? p = some .participant → ∀ kind ∈ [EntityKind.dataWriter, .dataReader],
    ∀ y ∈ g.neighbors p kind, g.alive y = true → y ∈ s
  derived : ∀ x, g.alive x = true → (∃ c ∈ s, g.HasChild x c) →
    (∀ c, g.HasChild x c → g.alive c = true → c ∈ s) → x ∈ s

/-- What a disappearance of an entity brings about. -/
structure Downfall (g : Graph) (id : EntityId) (changes : List StateChange) (h : Graph) : Prop where
  idle : g.alive id = false → changes = [] ∧ h = g
  least : g.alive id = true → IsLeast {s | g.Collapse id s} {x | g.alive x = true ∧ h.alive x = false}
  lowered : ∀ x, h.alive x = true → g.alive x = true
  reports : g.Reports changes h
  rest : g.UpToFlags h

theorem mem_childKinds : (k, kind) ∈ childKinds ↔ kind ∈ k.derivedFrom := by
  cases k <;> cases kind <;> decide

theorem hasChild_iff : g.HasChild x c ↔ ∃ k, g.kind? x = some k ∧ c ∈ g.children x k := by
  simp only [mem_children]
  constructor
  · intro held
    obtain ⟨⟨k, kind⟩, listed, known, near⟩ := held
    exact ⟨k, known, kind, mem_childKinds.mp listed, near⟩
  · intro held
    obtain ⟨k, known, kind, mem, near⟩ := held
    exact ⟨(k, kind), mem_childKinds.mpr mem, known, near⟩

/-- Such a set holds whatever may fall. -/
theorem Collapse.mem_of_falls {s : Set EntityId} (collapse : g.Collapse id s) (falls : g.FallsWith id x) : x ∈ s := by
  induction falls with
  | start mine => exact mine.1 ▸ collapse.start
  | endpoint _ known mem active ih =>
    obtain ⟨kind, endpoint, near⟩ := mem_endpointsOf.mp mem
    exact collapse.endpoints _ ih known kind ((EntityKind.mem_endpoints kind).mpr endpoint) _ near active
  | @derived x c k known active child _ _ ih ihs =>
    refine collapse.derived x active ⟨c, ih, hasChild_iff.mpr ⟨k, known, child⟩⟩ fun y below before => ?_
    obtain ⟨k', known', mem⟩ := hasChild_iff.mp below
    obtain rfl := kind_unique known known'
    exact ihs y mem before

/-- What has fallen is such a set, once whatever was backed is backed still or has fallen. -/
theorem collapse_fallen (wf : g.WellFormed) (known : g.kind? id = some k)
    (run : Run (Action.Flags false (g.FallsWith id)) g changes h) (active : g.alive id = true)
    (dead : h.alive id = false) (upheld : ∀ x, g.Backed x → h.Justified x)
    (contents : k = .participant → ∀ y ∈ g.endpointsOf id, h.alive y = false) :
    g.Collapse id {x | g.alive x = true ∧ h.alive x = false} := by
  refine ⟨⟨active, dead⟩, ?_, ?_⟩
  · intro p fallen participant kind endpoint y near before
    obtain same | ⟨falls, -⟩ := run.alive_eq_or (x := p)
    · simp [fallen.1, fallen.2] at same
    · obtain ⟨rfl, -⟩ := falls.of_participant wf participant
      refine ⟨before, contents (kind_unique known participant) y ?_⟩
      exact mem_endpointsOf.mpr ⟨kind, (EntityKind.mem_endpoints kind).mp endpoint, near⟩
  · intro x before fallen rest
    refine ⟨before, ?_⟩
    obtain ⟨c, ⟨activec, -⟩, below⟩ := fallen
    obtain ⟨k, knownx, child⟩ := hasChild_iff.mp below
    cases after : h.alive x
    · rfl
    · obtain ⟨k', known', y, child', alive⟩ := upheld x ⟨k, knownx, c, child, activec⟩ after
      rw [run.alike.kind?] at known'
      rw [run.alike.children] at child'
      have gone := (rest y (hasChild_iff.mpr ⟨k', known', child'⟩) (run.alive_before alive)).2
      simp [gone] at alive

theorem deactivateBy_downfall (order : Arrangement) (wf : g.WellFormed) (known : g.kind? id = some k) :
    (deactivateBy order id).Ends g (g.Downfall id) fun _ _ => False := by
  refine ((deactivateWithinBy_falls order wf known).and
    (deactivateWithinBy_subsides order wf known k.cascade_le)).imp ?_ fun _ _ fails => fails.1
  intro changes h held
  obtain ⟨run, ⟨subsides, dead⟩, contents⟩ := held
  refine ⟨fun idle => ?_, fun active => ⟨?_, ?_⟩, fun x => run.alive_before, run.reports, run.upToFlags⟩
  · -- Nothing falls with an inactive entity.
    have same : ∀ x, h.alive x = g.alive x := fun x => by
      obtain same | ⟨falls, -⟩ := run.alive_eq_or (x := x)
      · exact same
      · obtain ⟨y, rfl, active⟩ := falls.exists_start
        simp [idle] at active
    exact ⟨run.reports.eq_nil same, run.upToFlags.eq_of_alive .refl same⟩
  · exact collapse_fallen wf known run active dead subsides.upheld (contents active)
  · intro s collapse x fallen
    obtain same | ⟨falls, -⟩ := run.alive_eq_or (x := x)
    · simp [fallen.1, fallen.2] at same
    · exact collapse.mem_of_falls falls

/-- What falls is settled, so the graph is, and the changes are but for their order. -/
theorem Downfall.unique {h' : Graph} (downfall : g.Downfall id changes h) (downfall' : g.Downfall id changes' h') :
    h' = h ∧ changes'.Perm changes := by
  have same : h' = h := by
    cases before : g.alive id
    · rw [(downfall.idle before).2, (downfall'.idle before).2]
    · refine downfall'.rest.eq_of_alive downfall.rest fun x => ?_
      have sets := (downfall'.least before).unique (downfall.least before)
      have fallen := Set.ext_iff.mp sets x
      have lowered := downfall.lowered x
      have lowered' := downfall'.lowered x
      simp only [Set.mem_ofPred_eq] at fallen
      grind
  subst same
  exact ⟨rfl, downfall.reports.perm downfall'.reports⟩

/-- An entity that disappears takes down the least set that has to go with it, and nothing at all if it
was inactive. In whatever order neighbors are visited, the outcome is the same. -/
theorem Built.disappeared_least (built : g.Built) (known : g.kind? id = some k) (discovered : k ≠ .domain) :
    ∃ changes h, apply (.disappeared id) g = .ok changes h ∧ g.Downfall id changes h ∧
      ∀ order : Arrangement, ∃ changes', deactivateBy order id g = .ok changes' h ∧ changes'.Perm changes := by
  have wf := built.wellFormed
  have pass : g.expectDiscovered id = .ok () := expectDiscovered_eq_ok.mpr ⟨k, known, discovered⟩
  have ends : (apply (.disappeared id)).Ends g (g.Downfall id) fun _ _ => False := by
    simp only [apply, ends_bind, ends_liftStorage, ends_read, pass, reduceCtorEq, false_implies, implies_true,
      and_true, forall_const, ← deactivateBy_asListed]
    exact deactivateBy_downfall .asListed wf known
  obtain ⟨changes, h, run, downfall⟩ := ends.exists_ok
  refine ⟨changes, h, run, downfall, fun order => ?_⟩
  obtain ⟨changes', h', run', downfall'⟩ := (deactivateBy_downfall order wf known).exists_ok
  obtain ⟨rfl, perm⟩ := downfall.unique downfall'
  exact ⟨changes', run', perm⟩

/-- Two readers of one topic share a locator and run in processes of one user. The participant of the first
one takes its reader, its process and the locator that only its reader uses, and leaves what they share. -/
theorem Built.disappeared_least_shared :
    let reader (byte : UInt8) (process : String) (locators : List String) : Operation :=
      .ingest ⟨⟨1⟩, .discovered, .reader ⟨⟨.replicate 16 byte⟩, "reader",
        ⟨⟨.replicate 16 (byte + 1)⟩, "node", "host", "user", process, none⟩, ⟨"square", "ShapeType"⟩, locators⟩⟩
    let g := [.create .domain "0" (.domain 0), reader 1 "first" ["udp:1", "udp:2"],
      reader 3 "second" ["udp:1"]].foldl Operation.act ∅
    g.Built ∧ g.kind? ⟨5⟩ = some .participant ∧ g.alive ⟨5⟩ = true ∧
      ∃ changes h, apply (.disappeared ⟨5⟩) g = .ok changes h ∧ g.Downfall ⟨5⟩ changes h ∧
        changes.map (·.id) = [⟨5⟩, ⟨7⟩, ⟨9⟩, ⟨4⟩] ∧
        ∀ order : Arrangement, ∃ changes', deactivateBy order ⟨5⟩ g = .ok changes' h ∧ changes'.Perm changes := by
  intro reader g
  have built : g.Built := Built.empty.foldl _
  have participant : g.kind? ⟨5⟩ = some .participant := by decide +kernel
  have active : g.alive ⟨5⟩ = true := by decide +kernel
  have fallen : (match apply (.disappeared ⟨5⟩) g with
      | .ok changes _ => changes.map (·.id)
      | .error .. => []) = [⟨5⟩, ⟨7⟩, ⟨9⟩, ⟨4⟩] := by decide +kernel
  clear_value g
  obtain ⟨changes, h, run, downfall, ordered⟩ := Built.disappeared_least built participant (by decide)
  rw [run] at fallen
  exact ⟨built, participant, active, changes, h, run, downfall, fallen, ordered⟩

end DiscoveryGraph.Graph
