import Mathlib.Data.List.Nodup
import DiscoveryGraph.Proofs.Discovery.Operation
import DiscoveryGraph.Proofs.Lifecycle.CallTree
import DiscoveryGraph.Proofs.Lifecycle.Worklist

/-! Termination of what a change of state sets off. In every graph that public operations build, whatever its flags
and however parents are shared, the worklist of an activation is emptied and the recursion of a deactivation returns,
from every identifier. The bounds on visits and on depth never cut either of them short. -/
namespace DiscoveryGraph
namespace Graph
open Update CallTree
variable {g h : Graph} {id x : EntityId} {kind : EntityKind} {t : CallTree}

/-- The entities that are active. -/
def activeIds (g : Graph) : List EntityId := g.entities.keys.filter g.alive

theorem mem_activeIds : x ∈ g.activeIds ↔ g.alive x = true := by
  rw [activeIds, List.mem_filter, and_iff_right_iff_imp]
  intro active
  rw [Std.ExtTreeMap.mem_keys, ← Std.ExtTreeMap.contains_iff_mem]
  exact contains_iff.mpr (exists_of_alive active)

/-- How what is set off at an identifier comes to an end. -/
structure Terminates (g : Graph) (id : EntityId) : Prop where
  /-- The worklist that starts with an entity has one end, at which it is empty, and the activation has come to it. -/
  emptied : g.kind? id ≠ none → ∃ n ≤ Activation.chainSize g Activation.chainLength id, ∃ run h,
    Activation.Loop { pending := [id] } g n (.ok run h) ∧ run.pending = [] ∧
      (∀ m r, Activation.Loop { pending := [id] } g m r → m = n ∧ r = .ok run h) ∧
      activate id g = .ok run.changes h
  /-- The calls that deactivate an entity make up one tree, and the deactivation has made them. -/
  returned : g.kind? id ≠ none → ∃ t h, g.Unfolds id t h ∧
    (∀ t' h', g.Unfolds id t' h' → t' = t ∧ h' = h) ∧ deactivate id g = .ok t.changes h
  /-- So do the calls that refresh dependents, of whichever kind what they depend on is taken to be. -/
  refreshed : ∀ kind : EntityKind, ∃ ts h, g.Refreshes id kind.dependents ts h ∧
    (∀ ts' h', g.Refreshes id kind.dependents ts' h' → ts' = ts ∧ h' = h) ∧
      refreshDependents deactivate id kind g = .ok (allChanges ts) h
  /-- What does not exist is refused at once. -/
  refused : g.kind? id = none → Activation.Loop { pending := [id] } g 1 (.error (.entityNotFound id) g) ∧
    (∀ m r, Activation.Loop { pending := [id] } g m r → m = 1 ∧ r = .error (.entityNotFound id) g) ∧
      activate id g = .error (.entityNotFound id) g ∧ deactivate id g = .error (.entityNotFound id) g
  /-- In one tree nothing is switched off twice, so that no more calls take effect than there are active entities. -/
  once : ∀ t h, g.Unfolds id t h → (t.changes.map (·.id)).Nodup ∧
    (∀ change ∈ t.changes, change.active = false ∧ g.alive change.id = true ∧ h.alive change.id = false) ∧
      t.changes.length ≤ g.activeIds.length

theorem activate_unknown (unknown : g.kind? id = none) : activate id g = .error (.entityNotFound id) g := by
  have missing := kind?_eq_none.mp unknown
  simp [Activation.activate_eq, Activation.chainLength, Activation.chainSize, Activation.visits, Activation.visit,
    missing, lookup, Update.read, Bind.bind, EStateM.bind]

theorem deactivate_unknown (unknown : g.kind? id = none) : deactivate id g = .error (.entityNotFound id) g := by
  have missing := kind?_eq_none.mp unknown
  simp [deactivate, cascadeLength, deactivateWithin, missing, lookup, Update.read, Bind.bind, EStateM.bind]

/-- What the effective calls of a tree switch off was active and is so no longer, each time another entity. -/
theorem Unfolds.once (tree : g.Unfolds id t h) : (t.changes.map (·.id)).Nodup ∧
    (∀ change ∈ t.changes, change.active = false ∧ g.alive change.id = true ∧ h.alive change.id = false) ∧
      t.changes.length ≤ g.activeIds.length := by
  have reports := tree.run.reports
  have lowered : ∀ change ∈ t.changes,
      change.active = false ∧ g.alive change.id = true ∧ h.alive change.id = false := fun change mem => by
    obtain ⟨-, before, after⟩ := (reports.mem_iff change).mp mem
    have off := tree.run.active_of_flags change mem
    rw [off] at before after
    exact ⟨off, before, after⟩
  have within : t.changes.map (·.id) ⊆ g.activeIds := fun x mem => by
    obtain ⟨change, told, rfl⟩ := List.mem_map.mp mem
    exact mem_activeIds.mpr (lowered change told).2.1
  refine ⟨reports.once, lowered, ?_⟩
  rw [← List.length_map (·.id)]
  exact reports.once.length_le_of_subset within

/-- In every graph that was built, whatever is set off comes to an end, from every identifier. -/
theorem Built.propagation_terminates (built : g.Built) (id : EntityId) : g.Terminates id := by
  have wf := built.wellFormed
  constructor
  case emptied =>
    intro there
    obtain ⟨kind, known⟩ := Option.ne_none_iff_exists'.mp there
    obtain ⟨n, few, run, h, loop, done, activated⟩ := Activation.loop_ends wf known
    exact ⟨n, few, run, h, loop, done, fun _ _ other => other.unique loop, activated⟩
  case returned =>
    intro there
    obtain ⟨kind, known⟩ := Option.ne_none_iff_exists'.mp there
    obtain ⟨_, h, ended, t, tree, rfl⟩ := (deactivate_returns wf known).exists_ok
    exact ⟨t, h, tree, fun _ _ other => other.unique tree, ended⟩
  case refreshed =>
    intro kind
    obtain ⟨_, h, ended, ts, trees, rfl⟩ := (refreshDependents_returns wf).exists_ok
    exact ⟨ts, h, trees, fun _ _ other => other.unique trees, ended⟩
  case refused =>
    intro unknown
    have loop := Activation.loop_unknown unknown
    exact ⟨loop, fun _ _ other => other.unique loop, activate_unknown unknown, deactivate_unknown unknown⟩
  case once => exact fun _ _ tree => tree.once

/-- A participant, with a writer and a reader that share a topic and a locator, goes down under a user that is
already inactive: six calls take effect, and eight entities were active. -/
theorem Built.propagation_terminates_shared :
    let participant : ParticipantInfo := ⟨⟨.replicate 16 1⟩, "node", "host", "user", "process", none⟩
    let writer : Announcement := .writer ⟨⟨.replicate 16 2⟩, "writer", participant, ⟨"square", "Shape"⟩, ["udp:1"]⟩
    let reader : Announcement := .reader ⟨⟨.replicate 16 3⟩, "reader", participant, ⟨"square", "Shape"⟩, ["udp:1"]⟩
    let g := [.create .domain "0" (.domain 0), .ingest ⟨⟨1⟩, .discovered, writer⟩, .ingest ⟨⟨1⟩, .discovered, reader⟩,
      .setActive ⟨3⟩ false].foldl Operation.act ∅
    g.Built ∧ g.alive ⟨3⟩ = false ∧ g.Terminates ⟨5⟩ ∧ g.activeIds.length = 8 ∧
      ∃ t h, g.Unfolds ⟨5⟩ t h ∧ t.changes.length = 6 := by
  intro participant writer reader g
  have built : g.Built := Built.empty.foldl _
  have known : g.kind? ⟨5⟩ = some .participant := by decide +kernel
  have idle : g.alive ⟨3⟩ = false := by decide +kernel
  have active : g.activeIds.length = 8 := by decide +kernel
  have told : (answer? (deactivate ⟨5⟩) g).map List.length = some 6 := by decide +kernel
  clear_value g
  have terminates := Built.propagation_terminates built ⟨5⟩
  obtain ⟨t, h, tree, -, ended⟩ := terminates.returned (by simp [known])
  refine ⟨built, idle, terminates, active, t, h, tree, ?_⟩
  simpa [answer?, ended] using told

end Graph
end DiscoveryGraph
