import DiscoveryGraph.Proofs.Discovery.Operation
import DiscoveryGraph.Proofs.Discovery.Repetition
import DiscoveryGraph.Proofs.Monitor.Call

/-! Repeating a notification. Whatever a graph was built by, a notification that it accepts changes
nothing when it comes again, and a service that applies it twice counts and delivers nothing the
second time. -/
namespace DiscoveryGraph

namespace Service
open DiscoveryGraph.Graph
variable {n : Notification} {service service' : Service} {events : List Event}

/-- Nothing is counted and nothing delivered where nothing has changed. -/
theorem settled_nil {d : EntityId} {listener : Option Nat} : service.settled d listener [] = service := by
  have unheard : received listener [] = [] := by cases listener <;> rfl
  simp [settled, Event.ofChanges, Event.total, unheard]

/-- A call that succeeds has changed the graph and left the lock of the count as it was. -/
theorem ingest_of_apply_eq_ok (done : Service.apply n service = .ok events service') :
    ∃ changes, Graph.ingest n service.graph = .ok changes service'.graph ∧
      service'.counter.poisoned = false := by
  rw [apply_eq] at done
  cases run : Graph.ingest n service.graph with
  | error e g =>
    rw [run] at done
    cases done
  | ok changes g =>
    rw [run] at done
    dsimp only at done
    split at done
    · cases done
    · rename_i unlocked
      cases done
      exact ⟨changes, rfl, by simpa [settled] using unlocked⟩

/-- A notification that leaves the graph alone leaves the service alone. -/
theorem apply_eq_self (idle : Graph.ingest n service.graph = .ok [] service.graph)
    (unlocked : service.counter.poisoned = false) : Service.apply n service = .ok [] service := by
  rw [apply_eq, idle]
  simp only [unlocked, Bool.false_eq_true, if_false]
  rw [settled_nil]
  rfl

end Service

namespace Graph
open Update

/-- A notification of any status that was accepted is accepted again right away, and changes nothing
then: no flag, no relation, no entity, no count, and no event is delivered. -/
theorem ingest_repeated {g g' : Graph} {n : Notification} {changes : List StateChange} (built : g.Built)
    (accepted : ingest n g = .ok changes g') :
    ingest n g' = .ok [] g' ∧
      ∀ service events service', service.graph = g → Service.apply n service = .ok events service' →
        Service.apply n service' = .ok [] service' := by
  have wf := built.wellFormed
  have again : ∀ changes h, ingest n g = .ok changes h → ingest n h = .ok [] h := fun changes h run => by
    obtain ⟨domain, ingests⟩ := (ends_iff.mp (ingest_ends wf)).1 changes h run
    exact ingests.repeated wf domain
  refine ⟨again changes g' accepted, ?_⟩
  rintro service events service' rfl done
  obtain ⟨changes', run, unlocked⟩ := Service.ingest_of_apply_eq_ok done
  exact Service.apply_eq_self (again changes' _ run) unlocked

/-- A writer whose participant was removed comes back with other locators, one of them twice. -/
theorem ingest_repeated_rebound :
    let info : EndpointInfo := ⟨⟨.replicate 16 2⟩, "writer",
      ⟨⟨.replicate 16 1⟩, "node", "host", "user", "process", none⟩, ⟨"square", "ShapeType"⟩, ["udp", "shm"]⟩
    let g := (Operation.ingest ⟨⟨1⟩, .removed, .participant info.participant⟩).act
      ((Operation.ingest ⟨⟨1⟩, .discovered, .writer info⟩).act
        ((Operation.create .domain "0" (.domain 0)).act ∅))
    let n : Notification := ⟨⟨1⟩, .discovered, .writer { info with locators := ["tcp", "udp", "tcp"] }⟩
    ∃ changes g', ingest n g = .ok changes g' ∧ changes.length = 8 ∧ ingest n g' = .ok [] g' := by
  intro info g n
  have built : g.Built := .step _ (.step _ (.step _ .empty))
  have outcome : (match ingest n g with
      | .ok changes _ => decide (changes.length = 8)
      | .error _ _ => false) = true := by decide +kernel
  cases run : ingest n g with
  | ok changes g' =>
    rw [run] at outcome
    exact ⟨changes, g', rfl, of_decide_eq_true outcome, (ingest_repeated built run).1⟩
  | error e g' =>
    rw [run] at outcome
    cases outcome

end Graph
end DiscoveryGraph
