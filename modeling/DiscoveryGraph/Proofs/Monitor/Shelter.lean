import DiscoveryGraph.Proofs.Discovery.Shelter
import DiscoveryGraph.Proofs.Monitor.Request

/-! Shelter along a run of requests. Participants and endpoints, processes and users are active only
in active processes, users and hosts, as long as no notification creates something that it strands
below an inactive ancestor; the first one that does breaks this. -/
namespace DiscoveryGraph
namespace Service
open DiscoveryGraph.Graph
variable {service service' : Service} {request : Request} {requests : List Request}

/-- The request is a notification that creates something stranded. -/
def Strands (service : Service) : Request → Prop
  | .apply n => service.graph.Strands n
  | .start .. | .stop _ | .clear _ => False

/-- A request keeps the shelter exactly if it strands nothing. -/
theorem Steps.sheltered_iff (steps : Steps service request service') (sound : service.Sound)
    (room : service'.graph.lastId.next? ≠ none) (sheltered : service.graph.Sheltered) :
    service'.graph.Sheltered ↔ ¬ service.Strands request := by
  have wf := sound.regular.wellFormed
  cases steps with
  | declined other _ =>
    cases request with
    | apply n => exact absurd rfl (other n)
    | start | stop | clear => exact iff_of_true sheltered id
  | refused fails refusal =>
    refine iff_of_true sheltered ?_
    intro held
    obtain ⟨domain, valid, present, -⟩ := held
    exact not_refusal_of_present wf domain valid present fails refusal
  | exhausted out _ => exact absurd out.2.1 room
  | started kind enabled =>
    refine iff_of_true (Graph.sheltered_iff.mpr fun x y => ?_) id
    rw [exposed_born wf enabled]
    simpa using Graph.sheltered_iff.mp sheltered x y
  | applied domain ingests => exact ingests.sheltered_iff wf domain sheltered
  | stopped _ lowered =>
    refine iff_of_true (Graph.sheltered_iff.mpr fun x y exposed => ?_) id
    exact Graph.sheltered_iff.mp sheltered x y (lowered.covered x y exposed)
  | cleared _ _ _ without => exact iff_of_true (without.sheltered sheltered) id

theorem sheltered_new {config : Config} (new : Service.new config = .ok service) : service.graph.Sheltered := by
  obtain rfl := eq_of_new new
  intro x y held
  obtain ⟨kind, k, known, -⟩ := held
  cases known.symm.trans (kind?_eq_none.mpr Std.ExtTreeMap.getElem?_empty)

/-- As long as there are identifiers left, whatever is active in a participant, a process, a user or
a host keeps this active throughout a run of requests exactly if no request strands what it creates. -/
theorem sheltered_iff_never_strands {config : Config} (new : Service.new config = .ok service)
    (requests : List Request) (room : (service.run requests).graph.lastId.next? ≠ none) :
    (∀ n, (service.run (requests.take n)).graph.Sheltered) ↔
      ∀ n request, requests[n]? = some request → ¬ (service.run (requests.take n)).Strands request := by
  have start : service.Reachable := .new new
  refine run_iff_never (·.graph.Sheltered) Strands (sheltered_new new) fun n request here sheltered => ?_
  have reached : (service.run (requests.take n)).Reachable := start.run
  have enough := room_take (n := n + 1) start room
  rw [run_take_succ here] at enough ⊢
  exact reached.steps.sheltered_iff reached.sound enough sheltered

/-- A participant comes and goes, and another process of the same user starts: not all of these
requests keep what they create off an inactive user. -/
theorem sheltered_iff_never_strands_restart :
    let participant (byte : UInt8) (process : String) : Announcement :=
      .participant ⟨⟨.replicate 16 byte⟩, "node", "host", "user", process, none⟩
    let requests : List Request := [.start 0 none, .apply ⟨⟨1⟩, .discovered, participant 1 "first"⟩,
      .apply ⟨⟨1⟩, .removed, participant 1 "first"⟩, .apply ⟨⟨1⟩, .discovered, participant 2 "second"⟩]
    ¬ ∀ n request, requests[n]? = some request →
      ¬ (run { config := {} } (requests.take n)).Strands request := by
  intro participant requests never
  have all := (sheltered_iff_never_strands new_default requests (by decide +kernel)).mpr never 4
  have dead := all ⟨6⟩ ⟨3⟩ ⟨.process, .user, by decide +kernel, rfl, by decide +kernel⟩ (by decide +kernel)
  revert dead
  decide +kernel

/-- Reachable services need not be sheltered: a participant comes and goes, and another process of
the same user starts. The new process is active then, and its user is not. -/
theorem process_outlives_user :
    let participant (byte : UInt8) (process : String) : Announcement :=
      .participant ⟨⟨.replicate 16 byte⟩, "node", "host", "user", process, none⟩
    let service : Service := run { config := {} } [.start 0 none, .apply ⟨⟨1⟩, .discovered, participant 1 "first"⟩,
      .apply ⟨⟨1⟩, .removed, participant 1 "first"⟩, .apply ⟨⟨1⟩, .discovered, participant 2 "second"⟩]
    service.Reachable ∧ service.graph.kind? ⟨6⟩ = some .process ∧ ⟨3⟩ ∈ service.graph.neighbors ⟨6⟩ .user ∧
      service.graph.alive ⟨6⟩ = true ∧ service.graph.alive ⟨3⟩ = false := by
  intro participant service
  exact ⟨(Reachable.new new_default).run, by decide +kernel, by decide +kernel, by decide +kernel,
    by decide +kernel⟩

end Service
end DiscoveryGraph
