import DiscoveryGraph.Proofs.Discovery.Residue
import DiscoveryGraph.Proofs.Monitor.Identity
import DiscoveryGraph.Proofs.Monitor.Support

/-! What is left once every domain has been cleared. As long as the identifiers last it is loose locators
and nothing else, and each of them was lost on the way: a notification took it from its last endpoint,
and no later one has named it. So clearing leaves an empty graph exactly if nothing has been lost. -/
namespace DiscoveryGraph
namespace Service
open DiscoveryGraph.Graph
variable {service service' : Service} {request : Request} {x : EntityId}

/-- The request is a notification that takes a locator from the only endpoint that is bound to it. -/
def Abandons (service : Service) (x : EntityId) : Request → Prop
  | .apply n => service.graph.Abandons n x
  | .start .. | .stop _ | .clear _ => False

/-- The request is a notification that binds an endpoint to the locator. -/
def Recovers (service : Service) (x : EntityId) : Request → Prop
  | .apply n => service.graph.Recovers n x
  | .start .. | .stop _ | .clear _ => False

/-- One of the requests of a run binds an endpoint to the locator. -/
def Retrieves (service : Service) (x : EntityId) : List Request → Prop
  | [] => False
  | request :: requests => service.Recovers x request ∨ (request.act service).Retrieves x requests

/-- One of the requests of a run takes the locator from its only endpoint, and no later one binds an
endpoint to it. -/
def Loses (service : Service) (x : EntityId) : List Request → Prop
  | [] => False
  | request :: requests =>
    service.Abandons x request ∧ ¬ (request.act service).Retrieves x requests ∨
      (request.act service).Loses x requests

/-- A request leaves those locators loose that it takes from their only endpoint, and those that were
loose before and that it does not bind anything to. -/
theorem Steps.loose_iff (steps : Steps service request service') (sound : service.Sound)
    (identified : service.graph.Identified) (lasting : request.exhausts service = false) :
    service'.graph.Loose x ↔ service.Abandons x request ∨ service.graph.Loose x ∧ ¬ service.Recovers x request := by
  have wf := sound.regular.wellFormed
  cases steps with
  | declined other _ =>
    cases request with
    | apply n => exact absurd rfl (other n)
    | start | stop | clear => simp [Abandons, Recovers]
  | @refused n _ fails refusal =>
    have refuses : ∀ existing, ¬ service.graph.Accepts n existing := fun _ accepted =>
      not_refusal_of_present wf accepted.domain accepted.valid accepted.present fails refusal
    simp [Abandons, Recovers, Graph.Abandons, Graph.Recovers, refuses]
  | exhausted out fails =>
    rw [Request.exhausts, fails, out.1] at lasting
    cases lasting
  | started kind enabled =>
    rw [loose_born_domain wf kind enabled]
    simp [Abandons, Recovers]
  | applied domain ingests => exact ingests.loose_iff wf domain identified
  | stopped _ stopped =>
    refine stopped.run.alike.loose_iff.trans ?_
    simp [Abandons, Recovers]
  | cleared domain cleared _ without =>
    refine (cleared.loose_iff wf domain without).trans ?_
    simp [Abandons, Recovers]

/-- After a run those locators are loose that it has lost, and those that were loose before and that it
has not retrieved. -/
theorem loose_run (requests : List Request) (reachable : service.Reachable) (lasting : service.lasts requests) :
    (service.run requests).graph.Loose x ↔
      service.graph.Loose x ∧ ¬ service.Retrieves x requests ∨ service.Loses x requests := by
  induction requests generalizing service with
  | nil => simp [run, Retrieves, Loses]
  | cons request requests ih =>
    simp only [lasts, Bool.and_eq_true, Bool.not_eq_true'] at lasting
    have step := reachable.steps.loose_iff (x := x) reachable.sound reachable.identified lasting.1
    show ((request.act service).run requests).graph.Loose x ↔ _
    rw [ih (reachable.step request) lasting.2, step, Retrieves, Loses]
    grind

/-- What is left once every domain has been cleared is what has been lost on the way. -/
theorem known_iff_loses {config : Config} (new : Service.new config = .ok service) (requests : List Request)
    (lasting : service.lasts requests) (cleared : ∀ d, (service.run requests).graph.kind? d ≠ some .domain) :
    (∃ k, (service.run requests).graph.kind? x = some k) ↔ service.Loses x requests := by
  have start : service.Reachable := .new new
  have lost : (service.run requests).graph.Loose x ↔ service.Loses x requests := by
    rw [loose_run requests start lasting, Loose, unknown_new new]
    simp
  rw [← lost]
  constructor
  · intro known
    obtain ⟨k, known⟩ := known
    exact loose_of_no_domain start.run.sound.regular (populated_run new lasting) cleared known
  · intro loose
    exact ⟨.locator, loose.1⟩

/-- As long as the identifiers last, the graph is empty once every domain has been cleared exactly if no
locator has been lost on the way. -/
theorem empty_iff_loses_nothing {config : Config} (new : Service.new config = .ok service)
    (requests : List Request) (lasting : service.lasts requests)
    (cleared : ∀ d, (service.run requests).graph.kind? d ≠ some .domain) :
    (service.run requests).graph = { lastId := (service.run requests).graph.lastId } ↔
      ∀ x, ¬ service.Loses x requests := by
  have reachable : (service.run requests).Reachable := (Reachable.new new).run
  constructor
  · intro empty x loses
    obtain ⟨k, known⟩ := (known_iff_loses new requests lasting cleared).mpr loses
    rw [empty] at known
    cases known
  · intro keeps
    refine reachable.sound.regular.wellFormed.eq_of_unknown fun x => ?_
    cases known : (service.run requests).graph.kind? x with
    | none => rfl
    | some k => exact absurd ((known_iff_loses new requests lasting cleared).mp ⟨k, known⟩) (keeps x)

/-- A reader moves on to another locator and takes up the first one again before its domain is cleared:
nothing is left, and so nothing has been lost. -/
theorem empty_iff_loses_nothing_return :
    let reader (status : Status) (locators : List String) : Request :=
      .apply ⟨⟨1⟩, status, .reader ⟨⟨.replicate 16 2⟩, "reader",
        ⟨⟨.replicate 16 1⟩, "node", "host", "user", "process", none⟩, ⟨"square", "ShapeType"⟩, locators⟩⟩
    let requests : List Request := [.start 0 none, reader .discovered ["udp:1"], reader .updated ["udp:2"],
      reader .updated ["udp:1", "udp:2"], .clear ⟨1⟩]
    ∀ x, ¬ Loses { config := {} } x requests := by
  intro reader requests
  have reachable : (run { config := {} } requests).Reachable := (Reachable.new new_default).run
  exact (empty_iff_loses_nothing new_default requests (lasts_of_demand (sound_new new_default) (by decide))
    (reachable.sound.regular.wellFormed.kind?_ne (by decide +kernel))).mp (by decide +kernel)

/-- Clearing every domain may leave something behind: a reader moves on to another locator, and its
domain is cleared. The first locator is still there then. -/
theorem locator_outlives_domains :
    let reader (status : Status) (locators : List String) : Request :=
      .apply ⟨⟨1⟩, status, .reader ⟨⟨.replicate 16 2⟩, "reader",
        ⟨⟨.replicate 16 1⟩, "node", "host", "user", "process", none⟩, ⟨"square", "ShapeType"⟩, locators⟩⟩
    let service : Service := run { config := {} } [.start 0 none, reader .discovered ["udp:1"],
      reader .updated ["udp:2"], .clear ⟨1⟩]
    service.Reachable ∧ service.monitors.isEmpty ∧ (∀ d, service.graph.kind? d ≠ some .domain) ∧
      service.graph.kind? ⟨8⟩ = some .locator := by
  intro reader service
  have reachable : service.Reachable := (Reachable.new new_default).run
  exact ⟨reachable, by decide +kernel, reachable.sound.regular.wellFormed.kind?_ne (by decide +kernel),
    by decide +kernel⟩

end Service
end DiscoveryGraph
