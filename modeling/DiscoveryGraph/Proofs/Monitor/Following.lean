import DiscoveryGraph.Proofs.Discovery.Following
import DiscoveryGraph.Proofs.Monitor.Inquiry

/-! Topics and their endpoints along a run of requests. A topic is inactive once all of its endpoints are, as
long as nobody discovers it then; the first notification that does breaks this. A topic without endpoints does
as it is told. -/
namespace DiscoveryGraph
namespace Service
open DiscoveryGraph.Graph Update
variable {service : Service} {request : Request} {t : EntityId}

/-- The request is a notification that discovers a topic whose endpoints are all inactive. -/
def Rouses (service : Service) : Request → Prop
  | .apply n => service.graph.Rouses n
  | .start .. | .stop _ | .clear _ => False

/-- What a request says of a topic: a notification by announcing it, and the stop of its domain. -/
def told (service : Service) (t : EntityId) : Request → Option Bool
  | .apply n => service.graph.told n t
  | .stop d => if d ∈ service.monitors ∧ d ∈ service.graph.neighbors t .domain then some false else none
  | .start .. | .clear _ => none

/-- Topics follow their endpoints after a request exactly if it rouses none. -/
theorem followed_act_iff (sound : service.Sound) (followed : service.graph.Followed) :
    (request.act service).graph.Followed ↔ ¬ service.Rouses request := by
  have regular := sound.regular
  have wf := regular.wellFormed
  cases request with
  | apply n =>
    rw [graph_apply]
    exact followed_ingest_iff regular followed
  | start number listener =>
    refine iff_of_true ?_ id
    obtain same | created := @graph_start service number listener
    · rwa [same]
    · rw [created]
      exact (create_builds service.graph).after.followed regular.rooted wf followed
  | stop d =>
    refine iff_of_true ?_ id
    rw [graph_stop]
    split
    · rename_i monitored
      exact followed_stopDomain regular (sound.domains d monitored) followed
    · exact followed
  | clear d =>
    refine iff_of_true ?_ id
    rw [graph_clear]
    split
    · rename_i monitored
      exact followed_clearDomain regular (sound.domains d monitored) followed
    · exact followed

/-- A topic that is left without endpoints keeps its flag, but for what the request says of it. -/
theorem alive_act (sound : service.Sound) (topic : service.graph.kind? t = some .topic)
    (stays : (request.act service).graph.kind? t = some .topic)
    (idle : ∀ y, y ∉ (request.act service).graph.children t .topic) :
    (request.act service).graph.alive t = (service.told t request).getD (service.graph.alive t) := by
  have regular := sound.regular
  have wf := regular.wellFormed
  cases request with
  | apply n =>
    rw [graph_apply] at idle ⊢
    exact alive_ingest wf topic idle
  | start number listener =>
    obtain same | created := @graph_start service number listener
    · rw [same]
      rfl
    · rw [created]
      exact ((create_builds service.graph).after.enlarges wf).alive topic
  | stop d =>
    rw [graph_stop, told]
    by_cases monitored : d ∈ service.monitors
    · have stopped := alive_stopDomain regular (sound.domains d monitored) topic
      rw [if_pos monitored, Graph.apply, stopped]
      by_cases near : d ∈ service.graph.neighbors t .domain <;> simp [monitored, near]
    · simp [monitored]
  | clear d =>
    rw [graph_clear] at stays ⊢
    by_cases monitored : d ∈ service.monitors
    · rw [if_pos monitored] at stays ⊢
      exact alive_clearDomain wf (sound.domains d monitored) stays
    · rw [if_neg monitored]
      rfl

/-- Throughout a run of requests a topic with endpoints is inactive whenever all of them are, exactly if no
request discovers a topic whose endpoints are all inactive. A topic that a request leaves without endpoints is
active as the request says, or as before where it says nothing of the topic. -/
theorem followed_iff_never_rouses {config : Config} (new : Service.new config = .ok service)
    (requests : List Request) :
    ((∀ n, (service.run (requests.take n)).graph.Followed) ↔
      ∀ n request, requests[n]? = some request → ¬ (service.run (requests.take n)).Rouses request) ∧
    ∀ n request t, requests[n]? = some request →
      let before := service.run (requests.take n)
      let after := service.run (requests.take (n + 1))
      before.graph.kind? t = some .topic → after.graph.kind? t = some .topic →
        (∀ y, y ∉ after.graph.children t .topic) →
        after.graph.alive t = (before.told t request).getD (before.graph.alive t) := by
  have sound : ∀ n, (service.run (requests.take n)).Sound := fun n => (Reachable.new new).run.sound
  constructor
  · refine run_iff_never (·.graph.Followed) Rouses ?_ fun n request here followed => ?_
    · intro t topic
      rw [unknown_new new] at topic
      cases topic
    · rw [run_take_succ here]
      exact followed_act_iff (sound n) followed
  · intro n request t here before after topic stays idle
    simp only [after, run_take_succ here] at stays idle ⊢
    exact alive_act (sound n) topic stays idle

/-- A topic comes and goes by itself, a reader raises it and takes it down again, and it is discovered once
more: not all of these requests leave the topic behind its reader. -/
theorem followed_iff_never_rouses_again :
    let topic : Announcement := .topic ⟨"square", "ShapeType"⟩
    let reader : Announcement := .reader ⟨⟨.replicate 16 2⟩, "reader",
      ⟨⟨.replicate 16 1⟩, "node", "host", "user", "process", none⟩, ⟨"square", "ShapeType"⟩, []⟩
    let requests : List Request := [.start 0 none, .apply ⟨⟨1⟩, .discovered, topic⟩, .apply ⟨⟨1⟩, .removed, topic⟩,
      .apply ⟨⟨1⟩, .discovered, reader⟩, .apply ⟨⟨1⟩, .removed, reader⟩, .apply ⟨⟨1⟩, .discovered, topic⟩]
    let service : Service := { config := {} }
    (service.run (requests.take 2)).graph.alive ⟨2⟩ = true ∧ (service.run (requests.take 3)).graph.alive ⟨2⟩ = false ∧
      ¬ ∀ n request, requests[n]? = some request → ¬ (service.run (requests.take n)).Rouses request := by
  intro topic reader requests service
  obtain ⟨calm, told⟩ := followed_iff_never_rouses new_default requests
  refine ⟨by decide +kernel, ?_, fun never => ?_⟩
  · rw [told 2 (.apply ⟨⟨1⟩, .removed, topic⟩) ⟨2⟩ rfl (by decide +kernel) (by decide +kernel) (by decide +kernel)]
    decide +kernel
  · have down := calm.mpr never 6 ⟨2⟩ (by decide +kernel) ⟨⟨⟨7⟩, by decide +kernel⟩, by decide +kernel⟩
    revert down
    decide +kernel

/-- Topics of reachable services need not follow their endpoints: a reader comes and goes, and then its topic is
discovered. The topic is active then, and its only endpoint is not. -/
theorem topic_outlives_endpoints :
    let reader : Announcement := .reader ⟨⟨.replicate 16 2⟩, "reader",
      ⟨⟨.replicate 16 1⟩, "node", "host", "user", "process", none⟩, ⟨"square", "ShapeType"⟩, []⟩
    let service : Service := run { config := {} } [.start 0 none, .apply ⟨⟨1⟩, .discovered, reader⟩,
      .apply ⟨⟨1⟩, .removed, reader⟩, .apply ⟨⟨1⟩, .discovered, .topic ⟨"square", "ShapeType"⟩⟩]
    service.Reachable ∧ service.graph.kind? ⟨6⟩ = some .topic ∧ service.graph.children ⟨6⟩ .topic = [⟨7⟩] ∧
      service.graph.alive ⟨7⟩ = false ∧ service.graph.alive ⟨6⟩ = true := by
  intro reader service
  exact ⟨(Reachable.new new_default).run, by decide +kernel, by decide +kernel, by decide +kernel,
    by decide +kernel⟩

end Service
end DiscoveryGraph
