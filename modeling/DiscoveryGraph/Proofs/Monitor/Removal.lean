import DiscoveryGraph.Proofs.Discovery.Removal
import DiscoveryGraph.Proofs.Monitor.Identity

/-! Removals of an endpoint that differ in the locators they list. In every state that requests lead to, such
removals come to the same, unless the endpoint could be removed and just one of them lists a blank address. -/
namespace DiscoveryGraph
namespace Service
open DiscoveryGraph.Graph Update
variable {service : Service} {n m : Notification}

/-- Two removals of an endpoint that differ in their locators only end in the same way, with the same changes and
the same graph, exactly if both lists hold a blank address or neither does, or if the endpoint could not be removed
whatever is listed. A list without a blank address is ignored, in any state; a list with one has the removal refused
without a trace. -/
theorem Reachable.removals_concur (reachable : service.Reachable) (removed : n.status = .removed)
    (isEndpoint : n.entity.kind.isEndpoint) (same : m = n.withLocators m.entity.addresses) :
    (service.graph.Concur n m ↔
      n.entity.addresses.any Text.isBlank = m.entity.addresses.any Text.isBlank ∨
        ¬ service.graph.Acceptable (n.withLocators [])) ∧
    (m.entity.addresses.any Text.isBlank = false → Graph.ingest m = Graph.ingest (n.withLocators [])) ∧
    (m.entity.addresses.any Text.isBlank = true →
      ∃ cause, Graph.ingest m service.graph = .error (.validation cause) service.graph) := by
  have regular := reachable.sound.regular
  have identified := reachable.identified
  refine ⟨?_, fun legible => ?_, fun blank => ?_⟩
  · have iff : service.graph.Concur (n.withLocators n.entity.addresses) (n.withLocators m.entity.addresses) ↔ _ :=
      concur_withLocators_iff regular identified removed isEndpoint
    rwa [← same, n.withLocators_self] at iff
  · rw [same]
    exact ingest_withLocators removed legible
  · refine ingest_refuses regular identified fun acceptable => ?_
    rw [same, acceptable_withLocators isEndpoint, blank] at acceptable
    cases acceptable.2

/-- The removal of reader 7, which is bound to one locator, may list that locator, others or none, but no blank
one. -/
theorem Reachable.removals_concur_bound :
    let reader (locators : List String) : Announcement := .reader ⟨⟨.replicate 16 2⟩, "reader",
      ⟨⟨.replicate 16 1⟩, "node", "host", "user", "process", none⟩, ⟨"square", "ShapeType"⟩, locators⟩
    let removal (locators : List String) : Notification := ⟨⟨1⟩, .removed, reader locators⟩
    let service := Service.run { config := {} } [.start 0 none, .apply ⟨⟨1⟩, .discovered, reader ["udp:1"]⟩]
    service.Reachable ∧ service.graph.Concur (removal ["udp:1"]) (removal ["udp:2", "udp:3"]) ∧
      service.graph.Concur (removal [" "]) (removal ["udp:1", ""]) ∧
      ¬ service.graph.Concur (removal []) (removal [" "]) := by
  intro reader removal service
  have reachable : service.Reachable := (Reachable.new new_default).run
  have answers : (Update.answer? (Graph.ingest (removal [])) service.graph).isSome = true := by decide +kernel
  clear_value service
  have acceptable : service.graph.Acceptable (removal []) := by
    cases run : Graph.ingest (removal []) service.graph with
    | ok changes g => exact (ingest_accepts reachable.sound.regular reachable.identified).of_ok run
    | error e g => simp [Update.answer?, run] at answers
  refine ⟨reachable, ?_, ?_, fun concur => ?_⟩
  · exact (Reachable.removals_concur reachable (n := removal ["udp:1"]) rfl rfl rfl).1.mpr (.inl (by decide))
  · exact (Reachable.removals_concur reachable (n := removal [" "]) rfl rfl rfl).1.mpr (.inl (by decide))
  · obtain same | unacceptable :=
      (Reachable.removals_concur reachable (n := removal []) rfl rfl rfl).1.mp concur
    · revert same
      decide
    · exact unacceptable acceptable

/-- The locators of a removal are not simply ignored: a reader that is discovered can be removed with no locators
listed, and cannot be removed with a blank one. -/
theorem blank_locator_blocks_removal :
    let reader (locators : List String) : Announcement := .reader ⟨⟨.replicate 16 2⟩, "reader",
      ⟨⟨.replicate 16 1⟩, "node", "host", "user", "process", none⟩, ⟨"square", "ShapeType"⟩, locators⟩
    let removal (locators : List String) : Notification := ⟨⟨1⟩, .removed, reader locators⟩
    let service : Service := run { config := {} } [.start 0 none, .apply ⟨⟨1⟩, .discovered, reader []⟩]
    service.Reachable ∧ (removal [" "] = (removal []).withLocators [" "]) ∧
      (∃ changes g, Graph.ingest (removal []) service.graph = .ok changes g) ∧
      (∃ g, Graph.ingest (removal [" "]) service.graph =
        .error (.validation (.rejectedNotification (.blankLocator .dataReader ⟨.replicate 16 2⟩))) g) ∧
      ¬ service.graph.Concur (removal []) (removal [" "]) := by
  intro reader removal service
  have accepted : (Update.answer? (Graph.ingest (removal [])) service.graph).isSome = true := by decide +kernel
  have refused : (match Graph.ingest (removal [" "]) service.graph with
      | .ok .. => none
      | .error e _ => some e) =
        some (.validation (.rejectedNotification (.blankLocator .dataReader ⟨.replicate 16 2⟩))) := by decide +kernel
  refine ⟨(Reachable.new new_default).run, rfl, ?_⟩
  clear_value service
  cases run : Graph.ingest (removal []) service.graph with
  | error e g => simp [Update.answer?, run] at accepted
  | ok changes g =>
    cases run' : Graph.ingest (removal [" "]) service.graph with
    | ok changes' g' => simp [run'] at refused
    | error e g' =>
      simp only [run', Option.some.injEq] at refused
      subst refused
      refine ⟨⟨_, _, rfl⟩, ⟨_, rfl⟩, fun concur => ?_⟩
      obtain ⟨_, _, -, done⟩ | ⟨⟨_, failed⟩, -⟩ := concur
      · rw [run'] at done
        cases done
      · rw [run] at failed
        cases failed

end Service
end DiscoveryGraph
