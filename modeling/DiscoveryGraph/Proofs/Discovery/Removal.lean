import DiscoveryGraph.Proofs.Discovery.Acceptance
import DiscoveryGraph.Proofs.Discovery.Rediscovery

/-! The locators that the removal of an endpoint lists. Nothing is done with them, but the checks are the same
for every status, and they refuse a blank one. So a removal depends on whether its list holds a blank address,
and on nothing else in it. -/
namespace DiscoveryGraph

/-- The same announcement with other locators; participants and topics have none. -/
def Announcement.withLocators (addresses : List String) : Announcement → Announcement
  | participant info => participant info
  | topic info => topic info
  | reader info => reader { info with locators := addresses }
  | writer info => writer { info with locators := addresses }

def Notification.withLocators (n : Notification) (addresses : List String) : Notification :=
  { n with entity := n.entity.withLocators addresses }

theorem Notification.withLocators_self (n : Notification) : n.withLocators n.entity.addresses = n := by
  obtain ⟨d, status, entity⟩ := n
  cases entity <;> rfl

namespace Graph
open Update
variable {g : Graph} {d : EntityId} {n : Notification} {announcement : Announcement} {addresses others : List String}

/-- Both notifications are carried out with the same changes and leave the same graph, or both are refused and
leave the graph as it was. -/
def Concur (g : Graph) (n m : Notification) : Prop :=
  (∃ changes h, ingest n g = .ok changes h ∧ ingest m g = .ok changes h) ∨
    (∃ e, ingest n g = .error e g) ∧ ∃ e, ingest m g = .error e g

/-- All that the checks want to know of the listed addresses is whether one of them is blank. -/
theorem validate_withLocators (same : addresses.any Text.isBlank = others.any Text.isBlank) :
    g.validate d (announcement.withLocators addresses) = g.validate d (announcement.withLocators others) := by
  cases announcement with
  | participant | topic => rfl
  | reader info | writer info => simp only [Announcement.withLocators, validate, validateEndpoint, same]

/-- Once it has passed the checks, a removal reads no address. -/
theorem ingest_withLocators (removed : n.status = .removed)
    (same : addresses.any Text.isBlank = others.any Text.isBlank) :
    ingest (n.withLocators addresses) = ingest (n.withLocators others) := by
  have kind : (n.entity.withLocators addresses).kind = (n.entity.withLocators others).kind := by
    cases n.entity <;> rfl
  have name : (n.entity.withLocators addresses).name = (n.entity.withLocators others).name := by
    cases n.entity <;> rfl
  simp only [ingest, Notification.withLocators, removed, if_pos, validate_withLocators same, ingestRemoval, kind, name]

/-- Another list of locators makes a notification of an endpoint acceptable or not by its blank addresses alone. -/
theorem acceptable_withLocators (isEndpoint : n.entity.kind.isEndpoint) :
    g.Acceptable (n.withLocators addresses) ↔
      g.Acceptable (n.withLocators []) ∧ addresses.any Text.isBlank = false := by
  obtain ⟨d, status, entity⟩ := n
  cases entity with
  | participant | topic => cases isEndpoint
  | reader info | writer info =>
    constructor
    · intro acceptable
      obtain ⟨domain, ⟨⟨topic, locators⟩, participant⟩, admits, there⟩ := acceptable
      exact ⟨⟨domain, ⟨⟨topic, rfl⟩, participant⟩, admits, there⟩, locators⟩
    · intro held
      obtain ⟨⟨domain, ⟨⟨topic, -⟩, participant⟩, admits, there⟩, locators⟩ := held
      exact ⟨domain, ⟨⟨topic, locators⟩, participant⟩, admits, there⟩

/-- An acceptable removal is carried out. -/
theorem Acceptable.removal (acceptable : g.Acceptable n) (regular : g.Regular) (identified : g.Identified)
    (removed : n.status = .removed) : ∃ changes h, ingest n g = .ok changes h := by
  obtain ⟨id, has⟩ := acceptable.there removed
  have valid := (validate_iff regular identified).mpr
    ⟨acceptable.legible, identified.answers has, acceptable.admits⟩
  obtain ⟨changes, h, run, -⟩ := (ingest_removal_ends regular.wellFormed acceptable.domain valid removed).exists_ok
  exact ⟨changes, h, run⟩

/-- A notification that is not acceptable is refused without a trace. -/
theorem ingest_refuses (regular : g.Regular) (identified : g.Identified) (unacceptable : ¬ g.Acceptable n) :
    ∃ cause, ingest n g = .error (.validation cause) g := by
  have ends := ingest_accepts (n := n) regular identified
  cases run : ingest n g with
  | ok changes h => exact absurd (ends.of_ok run) unacceptable
  | error e h =>
    obtain ⟨⟨cause, rfl, -⟩, rfl⟩ | ⟨-, cause, rfl, -⟩ := (ingest_ends regular.wellFormed).of_error run
    · exact ⟨cause, rfl⟩
    · obtain ⟨other, -⟩ | ⟨⟨_, other⟩, -⟩ | ⟨-, acceptable, -⟩ := ends.of_error run
      · cases other
      · cases other
      · exact absurd acceptable unacceptable

/-- Of two removals that concur, both are acceptable or neither is. -/
theorem Concur.acceptable_iff {m : Notification} (concur : g.Concur n m) (regular : g.Regular)
    (identified : g.Identified) (removed : n.status = .removed) (removed' : m.status = .removed) :
    g.Acceptable n ↔ g.Acceptable m := by
  have ends := ingest_accepts (n := n) regular identified
  have ends' := ingest_accepts (n := m) regular identified
  obtain ⟨changes, h, run, run'⟩ | ⟨⟨e, run⟩, e', run'⟩ := concur
  · exact iff_of_true (ends.of_ok run) (ends'.of_ok run')
  · refine iff_of_false (fun acceptable => ?_) fun acceptable => ?_
    · obtain ⟨changes, h, done⟩ := acceptable.removal regular identified removed
      rw [run] at done
      cases done
    · obtain ⟨changes, h, done⟩ := acceptable.removal regular identified removed'
      rw [run'] at done
      cases done

/-- Two removals of an endpoint that list different locators come to the same unless the endpoint could be removed
and just one of the lists holds a blank address. -/
theorem concur_withLocators_iff (regular : g.Regular) (identified : g.Identified) (removed : n.status = .removed)
    (isEndpoint : n.entity.kind.isEndpoint) :
    g.Concur (n.withLocators addresses) (n.withLocators others) ↔
      addresses.any Text.isBlank = others.any Text.isBlank ∨ ¬ g.Acceptable (n.withLocators []) := by
  have listed : ∀ list, g.Acceptable (n.withLocators list) ↔
      g.Acceptable (n.withLocators []) ∧ list.any Text.isBlank = false :=
    fun list => acceptable_withLocators isEndpoint
  constructor
  · intro concur
    have both := concur.acceptable_iff regular identified removed removed
    rw [listed addresses, listed others] at both
    by_cases acceptable : g.Acceptable (n.withLocators [])
    · rw [and_iff_right acceptable, and_iff_right acceptable] at both
      exact .inl (Bool.not_inj (Bool.coe_false_iff_false.mp both))
    · exact .inr acceptable
  · intro held
    obtain same | unacceptable := held
    · rw [Concur, ingest_withLocators removed same]
      by_cases acceptable : g.Acceptable (n.withLocators others)
      · obtain ⟨changes, h, run⟩ := acceptable.removal regular identified removed
        exact .inl ⟨changes, h, run, run⟩
      · obtain ⟨cause, run⟩ := ingest_refuses regular identified acceptable
        exact .inr ⟨⟨_, run⟩, _, run⟩
    · have refused : ∀ list, ∃ e, ingest (n.withLocators list) g = .error e g := fun list => by
        obtain ⟨cause, run⟩ := ingest_refuses regular identified fun acceptable =>
          unacceptable ((listed list).mp acceptable).1
        exact ⟨_, run⟩
      exact .inr ⟨refused addresses, refused others⟩

end Graph
end DiscoveryGraph
