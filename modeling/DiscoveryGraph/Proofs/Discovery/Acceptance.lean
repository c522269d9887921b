import DiscoveryGraph.Proofs.Discovery.Consistency
import DiscoveryGraph.Proofs.Discovery.Parity
import DiscoveryGraph.Proofs.Discovery.Demand

/-! Which notifications are accepted, said by who has the keys that they carry. The checks compare first
matches and first neighbors, either of which may be missing; where every entity has all its parents and
no two share a key, they find what the keys name, and nothing else passes for it. -/
namespace DiscoveryGraph

/-- What the announced entity is known by. -/
def Announcement.key (domain : EntityId) : Announcement → Key
  | participant info => .participant info.guid
  | topic info => .topic domain info.name info.dataType
  | reader info | writer info => .endpoint info.guid

namespace Graph
open Update
variable {g h : Graph} {d id p x : EntityId} {kind : EntityKind} {n : Notification} {found : Option EntityId}

/-- A participant that is mentioned is not there yet, or is there in this domain and in the mentioned process
of the mentioned user and host. -/
def AdmitsParticipant (g : Graph) (d : EntityId) (info : ParticipantInfo) : Prop :=
  ∀ p, g.HasKey p (.participant info.guid) →
    d ∈ g.neighbors p .domain ∧ g.RunsIn p info.host info.user info.process

/-- An endpoint that is announced is not there yet, or is there of this kind, owned by the mentioned
participant and bound to the mentioned topic of this domain. -/
def AdmitsEndpoint (g : Graph) (d : EntityId) (kind : EntityKind) (info : EndpointInfo) : Prop :=
  ∀ e, g.HasKey e (.endpoint info.guid) → g.kind? e = some kind ∧
    (∃ p ∈ g.neighbors e .participant, g.HasKey p (.participant info.participant.guid)) ∧
    ∃ t ∈ g.neighbors e .topic, g.HasKey t (.topic d info.topic.name info.topic.dataType)

/-- What is there of what an announcement mentions is as it says. -/
def AdmitsAnnounced (g : Graph) (d : EntityId) : Announcement → Prop
  | .participant info => g.AdmitsParticipant d info
  | .topic _ => True
  | .reader info => g.AdmitsParticipant d info.participant ∧ g.AdmitsEndpoint d .dataReader info
  | .writer info => g.AdmitsParticipant d info.participant ∧ g.AdmitsEndpoint d .dataWriter info

/-- The notification is addressed to a domain, gives all names and addresses, does not contradict the graph,
and removes nothing that is not there. -/
structure Acceptable (g : Graph) (n : Notification) : Prop where
  domain : g.kind? n.domain = some .domain
  legible : n.entity.Legible
  admits : g.AdmitsAnnounced n.domain n.entity
  there : n.status = .removed → ∃ x, g.HasKey x (n.entity.key n.domain)

/-! ### Checks -/

theorem knownParticipant_iff {info : ParticipantInfo} (wf : g.WellFormed) (identified : g.Identified) :
    g.KnownParticipant d info p ↔ g.HasKey p (.participant info.guid) ∧ d ∈ g.neighbors p .domain ∧
      g.RunsIn p info.host info.user info.process := by
  constructor
  · intro known
    have here := known.kind?
    obtain ⟨⟨k, found⟩, domain, context⟩ := known
    have answers := findParticipant_answers wf info.guid
    rw [found] at answers
    exact ⟨answers.1, mem_of_parent? domain, (context_eq_iff wf here).mp context⟩
  · intro held
    obtain ⟨has, domain, runs⟩ := held
    have here : g.kind? p = some .participant := has.kind? rfl
    exact ⟨⟨_, findParticipant_of_answers wf (identified.answers has)⟩,
      (wf.parent?_eq_some_iff here (by decide)).mpr domain, (context_eq_iff wf here).mpr runs⟩

/-- What holds of everyone who has a key holds of whom a search for it has found. -/
theorem Identified.found_iff {P : EntityId → Prop} {key : Key} (identified : g.Identified) :
    (Answers (g.HasKey · key) (some id) ∧ ∀ x, g.HasKey x key → P x) ↔ g.HasKey id key ∧ P id := by
  constructor
  · intro held
    obtain ⟨⟨has, -⟩, all⟩ := held
    exact ⟨has, all id has⟩
  · intro held
    obtain ⟨has, mine⟩ := held
    refine ⟨identified.answers has, fun x has' => ?_⟩
    rwa [identified.unique x id key has' has]

theorem validateParticipant_iff {info : ParticipantInfo} (wf : g.WellFormed) (identified : g.Identified) :
    g.validateParticipant d info = .ok found ↔ info.Legible ∧
      Answers (g.HasKey · (.participant info.guid)) found ∧ g.AdmitsParticipant d info := by
  have answers := findParticipant_answers wf info.guid
  rw [validateParticipant_eq_ok, AdmitsParticipant]
  refine and_congr_right fun _ => ?_
  cases found with
  | none =>
    constructor
    · intro unknown
      rw [show g.findByGuid [.participant] info.guid = none from unknown] at answers
      exact ⟨answers, fun p has => absurd has (answers p)⟩
    · exact fun held => Option.map_eq_none_iff.mp (answers.eq held.1)
  | some id =>
    rw [identified.found_iff]
    exact knownParticipant_iff wf identified

/-- An endpoint has a topic, and so a topic that is looked up in vain does not pass for it. -/
theorem knownEndpoint_iff {info : EndpointInfo} (regular : g.Regular) (identified : g.Identified)
    (answers : Answers (g.HasKey · (.participant info.participant.guid)) found) :
    g.KnownEndpoint d kind info found id ↔ g.HasKey id (.endpoint info.guid) ∧ g.kind? id = some kind ∧
      (∃ p ∈ g.neighbors id .participant, g.HasKey p (.participant info.participant.guid)) ∧
      ∃ t ∈ g.neighbors id .topic, g.HasKey t (.topic d info.topic.name info.topic.dataType) := by
  have wf := regular.wellFormed
  constructor
  · intro known
    obtain ⟨here, isEndpoint⟩ := known.kind?
    obtain ⟨known, ⟨p, rfl, above⟩, topic⟩ := known
    have has := findEndpoint_answers wf info.guid
    rw [known] at has
    obtain ⟨t, near⟩ := regular.rooted id kind here .topic (EntityKind.topic_mem_parents isEndpoint)
    have first := (wf.parent?_eq_some_iff here (EntityKind.topic_mem_parents isEndpoint)).mpr near
    exact ⟨has.1, here, ⟨p, mem_of_parent? above, answers.1⟩, t, near,
      (findTopic_answers wf).holds (topic.symm.trans first)⟩
  · intro held
    obtain ⟨has, here, ⟨p, nearp, hasp⟩, t, neart, hast⟩ := held
    exact knownEndpoint_of_keys wf identified answers has here nearp hasp neart hast

theorem validateEndpoint_iff {info : EndpointInfo} (regular : g.Regular) (identified : g.Identified) :
    g.validateEndpoint d kind info = .ok found ↔ (info.Legible ∧ info.participant.Legible) ∧
      Answers (g.HasKey · (.endpoint info.guid)) found ∧ g.AdmitsParticipant d info.participant ∧
      g.AdmitsEndpoint d kind info := by
  have wf := regular.wellFormed
  have answers := findEndpoint_answers wf info.guid
  rw [validateEndpoint_eq_ok, and_assoc, and_left_comm (b := g.AdmitsParticipant d info.participant), AdmitsEndpoint]
  refine and_congr_right fun _ => ?_
  simp only [validateParticipant_iff wf identified]
  cases found with
  | none =>
    constructor
    · intro held
      obtain ⟨participant, ⟨legible, -, admits⟩, unknown⟩ := held
      rw [show g.findByGuid EntityKind.endpoints info.guid = none from unknown] at answers
      exact ⟨legible, admits, answers, fun e has => absurd has (answers e)⟩
    · intro held
      obtain ⟨legible, admits, unknown, -⟩ := held
      exact ⟨_, ⟨legible, findParticipant_answers wf _, admits⟩, Option.map_eq_none_iff.mp (answers.eq unknown)⟩
  | some id =>
    rw [identified.found_iff]
    constructor
    · intro held
      obtain ⟨participant, ⟨legible, answersp, admits⟩, known⟩ := held
      exact ⟨legible, admits, (knownEndpoint_iff regular identified answersp).mp known⟩
    · intro held
      obtain ⟨legible, admits, known⟩ := held
      have answersp := findParticipant_answers wf info.participant.guid
      exact ⟨_, ⟨legible, answersp, admits⟩, (knownEndpoint_iff regular identified answersp).mpr known⟩

theorem Identified.exists_answers (identified : g.Identified) (key : Key) :
    ∃ found, Answers (g.HasKey · key) found := by
  by_cases known : ∃ x, g.HasKey x key
  · obtain ⟨x, has⟩ := known
    exact ⟨some x, identified.answers has⟩
  · exact ⟨none, fun x has => known ⟨x, has⟩⟩

/-- The checks pass an announcement exactly if it is legible and does not contradict the graph, and find what
it announces. -/
theorem validate_iff {announcement : Announcement} (regular : g.Regular) (identified : g.Identified) :
    g.validate d announcement = .ok found ↔ announcement.Legible ∧
      Answers (g.HasKey · (announcement.key d)) found ∧ g.AdmitsAnnounced d announcement := by
  have wf := regular.wellFormed
  cases announcement with
  | participant info => exact validateParticipant_iff wf identified
  | reader info | writer info => exact validateEndpoint_iff regular identified
  | topic info =>
    have answers : Answers (g.HasKey · (.topic d info.name info.dataType)) (g.findTopic d info) := findTopic_answers wf
    constructor
    · intro valid
      cases named : checkName .topic info.name with
      | error e =>
        rw [validate, named] at valid
        cases valid
      | ok u =>
        rw [validate, named] at valid
        cases valid
        exact ⟨checkName_eq_ok.mp named, answers, trivial⟩
    · intro held
      obtain ⟨legible, answers', -⟩ := held
      have named : checkName .topic info.name = .ok () := checkName_eq_ok.mpr legible
      rw [validate, named, answers'.eq answers]
      rfl

/-! ### Notifications -/

/-- How a notification ends: it is carried out or the identifiers run out, if it is acceptable, and it is
refused otherwise. -/
theorem ingest_accepts (regular : g.Regular) (identified : g.Identified) :
    (ingest n).Ends g (fun _ _ => g.Acceptable n) fun e h =>
      e = .validation (.unknownDomain n.domain) ∧ g.kind? n.domain ≠ some .domain ∨
      (∃ rejection, e = .validation (.rejectedNotification rejection)) ∧
        g.kind? n.domain = some .domain ∧ ¬ g.Acceptable n ∨
      e = .storage .idSpaceExhausted ∧ g.Acceptable n ∧ h.lastId.next? = none := by
  have wf := regular.wellFormed
  simp only [ingest, ends_bind, ends_liftValidation, ends_read]
  refine ⟨fun _ pass => ?_, fun cause fails => .inl ⟨?_, fun domain => ?_⟩⟩
  case refine_2 => rw [checkDomain_checks.of_error fails]
  case refine_3 =>
    rw [checkDomain_eq_ok (u := ()).mpr domain] at fails
    cases fails
  have domain := checkDomain_checks.of_ok pass
  refine ⟨fun existing valid => ?_, fun cause fails => ?_⟩
  case refine_2 =>
    obtain ⟨rejection, rfl⟩ := (validate_checks wf).of_error fails
    refine .inr (.inl ⟨⟨rejection, rfl⟩, domain, fun acceptable => ?_⟩)
    obtain ⟨found, answers⟩ := identified.exists_answers (n.entity.key n.domain)
    rw [(validate_iff regular identified).mpr ⟨acceptable.legible, answers, acceptable.admits⟩] at fails
    cases fails
  obtain ⟨legible, answers, admits⟩ := (validate_iff regular identified).mp valid
  split
  · rename_i removed
    cases existing with
    | none =>
      refine .inr (.inl ⟨⟨_, rfl⟩, domain, fun acceptable => ?_⟩)
      obtain ⟨x, has⟩ := acceptable.there removed
      exact answers x has
    | some id =>
      have known := (((validate_checks wf).of_ok valid).2 id rfl).1
      exact (apply_disappeared_ends wf known n.entity.kind_ne.2).imp
        (fun _ _ _ => ⟨domain, legible, admits, fun _ => ⟨id, answers.1⟩⟩) fun _ _ => False.elim
  · rename_i present
    have acceptable : g.Acceptable n := ⟨domain, legible, admits, fun removed => absurd removed present⟩
    refine (ingestPresent_ends wf domain valid).imp (fun _ _ _ => acceptable) ?_
    intro e h out
    obtain ⟨cause, rfl, rfl, none, -⟩ := out
    exact .inr (.inr ⟨rfl, acceptable, none⟩)

end Graph
end DiscoveryGraph
