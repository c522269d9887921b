import DiscoveryGraph.Proofs.Discovery.Resolution

/-! Validation. A check only ever rejects the notification; what it lets through agrees with the
graph, so that the announced entity lies in reach of the domain it is announced for. -/
namespace DiscoveryGraph

/-- The names of the host, the user and the process are given. -/
structure ParticipantInfo.Legible (info : ParticipantInfo) : Prop where
  host : Text.isBlank info.host = false
  user : Text.isBlank info.user = false
  process : Text.isBlank info.process = false

/-- The name of the topic and the addresses of the locators are given. -/
structure EndpointInfo.Legible (info : EndpointInfo) : Prop where
  topic : Text.isBlank info.topic.name = false
  locators : info.locators.any Text.isBlank = false

/-- A check ends as `ok` says if it passes and as `bad` says if it fails. -/
def Checks {ε α : Type} (x : Except ε α) (ok : α → Prop) (bad : ε → Prop) : Prop :=
  match x with
  | .ok a => ok a
  | .error e => bad e

/-- The notification was refused for what it says. -/
def ValidationError.IsRejection (e : ValidationError) : Prop := ∃ rejection, e = .rejectedNotification rejection

section Checks
variable {ε α β : Type} {x : Except ε α} {ok ok' : α → Prop} {bad bad' : ε → Prop}

theorem Checks.of_ok {a : α} (h : Checks x ok bad) (run : x = .ok a) : ok a := by
  subst run
  exact h

theorem Checks.of_error {e : ε} (h : Checks x ok bad) (run : x = .error e) : bad e := by
  subst run
  exact h

theorem Checks.imp_ok (h : Checks x ok bad) (weaker : ∀ a, ok a → ok' a) : Checks x ok' bad := by
  cases x with
  | ok a => exact weaker a h
  | error e => exact h

@[simp] theorem checks_pure (a : α) : Checks (pure a : Except ε α) ok bad ↔ ok a := Iff.rfl

@[simp] theorem checks_bind {f : α → Except ε β} {ok : β → Prop} :
    Checks (x >>= f) ok bad ↔ Checks x (fun a => Checks (f a) ok bad) bad := by
  cases x <;> rfl

/-- What is known of a value that a check has returned. -/
theorem Checks.and_eq (h : Checks x ok bad) : Checks x (fun a => x = .ok a ∧ ok a) bad := by
  cases x with
  | ok a => exact ⟨rfl, h⟩
  | error e => exact h

end Checks

namespace Graph
variable {g : Graph} {d id : EntityId} {kind : EntityKind}

theorem rejected_checks {α : Type} {rejection : Rejection} {ok : α → Prop} :
    Checks (rejected rejection) ok ValidationError.IsRejection := ⟨rejection, rfl⟩

theorem checkName_checks {name : String} :
    Checks (checkName kind name) (fun _ => Text.isBlank name = false) ValidationError.IsRejection := by
  unfold checkName
  split
  · exact rejected_checks
  · rename_i given
    have shown : Text.isBlank name = false := by simpa using given
    exact shown

theorem checkDomain_checks :
    Checks (g.checkDomain d) (fun _ => g.kind? d = some .domain) (· = .unknownDomain d) := by
  unfold checkDomain kind?
  cases g.entity? d with
  | none => rfl
  | some entity =>
    by_cases domain : entity.kind = .domain
    · simp [domain, Checks]
    · simp [domain, Checks]

theorem checkDomain_eq_ok {u : Unit} : g.checkDomain d = .ok u ↔ g.kind? d = some .domain := by
  refine ⟨checkDomain_checks.of_ok, fun known => ?_⟩
  obtain ⟨entity, found, kind⟩ := kind?_eq_some.mp known
  simp [checkDomain, found, kind]

/-- A participant that validation finds is known by its GUID and sits where it is announced. -/
structure KnownParticipant (g : Graph) (d : EntityId) (info : ParticipantInfo) (id : EntityId) : Prop where
  found : ∃ k, g.findByGuid [.participant] info.guid = some (id, k)
  domain : g.parent? id .domain = some d
  context : g.context id = (some info.host, some info.user, some info.process)

theorem validateParticipant_checks {info : ParticipantInfo} :
    Checks (g.validateParticipant d info)
      (fun found => info.Legible ∧ match found with
        | none => g.findByGuid [.participant] info.guid = none
        | some id => g.KnownParticipant d info id)
      ValidationError.IsRejection := by
  rw [validateParticipant, checks_bind]
  refine checkName_checks.imp_ok fun _ host => ?_
  rw [checks_bind]
  refine checkName_checks.imp_ok fun _ user => ?_
  rw [checks_bind]
  refine checkName_checks.imp_ok fun _ process => ?_
  split
  · rename_i unknown
    exact ⟨⟨host, user, process⟩, unknown⟩
  · rename_i id k found
    split
    · exact rejected_checks
    · rename_i domain
      split
      · exact rejected_checks
      · rename_i context
        exact ⟨⟨host, user, process⟩, ⟨k, found⟩, Decidable.not_not.mp domain, Decidable.not_not.mp context⟩

/-- A check of names passes them as they are. -/
theorem checkName_eq_ok {name : String} {u : Unit} : checkName kind name = .ok u ↔ Text.isBlank name = false := by
  refine ⟨checkName_checks.of_ok, fun given => ?_⟩
  rw [checkName, given]
  rfl

theorem validateParticipant_eq_ok {info : ParticipantInfo} {found : Option EntityId} :
    g.validateParticipant d info = .ok found ↔ info.Legible ∧ match found with
      | none => g.findByGuid [.participant] info.guid = none
      | some id => g.KnownParticipant d info id := by
  refine ⟨validateParticipant_checks.of_ok, fun fact => ?_⟩
  obtain ⟨⟨host, user, process⟩, fact⟩ := fact
  have named : checkName .host info.host = .ok () ∧ checkName .user info.user = .ok () ∧
      checkName .process info.process = .ok () :=
    ⟨checkName_eq_ok.mpr host, checkName_eq_ok.mpr user, checkName_eq_ok.mpr process⟩
  simp only [validateParticipant, named, Bind.bind, Except.bind]
  cases found with
  | none =>
    have unknown : g.findByGuid [.participant] info.guid = none := fact
    rw [unknown]
    rfl
  | some id =>
    obtain ⟨⟨k, known⟩, domain, context⟩ := fact
    simp only [known, domain, context, ne_eq, not_true_eq_false, if_false]
    rfl

/-- An endpoint that validation finds keeps its kind, its participant and its topic. -/
structure KnownEndpoint (g : Graph) (d : EntityId) (kind : EntityKind) (info : EndpointInfo)
    (participant : Option EntityId) (id : EntityId) : Prop where
  found : g.findByGuid EntityKind.endpoints info.guid = some (id, kind)
  participant : ∃ p, participant = some p ∧ g.parent? id .participant = some p
  topic : g.parent? id .topic = g.findTopic d info.topic

theorem validateEndpoint_checks {info : EndpointInfo} :
    Checks (g.validateEndpoint d kind info)
      (fun found => info.Legible ∧ ∃ participant, g.validateParticipant d info.participant = .ok participant ∧
        match found with
        | none => g.findByGuid EntityKind.endpoints info.guid = none
        | some id => g.KnownEndpoint d kind info participant id)
      ValidationError.IsRejection := by
  rw [validateEndpoint, checks_bind]
  refine checkName_checks.imp_ok fun _ topic => ?_
  split
  · exact rejected_checks
  · rename_i locators
    have legible : info.Legible := ⟨topic, Bool.eq_false_iff.mpr locators⟩
    rw [checks_bind]
    refine validateParticipant_checks.and_eq.imp_ok ?_
    intro participant held
    obtain ⟨checked, -⟩ := held
    split
    · rename_i unknown
      exact ⟨legible, participant, checked, unknown⟩
    · rename_i id found known
      split
      · exact rejected_checks
      · rename_i sameKind
        split
        · exact rejected_checks
        · rename_i stays
          split
          · exact rejected_checks
          · rename_i topic
            simp only [not_or, ne_eq, Decidable.not_not] at stays sameKind topic
            refine ⟨legible, participant, checked, ?_⟩
            subst sameKind
            obtain ⟨p, rfl⟩ := Option.ne_none_iff_exists'.mp stays.1
            exact ⟨known, ⟨p, rfl, stays.2⟩, topic⟩

theorem validateEndpoint_eq_ok {info : EndpointInfo} {found : Option EntityId} :
    g.validateEndpoint d kind info = .ok found ↔ info.Legible ∧
      ∃ participant, g.validateParticipant d info.participant = .ok participant ∧ match found with
        | none => g.findByGuid EntityKind.endpoints info.guid = none
        | some id => g.KnownEndpoint d kind info participant id := by
  refine ⟨validateEndpoint_checks.of_ok, fun fact => ?_⟩
  obtain ⟨⟨topic, locators⟩, participant, checked, fact⟩ := fact
  have named : checkName .topic info.topic.name = .ok () := checkName_eq_ok.mpr topic
  simp only [validateEndpoint, named, locators, checked, Bind.bind, Except.bind, Bool.false_eq_true, if_false]
  cases found with
  | none =>
    have unknown : g.findByGuid EntityKind.endpoints info.guid = none := fact
    rw [unknown]
    rfl
  | some id =>
    obtain ⟨known, ⟨p, rfl, above⟩, topic⟩ := fact
    simp only [known, above, topic, ne_eq, not_true_eq_false, if_false, reduceCtorEq, false_or]
    rfl

theorem KnownParticipant.kind? {info : ParticipantInfo} (known : g.KnownParticipant d info id) :
    g.kind? id = some .participant := by
  obtain ⟨k, found⟩ := known.found
  obtain ⟨here, kinds⟩ := findByGuid_eq_some found
  rw [here, List.mem_singleton.mp kinds]

theorem KnownParticipant.admits {info : ParticipantInfo} (known : g.KnownParticipant d info id) :
    g.Admits d info := by
  intro id' k' found'
  obtain ⟨k, found⟩ := known.found
  rw [found] at found'
  cases found'
  exact mem_of_parent? known.domain

theorem admits_of_validateParticipant {info : ParticipantInfo} {found : Option EntityId}
    (checked : g.validateParticipant d info = .ok found) : g.Admits d info := by
  have known := (validateParticipant_checks.of_ok checked).2
  cases found with
  | none =>
    intro id k found
    rw [known] at found
    cases found
  | some id => exact KnownParticipant.admits known

theorem KnownParticipant.seated {info : ParticipantInfo} (known : g.KnownParticipant d info id)
    (wf : g.WellFormed) :
    g.Seated d id := by
  refine ⟨.inl (.member (mem_of_parent? known.domain)), fun t topic => ?_⟩
  exact absurd topic (wf.not_mem known.kind? (by decide))

theorem KnownEndpoint.kind? {info : EndpointInfo} {participant : Option EntityId}
    (known : g.KnownEndpoint d kind info participant id) : g.kind? id = some kind ∧ kind.isEndpoint := by
  obtain ⟨here, kinds⟩ := findByGuid_eq_some known.found
  exact ⟨here, (EntityKind.mem_endpoints kind).mp kinds⟩

/-- The participant of a known endpoint was checked, and its topic was looked up in the domain. -/
theorem KnownEndpoint.seated {info : EndpointInfo} {participant : Option EntityId}
    (known : g.KnownEndpoint d kind info participant id) (wf : g.WellFormed)
    (checked : g.validateParticipant d info.participant = .ok participant) : g.Seated d id := by
  obtain ⟨here, isEndpoint⟩ := known.kind?
  obtain ⟨p, rfl, above⟩ := known.participant
  have held : g.KnownParticipant d info.participant p :=
    (validateParticipant_checks.of_ok checked).2
  refine ⟨.inl (.endpoint here isEndpoint (mem_of_parent? above) (mem_of_parent? held.domain)),
    fun t near => ?_⟩
  have first : g.parent? id .topic = some t := by
    exact (wf.parent?_eq_some_iff here (EntityKind.topic_mem_parents isEndpoint)).mpr near
  rw [known.topic] at first
  exact (findTopic_eq_some wf first).2

theorem validateEndpoint_seats {info : EndpointInfo} (wf : g.WellFormed) :
    Checks (g.validateEndpoint d kind info)
      (fun existing => g.Admits d info.participant ∧
        ∀ id, existing = some id → g.kind? id = some kind ∧ g.Seated d id)
      ValidationError.IsRejection := by
  refine validateEndpoint_checks.imp_ok ?_
  intro existing held
  obtain ⟨-, participant, checked, known⟩ := held
  refine ⟨admits_of_validateParticipant checked, fun id found => ?_⟩
  subst found
  exact ⟨(KnownEndpoint.kind? known).1, KnownEndpoint.seated known wf checked⟩

/-- What a checked announcement refers to is of the announced kind and in reach of its domain. -/
theorem validate_checks {announcement : Announcement} (wf : g.WellFormed) :
    Checks (g.validate d announcement)
      (fun existing => (∀ info, announcement.described? = some info → g.Admits d info) ∧
        ∀ id, existing = some id → g.kind? id = some announcement.kind ∧ g.Seated d id)
      ValidationError.IsRejection := by
  cases announcement with
  | participant info =>
    refine validateParticipant_checks.and_eq.imp_ok ?_
    intro existing held
    obtain ⟨checked, -, known⟩ := held
    constructor
    · rintro _ ⟨⟩
      exact admits_of_validateParticipant checked
    · intro id same
      subst same
      exact ⟨KnownParticipant.kind? known, KnownParticipant.seated known wf⟩
  | topic info =>
    rw [validate, checks_bind]
    refine checkName_checks.imp_ok fun _ _ => ⟨by simp [Announcement.described?], fun id found => ?_⟩
    obtain ⟨known, near⟩ := findTopic_eq_some wf found
    exact ⟨known, .inl (.member near), fun t topic => absurd topic (wf.not_mem known (by decide))⟩
  | reader info | writer info =>
    refine (validateEndpoint_seats wf).imp_ok fun existing held => ⟨?_, held.2⟩
    rintro _ ⟨⟩
    exact held.1

/-- Nobody has the GUID of an endpoint that was checked and not found. -/
theorem lacks_of_validate {announcement : Announcement} (wf : g.WellFormed)
    (valid : g.validate d announcement = .ok none) :
    ∀ guid, announcement.endpoint? = some guid → g.Lacks (.endpoint guid) := by
  intro guid announced
  have answers := findEndpoint_answers wf guid
  cases announcement with
  | participant | topic => cases announced
  | reader info | writer info =>
    cases announced
    obtain ⟨-, participant, -, unknown⟩ := validateEndpoint_checks.of_ok valid
    rwa [show g.findByGuid EntityKind.endpoints info.guid = none from unknown] at answers

end Graph
end DiscoveryGraph
