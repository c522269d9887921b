import DiscoveryGraph.Proofs.Discovery.Repetition
import DiscoveryGraph.Proofs.Discovery.Shortage

/-! Consistency. Where notifications agree on what they mention, a graph that was built from bare domains
shows what they tell and nothing else. So the next one passes its checks: what it mentions is not there
yet, or is there as it says. -/
namespace DiscoveryGraph

/-- The names and addresses that an announcement needs are given. -/
def Announcement.Legible : Announcement → Prop
  | participant info => info.Legible
  | topic info => Text.isBlank info.name = false
  | reader info | writer info => info.Legible ∧ info.participant.Legible

/-- Notifications that agree: every mention of a participant describes it in the same way and in the
same domain, and every endpoint is announced in one way. -/
structure Consistent (ns : List Notification) : Prop where
  legible : ∀ n ∈ ns, n.entity.Legible
  participants : ∀ n ∈ ns, ∀ m ∈ ns, ∀ info info', n.entity.described? = some info →
    m.entity.described? = some info' → info.guid = info'.guid → n.domain = m.domain ∧ info = info'
  endpoints : ∀ n ∈ ns, ∀ m ∈ ns, ∀ guid, n.entity.endpoint? = some guid → m.entity.endpoint? = some guid → n = m

theorem Consistent.mono {ns all : List Notification} (consistent : Consistent all) (sub : ns ⊆ all) :
    Consistent ns :=
  ⟨fun n mem => consistent.legible n (sub mem),
    fun n mem m mem' => consistent.participants n (sub mem) m (sub mem'),
    fun n mem m mem' => consistent.endpoints n (sub mem) m (sub mem')⟩

namespace Announcement
variable {a : Announcement} {d : EntityId} {guid : Guid} {address : String} {info : ParticipantInfo}

theorem facts_of_described (described : a.described? = some info) : info.facts d ⊆ a.facts d := by
  cases a with
  | topic => cases described
  | participant | reader | writer =>
    cases described
    simp [facts, subject, EndpointInfo.facts]

/-- A participant or an endpoint that is told of is mentioned, and a locator is told of below an
announced endpoint only. -/
def Covers (a : Announcement) : Fact → Prop
  | .entity (.participant guid) .. => ∃ info, a.described? = some info ∧ info.guid = guid
  | .entity (.endpoint guid) .. => a.endpoint? = some guid
  | .edge (.locator address) label =>
    address ∈ a.addresses ∧ ∃ guid, label = .endpoint guid ∧ a.endpoint? = some guid
  | .entity .. | .edge .. => True

theorem covers_subject : ∀ fact ∈ a.subject d, a.Covers fact := by
  cases a <;> simp [subject, ParticipantInfo.facts, TopicInfo.facts, EndpointInfo.facts, ParticipantInfo.label,
    TopicInfo.label, EndpointInfo.label, Label.facts, Covers, described?, endpoint?]

theorem covers_locator (listed : address ∈ a.addresses) : a.Covers (.edge (.locator address) (a.label d)) := by
  refine ⟨listed, ?_⟩
  cases a with
  | participant | topic => cases listed
  | reader info | writer info => exact ⟨_, rfl, rfl⟩

theorem covers_facts : ∀ fact ∈ a.facts d, a.Covers fact := by
  rw [facts, List.forall_mem_append]
  refine ⟨covers_subject, fun fact mem => ?_⟩
  obtain ⟨address, listed, mem⟩ := List.mem_flatMap.mp mem
  obtain rfl | ⟨parent, above, rfl⟩ := Label.mem_facts.mp mem
  · trivial
  · rw [List.mem_singleton.mp above]
    exact covers_locator listed

theorem endpoint?_of_label (same : a.label d = .endpoint guid) : a.endpoint? = some guid := by
  cases a with
  | participant | topic => cases same
  | reader info | writer info =>
    cases same
    rfl

end Announcement

namespace Graph
variable {base g h : Graph} {d id x y : EntityId} {k kind : EntityKind} {key : Key} {label : Label}
    {ns : List Notification} {n : Notification} {info : ParticipantInfo} {guid : Guid}

/-- There is nothing but domains. -/
def Bare (g : Graph) : Prop := ∀ x kind, g.kind? x = some kind → kind = .domain

theorem Bare.shows {fact : Fact} (bare : g.Bare) (shown : g.Shows fact) :
    ∃ d kind name attributes, fact = .entity (.domain d) kind name attributes := by
  cases shown with
  | entity bears found =>
    cases bears with
    | domain => exact ⟨_, _, _, _, rfl⟩
    | keyed _ _ has =>
      have domain := bare _ _ (kind?_of_entity? found)
      exact absurd (by rw [kind?_of_entity? found, domain]) has.not_domain
  | edge _ _ below =>
    obtain ⟨rule, mem, known, -⟩ := below
    exact absurd (bare _ _ known) (EntityKind.domain_not_child rule mem)

/-- A graph that was built from domains and shows what some notifications tell. -/
structure Depicts (base : Graph) (ns : List Notification) (g : Graph) : Prop where
  wellFormed : g.WellFormed
  identified : g.Identified
  awake : g.Awake
  bare : base.Bare
  domains : ∀ d, base.kind? d = some .domain → g.kind? d = some .domain
  grown : Grown base g
  shows_iff : ∀ fact, g.Shows fact ↔ base.Shows fact ∨ ∃ n ∈ ns, fact ∈ n.entity.facts n.domain

namespace Depicts
open Update

theorem shows (depicts : Depicts base ns g) (mem : n ∈ ns) : ∀ fact ∈ n.entity.facts n.domain, g.Shows fact :=
  fun fact told => (depicts.shows_iff fact).mpr (.inr ⟨n, mem, told⟩)

/-- Whatever is called otherwise than a domain has been told of. -/
theorem exists_told (depicts : Depicts base ns g) (bears : g.Bears x label) (other : ∀ d, label ≠ .domain d) :
    ∃ n ∈ ns, ∃ kind name attributes, .entity label kind name attributes ∈ n.entity.facts n.domain := by
  obtain ⟨kind, known⟩ := bears.known
  obtain ⟨entity, found, -⟩ := kind?_eq_some.mp known
  obtain shown | ⟨n, mem, told⟩ := (depicts.shows_iff _).mp (.entity bears found)
  · obtain ⟨d, _, _, _, same⟩ := depicts.bare.shows shown
    exact absurd (Fact.entity.inj same).1 (other d)
  · exact ⟨n, mem, _, _, _, told⟩

theorem apt (depicts : Depicts base ns g) : g.Apt := by
  intro fact shown
  obtain old | ⟨n, -, told⟩ := (depicts.shows_iff fact).mp shown
  · obtain ⟨d, _, _, _, rfl⟩ := depicts.bare.shows old
    simp [Fact.Apt]
  · exact n.entity.facts_apt fact told

theorem readable (depicts : Depicts base ns g) : g.Readable :=
  ⟨depicts.wellFormed, depicts.identified, depicts.apt⟩

/-- A participant that is there is shown as it is mentioned. -/
theorem participant_shown (depicts : Depicts base ns g) (consistent : Consistent (ns ++ [n]))
    (described : n.entity.described? = some info) (has : g.HasKey id (.participant info.guid)) :
    ∀ fact ∈ info.facts n.domain, g.Shows fact := by
  have bears : g.Bears id (.participant info.guid) := .top rfl rfl has
  obtain ⟨m, mem, kind, name, attributes, told⟩ := depicts.exists_told bears (by simp)
  obtain ⟨info', described', same⟩ := Announcement.covers_facts _ told
  obtain ⟨domain, rfl⟩ := consistent.participants n (by simp) m (by simp [mem]) info info' described described' same.symm
  rw [domain]
  exact fun fact listed => depicts.shows mem fact (Announcement.facts_of_described described' listed)

/-- An endpoint that is there has been announced by the same notification. -/
theorem endpoint_mem (depicts : Depicts base ns g) (consistent : Consistent (ns ++ [n]))
    (announced : n.entity.endpoint? = some guid) (has : g.HasKey id (.endpoint guid)) : n ∈ ns := by
  have bears : g.Bears id (.endpoint guid) := .top rfl rfl has
  obtain ⟨m, mem, kind, name, attributes, told⟩ := depicts.exists_told bears (by simp)
  rwa [consistent.endpoints n (by simp) m (by simp [mem]) guid announced (Announcement.covers_facts _ told)]

/-! ### Acceptance -/

/-- A participant lies in its domain and its process. -/
theorem sits (depicts : Depicts base ns g) (domain : g.kind? d = some .domain)
    (has : g.HasKey id (.participant info.guid)) (shown : ∀ fact ∈ info.facts d, g.Shows fact) :
    g.Sits d info id := by
  have wf := depicts.wellFormed
  have identified := depicts.identified
  have bears : g.Bears id info.label := .top rfl rfl has
  have within : g.Shows (.edge info.label (.domain d)) := shown _ (by simp [ParticipantInfo.facts, Label.mem_facts])
  have beneath : g.Shows (.edge info.label (.process info.host info.user info.process)) :=
    shown _ (by simp [ParticipantInfo.facts, Label.mem_facts])
  have below := (shows_edge_iff identified bears (.domain domain)).mp within
  obtain ⟨process, called, below'⟩ := bears.exists_above identified beneath
  obtain ⟨host, user, hosts, users, processes⟩ := called.process
  exact ⟨identified.answers has, below.mem wf domain, host, user, process, hosts, users, processes,
    below'.mem wf (processes.kind? rfl)⟩

/-- The check of a participant finds it by its GUID, if it is there. -/
theorem validateParticipant (depicts : Depicts base ns g) (consistent : Consistent (ns ++ [n]))
    (domain : g.kind? n.domain = some .domain) (described : n.entity.described? = some info)
    (legible : info.Legible) :
    g.validateParticipant n.domain info = .ok ((g.findByGuid [.participant] info.guid).map (·.1)) := by
  have answers := findParticipant_answers depicts.wellFormed info.guid
  rw [validateParticipant_eq_ok]
  refine ⟨legible, ?_⟩
  cases found : g.findByGuid [.participant] info.guid with
  | none => rfl
  | some known =>
    rw [found] at answers
    have shown := depicts.participant_shown consistent described answers.1
    exact (depicts.sits domain answers.1 shown).knownParticipant depicts.wellFormed

/-- An endpoint lies below its participant and its topic. -/
theorem endpoint_sits {info : EndpointInfo} (depicts : Depicts base ns g) (domain : g.kind? d = some .domain)
    (has : g.HasKey id (.endpoint info.guid)) (shown : ∀ fact ∈ info.facts d kind, g.Shows fact) :
    g.kind? id = some kind ∧
      (∃ x ∈ g.neighbors id .participant, g.HasKey x (.participant info.participant.guid)) ∧
      ∃ x ∈ g.neighbors id .topic, g.HasKey x (.topic d info.topic.name info.topic.dataType) := by
  have wf := depicts.wellFormed
  have identified := depicts.identified
  have bears : g.Bears id info.label := .top rfl rfl has
  simp only [EndpointInfo.facts, List.forall_mem_append] at shown
  have own := shown.2
  simp only [Label.mem_facts, List.mem_cons, List.not_mem_nil, or_false, forall_eq_or_imp, exists_eq_or_imp,
    exists_eq_left, forall_eq] at own
  obtain ⟨here, below, bound⟩ := own
  obtain ⟨y, entity, bears', found, rfl, -⟩ := shows_entity_iff.mp here
  obtain ⟨participant, called, below⟩ := bears.exists_above identified below
  obtain ⟨topic, called', below'⟩ := bears.exists_above identified bound
  have hasp : g.HasKey participant (.participant info.participant.guid) :=
    called.hasKey identified (y := id) rfl (by simp [ParticipantInfo.label])
  have hast : g.HasKey topic (.topic d info.topic.name info.topic.dataType) :=
    called'.hasKey identified rfl (by simpa [TopicInfo.label] using .domain domain)
  refine ⟨?_, ⟨participant, below.mem wf (hasp.kind? rfl), hasp⟩, topic, below'.mem wf (hast.kind? rfl), hast⟩
  rw [bears.unique identified bears', kind?_of_entity? found]

/-- The check of an endpoint finds it by its GUID, if it is there. -/
theorem validateEndpoint (depicts : Depicts base ns g) (consistent : Consistent (ns ++ [n]))
    (domain : g.kind? n.domain = some .domain) {info : EndpointInfo}
    (announced : n.entity.endpoint? = some info.guid) (described : n.entity.described? = some info.participant)
    (legible : info.Legible ∧ info.participant.Legible) (told : info.facts n.domain kind ⊆ n.entity.facts n.domain) :
    g.validateEndpoint n.domain kind info = .ok ((g.findByGuid EntityKind.endpoints info.guid).map (·.1)) := by
  have wf := depicts.wellFormed
  have identified := depicts.identified
  have answers := findEndpoint_answers wf info.guid
  rw [validateEndpoint_eq_ok]
  refine ⟨legible.1, _, depicts.validateParticipant consistent domain described legible.2, ?_⟩
  cases found : g.findByGuid EntityKind.endpoints info.guid with
  | none => rfl
  | some known =>
    obtain ⟨id, k⟩ := known
    rw [found] at answers
    have before := depicts.endpoint_mem consistent announced answers.1
    obtain ⟨known, ⟨participant, below, hasp⟩, topic, below', hast⟩ :=
      depicts.endpoint_sits domain answers.1 fun fact mem => depicts.shows before fact (told mem)
    exact knownEndpoint_of_keys wf identified (findParticipant_answers wf _) answers.1 known below hasp below' hast

/-- A notification that agrees with those before it passes its checks. What they find is called as the
notification says, and all that the notification tells is shown already. -/
theorem validate (depicts : Depicts base ns g) (consistent : Consistent (ns ++ [n]))
    (domain : g.kind? n.domain = some .domain) :
    ∃ existing, g.validate n.domain n.entity = .ok existing ∧ ∀ id, existing = some id →
      g.Bears id (n.entity.label n.domain) ∧ ∀ fact ∈ n.entity.facts n.domain, g.Shows fact := by
  have wf := depicts.wellFormed
  have legible := consistent.legible n (by simp)
  obtain ⟨d, status, entity⟩ := n
  cases entity with
  | participant info =>
    refine ⟨_, depicts.validateParticipant consistent domain rfl legible, fun id found => ?_⟩
    have has := (findParticipant_answers wf info.guid).holds found
    have shown := depicts.participant_shown consistent rfl has
    refine ⟨.top rfl rfl has, ?_⟩
    simpa [Announcement.facts, Announcement.subject, Announcement.addresses, Label.locatorFacts] using shown
  | topic info =>
    refine ⟨g.findTopic d info, ?_, fun id found => ?_⟩
    · have named : checkName .topic info.name = .ok () := checkName_eq_ok.mpr legible
      rw [Graph.validate, named]
      rfl
    · have has := (findTopic_answers wf).holds found
      have bears : g.Bears id (info.label d) := .keyed rfl (by simpa [TopicInfo.label] using .domain domain) has
      refine ⟨bears, ?_⟩
      have shown : ∀ fact ∈ info.facts d, g.Shows fact := bears.shows_facts depicts.apt rfl
      simpa [Announcement.facts, Announcement.subject, Announcement.addresses, Label.locatorFacts] using shown
  | reader info | writer info =>
    refine ⟨_, depicts.validateEndpoint consistent domain rfl rfl legible
      (List.subset_append_left _ _), fun id found => ?_⟩
    have has := (findEndpoint_answers wf info.guid).holds found
    exact ⟨.top rfl rfl has, depicts.shows (depicts.endpoint_mem consistent rfl has)⟩

/-- What is there already is as the notification says. -/
theorem reflects (depicts : Depicts base ns g) (consistent : Consistent (ns ++ [n]))
    (domain : g.kind? n.domain = some .domain) (valid : g.validate n.domain n.entity = .ok (some id))
    (bears : g.Bears id (n.entity.label n.domain)) (shown : ∀ fact ∈ n.entity.facts n.domain, g.Shows fact) :
    g.Reflects n id := by
  have wf := depicts.wellFormed
  have identified := depicts.identified
  have alive := awake_iff.mp depicts.awake
  have known := (((validate_checks wf).of_ok valid).2 id rfl).1
  have listed : ∀ address ∈ n.entity.addresses, ∀ fact ∈ Label.facts (.locator address) .locator address .plain
      [n.entity.label n.domain], g.Shows fact := fun address mem fact told =>
    shown fact (List.mem_append_right _ (List.mem_flatMap.mpr ⟨address, mem, told⟩))
  simp only [Label.mem_facts, List.mem_singleton, forall_eq_or_imp, exists_eq_left, forall_eq] at listed
  have found : ∀ {x address}, g.findGlobal .locator address = some x ↔ g.Bears x (.locator address) := by
    intro x address
    refine ⟨fun found => ?_, fun called => ?_⟩
    · exact .top rfl rfl ((findLocator_answers wf address).holds found)
    · exact (findLocator_answers wf address).eq
        (identified.answers (called.hasKey identified (y := x) rfl (by simp)))
  refine ⟨domain, valid, fun address mem => ?found, fun x => ?bound, fun _ => ⟨alive id _ known, fun y sustains => ?alive⟩⟩
  case found =>
    obtain ⟨x, _, called, -⟩ := shows_entity_iff.mp (listed address mem).1
    exact ⟨x, found.mpr called⟩
  case bound =>
    simp only [found]
    rw [mem_neighbors_locator wf]
    constructor
    · intro held
      obtain ⟨locator, below⟩ := held
      obtain ⟨address, called⟩ := identified.exists_locator locator
      -- Somebody told of the binding, and only the same notification can have.
      obtain old | ⟨m, mem, told⟩ := (depicts.shows_iff _).mp (.edge called bears below)
      · obtain ⟨_, _, _, _, same⟩ := depicts.bare.shows old
        cases same
      · obtain ⟨given, guid, same, announced⟩ := Announcement.covers_facts _ told
        obtain rfl := consistent.endpoints n (by simp) m (by simp [mem]) guid
          (Announcement.endpoint?_of_label same) announced
        exact ⟨address, given, called⟩
    · intro held
      obtain ⟨address, mem, called⟩ := held
      refine ⟨?_, (shows_edge_iff identified called bears).mp (listed address mem).2⟩
      exact (called.hasKey identified (y := x) rfl (by simp)).kind? rfl
  case alive =>
    obtain ⟨kind, -, k, -, near⟩ := sustains_iff.mp sustains
    exact alive y k (wf.kind?_of_mem near)

/-! ### Discovery -/

/-- What a notification tells is added by discovery. -/
theorem extend {changes : List StateChange} (depicts : Depicts base ns g)
    (tells : Tells (n.entity.facts n.domain) g h) (discovers : Run (Action.Discovers n.domain) g changes h) :
    Depicts base (ns ++ [n]) h := by
  have wf := depicts.wellFormed
  refine ⟨discovers.wellFormed wf, discovers.identified wf depicts.identified, tells.awake depicts.awake, depicts.bare,
    fun d known => ?_, ?_, fun fact => ?_⟩
  · exact discovers.local_of_discovers.kind?_of_local wf (depicts.domains d known)
  · exact depicts.grown.trans (grown_of_discovers discovers wf)
  · rw [tells.shows_iff, depicts.shows_iff, or_assoc]
    simp [or_and_right, exists_or]

/-- A notification of something that has been discovered is accepted where it agrees with those before,
and then its facts are shown as well; or else the identifiers run out while something is missing. -/
theorem ingest (depicts : Depicts base ns g) (consistent : Consistent (ns ++ [n]))
    (domain : g.kind? n.domain = some .domain) (discovered : n.status = .discovered) :
    (Graph.ingest n).Ends g (fun changes h => Depicts base (ns ++ [n]) h ∧ Run (Action.Discovers n.domain) g changes h)
      fun e h => ∃ cause, e = .storage cause ∧ RanOut (Action.Discovers n.domain) g cause h ∧
        Stalls (n.entity.facts n.domain) g h := by
  have wf := depicts.wellFormed
  have present : n.status ≠ .removed := by simp [discovered]
  obtain ⟨existing, valid, there⟩ := depicts.validate consistent domain
  rw [Ends]
  cases existing with
  | some id =>
    obtain ⟨bears, shown⟩ := there id rfl
    rw [(depicts.reflects consistent domain valid bears shown).ingest_eq wf present]
    exact ⟨depicts.extend (.of_shown shown) .nil, .nil⟩
  | none =>
    have known : ∀ info, n.entity.described? = some info → ∀ id, g.HasKey id (.participant info.guid) →
        ∀ fact ∈ info.facts n.domain, g.Shows fact := fun info described id has =>
      depicts.participant_shown consistent described has
    rw [ingest_eq_ingestPresent domain valid present]
    refine ((ingestPresent_ends wf domain valid).and (ingestPresent_stalls depicts.readable domain valid known)).imp
      ?_ ?_
    · intro changes h held
      obtain ⟨⟨presents, discovers⟩, -⟩ := held
      exact ⟨depicts.extend (presents.tells depicts.readable domain known) discovers, discovers⟩
    · intro e h held
      obtain ⟨⟨cause, rfl, out⟩, stalls⟩ := held
      exact ⟨cause, rfl, out, stalls⟩

/-- Identifiers that ran out midway would not have lasted in any order: where everything has been told,
there is more than there is now. -/
theorem not_stalls {all : List Notification} {f : Graph} {cause : StorageError} (depicts : Depicts base ns g)
    (full : Depicts base all f) (sub : ns ++ [n] ⊆ all) (out : RanOut (Action.Discovers n.domain) g cause h) :
    ¬ Stalls (n.entity.facts n.domain) g h := by
  intro stalls
  obtain ⟨-, none, changes, discovers⟩ := out
  have wf := discovers.wellFormed depicts.wellFormed
  have mem : n ∈ all := sub (by simp)
  have shown : ∀ fact, h.Shows fact → f.Shows fact := by
    intro fact shown
    obtain old | told := stalls.shows fact shown
    · rw [depicts.shows_iff] at old
      rw [full.shows_iff]
      refine old.imp_right fun earlier => ?_
      obtain ⟨m, before, told⟩ := earlier
      exact ⟨m, sub (List.mem_append_left _ before), told⟩
    · exact full.shows mem fact told
  obtain ⟨label, kind, name, attributes, told, missing⟩ := stalls.missing
  obtain ⟨z, -, bears, -⟩ := shows_entity_iff.mp (full.shows mem _ told)
  have more := size_lt_of_shows (discovers.identified depicts.wellFormed depicts.identified) wf full.wellFormed shown
    bears missing
  have grown := depicts.grown.trans (grown_of_discovers discovers depicts.wellFormed)
  have grown' := full.grown
  have bound := full.wellFormed.unreserved
  have last := EntityId.next?_eq_none_iff.mp none
  unfold Grown at grown grown'
  omega

end Depicts
end Graph
end DiscoveryGraph
