import DiscoveryGraph.Proofs.Discovery.Growth
import DiscoveryGraph.Proofs.Graph.Portrait

/-! What an announcement adds to the portrait of a graph. Whatever was found and whatever had to be
created on the way, in the end the graph shows what it showed before and what the announcement tells:
the participant with its host, user and process, the topic, the endpoint and its locators. -/
namespace DiscoveryGraph

/-! ### What is told of what -/

/-- What every entity that is called by a label is like, as far as the label says it all. -/
@[simp] def Label.described? : Label → Option (EntityKind × String × Attributes)
  | host name => some (.host, name, .plain)
  | user _ name => some (.user, name, .plain)
  | process _ _ name => some (.process, name, .process "")
  | topic _ name dataType => some (.topic, name, .topic dataType)
  | locator address => some (.locator, address, .plain)
  | domain _ | participant _ | endpoint _ => none

/-- A fact agrees with the label of the entity that it is about. -/
def Fact.Apt : Fact → Prop
  | entity label kind name attributes =>
    ∀ described, label.described? = some described → described = (kind, name, attributes)
  | edge .. => True

def ParticipantInfo.label (info : ParticipantInfo) : Label := .participant info.guid

/-- What a description tells of a participant. -/
def ParticipantInfo.facts (domain : EntityId) (info : ParticipantInfo) : List Fact :=
  Label.facts (.host info.host) .host info.host .plain [] ++
    Label.facts (.user info.host info.user) .user info.user .plain [.host info.host] ++
    Label.facts (.process info.host info.user info.process) .process info.process
      (.process (info.pid.getD "")) [.user info.host info.user] ++
    info.label.facts .participant info.name (.participant info.guid)
      [.process info.host info.user info.process, .domain domain]

def TopicInfo.label (domain : EntityId) (info : TopicInfo) : Label := .topic domain info.name info.dataType

/-- What a description tells of a topic. -/
def TopicInfo.facts (domain : EntityId) (info : TopicInfo) : List Fact :=
  (info.label domain).facts .topic info.name (.topic info.dataType) [.domain domain]

def EndpointInfo.label (info : EndpointInfo) : Label := .endpoint info.guid

/-- What a description tells of an endpoint apart from its locators. -/
def EndpointInfo.facts (domain : EntityId) (kind : EntityKind) (info : EndpointInfo) : List Fact :=
  info.participant.facts domain ++ info.topic.facts domain ++
    info.label.facts kind info.name (.endpoint info.guid) [info.participant.label, info.topic.label domain]

/-- What is told of the locators of an entity. -/
def Label.locatorFacts (label : Label) (addresses : List String) : List Fact :=
  addresses.flatMap fun address => facts (.locator address) .locator address .plain [label]

namespace Announcement

def label (domain : EntityId) : Announcement → Label
  | participant info => info.label
  | topic info => info.label domain
  | reader info | writer info => info.label

/-- What an announcement tells apart from locators. -/
def subject (domain : EntityId) : Announcement → List Fact
  | participant info => info.facts domain
  | topic info => info.facts domain
  | reader info => info.facts domain .dataReader
  | writer info => info.facts domain .dataWriter

/-- What an announcement tells. -/
def facts (domain : EntityId) (announcement : Announcement) : List Fact :=
  announcement.subject domain ++ (announcement.label domain).locatorFacts announcement.addresses

end Announcement

theorem Label.mem_facts {label : Label} {kind : EntityKind} {name : String} {attributes : Attributes}
    {parents : List Label} {fact : Fact} : fact ∈ label.facts kind name attributes parents ↔
      fact = .entity label kind name attributes.withoutPid ∨ ∃ parent ∈ parents, fact = .edge label parent := by
  simp [facts, eq_comm]

/-! ### What is told agrees with labels -/

theorem Label.facts_apt {label : Label} {kind : EntityKind} {name : String} {attributes : Attributes}
    {parents : List Label}
    (agrees : ∀ described, label.described? = some described → described = (kind, name, attributes.withoutPid)) :
    ∀ fact ∈ label.facts kind name attributes parents, fact.Apt := by
  intro fact mem
  obtain rfl | ⟨parent, -, rfl⟩ := mem_facts.mp mem
  · exact agrees
  · trivial

theorem ParticipantInfo.facts_apt {domain : EntityId} (info : ParticipantInfo) :
    ∀ fact ∈ info.facts domain, fact.Apt := by
  simp only [facts, List.forall_mem_append]
  refine ⟨⟨⟨?_, ?_⟩, ?_⟩, ?_⟩ <;> exact Label.facts_apt (by simp [Attributes.withoutPid, label])

theorem TopicInfo.facts_apt {domain : EntityId} (info : TopicInfo) : ∀ fact ∈ info.facts domain, fact.Apt :=
  Label.facts_apt (by simp [Attributes.withoutPid, label])

theorem EndpointInfo.facts_apt {domain : EntityId} {kind : EntityKind} (info : EndpointInfo) :
    ∀ fact ∈ info.facts domain kind, fact.Apt := by
  simp only [facts, List.forall_mem_append]
  exact ⟨⟨info.participant.facts_apt, info.topic.facts_apt⟩, Label.facts_apt (by simp [label])⟩

theorem Announcement.subject_apt {domain : EntityId} (announcement : Announcement) :
    ∀ fact ∈ announcement.subject domain, fact.Apt := by
  cases announcement with
  | participant info => exact info.facts_apt
  | topic info => exact info.facts_apt
  | reader info | writer info => exact info.facts_apt

theorem Label.locatorFacts_apt {label : Label} {addresses : List String} :
    ∀ fact ∈ label.locatorFacts addresses, fact.Apt := by
  intro fact mem
  obtain ⟨address, -, mem⟩ := List.mem_flatMap.mp mem
  exact facts_apt (by simp [Attributes.withoutPid]) fact mem

theorem Announcement.facts_apt {domain : EntityId} (announcement : Announcement) :
    ∀ fact ∈ announcement.facts domain, fact.Apt := by
  rw [facts, List.forall_mem_append]
  exact ⟨announcement.subject_apt, Label.locatorFacts_apt⟩

namespace Graph
variable {g g' h : Graph} {d id x y : EntityId} {k kind : EntityKind} {name : String} {key : Key}
    {attributes : Attributes} {label : Label} {kinds : List EntityKind} {facts facts' : List Fact} {r : Resolved}

/-! ### Growth of a portrait -/

theorem Adds.bears (adds : Adds kinds g h) (bears : g.Bears x label) : h.Bears x label :=
  bears.mono adds.kind? adds.hasKey

theorem Adds.bears_iff (adds : Adds kinds g h) (wf : g.WellFormed) (known : g.kind? x = some kind) :
    h.Bears x label ↔ g.Bears x label := by
  refine ⟨fun bears => bears.of_known wf known adds.kind? fun known has => ?_, adds.bears⟩
  exact (adds.hasKey_iff_of_known known).mp has

/-- Of an entity the same is told wherever it has the same profile. -/
theorem shows_of_profile? {entity : Entity} (bears : h.Bears x label) (profile : h.profile? x = g.profile? x)
    (found : g.entity? x = some entity) :
    h.Shows (.entity label entity.kind entity.name entity.attributes.withoutPid) := by
  obtain ⟨entity', found', same⟩ := (exists_entity_congr (p := fun other => other.kind = entity.kind ∧
    other.name = entity.name ∧ other.attributes.withoutPid = entity.attributes.withoutPid)
    (fun _ _ => Iff.rfl) profile).mpr ⟨entity, found, rfl, rfl, rfl⟩
  exact shows_entity_iff.mpr ⟨x, entity', bears, found', same⟩

/-- What a graph shows that others have been added to: what it showed, and what is told of the new
entities and the new edges. -/
theorem Adds.shows_iff (adds : Adds kinds g h) (wf : g.WellFormed)
    (entities : ∀ x label entity, g.kind? x = none → h.Bears x label → h.entity? x = some entity →
      .entity label entity.kind entity.name entity.attributes.withoutPid ∈ facts)
    (edges : ∀ x y child parent, h.Below x y → h.Bears x child → h.Bears y parent →
      g.Below x y ∨ .edge child parent ∈ facts)
    (below : ∀ x y, g.Below x y → h.Below x y) (told : ∀ fact ∈ facts, h.Shows fact) (fact : Fact) :
    h.Shows fact ↔ g.Shows fact ∨ fact ∈ facts := by
  constructor
  · intro shown
    cases shown with
    | @entity x label entity bears found =>
      cases old : g.kind? x with
      | none => exact .inr (entities x label entity old bears found)
      | some kind =>
        exact .inl (shows_of_profile? ((adds.bears_iff wf old).mp bears) (adds.profile? old).symm found)
    | @edge x y child parent bears bears' joined =>
      refine (edges x y child parent joined bears bears').imp_left fun old => ?_
      obtain ⟨rule, -, known, near⟩ := id old
      exact .edge ((adds.bears_iff wf known).mp bears) ((adds.bears_iff wf (wf.kind?_of_mem near)).mp bears') old
  · intro held
    obtain shown | mem := held
    · cases shown with
      | entity bears found =>
        exact shows_of_profile? (adds.bears bears) (adds.profile? (kind?_of_entity? found)) found
      | edge bears bears' joined => exact .edge (adds.bears bears) (adds.bears bears') (below _ _ joined)
    · exact told fact mem

/-- The second graph shows some facts besides what the first one shows, and nothing in it has gone to
sleep. -/
structure Tells (facts : List Fact) (g h : Graph) : Prop where
  shows_iff : ∀ fact, h.Shows fact ↔ g.Shows fact ∨ fact ∈ facts
  awake : g.Awake → h.Awake

namespace Tells

theorem of_shown (shown : ∀ fact ∈ facts, g.Shows fact) : Tells facts g g :=
  ⟨fun fact => (or_iff_left_of_imp (shown fact)).symm, id⟩

theorem trans (first : Tells facts g g') (second : Tells facts' g' h) : Tells (facts ++ facts') g h := by
  refine ⟨fun fact => ?_, fun awake => second.awake (first.awake awake)⟩
  rw [second.shows_iff, first.shows_iff, List.mem_append, or_assoc]

end Tells

theorem Alike.below_iff (alike : g.Alike h) : h.Below x y ↔ g.Below x y := by
  simp only [Below, alike.kind?, alike.neighbors]

/-- Flags are not told of. -/
theorem Alike.tells (alike : g.Alike h) (wf : g.WellFormed) (awake : g.Awake → h.Awake) : Tells [] g h := by
  refine ⟨alike.adds.shows_iff wf (fun x _ _ unknown bears _ => ?_) (fun x y _ _ below _ _ => ?_)
    (fun x y => alike.below_iff.mpr) (by simp), awake⟩
  · obtain ⟨kind, known⟩ := bears.known
    rw [alike.kind?, unknown] at known
    cases known
  · exact .inl (alike.below_iff.mp below)

/-! ### Nothing falls asleep -/

theorem awake_act {a : Action} (enabled : a.Enabled g) (up : ∀ id kind, a ≠ .flagged id kind false)
    (awake : g.Awake) : (a.act g).Awake := by
  intro x entity found
  cases a with
  | born new edges =>
    rw [Action.act, entity?_links, entity?_add] at found
    split at found
    · cases found
      exact enabled.2.2.1
    · exact awake x entity found
  | linked | unlinked => exact awake x entity found
  | flagged id kind active =>
    rw [Action.act, entity?_reflag] at found
    split at found
    · obtain ⟨old, -, rfl⟩ := Option.map_eq_some_iff.mp found
      cases active with
      | true => rfl
      | false => exact absurd rfl (up id kind)
    · exact awake x entity found
  | forgotten gone =>
    rw [Action.act, entity?_forget] at found
    split at found
    · cases found
    · exact awake x entity found

/-- A run that lowers no flag leaves everything active. -/
theorem awake_run {p : Graph → Action → Prop} {changes : List StateChange} (run : Run p g changes h)
    (up : ∀ g id kind, ¬ p g (.flagged id kind false)) (awake : g.Awake) : h.Awake := by
  induction run with
  | nil => exact awake
  | cons enabled allowed _ ih =>
    refine ih (awake_act enabled (fun id kind same => ?_) awake)
    exact up _ id kind (same ▸ allowed)

/-! ### New entities -/

theorem tells_born {entity : Entity} {edges : List Edge} {parents : List Label} (wf : g.WellFormed)
    (enabled : (Action.born entity edges).Enabled g)
    (bears : ((Action.born entity edges).act g).Bears entity.id label)
    (above : ∀ parent, parent ∈ parents ↔ ∃ edge ∈ edges, g.Bears edge.parent parent) :
    Tells (label.facts entity.kind entity.name entity.attributes parents) g
      ((Action.born entity edges).act g) := by
  have adds := Action.adds_born wf enabled
  have wf' := Action.wellFormed_act wf enabled
  have here : ((Action.born entity edges).act g).entity? entity.id = some entity := by
    rw [Action.act, entity?_links, entity?_add, if_pos rfl]
  have joined : ∀ {x y}, ((Action.born entity edges).act g).Below x y ↔
      g.Below x y ∨ x = entity.id ∧ ∃ edge ∈ edges, edge.parent = y := below_born wf enabled
  refine ⟨adds.shows_iff wf ?entities ?joins (fun x y below => joined.mpr (.inl below)) ?told,
    awake_act enabled (by simp)⟩
  case entities =>
    intro x label' other unknown bears' found
    have known := kind?_of_entity? found
    rw [Action.kind?_born, unknown] at known
    split at known
    · rename_i same
      subst same
      rw [here, Option.some_inj] at found
      rw [← found, bears'.eq wf' bears]
      exact Label.mem_facts.mpr (.inl rfl)
    · cases known
  case joins =>
    intro x y child parent below bears' bears''
    obtain old | ⟨rfl, edge, mem, rfl⟩ := joined.mp below
    · exact .inl old
    · have upper := (adds.bears_iff wf (enabled.2.2.2.parent edge mem)).mp bears''
      rw [bears'.eq wf' bears]
      exact .inr (Label.mem_facts.mpr (.inr ⟨parent, (above parent).mpr ⟨edge, mem, upper⟩, rfl⟩))
  case told =>
    intro fact mem
    obtain rfl | ⟨parent, listed, rfl⟩ := Label.mem_facts.mp mem
    · exact .entity bears here
    · obtain ⟨edge, mem, upper⟩ := (above parent).mp listed
      exact .edge bears (adds.bears upper) (joined.mpr (.inr ⟨rfl, edge, mem, rfl⟩))

/-- Every fact that a graph shows agrees with the label of its entity. -/
def Apt (g : Graph) : Prop := ∀ fact, g.Shows fact → fact.Apt

theorem Tells.apt (tells : Tells facts g h) (apt : g.Apt) (told : ∀ fact ∈ facts, fact.Apt) : h.Apt := by
  intro fact shown
  obtain old | mem := (tells.shows_iff fact).mp shown
  · exact apt fact old
  · exact told fact mem

theorem HasKey.below (has : g.HasKey x key) (named : key.parent? = some (k, y)) : g.Below x y := by
  obtain ⟨entity, found, fits, above⟩ := has
  obtain ⟨rule, mem, rfl⟩ := List.mem_map.mp (fits.mem_parents named)
  obtain ⟨legal, only⟩ := List.mem_filter.mp mem
  have child : rule.child = entity.kind := (of_decide_eq_true only).1
  exact ⟨rule, legal, by rw [kind?_of_entity? found, child], above _ _ named⟩

/-- What is there shows what its label tells, and lies below the entity that the label names. -/
theorem Bears.shows_facts (bears : g.Bears x label) (apt : g.Apt)
    (described : label.described? = some (kind, name, attributes.withoutPid)) :
    ∀ fact ∈ label.facts kind name attributes label.above?.toList, g.Shows fact := by
  intro fact mem
  cases id bears with
  | domain => cases described
  | keyed amounts above has =>
    obtain rfl | ⟨parent, listed, rfl⟩ := Label.mem_facts.mp mem
    · obtain ⟨entity, found, -⟩ := has
      have shown : g.Shows _ := .entity bears found
      have same := apt _ shown _ described
      simp only [Prod.mk.injEq] at same
      rwa [same.1, same.2.1, same.2.2]
    · rw [Option.mem_toList] at listed
      obtain ⟨k, named⟩ := Label.parent?_of_above? amounts listed
      exact .edge bears (above parent listed) (has.below named)

/-- A graph that can be read: its entities are called by labels and look as these say. -/
structure Readable (g : Graph) : Prop where
  wellFormed : g.WellFormed
  identified : g.Identified
  apt : g.Apt

section Resolves
variable {found : Option EntityId} {edges : EntityId → List Edge} {parents : List Label}

theorem Resolves.identified (resolves : Resolves g found kind name attributes edges r h) (wf : g.WellFormed)
    (identified : g.Identified) (answers : Answers (g.HasKey · key) found)
    (fits : ∀ id, key.FitsBirth (Entity.discovered id kind name attributes) (edges id)) : h.Identified := by
  cases resolves with
  | known => exact identified
  | born unknown enabled =>
    subst unknown
    exact identified.born wf enabled (fits _) answers

/-- What a search answers with is called by the label that it looks for. -/
theorem Resolves.bears (resolves : Resolves g found kind name attributes edges r h) (wf : g.WellFormed)
    (answers : Answers (g.HasKey · key) found)
    (fits : ∀ id, key.FitsBirth (Entity.discovered id kind name attributes) (edges id))
    (amounts : label.key? y = some key) (upper : ∀ parent, label.above? = some parent → g.Bears y parent) :
    h.Bears r.id label :=
  .keyed amounts (fun parent named => (resolves.adds wf).bears (upper parent named))
    (resolves.answers wf answers fits).1

/-- What a search answers with is called by the label that it looks for, and what that label tells has
been added. -/
theorem Resolves.reads (resolves : Resolves g found kind name attributes edges r h) (readable : g.Readable)
    (answers : Answers (g.HasKey · key) found)
    (fits : ∀ id, key.FitsBirth (Entity.discovered id kind name attributes) (edges id))
    (amounts : label.key? y = some key) (upper : ∀ parent, label.above? = some parent → g.Bears y parent)
    (described : label.described? = some (kind, name, attributes.withoutPid))
    (joined : ∀ parent, label.above? = some parent ↔ ∃ edge ∈ edges r.id, g.Bears edge.parent parent) :
    Tells (label.facts kind name attributes label.above?.toList) g h ∧ h.Readable ∧ h.Bears r.id label := by
  have wf := readable.wellFormed
  have bears := resolves.bears wf answers fits amounts upper
  have tells : Tells (label.facts kind name attributes label.above?.toList) g h := by
    cases resolves with
    | known => exact .of_shown (bears.shows_facts readable.apt described)
    | born _ enabled => exact tells_born wf enabled bears fun parent => Option.mem_toList.trans (joined parent)
  refine ⟨tells, ⟨resolves.wellFormed wf, resolves.identified wf readable.identified answers fits, ?_⟩, bears⟩
  refine tells.apt readable.apt (Label.facts_apt fun other same => ?_)
  rwa [described, Option.some_inj, eq_comm] at same

theorem Resolves.reads_top (resolves : Resolves g found kind name attributes (fun _ => []) r h)
    (readable : g.Readable) (answers : Answers (g.HasKey · key) found)
    (fits : ∀ id, key.FitsBirth (Entity.discovered id kind name attributes) [])
    (amounts : label.key? r.id = some key) (top : label.above? = none)
    (described : label.described? = some (kind, name, attributes.withoutPid)) :
    Tells (label.facts kind name attributes []) g h ∧ h.Readable ∧ h.Bears r.id label := by
  have reads := resolves.reads readable answers fits amounts (by rw [top]; simp) described (by rw [top]; simp)
  rwa [top] at reads

theorem Resolves.reads_below (rule : EdgeRule) {upper : Label}
    (resolves : Resolves g found kind name attributes (fun id => [⟨rule, y, id⟩]) r h)
    (readable : g.Readable) (above : g.Bears y upper) (answers : Answers (g.HasKey · key) found)
    (fits : ∀ id, key.FitsBirth (Entity.discovered id kind name attributes) [⟨rule, y, id⟩])
    (amounts : label.key? y = some key) (named : label.above? = some upper)
    (described : label.described? = some (kind, name, attributes.withoutPid)) :
    Tells (label.facts kind name attributes [upper]) g h ∧ h.Readable ∧ h.Bears r.id label := by
  have reads := resolves.reads readable answers fits amounts (by rw [named]; simpa using above) described
    (by rw [named]; simp [above.eq_iff readable.wellFormed, eq_comm])
  rwa [named] at reads

theorem Resolves.tells_new (resolves : Resolves g none kind name attributes edges r h) (wf : g.WellFormed)
    (bears : h.Bears r.id label)
    (above : ∀ parent, parent ∈ parents ↔ ∃ edge ∈ edges r.id, g.Bears edge.parent parent) :
    Tells (label.facts kind name attributes parents) g h := by
  cases resolves with
  | known here => cases here
  | born _ enabled => exact tells_born wf enabled bears above

theorem Resolves.hasKey_new (resolves : Resolves g none kind name attributes edges r h) (wf : g.WellFormed)
    (fits : ∀ id, key.FitsBirth (Entity.discovered id kind name attributes) (edges id)) : h.HasKey r.id key := by
  cases resolves with
  | known here => cases here
  | born _ enabled => exact (hasKey_born wf enabled).mpr (.inl ⟨rfl, fits _⟩)

end Resolves

/-! ### Announced entities -/

theorem reads_host {host : String} (readable : g.Readable)
    (resolves : Resolves g (g.findGlobal .host host) .host host .plain (fun _ => []) r h) :
    Tells (Label.facts (.host host) .host host .plain []) g h ∧ h.Readable ∧ h.Bears r.id (.host host) :=
  resolves.reads_top readable (findHost_answers readable.wellFormed host) (by simp [Key.FitsBirth]) rfl rfl rfl

theorem reads_locator {address : String} (readable : g.Readable)
    (resolves : Resolves g (g.findGlobal .locator address) .locator address .plain (fun _ => []) r h) :
    Tells (Label.facts (.locator address) .locator address .plain []) g h ∧ h.Readable ∧ h.Bears r.id (.locator address) :=
  resolves.reads_top readable (findLocator_answers readable.wellFormed address) (by simp [Key.FitsBirth]) rfl rfl rfl

theorem reads_user {host user : String} (readable : g.Readable) (above : g.Bears y (.host host))
    (resolves : Resolves g (g.findChild y .user user) .user user .plain
      (fun id => [⟨⟨.host, .user, .containment⟩, y, id⟩]) r h) :
    Tells (Label.facts (.user host user) .user user .plain [.host host]) g h ∧ h.Readable ∧
      h.Bears r.id (.user host user) :=
  resolves.reads_below ⟨.host, .user, .containment⟩ readable above
    (findUser_answers readable.wellFormed (above.kind? fun _ => rfl)) (by simp [Key.FitsBirth]) rfl rfl rfl

theorem reads_process {host user process pid : String} (readable : g.Readable) (above : g.Bears y (.user host user))
    (resolves : Resolves g (g.findChild y .process process) .process process (.process pid)
      (fun id => [⟨⟨.user, .process, .containment⟩, y, id⟩]) r h) :
    Tells (Label.facts (.process host user process) .process process (.process pid) [.user host user]) g h ∧
      h.Readable ∧ h.Bears r.id (.process host user process) :=
  resolves.reads_below ⟨.user, .process, .containment⟩ readable above
    (findProcess_answers readable.wellFormed (above.kind? fun _ => rfl)) (by simp [Key.FitsBirth])
    rfl rfl rfl

theorem reads_topic {info : TopicInfo} (readable : g.Readable) (domain : g.kind? d = some .domain)
    (resolves : Resolves g (g.findTopic d info) .topic info.name (.topic info.dataType)
      (fun id => [⟨⟨.domain, .topic, .domainMembership⟩, d, id⟩]) r h) :
    Tells (info.facts d) g h ∧ h.Readable ∧ h.Bears r.id (info.label d) :=
  resolves.reads_below ⟨.domain, .topic, .domainMembership⟩ readable (.domain domain)
    (findTopic_answers readable.wellFormed) (by simp [Key.FitsBirth]) rfl rfl rfl

/-- What is told of a participant that is there must be shown already; else it is shown once its host,
user and process have been resolved and the participant has been created. -/
theorem ResolvesParticipant.tells {info : ParticipantInfo} (resolves : ResolvesParticipant g d info r h)
    (readable : g.Readable) (domain : g.kind? d = some .domain)
    (known : ∀ id, g.HasKey id (.participant info.guid) → ∀ fact ∈ info.facts d, g.Shows fact) :
    Tells (info.facts d) g h ∧ h.Readable ∧ h.Bears r.id info.label := by
  have wf := readable.wellFormed
  have answers := findParticipant_answers wf info.guid
  cases resolves with
  | @known id k found =>
    rw [found] at answers
    exact ⟨.of_shown (known id answers.1), readable, .top rfl rfl answers.1⟩
  | @built g₁ g₂ g₃ _ host user process participant unknown hosts users processes participants =>
    obtain ⟨tells₁, readable₁, bears₁⟩ := reads_host readable hosts
    obtain ⟨tells₂, readable₂, bears₂⟩ := reads_user readable₁ bears₁ users
    obtain ⟨tells₃, readable₃, bears₃⟩ := reads_process readable₂ bears₂ processes
    have wf₁ := readable₁.wellFormed
    have wf₂ := readable₂.wellFormed
    have wf₃ := readable₃.wellFormed
    have adds₃ := (hosts.adds wf).trans ((users.adds wf₁).trans (processes.adds wf₂))
    rw [unknown] at answers
    have lacks₃ : g₃.Lacks (.participant info.guid) := adds₃.answers answers (by simp)
    have fits : ∀ id, (Key.participant info.guid).FitsBirth
        (Entity.discovered id .participant info.name (.participant info.guid)) (participantEdges process.id d id) := by
      simp [Key.FitsBirth]
    have bears₄ : h.Bears participant.id info.label := .top rfl rfl (participants.answers wf₃ lacks₃ fits).1
    have tells₄ : Tells (info.label.facts .participant info.name (.participant info.guid)
        [.process info.host info.user info.process, .domain d]) g₃ h :=
      participants.tells_new wf₃ bears₄
        (by simp [participantEdges, bears₃.eq_iff wf₃, (Bears.domain (adds₃.kind? domain)).eq_iff wf₃])
    refine ⟨((tells₁.trans tells₂).trans tells₃).trans tells₄, ⟨participants.wellFormed wf₃,
      participants.identified wf₃ readable₃.identified lacks₃ fits, ?_⟩, bears₄⟩
    exact tells₄.apt readable₃.apt (Label.facts_apt (by simp [ParticipantInfo.label]))

theorem CreatesEndpoint.tells {info : EndpointInfo} (creates : CreatesEndpoint g d kind info r h)
    (readable : g.Readable) (domain : g.kind? d = some .domain) (isEndpoint : kind.isEndpoint)
    (known : ∀ id, g.HasKey id (.participant info.participant.guid) →
      ∀ fact ∈ info.participant.facts d, g.Shows fact) :
    Tells (info.facts d kind) g h ∧ h.Bears r.id info.label := by
  obtain @⟨g₁, g₂, _, participant, topic, endpoint, participants, topics, endpoints⟩ := creates
  obtain ⟨tells₁, readable₁, bears₁⟩ := participants.tells readable domain known
  have domain₁ := (participants.adds readable.wellFormed).kind? domain
  obtain ⟨tells₂, readable₂, bears₂⟩ := reads_topic readable₁ domain₁ topics
  have wf₂ := readable₂.wellFormed
  have has : h.HasKey endpoint.id (.endpoint info.guid) :=
    endpoints.hasKey_new wf₂ (by simp [Key.FitsBirth, isEndpoint])
  have bears₃ : h.Bears endpoint.id info.label := .top rfl rfl has
  have above := (topics.adds readable₁.wellFormed).bears bears₁
  have tells₃ : Tells (info.label.facts kind info.name (.endpoint info.guid)
      [info.participant.label, info.topic.label d]) g₂ h :=
    endpoints.tells_new wf₂ bears₃ (by simp [endpointEdges, above.eq_iff wf₂, bears₂.eq_iff wf₂])
  exact ⟨(tells₁.trans tells₂).trans tells₃, bears₃⟩

/-- Once the announced entity has been created, all but its locators is shown. -/
theorem Creates.tells {announcement : Announcement} (creates : Creates g d announcement r h)
    (readable : g.Readable) (domain : g.kind? d = some .domain)
    (known : ∀ info, announcement.described? = some info → ∀ id, g.HasKey id (.participant info.guid) →
      ∀ fact ∈ info.facts d, g.Shows fact) :
    Tells (announcement.subject d) g h ∧ h.Bears r.id (announcement.label d) := by
  cases announcement with
  | participant info =>
    obtain ⟨tells, -, bears⟩ := ResolvesParticipant.tells creates readable domain (known info rfl)
    exact ⟨tells, bears⟩
  | topic info =>
    obtain ⟨tells, -, bears⟩ := reads_topic readable domain creates
    exact ⟨tells, bears⟩
  | reader info | writer info =>
    exact CreatesEndpoint.tells creates readable domain rfl (known info.participant rfl)

/-! ### Locators -/

/-- Nothing lies below or above anything else than before, but for the locators of the endpoint. -/
theorem below_of_rebinds {a : Action} (rebinds : a.Rebinds id g) (wf : g.WellFormed) (enabled : a.Enabled g)
    (other : y = id → (a.act g).kind? x ≠ some .locator) : (a.act g).Below x y ↔ g.Below x y := by
  have near : ∀ rule ∈ edgeRules, (y ∈ (a.act g).neighbors x rule.parent ↔ y ∈ g.neighbors x rule.parent) := by
    intro rule mem
    refine rebinds.mem_neighbors enabled (fun both => EntityKind.locator_not_parent rule mem both.2) ?_
    intro both
    exact other both.1 (Action.kind?_act wf enabled rebinds.not_forgotten both.2)
  cases a with
  | born entity edges =>
    obtain ⟨-, rfl, -⟩ := rebinds
    simp [below_born wf enabled]
  | linked | unlinked =>
    exact exists_congr fun rule => and_congr_right fun mem => and_congr_right fun _ => near rule mem
  | flagged | forgotten => exact rebinds.elim

theorem below_of_rebinds_run {changes : List StateChange} (run : Run (Action.Rebinds id) g changes h)
    (wf : g.WellFormed) (other : y = id → h.kind? x ≠ some .locator) : h.Below x y ↔ g.Below x y := by
  refine run.invariant (fun h => (y = id → h.kind? x ≠ some .locator) → (h.Below x y ↔ g.Below x y)) wf
    (fun _ => Iff.rfl) ?_ other
  intro h a wf enabled rebinds held other
  rw [below_of_rebinds rebinds wf enabled other]
  exact held fun same known => other same (Action.kind?_act wf enabled rebinds.not_forgotten known)

/-- New locators have no attributes. -/
theorem plain_of_rebinds_run {changes : List StateChange} {entity : Entity}
    (run : Run (Action.Rebinds id) g changes h) (wf : g.WellFormed) (unknown : g.kind? x = none)
    (found : h.entity? x = some entity) : entity.attributes = .plain := by
  refine run.invariant (fun h => ∀ entity, h.entity? x = some entity → entity.attributes = .plain) wf ?_ ?_ entity found
  · intro entity found
    rw [kind?_of_entity? found] at unknown
    cases unknown
  · intro h a _ _ rebinds held entity found
    cases a with
    | born new edges =>
      rw [Action.act, entity?_links, entity?_add] at found
      split at found
      · cases found
        exact rebinds.2.2.1
      · exact held entity found
    | linked | unlinked => exact held entity found
    | flagged | forgotten => exact rebinds.elim

theorem mem_neighbors_locator (wf : g.WellFormed) :
    x ∈ g.neighbors y .locator ↔ g.kind? x = some .locator ∧ g.Below x y := by
  rw [mem_neighbors_iff_below wf]
  refine and_congr_right fun locator => or_iff_right fun below => ?_
  obtain ⟨rule, mem, -, near⟩ := below
  exact EntityKind.locator_not_parent rule mem (kind_unique (wf.kind?_of_mem near) locator)

/-- The children of a locator are the endpoints that are bound to it. -/
theorem mem_children_locator (wf : g.WellFormed) (known : g.kind? x = some .locator) :
    y ∈ g.children x .locator ↔ x ∈ g.neighbors y .locator := by
  rw [mem_children]
  constructor
  · intro held
    obtain ⟨kind, -, near⟩ := held
    exact wf.mem_symm near known
  · intro near
    obtain ⟨kind, known', adjoins⟩ := wf.exists_of_mem near
    refine ⟨kind, ?_, wf.mem_symm near known'⟩
    revert adjoins
    cases kind <;> decide

/-- A new entity that has been bound to its locators is shown with them. -/
theorem Rebound.tells {addresses : List String} {touched : ResolvedLocators}
    (rebound : Rebound id addresses g touched h) (wf : g.WellFormed) (apt : g.Apt) (bears : g.Bears id label)
    (unbound : ∀ x, x ∉ g.neighbors id .locator) : Tells (label.locatorFacts addresses) g h := by
  have run := rebound.run
  have wf' := run.wellFormed wf
  have adds := run.adds_of_rebinds wf
  have below : ∀ {x y}, ¬ (y = id ∧ h.kind? x = some .locator) → (h.Below x y ↔ g.Below x y) :=
    fun apart => below_of_rebinds_run run wf fun same known => apart ⟨same, known⟩
  -- The locators with the given addresses are the ones that lie below the entity.
  have located : ∀ {x}, x ∈ h.neighbors id .locator ↔
      ∃ address ∈ addresses, h.findGlobal .locator address = some x := fun {x} => rebound.bound x
  have called : ∀ {x address}, h.findGlobal .locator address = some x →
      h.HasKey x (.locator address) ∧ h.Bears x (.locator address) := by
    intro x address found
    have has := (findLocator_answers wf' address).holds found
    exact ⟨has, .top rfl rfl has⟩
  have mem_facts : ∀ {fact}, fact ∈ label.locatorFacts addresses ↔ ∃ address ∈ addresses,
      fact = .entity (.locator address) .locator address .plain ∨ fact = .edge (.locator address) label := by
    simp [Label.locatorFacts, Label.mem_facts, Attributes.withoutPid]
  refine ⟨adds.shows_iff wf ?entities ?joins ?below ?told, awake_run run fun g id kind rebinds => rebinds.elim⟩
  case entities =>
    intro x other entity unknown bears' found
    obtain ⟨locator, near⟩ := rebound.of_unknown wf unknown (kind?_of_entity? found)
    obtain ⟨address, mem, here⟩ := located.mp near
    obtain ⟨has, bears''⟩ := called here
    obtain rfl := bears'.eq wf' bears''
    obtain ⟨entity', found', ⟨-, named⟩, -⟩ := has
    rw [found, Option.some_inj] at found'
    subst found'
    refine mem_facts.mpr ⟨address, mem, .inl ?_⟩
    rw [locator, named, plain_of_rebinds_run run wf unknown found, Attributes.withoutPid]
    simp
  case joins =>
    intro x y child parent joined bears' bears''
    by_cases mine : y = id ∧ h.kind? x = some .locator
    · obtain ⟨rfl, known⟩ := mine
      obtain ⟨address, mem, here⟩ := located.mp ((mem_neighbors_locator wf').mpr ⟨known, joined⟩)
      obtain rfl := bears'.eq wf' (called here).2
      obtain rfl := bears''.eq wf' (adds.bears bears)
      exact .inr (mem_facts.mpr ⟨address, mem, .inr rfl⟩)
    · exact .inl ((below mine).mp joined)
  case below =>
    intro x y joined
    refine (below fun mine => ?_).mpr joined
    obtain ⟨rfl, known⟩ := mine
    obtain ⟨rule, -, old, -⟩ := id joined
    have locator := kind_unique (adds.kind? old) known
    exact unbound x ((mem_neighbors_locator wf).mpr ⟨by rw [old, locator], joined⟩)
  case told =>
    intro fact mem
    obtain ⟨address, listed, told⟩ := mem_facts.mp mem
    obtain ⟨x, here⟩ := rebound.found address listed
    obtain ⟨has, bears'⟩ := called here
    obtain rfl | rfl := told
    · obtain ⟨entity, found, ⟨kind, named⟩, -⟩ := has
      refine shows_entity_iff.mpr ⟨x, entity, bears', found, kind, named, ?_⟩
      cases old : g.kind? x with
      | none => rw [plain_of_rebinds_run run wf old found, Attributes.withoutPid]; simp
      | some kind' =>
        have shown := shows_of_profile? ((adds.bears_iff wf old).mp bears') (adds.profile? old).symm found
        have same := apt _ shown _ rfl
        exact (Prod.mk.inj (Prod.mk.inj same).2).2.symm
    · have bound := (mem_neighbors_locator wf').mp (located.mpr ⟨address, listed, here⟩)
      exact .edge bears' (adds.bears bears) bound.2

/-! ### A notification -/

/-- Locators that are set by an endpoint that is active stay active. -/
theorem Rederived.awake {ids : IdSet} {changes : List StateChange} (rederived : Rederived g ids changes h)
    (wf : g.WellFormed) (bound : ∀ x ∈ ids, x ∈ g.neighbors id .locator) (awake : g.Awake) : h.Awake := by
  have alike := rederived.run.alike_of_marks
  rw [awake_iff] at awake ⊢
  intro x kind known
  rw [alike.kind?] at known
  by_cases mem : x ∈ ids
  · obtain ⟨kind', known', -⟩ := wf.exists_of_mem (bound x mem)
    have child := (mem_children_locator wf (wf.kind?_of_mem (bound x mem))).mpr (bound x mem)
    rw [rederived.set x mem, List.any_eq_true]
    exact ⟨id, child, awake id kind' known'⟩
  · rw [rederived.run.alive_of_marks mem, awake x kind known]

/-- A notification of something that is not there yet adds what it tells. -/
theorem Presents.tells {n : Notification} {changes : List StateChange} (presents : Presents g n none changes h)
    (readable : g.Readable) (domain : g.kind? n.domain = some .domain)
    (known : ∀ info, n.entity.described? = some info → ∀ id, g.HasKey id (.participant info.guid) →
      ∀ fact ∈ info.facts n.domain, g.Shows fact) : Tells (n.entity.facts n.domain) g h := by
  cases presents with
  | @done g₁ g₂ g₃ _ announced touched appeared rederived announces known₁ rebound appears sets =>
  have wf₁ := announces.wellFormed readable.wellFormed
  have wf₂ := rebound.run.wellFormed wf₁
  have wf₃ := appears.raised.wellFormed wf₂
  obtain ⟨tells₁, bears₁⟩ := Creates.tells announces readable domain known
  have unbound : ∀ x, x ∉ g₁.neighbors announced.id .locator := fun _ =>
    Creates.unbound announces readable.wellFormed
  have apt₁ := tells₁.apt readable.apt n.entity.subject_apt
  have tells₂ := rebound.tells wf₁ apt₁ bears₁ unbound
  have bound : ∀ x ∈ touched.ids, x ∈ g₃.neighbors announced.id .locator := fun x mem => by
    rw [appears.raised.alike.neighbors]
    exact (rebound.touched x mem).resolve_left (unbound x)
  have tells₃ := (appears.raised.alike.trans sets.run.alike_of_marks).tells wf₂ fun awake =>
    sets.awake wf₃ bound (awake_run appears.raised (by simp [Action.Flags]) awake)
  have told := (tells₁.trans tells₂).trans tells₃
  rw [List.append_nil] at told
  exact told

end Graph
end DiscoveryGraph
