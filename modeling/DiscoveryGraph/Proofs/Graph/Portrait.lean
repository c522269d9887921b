import DiscoveryGraph.Proofs.Graph.Key

/-! Portraits. Identifiers depend on the order in which entities were discovered; what can be told of
a graph without them does not. An entity is called by the names that lead to it, what is told of it is
its kind, its name and its attributes, and of an edge which two entities it joins. Two graphs of which
the same is told are copies of each other. -/
namespace DiscoveryGraph

/-- What an entity is called apart from its identifier: its key, with the names of the entities above
it. A domain is called by its identifier, which its monitor knows it by. -/
inductive Label where
  | domain (id : EntityId)
  | host (name : String)
  | user (host name : String)
  | process (host user name : String)
  | participant (guid : Guid)
  | topic (domain : EntityId) (name dataType : String)
  | endpoint (guid : Guid)
  | locator (address : String)
  deriving DecidableEq, Repr

namespace Label
variable {label label' : Label} {key : Key} {y z : EntityId}

/-- The label of the entity that a labelled one is known below. -/
@[simp] def above? : Label → Option Label
  | user h _ => some (.host h)
  | process h u _ => some (.user h u)
  | topic d .. => some (.domain d)
  | domain _ | host _ | participant _ | endpoint _ | locator _ => none

/-- The key that a label amounts to, given the entity above. -/
@[simp] def key? (y : EntityId) : Label → Option Key
  | domain _ => none
  | host name => some (.host name)
  | user _ name => some (.user y name)
  | process _ _ name => some (.process y name)
  | participant guid => some (.participant guid)
  | topic _ name dataType => some (.topic y name dataType)
  | endpoint guid => some (.endpoint guid)
  | locator address => some (.locator address)

theorem key?_congr (same : ∀ above, label.above? = some above → y = z) : label.key? y = label.key? z := by
  cases label <;> simp_all

/-- Of the labels that amount to one key there is one for each label of the entity above. -/
theorem eq_of_key? (amounts : label.key? y = some key) (amounts' : label'.key? z = some key)
    (same : ∀ above above', label.above? = some above → label'.above? = some above' → y = z → above = above') :
    label = label' := by
  cases key <;> cases label <;> cases label' <;> simp_all

theorem parent?_of_above? {above : Label} (amounts : label.key? y = some key)
    (named : label.above? = some above) : ∃ k, key.parent? = some (k, y) := by
  cases label with
  | user | process | topic =>
    cases amounts
    exact ⟨_, rfl⟩
  | domain | host | participant | endpoint | locator => cases named

end Label

/-- The attributes without the number that the operating system gave a process: participants of one
process need not agree on it. -/
def Attributes.withoutPid : Attributes → Attributes
  | process _ => process ""
  | attributes => attributes

/-- What can be told of a graph without identifiers. -/
inductive Fact where
  | entity (label : Label) (kind : EntityKind) (name : String) (attributes : Attributes)
  | edge (child parent : Label)
  deriving DecidableEq, Repr

/-- What there is to tell of an entity and its parents. -/
def Label.facts (label : Label) (kind : EntityKind) (name : String) (attributes : Attributes)
    (parents : List Label) : List Fact :=
  .entity label kind name attributes.withoutPid :: parents.map (.edge label)

/-- No two kinds are each above the other. -/
theorem EntityKind.not_above_and_below : ∀ rule ∈ edgeRules, ∀ rule' ∈ edgeRules,
    ¬ (rule.parent = rule'.child ∧ rule.child = rule'.parent) := by decide

/-- Nothing lies below a locator. -/
theorem EntityKind.locator_not_parent : ∀ rule ∈ edgeRules, rule.parent ≠ .locator := by decide

/-- A domain lies below nothing. -/
theorem EntityKind.domain_not_child : ∀ rule ∈ edgeRules, rule.child ≠ .domain := by decide

namespace Graph
variable {g h : Graph} {x y z : EntityId} {k kind : EntityKind} {label label' : Label} {key : Key}

/-! ### Labels -/

/-- An entity is called by a label. -/
inductive Bears (g : Graph) : EntityId → Label → Prop
  | domain {d : EntityId} : g.kind? d = some .domain → Bears g d (.domain d)
  | keyed {x y : EntityId} {label : Label} {key : Key} : label.key? y = some key →
      (∀ above, label.above? = some above → Bears g y above) → g.HasKey x key → Bears g x label

theorem HasKey.not_domain (has : g.HasKey x key) : g.kind? x ≠ some .domain := by
  intro known
  have mem := has.mem_kinds known
  cases key <;> simp [EntityKind.endpoints] at mem

namespace Bears

/-- A key without a parent is all that a label says. -/
theorem top (amounts : label.key? x = some key) (top : label.above? = none) (has : g.HasKey x key) :
    g.Bears x label := by
  refine .keyed amounts (fun above named => ?_) has
  rw [top] at named
  cases named

theorem known (bears : g.Bears x label) : ∃ kind, g.kind? x = some kind := by
  cases bears with
  | domain known => exact ⟨_, known⟩
  | keyed _ _ has => exact has.known

/-- A label may say of which kind an entity is. -/
theorem kind? (bears : g.Bears x label) (one : ∀ y, (label.key? y).map Key.kinds = some [kind]) :
    g.kind? x = some kind := by
  cases bears with
  | domain => cases one x
  | @keyed _ y _ key amounts _ has =>
    have only := one y
    rw [amounts, Option.map_some, Option.some_inj] at only
    exact has.kind? only

theorem domain_eq {d : EntityId} (bears : g.Bears x (.domain d)) : x = d := by
  cases bears with
  | domain => rfl
  | keyed amounts => cases amounts

/-- An entity is called by one label at most. -/
theorem eq (wf : g.WellFormed) (bears : g.Bears x label) (bears' : g.Bears x label') : label = label' := by
  induction bears generalizing label' with
  | domain known =>
    cases bears' with
    | domain => rfl
    | keyed _ _ has => exact absurd known has.not_domain
  | keyed amounts _ has ih =>
    cases bears' with
    | domain known => exact absurd known has.not_domain
    | keyed amounts' above' has' =>
      obtain rfl := has.eq wf has'
      refine Label.eq_of_key? amounts amounts' fun above above'' named named' same => ?_
      subst same
      exact ih above named (above' above'' named')

theorem eq_iff (wf : g.WellFormed) (bears : g.Bears x label) : g.Bears x label' ↔ label' = label := by
  refine ⟨fun bears' => bears'.eq wf bears, fun same => ?_⟩
  rwa [same]

/-- Where keys are apart, so are labels. -/
theorem unique (identified : g.Identified) (bears : g.Bears x label) (bears' : g.Bears y label) : x = y := by
  induction bears generalizing y with
  | domain known => exact bears'.domain_eq.symm
  | keyed amounts _ has ih =>
    cases bears' with
    | domain => cases amounts
    | keyed amounts' above' has' =>
      rw [Label.key?_congr fun above named => ih above named (above' above named), amounts',
        Option.some_inj] at amounts
      exact identified.unique _ _ _ has (amounts ▸ has')

/-- What is called by a label has the key that the label amounts to. -/
theorem hasKey (bears : g.Bears x label) (identified : g.Identified) (amounts : label.key? y = some key)
    (above : ∀ upper, label.above? = some upper → g.Bears y upper) : g.HasKey x key := by
  cases bears with
  | domain => cases amounts
  | keyed amounts' above' has =>
    rw [Label.key?_congr fun upper named => (above' upper named).unique identified (above upper named), amounts,
      Option.some_inj] at amounts'
    rwa [amounts']

theorem process {host user process : String} (bears : g.Bears x (.process host user process)) :
    ∃ y z, g.HasKey y (.host host) ∧ g.HasKey z (.user y user) ∧ g.HasKey x (.process z process) := by
  cases bears with
  | keyed amounts above processes =>
    cases amounts
    cases above _ rfl with
    | keyed amounts above users =>
      cases amounts
      cases above _ rfl with
      | keyed amounts _ hosts =>
        cases amounts
        exact ⟨_, _, hosts, users, processes⟩

theorem mono (bears : g.Bears x label) (kinds : ∀ {x}, g.kind? x = some .domain → h.kind? x = some .domain)
    (keys : ∀ {x key}, g.HasKey x key → h.HasKey x key) : h.Bears x label := by
  induction bears with
  | domain known => exact .domain (kinds known)
  | keyed amounts _ has ih => exact .keyed amounts ih (keys has)

/-- What was there before is called as before. -/
theorem of_known (bears : h.Bears x label) (wf : g.WellFormed) (known : g.kind? x = some kind)
    (kinds : ∀ {x kind}, g.kind? x = some kind → h.kind? x = some kind)
    (keys : ∀ {x kind key}, g.kind? x = some kind → h.HasKey x key → g.HasKey x key) : g.Bears x label := by
  induction bears generalizing kind with
  | domain here =>
    obtain rfl := kind_unique here (kinds known)
    exact .domain known
  | keyed amounts _ has ih =>
    refine .keyed amounts (fun above named => ?_) (keys known has)
    obtain ⟨k, parent⟩ := Label.parent?_of_above? amounts named
    exact ih above named ((keys known has).kind?_parent wf parent)

end Bears

/-- Where everything has a key, everything is called by a label. -/
theorem Identified.exists_bears (identified : g.Identified) (wf : g.WellFormed) (known : g.kind? x = some kind) :
    ∃ label, g.Bears x label := by
  have host : ∀ {y}, g.kind? y = some .host → ∃ name, g.Bears y (.host name) := by
    intro y known
    obtain ⟨key, has⟩ := identified.known y _ known (by decide)
    have mem := has.mem_kinds known
    cases key with
    | host name => exact ⟨name, .top rfl rfl has⟩
    | user | process | participant | topic | endpoint | locator => simp [EntityKind.endpoints] at mem
  have user : ∀ {y}, g.kind? y = some .user → ∃ host name, g.Bears y (.user host name) := by
    intro y known
    obtain ⟨key, has⟩ := identified.known y _ known (by decide)
    have mem := has.mem_kinds known
    cases key with
    | user z name =>
      obtain ⟨above, bears⟩ := host (has.kind?_parent wf rfl)
      exact ⟨above, name, .keyed rfl (by simpa using bears) has⟩
    | host | process | participant | topic | endpoint | locator => simp [EntityKind.endpoints] at mem
  by_cases domain : kind = .domain
  · subst domain
    exact ⟨_, .domain known⟩
  · obtain ⟨key, has⟩ := identified.known x kind known domain
    cases key with
    | user y name =>
      obtain ⟨above, bears⟩ := host (has.kind?_parent wf rfl)
      exact ⟨.user above name, .keyed rfl (by simpa using bears) has⟩
    | process y name =>
      obtain ⟨above, user, bears⟩ := user (has.kind?_parent wf rfl)
      exact ⟨.process above user name, .keyed rfl (by simpa using bears) has⟩
    | topic d name dataType =>
      have above := has.kind?_parent wf rfl
      exact ⟨.topic d name dataType, .keyed rfl (by simpa using Bears.domain above) has⟩
    | host name => exact ⟨.host name, .top rfl rfl has⟩
    | participant guid => exact ⟨.participant guid, .top rfl rfl has⟩
    | endpoint guid => exact ⟨.endpoint guid, .top rfl rfl has⟩
    | locator address => exact ⟨.locator address, .top rfl rfl has⟩

theorem Identified.exists_locator (identified : g.Identified) (locator : g.kind? x = some .locator) :
    ∃ address, g.Bears x (.locator address) := by
  obtain ⟨key, has⟩ := identified.known x _ locator (by decide)
  have mem := has.mem_kinds locator
  cases key with
  | locator address => exact ⟨address, .top rfl rfl has⟩
  | host | user | process | participant | topic | endpoint => simp [EntityKind.endpoints] at mem

/-! ### Edges -/

/-- One entity lies below another: they share an edge of which the first one is the child. -/
def Below (g : Graph) (x y : EntityId) : Prop :=
  ∃ rule ∈ edgeRules, g.kind? x = some rule.child ∧ y ∈ g.neighbors x rule.parent

theorem Below.mem (below : g.Below x y) (wf : g.WellFormed) (known : g.kind? y = some k) : y ∈ g.neighbors x k := by
  obtain ⟨rule, -, -, near⟩ := below
  rwa [kind_unique known (wf.kind?_of_mem near)]

/-- Neighbors lie below or above one another. -/
theorem mem_neighbors_iff_below (wf : g.WellFormed) :
    y ∈ g.neighbors x k ↔ g.kind? y = some k ∧ (g.Below x y ∨ g.Below y x) := by
  constructor
  · intro near
    obtain ⟨known, kind, known', adjoins, back⟩ := wf.twoSided near
    obtain ⟨⟨rule, first⟩, found⟩ := Option.isSome_iff_exists.mp adjoins
    refine ⟨known, ?_⟩
    obtain ⟨legal, ⟨-, rfl, rfl⟩ | ⟨-, rfl, rfl⟩⟩ := mem_edgeRules_of_edgeRule? found
    · exact .inr ⟨rule, legal, known, back⟩
    · exact .inl ⟨rule, legal, known', near⟩
  · intro held
    obtain ⟨known, ⟨rule, -, -, near⟩ | ⟨rule, -, known', near⟩⟩ := held
    · rwa [kind_unique known (wf.kind?_of_mem near)]
    · rw [kind_unique known known']
      exact wf.mem_symm near known'

/-- A new entity lies below the parents that it was born with. -/
theorem below_born {entity : Entity} {edges : List Edge} (wf : g.WellFormed)
    (enabled : (Action.born entity edges).Enabled g) :
    ((Action.born entity edges).act g).Below x y ↔
      g.Below x y ∨ x = entity.id ∧ ∃ edge ∈ edges, edge.parent = y := by
  have up := enabled.2.2.2
  constructor
  · intro below
    obtain ⟨rule, legal, known, near⟩ := below
    rw [Action.act, mem_neighbors_links, neighbors_add] at near
    obtain ⟨edge, mem, ⟨rfl, above, rfl⟩ | ⟨rfl, -, rfl⟩⟩ | old := near
    · have parent := up.parent edge mem
      rw [Action.kind?_born, if_neg (wf.ne_fresh enabled.1 parent)] at known
      exact absurd ⟨above, kind_unique known parent⟩
        (EntityKind.not_above_and_below rule legal edge.rule (up.rule edge mem))
    · exact .inr ⟨(up.child edge mem).1, edge, mem, rfl⟩
    · obtain ⟨kind, known', -⟩ := wf.exists_of_mem old
      rw [Action.kind?_born, if_neg (wf.ne_fresh enabled.1 known')] at known
      exact .inl ⟨rule, legal, known, old⟩
  · intro held
    obtain ⟨rule, legal, known, near⟩ | ⟨rfl, edge, mem, rfl⟩ := held
    · refine ⟨rule, legal, ?_, mem_neighbors_links.mpr (.inr near)⟩
      rw [Action.kind?_born, if_neg (wf.ne_fresh enabled.1 known), known]
    · refine ⟨edge.rule, up.rule edge mem, ?_, mem_neighbors_links.mpr (.inl ⟨edge, mem, .inr ⟨?_, rfl, rfl⟩⟩)⟩
      · rw [Action.kind?_born, if_pos rfl, (up.child edge mem).2]
      · exact (up.child edge mem).1.symm

/-! ### Facts -/

/-- A graph shows what can be told of its entities and its edges. -/
inductive Shows (g : Graph) : Fact → Prop
  | entity {x : EntityId} {label : Label} {entity : Entity} : g.Bears x label → g.entity? x = some entity →
      Shows g (.entity label entity.kind entity.name entity.attributes.withoutPid)
  | edge {x y : EntityId} {child parent : Label} : g.Bears x child → g.Bears y parent → g.Below x y →
      Shows g (.edge child parent)

theorem shows_entity_iff {name : String} {attributes : Attributes} :
    g.Shows (.entity label kind name attributes) ↔ ∃ x entity, g.Bears x label ∧ g.entity? x = some entity ∧
      entity.kind = kind ∧ entity.name = name ∧ entity.attributes.withoutPid = attributes := by
  constructor
  · intro shown
    cases shown with
    | entity bears found => exact ⟨_, _, bears, found, rfl, rfl, rfl⟩
  · intro fact
    obtain ⟨x, entity, bears, found, rfl, rfl, rfl⟩ := fact
    exact .entity bears found

theorem shows_edge_iff (identified : g.Identified) (child : g.Bears x label) (parent : g.Bears y label') :
    g.Shows (.edge label label') ↔ g.Below x y := by
  refine ⟨fun shown => ?_, .edge child parent⟩
  cases shown with
  | edge child' parent' below =>
    rwa [child.unique identified child', parent.unique identified parent']

/-- An edge that is told of an entity leads to the entity above. -/
theorem Bears.exists_above (bears : g.Bears x label) (identified : g.Identified)
    (shown : g.Shows (.edge label label')) : ∃ y, g.Bears y label' ∧ g.Below x y := by
  cases shown with
  | edge bears' above below =>
    obtain rfl := bears.unique identified bears'
    exact ⟨_, above, below⟩

/-- Everything that is there is active. -/
def Awake (g : Graph) : Prop := ∀ x entity, g.entity? x = some entity → entity.active = true

theorem awake_iff : g.Awake ↔ ∀ x kind, g.kind? x = some kind → g.alive x = true := by
  constructor
  · intro awake x kind known
    obtain ⟨entity, found, -⟩ := kind?_eq_some.mp known
    rw [alive_of_entity? found, awake x entity found]
  · intro alive x entity found
    rw [← alive_of_entity? found, alive x _ (kind?_of_entity? found)]

end Graph

/-! ### Copies -/

/-- Entities that are the same but for their identifiers, and as processes for their numbers. -/
structure Entity.Resembles (entity entity' : Entity) : Prop where
  kind : entity'.kind = entity.kind
  name : entity'.name = entity.name
  active : entity'.active = entity.active
  attributes : entity'.attributes.withoutPid = entity.attributes.withoutPid

namespace Graph
variable {g h : Graph} {x y : EntityId} {k kind : EntityKind} {rename : EntityId → EntityId}

/-- A renaming of identifiers that makes a copy of a graph. Domains keep their identifiers. -/
structure Renames (rename : EntityId → EntityId) (g h : Graph) : Prop where
  injective : ∀ x y, g.contains x → g.contains y → rename x = rename y → x = y
  surjective : ∀ y, h.contains y → ∃ x, g.contains x ∧ rename x = y
  entity : ∀ x entity, g.entity? x = some entity →
    ∃ entity', h.entity? (rename x) = some entity' ∧ entity.Resembles entity'
  neighbors : ∀ x y k, g.contains x → g.contains y →
    (rename y ∈ h.neighbors (rename x) k ↔ y ∈ g.neighbors x k)
  domain : ∀ x, g.kind? x = some .domain → rename x = x

/-- Where all that a graph shows is shown, there is an entity for each of its labels. -/
theorem exists_labelled (identified : g.Identified) (wf : g.WellFormed) (shown : ∀ fact, g.Shows fact → h.Shows fact) :
    ∃ rename : EntityId → EntityId, ∀ x, g.contains x → ∃ label, g.Bears x label ∧ h.Bears (rename x) label := by
  have exists_copy : ∀ x, ∃ y, g.contains x → ∃ label, g.Bears x label ∧ h.Bears y label := by
    intro x
    by_cases here : g.contains x
    · obtain ⟨kind, known⟩ := contains_iff.mp here
      obtain ⟨entity, found, -⟩ := kind?_eq_some.mp known
      obtain ⟨label, bears⟩ := identified.exists_bears wf known
      obtain ⟨y, -, bears', -⟩ := shows_entity_iff.mp (shown _ (.entity bears found))
      exact ⟨y, fun _ => ⟨label, bears, bears'⟩⟩
    · exact ⟨x, fun there => absurd there here⟩
  exact Classical.axiomOfChoice exists_copy

/-- A renaming that keeps labels takes no two entities to one. -/
theorem injective_of_labelled (identified : g.Identified) (wf : h.WellFormed)
    (labelled : ∀ x, g.contains x → ∃ label, g.Bears x label ∧ h.Bears (rename x) label)
    (herex : g.contains x) (herey : g.contains y) (equal : rename x = rename y) : x = y := by
  obtain ⟨label, bears, bears'⟩ := labelled x herex
  obtain ⟨label', other, other'⟩ := labelled y herey
  obtain rfl := bears'.eq wf (equal ▸ other')
  exact bears.unique identified other

/-- Graphs of which the same is told are copies of each other. -/
theorem exists_renames (identified : g.Identified) (wf : g.WellFormed) (identified' : h.Identified)
    (wf' : h.WellFormed) (awake : g.Awake) (awake' : h.Awake) (same : ∀ fact, g.Shows fact ↔ h.Shows fact) :
    ∃ rename, Renames rename g h := by
  obtain ⟨rename, labelled⟩ := exists_labelled identified wf fun fact => (same fact).mp
  have entity : ∀ x entity, g.entity? x = some entity →
      ∃ entity', h.entity? (rename x) = some entity' ∧ entity.Resembles entity' := by
    intro x entity found
    obtain ⟨label, bears, bears'⟩ := labelled x (contains_iff.mpr ⟨_, kind?_of_entity? found⟩)
    obtain ⟨y, entity', copied, found', kind, name, attributes⟩ :=
      shows_entity_iff.mp ((same _).mp (.entity bears found))
    rw [copied.unique identified' bears'] at found'
    refine ⟨entity', found', kind, name, ?_, attributes⟩
    rw [awake x entity found, awake' _ entity' found']
  have below : ∀ {x y}, g.contains x → g.contains y → (h.Below (rename x) (rename y) ↔ g.Below x y) := by
    intro x y herex herey
    obtain ⟨label, bears, bears'⟩ := labelled x herex
    obtain ⟨above, parent, parent'⟩ := labelled y herey
    rw [← shows_edge_iff identified bears parent, ← shows_edge_iff identified' bears' parent', same]
  refine ⟨rename, fun x y => injective_of_labelled identified wf' labelled, ?surjective, entity, ?neighbors, ?domain⟩
  case surjective =>
    intro y here
    obtain ⟨kind, known⟩ := contains_iff.mp here
    obtain ⟨copy, found, -⟩ := kind?_eq_some.mp known
    obtain ⟨label, bears⟩ := identified'.exists_bears wf' known
    obtain ⟨x, -, original, -⟩ := shows_entity_iff.mp ((same _).mpr (.entity bears found))
    have there := contains_iff.mpr original.known
    obtain ⟨label', bears', copied⟩ := labelled x there
    obtain rfl := original.eq wf bears'
    exact ⟨x, there, copied.unique identified' bears⟩
  case neighbors =>
    intro x y k herex herey
    obtain ⟨kind, known⟩ := contains_iff.mp herey
    obtain ⟨original, found, rfl⟩ := kind?_eq_some.mp known
    obtain ⟨copy, found', resembles⟩ := entity y original found
    rw [mem_neighbors_iff_below wf', mem_neighbors_iff_below wf, below herex herey, below herey herex, known,
      kind?_of_entity? found', resembles.kind]
  case domain =>
    intro x known
    obtain ⟨label, bears, bears'⟩ := labelled x (contains_iff.mpr ⟨_, known⟩)
    obtain rfl := bears.eq wf (.domain known)
    exact bears'.domain_eq

end Graph
end DiscoveryGraph
