import DiscoveryGraph.Proofs.Graph.Ownership

/-! Keys. Discovery knows an entity by a key rather than by its number: by its name alone, by its
name below a parent, or by its GUID. The key of an entity never changes, since nothing but its flag
and its locator bindings do, and where no two entities share one, a new entity only has to bring a
key that nobody has yet. -/
namespace DiscoveryGraph

/-- What discovery tells entities apart by. Domains have no key; their monitors know them by number. -/
inductive Key where
  | host (name : String)
  | user (host : EntityId) (name : String)
  | process (user : EntityId) (name : String)
  | participant (guid : Guid)
  | topic (domain : EntityId) (name dataType : String)
  | endpoint (guid : Guid)
  | locator (address : String)
  deriving DecidableEq, Repr

namespace Entity
variable {id : EntityId} {kind : EntityKind} {name : String} {attributes : Attributes} {guid : Guid}

@[simp] theorem id_discovered : (discovered id kind name attributes).id = id := rfl

@[simp] theorem kind_discovered : (discovered id kind name attributes).kind = kind := rfl

@[simp] theorem name_discovered : (discovered id kind name attributes).name = name := rfl

@[simp] theorem attributes_discovered : (discovered id kind name attributes).attributes = attributes := rfl

@[simp] theorem guid?_discovered_participant : (discovered id kind name (.participant guid)).guid? = some guid := rfl

@[simp] theorem guid?_discovered_endpoint : (discovered id kind name (.endpoint guid)).guid? = some guid := rfl

end Entity

namespace Key
variable {key key' : Key} {entity : Entity} {k : EntityKind} {y : EntityId}

/-- What a key says of the entity itself. -/
@[simp] def Fits (entity : Entity) : Key → Prop
  | host name => entity.kind = .host ∧ entity.name = name
  | user _ name => entity.kind = .user ∧ entity.name = name
  | process _ name => entity.kind = .process ∧ entity.name = name
  | participant guid => entity.kind = .participant ∧ entity.guid? = some guid
  | topic _ name dataType =>
    entity.kind = .topic ∧ entity.name = name ∧ entity.attributes = .topic dataType
  | endpoint guid => entity.kind.isEndpoint ∧ entity.guid? = some guid
  | locator address => entity.kind = .locator ∧ entity.name = address

/-- The parent that a key names. -/
@[simp] def parent? : Key → Option (EntityKind × EntityId)
  | user above _ => some (.host, above)
  | process above _ => some (.user, above)
  | topic above _ _ => some (.domain, above)
  | host _ | participant _ | endpoint _ | locator _ => none

/-- What a key says of a new entity and of the edges that it comes with. -/
def FitsBirth (entity : Entity) (edges : List Edge) (key : Key) : Prop :=
  key.Fits entity ∧ ∀ k y, key.parent? = some (k, y) → ∃ edge ∈ edges, edge.rule.parent = k ∧ edge.parent = y

theorem fits_flag {active : Bool} : key.Fits { entity with active } ↔ key.Fits entity := by
  cases key <;> exact Iff.rfl

/-- The kinds of the entities that a key may fit. -/
@[simp] def kinds : Key → List EntityKind
  | host _ => [.host]
  | user .. => [.user]
  | process .. => [.process]
  | participant _ => [.participant]
  | topic .. => [.topic]
  | endpoint _ => EntityKind.endpoints
  | locator _ => [.locator]

theorem Fits.mem_kinds (fits : key.Fits entity) : entity.kind ∈ key.kinds := by
  cases key with
  | endpoint => exact (EntityKind.mem_endpoints _).mpr fits.1
  | host | user | process | participant | topic | locator => simp [fits.1]

theorem Fits.mem_parents (fits : key.Fits entity) (named : key.parent? = some (k, y)) :
    k ∈ entity.kind.parents := by
  cases key with
  | user | process | topic =>
    cases named
    rw [fits.1]
    decide
  | host | participant | endpoint | locator => cases named

/-- Only one key below given parents fits an entity. -/
theorem Fits.eq (fits : key.Fits entity) (fits' : key'.Fits entity)
    (parent : ∀ {k y z}, key.parent? = some (k, y) → key'.parent? = some (k, z) → y = z) : key = key' := by
  have kind := fits.mem_kinds
  have kind' := fits'.mem_kinds
  cases key <;> cases key' <;> simp_all [EntityKind.endpoints]

end Key

namespace Graph
variable {g h : Graph} {x y : EntityId} {k kind : EntityKind} {key key' : Key}

/-- An entity has a key if it is as the key says and lies below the parent that the key names. -/
def HasKey (g : Graph) (x : EntityId) (key : Key) : Prop :=
  ∃ entity, g.entity? x = some entity ∧ key.Fits entity ∧
    ∀ k y, key.parent? = some (k, y) → y ∈ g.neighbors x k

theorem HasKey.known (has : g.HasKey x key) : ∃ kind, g.kind? x = some kind := by
  obtain ⟨entity, found, -⟩ := has
  exact ⟨_, kind?_of_entity? found⟩

/-- A key says of which kind an entity is. -/
theorem HasKey.mem_kinds (has : g.HasKey x key) (known : g.kind? x = some kind) : kind ∈ key.kinds := by
  obtain ⟨entity, found, fits, -⟩ := has
  exact kind_unique known (kind?_of_entity? found) ▸ fits.mem_kinds

theorem HasKey.kind? (has : g.HasKey x key) (one : key.kinds = [kind]) : g.kind? x = some kind := by
  obtain ⟨k, known⟩ := has.known
  have mem := has.mem_kinds known
  rw [one, List.mem_singleton] at mem
  rw [known, mem]

/-- The parent that a key names is there. -/
theorem HasKey.kind?_parent (has : g.HasKey x key) (wf : g.WellFormed) (named : key.parent? = some (k, y)) :
    g.kind? y = some k := by
  obtain ⟨-, -, -, above⟩ := has
  exact wf.kind?_of_mem (above k y named)

/-- Nobody has a key. -/
def Lacks (g : Graph) (key : Key) : Prop := ∀ x, ¬ g.HasKey x key

/-- The key of an entity can be read off its profile and its parents. -/
theorem HasKey.congr (has : g.HasKey x key) (profile : h.profile? x = g.profile? x)
    (parents : ∀ kind, g.kind? x = some kind → ∀ k ∈ kind.parents, ∀ y ∈ g.neighbors x k, y ∈ h.neighbors x k) :
    h.HasKey x key := by
  obtain ⟨entity, found, fits, above⟩ := has
  obtain ⟨entity', found', fits'⟩ := (exists_entity_congr (p := key.Fits)
    (fun _ _ => Key.fits_flag) profile).mpr ⟨entity, found, fits⟩
  refine ⟨entity', found', fits', fun k y named => ?_⟩
  exact parents _ (kind?_of_entity? found) k (fits.mem_parents named) y (above k y named)

theorem hasKey_congr (profile : h.profile? x = g.profile? x)
    (parents : ∀ kind, g.kind? x = some kind → ∀ k ∈ kind.parents, h.neighbors x k = g.neighbors x k) :
    h.HasKey x key ↔ g.HasKey x key := by
  constructor
  · refine fun has => has.congr profile.symm fun kind known k parent y near => ?_
    rwa [← parents kind (by rwa [← kind?_of_profile? profile]) k parent]
  · refine fun has => has.congr profile fun kind known k parent y near => ?_
    rwa [parents kind known k parent]

/-- An entity has one key at most. -/
theorem HasKey.eq (wf : g.WellFormed) (has : g.HasKey x key) (has' : g.HasKey x key') : key = key' := by
  obtain ⟨entity, found, fits, above⟩ := has
  obtain ⟨entity', found', fits', above'⟩ := has'
  rw [found, Option.some_inj] at found'
  subst found'
  have known := kind?_of_entity? found
  exact fits.eq fits' fun named named' =>
    wf.single known (fits.mem_parents named) (above _ _ named) (above' _ _ named')

/-- Every entity that discovery creates has a key, and no two share one. -/
structure Identified (g : Graph) : Prop where
  known : ∀ x kind, g.kind? x = some kind → kind ≠ .domain → ∃ key, g.HasKey x key
  unique : ∀ x y key, g.HasKey x key → g.HasKey y key → x = y

theorem identified_empty : (∅ : Graph).Identified := by
  have unknown : ∀ x, (∅ : Graph).kind? x = none := fun x => kind?_eq_none.mpr Std.ExtTreeMap.getElem?_empty
  refine ⟨by simp [unknown], fun x y key has _ => ?_⟩
  obtain ⟨kind, known⟩ := has.known
  simp [unknown] at known

theorem Identified.congr (identified : g.Identified) (kinds : ∀ x, h.kind? x = g.kind? x)
    (keys : ∀ x key, h.HasKey x key ↔ g.HasKey x key) : h.Identified := by
  refine ⟨fun x kind known other => ?_, fun x y key hasx hasy => ?_⟩
  · rw [kinds] at known
    obtain ⟨key, has⟩ := identified.known x kind known other
    exact ⟨key, (keys x key).mpr has⟩
  · exact identified.unique x y key ((keys x key).mp hasx) ((keys y key).mp hasy)

/-! ### New entities -/

section Born
variable {entity : Entity} {edges : List Edge}

theorem hasKey_born (wf : g.WellFormed) (enabled : (Action.born entity edges).Enabled g) :
    ((Action.born entity edges).act g).HasKey x key ↔
      x = entity.id ∧ key.FitsBirth entity edges ∨ g.HasKey x key := by
  by_cases here : x = entity.id
  · subst here
    have nobody : ¬ g.HasKey entity.id key := fun has => by
      obtain ⟨kind, known⟩ := has.known
      simp [wf.fresh enabled.1] at known
    have found : ((Action.born entity edges).act g).entity? entity.id = some entity := by
      rw [Action.act, entity?_links, entity?_add, if_pos rfl]
    simp only [HasKey, found, Option.some.injEq, exists_eq_left', Action.mem_neighbors_born wf enabled,
      Key.FitsBirth, true_and]
    exact (or_iff_left nobody).symm
  · simp only [here, false_and, false_or]
    by_cases known : ∃ kind, g.kind? x = some kind
    · obtain ⟨kind, known⟩ := known
      exact hasKey_congr (Action.profile?_born wf enabled known) fun _ known' _ parent =>
        Action.neighbors_parent_born wf enabled known' parent
    · refine iff_of_false (fun has => ?_) fun has => known has.known
      obtain ⟨kind, known'⟩ := has.known
      rw [Action.kind?_born, if_neg (Ne.symm here)] at known'
      exact known ⟨kind, known'⟩

/-- A new entity may bring a key that nobody has. -/
theorem Identified.born (identified : g.Identified) (wf : g.WellFormed)
    (enabled : (Action.born entity edges).Enabled g) (fits : key.FitsBirth entity edges)
    (new : g.Lacks key) : ((Action.born entity edges).act g).Identified := by
  have here : ((Action.born entity edges).act g).HasKey entity.id key :=
    (hasKey_born wf enabled).mpr (.inl ⟨rfl, fits⟩)
  have only : ∀ {x key'}, ((Action.born entity edges).act g).HasKey x key' → key'.FitsBirth entity edges →
      x = entity.id := by
    intro x key' has fits'
    obtain rfl : key' = key := HasKey.eq (Action.wellFormed_act wf enabled)
      ((hasKey_born wf enabled).mpr (.inl ⟨rfl, fits'⟩)) here
    obtain ⟨same, -⟩ | old := (hasKey_born wf enabled).mp has
    · exact same
    · exact absurd old (new x)
  constructor
  case known =>
    intro x kind known other
    rw [Action.kind?_born] at known
    split at known
    · rename_i same
      exact ⟨key, same ▸ here⟩
    · obtain ⟨key', has⟩ := identified.known x kind known other
      exact ⟨key', (hasKey_born wf enabled).mpr (.inr has)⟩
  case unique =>
    intro x y key' hasx hasy
    obtain ⟨rfl, fits'⟩ | oldx := (hasKey_born wf enabled).mp hasx
    · exact (only hasy fits').symm
    · obtain ⟨rfl, fits'⟩ | oldy := (hasKey_born wf enabled).mp hasy
      · exact only hasx fits'
      · exact identified.unique x y key' oldx oldy

/-- A new domain has no key. -/
theorem Identified.born_domain (identified : g.Identified) (wf : g.WellFormed) (kind : entity.kind = .domain)
    (enabled : (Action.born entity edges).Enabled g) : ((Action.born entity edges).act g).Identified := by
  have none : ∀ key : Key, ¬ key.FitsBirth entity edges := by
    intro key fits
    have fits := fits.1
    cases key <;> simp [Key.Fits, kind, EntityKind.isEndpoint] at fits
  have keys : ∀ x key, ((Action.born entity edges).act g).HasKey x key ↔ g.HasKey x key := fun x key => by
    rw [hasKey_born wf enabled]
    exact or_iff_right fun new => none key new.2
  refine ⟨fun x kind' known other => ?_, fun x y key hasx hasy => ?_⟩
  · rw [Action.kind?_born] at known
    split at known
    · rw [kind, Option.some_inj] at known
      exact absurd known.symm other
    · obtain ⟨key, has⟩ := identified.known x kind' known other
      exact ⟨key, (keys x key).mpr has⟩
  · exact identified.unique x y key ((keys x key).mp hasx) ((keys y key).mp hasy)

end Born

end Graph

/-! ### Discovery -/

/-- A new entity brings a key that nobody has, and the flag of a domain is not set. -/
def Action.Novel (g : Graph) : Action → Prop
  | born entity edges => ∃ key : Key, key.FitsBirth entity edges ∧ g.Lacks key
  | flagged _ kind _ => kind ≠ .domain
  | linked _ | unlinked _ | forgotten _ => True

/-- A local action of discovery: the entities that it creates are not there yet, and it leaves the flags
of domains alone. -/
def Action.Discovers (d : EntityId) (g : Graph) (a : Action) : Prop := a.Local d g ∧ a.Novel g

namespace Run
open DiscoveryGraph.Graph
variable {g g' : Graph} {d x : EntityId} {kind : EntityKind} {key : Key} {changes : List StateChange}

/-- What is there keeps its key. -/
theorem hasKey_iff (run : Run (Action.Local d) g changes g') (wf : g.WellFormed)
    (known : g.kind? x = some kind) : g'.HasKey x key ↔ g.HasKey x key :=
  hasKey_congr (run.profile?_of_local wf known) fun _ known' _ parent => run.neighbors_parent wf known' parent

theorem local_of_discovers (run : Run (Action.Discovers d) g changes g') : Run (Action.Local d) g changes g' :=
  run.mono fun _ _ discovers => discovers.1

end Run

namespace Action
open DiscoveryGraph.Graph
variable {g : Graph} {a : Action} {d x : EntityId} {key : Key}

/-- Nothing but a birth brings a key. -/
theorem Local.hasKey_iff (loc : a.Local d g) (wf : g.WellFormed) (enabled : a.Enabled g)
    (unborn : ∀ entity edges, a ≠ .born entity edges) : (a.act g).HasKey x key ↔ g.HasKey x key := by
  by_cases known : ∃ kind, g.kind? x = some kind
  · obtain ⟨kind, known⟩ := known
    exact (Run.single enabled loc).hasKey_iff wf known
  · refine iff_of_false (fun has => ?_) fun has => known has.known
    obtain ⟨kind, known'⟩ := has.known
    obtain old | ⟨entity, edges, same, -⟩ := loc.kind?_cases known'
    · exact known ⟨kind, old⟩
    · exact unborn entity edges same

theorem Discovers.identified (discovers : a.Discovers d g) (wf : g.WellFormed) (enabled : a.Enabled g)
    (identified : g.Identified) : (a.act g).Identified := by
  obtain ⟨loc, novel⟩ := discovers
  have kept : (∀ entity edges, a ≠ .born entity edges) → (a.act g).Identified := by
    intro unborn
    refine identified.congr (fun x => Option.ext fun kind => ⟨fun known => ?_, loc.kind? wf enabled⟩)
      fun x key => loc.hasKey_iff wf enabled unborn
    refine (loc.kind?_cases known).resolve_right ?_
    rintro ⟨entity, edges, same, -⟩
    exact unborn entity edges same
  cases a with
  | born entity edges =>
    obtain ⟨key, fits, lacks⟩ := novel
    exact identified.born wf enabled fits lacks
  | linked | unlinked | flagged => exact kept (by simp)
  | forgotten => exact loc.elim

end Action

/-- Discovery keeps keys apart. -/
theorem Run.identified {g g' : Graph} {d : EntityId} {changes : List StateChange}
    (run : Run (Action.Discovers d) g changes g') (wf : g.WellFormed) (identified : g.Identified) : g'.Identified :=
  run.invariant Graph.Identified wf identified fun wf enabled discovers held => discovers.identified wf enabled held

end DiscoveryGraph
