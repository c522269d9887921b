import DiscoveryGraph.Discovery.Ingest
import DiscoveryGraph.Proofs.Discovery.Lookup
import DiscoveryGraph.Proofs.Graph.Primitive

/-! Resolution: what an announcement mentions is found, or born with all its parents and under a key
that nobody has. The only thing that can go wrong on a well-formed graph is that the identifiers run
out. -/
namespace DiscoveryGraph

/-- The participant that an announcement describes, beside or as what it announces. -/
def Announcement.described? : Announcement → Option ParticipantInfo
  | .participant info => some info
  | .topic _ => none
  | .reader info | .writer info => some info.participant

/-- The GUID of an announced endpoint. -/
def Announcement.endpoint? : Announcement → Option Guid
  | .participant _ | .topic _ => none
  | .reader info | .writer info => some info.guid

namespace Graph
open Update
variable {g g' : Graph} {d id x y : EntityId} {k kind : EntityKind} {name : String}

/-! ### Lookups -/

theorem findByGuid_eq_some {kinds : List EntityKind} {guid : Guid}
    (found : g.findByGuid kinds guid = some (id, k)) : g.kind? id = some k ∧ k ∈ kinds := by
  obtain ⟨x, mem, found⟩ := List.exists_of_findSome?_eq_some found
  split at found
  · rename_i entity here
    split at found
    · rename_i listed
      simp only [Option.some.injEq, Prod.mk.injEq] at found
      obtain ⟨rfl, rfl⟩ := found
      exact ⟨kind?_of_entity? here, listed⟩
    · cases found
  · cases found

theorem findGlobal_eq_some (wf : g.WellFormed) (found : g.findGlobal kind name = some id) :
    g.kind? id = some kind := by
  have mem : id ∈ g.named kind name := by
    rw [← Std.ExtTreeSet.mem_toList]
    exact List.mem_of_mem_head? found
  obtain ⟨entity, here, rfl, -⟩ := wf.named_iff.mp mem
  exact kind?_of_entity? here

theorem findChild_eq_some (found : g.findChild x kind name = some id) : id ∈ g.neighbors x kind :=
  Std.ExtTreeSet.mem_toList.mp (List.mem_of_find?_eq_some found)

theorem findTopic_eq_some (wf : g.WellFormed) {info : TopicInfo} (found : g.findTopic d info = some id) :
    g.kind? id = some .topic ∧ d ∈ g.neighbors id .domain := by
  have mem := Std.ExtTreeSet.mem_toList.mp (List.mem_of_find?_eq_some found)
  have held := List.find?_some found
  obtain ⟨entity, here, kind, -⟩ := wf.named_iff.mp mem
  simp only [Bool.and_eq_true, ← Std.ExtTreeSet.mem_iff_contains] at held
  exact ⟨by rw [kind?_of_entity? here, kind], held.1⟩

/-! ### One entity -/

/-- The identifiers ran out before anything was changed. -/
def Exhausted (g : Graph) (e : StorageError) (g' : Graph) : Prop :=
  e = .idSpaceExhausted ∧ g.lastId.next? = none ∧ g' = g

/-- A search is answered with what it found, or else with a new entity and its parents. -/
inductive Resolves (g : Graph) (found : Option EntityId) (kind : EntityKind) (name : String)
    (attributes : Attributes) (edges : EntityId → List Edge) : Resolved → Graph → Prop
  | known {id : EntityId} : found = some id → Resolves g found kind name attributes edges ⟨id, []⟩ g
  | born {id : EntityId} : found = none →
      (Action.born (Entity.discovered id kind name attributes) (edges id)).Enabled g →
      Resolves g found kind name attributes edges ⟨id, [⟨id, kind, true⟩]⟩
        ((Action.born (Entity.discovered id kind name attributes) (edges id)).act g)

theorem introduce_ends {attributes : Attributes} (valid : kind ≠ .invalid) :
    (introduce kind name attributes).Ends g
      (Resolves g none kind name attributes fun _ => []) (Exhausted g) := by
  rw [introduce, ends_bind]
  refine (create_ends g kind name attributes).imp ?_ ?_
  · intro id g' held
    obtain ⟨-, next, rfl⟩ := held
    exact .born rfl ⟨next, valid, rfl, by simp, by simp, by simp, .nil⟩
  · intro e g' fact
    obtain ⟨rfl, fails⟩ := fact
    exact ⟨(fails valid).1, (fails valid).2, rfl⟩

/-- A new entity takes its parents one at a time. -/
theorem bind_born_ends (wf : g.WellFormed) {entity : Entity} (edges : List Edge) (edge : Edge)
    (enabled : (Action.born entity (edges ++ [edge])).Enabled g) :
    (Action.born entity edges).Enabled g ∧
      (bind edge.parent entity.id).Ends ((Action.born entity edges).act g)
        (fun _ g' => g' = (Action.born entity (edges ++ [edge])).act g) fun _ _ => False := by
  obtain ⟨next, valid, active, up⟩ := enabled
  have distinct := List.pairwise_append.mp up.distinct
  have before : (Action.born entity edges).Enabled g :=
    ⟨next, valid, active, fun e mem => up.rule e (by simp [mem]), fun e mem => up.parent e (by simp [mem]),
      fun e mem => up.child e (by simp [mem]), distinct.1⟩
  have parent := up.parent edge (by simp)
  have child := up.child edge (by simp)
  refine ⟨before, ?_⟩
  have orphan : ∀ y, y ∉ ((Action.born entity edges).act g).neighbors edge.child edge.rule.parent := by
    intro y near
    rw [child.1, Action.mem_neighbors_born wf before] at near
    obtain ⟨other, mem, same, -⟩ := near
    exact distinct.2.2 other mem edge (by simp) same
  have legal : edge.Legal ((Action.born entity edges).act g) := by
    refine ⟨up.rule edge (by simp), ?_, ?_⟩
    · rw [Action.kind?_born, if_neg (wf.ne_fresh next parent), parent]
    · rw [Action.kind?_born, child.1, if_pos rfl, child.2]
  refine (bind_ends legal (fun _ => orphan) (.inl ⟨rfl, child.1.symm⟩)).imp_ok ?_
  intro _ g' held
  obtain ⟨old, -⟩ | ⟨-, rfl⟩ := held
  · exact absurd old (orphan _)
  rw [Action.act, Action.act, List.foldl_append]
  rfl

/-- The identifiers ran out before what had not been found could be created. -/
def Fails (g : Graph) (found : Option EntityId) (e : StorageError) (g' : Graph) : Prop :=
  found = none ∧ Exhausted g e g'

theorem resolveGlobal_ends (kind : EntityKind) (valid : kind ≠ .invalid) :
    (resolveGlobal kind name).Ends g (Resolves g (g.findGlobal kind name) kind name .plain fun _ => [])
      (Fails g (g.findGlobal kind name)) := by
  rw [resolveGlobal, ends_bind, ends_get]
  cases found : g.findGlobal kind name with
  | some id => exact .known rfl
  | none => exact (introduce_ends valid).imp (fun _ _ resolves => resolves) fun _ _ out => ⟨rfl, out⟩

/-- What a new entity with one parent needs. -/
theorem enabled_born_single (name : String) (attributes : Attributes) {rule : EdgeRule}
    (next : g.lastId.next? = some id)
    (legal : rule ∈ edgeRules) (parent : g.kind? x = some rule.parent) (valid : rule.child ≠ .invalid) :
    (Action.born (Entity.discovered id rule.child name attributes) [⟨rule, x, id⟩]).Enabled g := by
  refine ⟨next, valid, rfl, ?_, ?_, ?_, List.pairwise_singleton _ _⟩
  · simpa using legal
  · simpa using parent
  · simp [Entity.discovered]

theorem introduce_bind_ends (rule : EdgeRule) {attributes : Attributes} (wf : g.WellFormed)
    (legal : rule ∈ edgeRules) (parent : g.kind? x = some rule.parent) (valid : rule.child ≠ .invalid) :
    (do
      let child ← introduce rule.child name attributes
      let _ ← bind x child.id
      return child : Update StorageError Resolved).Ends g
      (Resolves g none rule.child name attributes fun id => [⟨rule, x, id⟩]) (Exhausted g) := by
  rw [ends_bind]
  refine (introduce_ends valid).imp_ok ?_
  intro r g' held
  obtain ⟨⟨⟩⟩ | ⟨-, enabled⟩ := held
  rename_i id
  have whole := enabled_born_single name attributes enabled.1 legal parent valid
  have binds := (bind_born_ends wf [] ⟨rule, x, id⟩ whole).2
  rw [ends_bind]
  refine binds.imp ?_ fun _ _ => False.elim
  intro _ g' same
  subst same
  exact .born rfl whole

/-- A new entity with two parents of different kinds, and what is done with it. -/
theorem introduce_bind_bind_ends {β : Type} (rule rule' : EdgeRule) {attributes : Attributes}
    {next : Resolved → Update StorageError β} {ok : β → Graph → Prop} {bad : StorageError → Graph → Prop}
    (wf : g.WellFormed) (legal : rule ∈ edgeRules ∧ rule' ∈ edgeRules)
    (child : rule.child = kind ∧ rule'.child = kind)
    (apart : rule.parent ≠ rule'.parent) (parent : g.kind? x = some rule.parent)
    (parent' : g.kind? y = some rule'.parent)
    (valid : kind ≠ .invalid) (exhausted : ∀ e g', Exhausted g e g' → bad e g')
    (step : ∀ r g', Resolves g none kind name attributes (fun id => [⟨rule, x, id⟩, ⟨rule', y, id⟩]) r g' →
      (next r).Ends g' ok bad) :
    (do
      let child ← introduce kind name attributes
      let _ ← bind x child.id
      let _ ← bind y child.id
      next child).Ends g ok bad := by
  rw [ends_bind]
  refine (introduce_ends valid).imp ?_ exhausted
  intro r g' held
  obtain ⟨⟨⟩⟩ | ⟨-, enabled⟩ := held
  rename_i id
  have whole : (Action.born (Entity.discovered id kind name attributes)
      [⟨rule, x, id⟩, ⟨rule', y, id⟩]).Enabled g := by
    refine ⟨enabled.1, valid, rfl, ?_, ?_, ?_, ?_⟩
    · simpa using legal
    · simpa using ⟨parent, parent'⟩
    · simpa [Entity.discovered] using child
    · simpa using apart
  obtain ⟨half, second⟩ := bind_born_ends wf [⟨rule, x, id⟩] ⟨rule', y, id⟩ whole
  obtain ⟨-, first⟩ := bind_born_ends wf [] ⟨rule, x, id⟩ half
  rw [ends_bind]
  refine first.imp ?_ fun _ _ => False.elim
  intro _ h same
  subst same
  rw [ends_bind]
  refine second.imp ?_ fun _ _ => False.elim
  intro _ h equal
  subst equal
  exact step _ _ (.born rfl whole)

theorem resolveChild_ends (rule : EdgeRule) {attributes : Attributes} (wf : g.WellFormed)
    (legal : rule ∈ edgeRules) (parent : g.kind? x = some rule.parent) (valid : rule.child ≠ .invalid) :
    (resolveChild x rule.child name attributes).Ends g
      (Resolves g (g.findChild x rule.child name) rule.child name attributes fun id => [⟨rule, x, id⟩])
      (Fails g (g.findChild x rule.child name)) := by
  rw [resolveChild, ends_bind, ends_get]
  cases found : g.findChild x rule.child name with
  | some id => exact .known rfl
  | none =>
    exact (introduce_bind_ends rule wf legal parent valid).imp (fun _ _ resolves => resolves) fun _ _ out => ⟨rfl, out⟩

theorem resolveTopic_ends {info : TopicInfo} (wf : g.WellFormed) (domain : g.kind? d = some .domain) :
    (resolveTopic d info).Ends g
      (Resolves g (g.findTopic d info) .topic info.name (.topic info.dataType)
        fun id => [⟨⟨.domain, .topic, .domainMembership⟩, d, id⟩])
      (Fails g (g.findTopic d info)) := by
  rw [resolveTopic, ends_bind, ends_get]
  cases found : g.findTopic d info with
  | some id => exact .known rfl
  | none =>
    exact (introduce_bind_ends ⟨.domain, .topic, .domainMembership⟩ wf (by decide) domain (by decide)).imp
      (fun _ _ resolves => resolves) fun _ _ out => ⟨rfl, out⟩

namespace Resolves
variable {found : Option EntityId} {attributes : Attributes} {edges : EntityId → List Edge} {r : Resolved}

theorem run {p : Graph → Action → Prop} (resolves : Resolves g found kind name attributes edges r g')
    (allowed : ∀ id, found = none → p g (.born (Entity.discovered id kind name attributes) (edges id))) :
    Run p g r.changes g' := by
  cases resolves with
  | known => exact .nil
  | born unknown enabled => exact Run.single enabled (allowed _ unknown)

/-- What was searched for by its key is born only if nobody has the key. -/
theorem discovers (key : Key) (resolves : Resolves g found kind name attributes edges r g')
    (answers : Answers (g.HasKey · key) found)
    (fits : ∀ id, key.FitsBirth (Entity.discovered id kind name attributes) (edges id))
    (loc : ∀ id, (Action.born (Entity.discovered id kind name attributes) (edges id)).Local d g) :
    Run (Action.Discovers d) g r.changes g' := by
  refine resolves.run fun id unknown => ⟨loc id, key, fits id, ?_⟩
  subst unknown
  exact answers

/-- What was searched for by its key is found by it from then on. -/
theorem answers {key : Key} (resolves : Resolves g found kind name attributes edges r g') (wf : g.WellFormed)
    (answers : Answers (g.HasKey · key) found)
    (fits : ∀ id, key.FitsBirth (Entity.discovered id kind name attributes) (edges id)) :
    Answers (g'.HasKey · key) (some r.id) := by
  cases resolves with
  | known here => exact here ▸ answers
  | born unknown enabled =>
    subst unknown
    refine Answers.of_only fun y => ?_
    rw [hasKey_born wf enabled, or_iff_left (answers y)]
    exact and_iff_left (fits _)

/-- A key that does not fit is lacked as before. -/
theorem lacks {key : Key} (resolves : Resolves g found kind name attributes edges r g') (wf : g.WellFormed)
    (lacks : g.Lacks key) (apart : ∀ id, ¬ key.Fits (Entity.discovered id kind name attributes)) :
    g'.Lacks key := by
  cases resolves with
  | known => exact lacks
  | born _ enabled =>
    intro x has
    obtain new | old := (hasKey_born wf enabled).mp has
    · exact apart _ new.2.1
    · exact lacks x old

theorem kind? (resolves : Resolves g found kind name attributes edges r g')
    (known : ∀ id, found = some id → g.kind? id = some kind) : g'.kind? r.id = some kind := by
  cases resolves with
  | known here => exact known _ here
  | born => simp [Action.kind?_born, Entity.discovered]

theorem wellFormed (resolves : Resolves g found kind name attributes edges r g') (wf : g.WellFormed) :
    g'.WellFormed :=
  (resolves.run (p := fun _ _ => True) fun _ _ => trivial).wellFormed wf

/-- What is there afterwards was there before or is what was asked for. -/
theorem eq_or_known (resolves : Resolves g found kind name attributes edges r g') (known : g'.kind? x = some k) :
    x = r.id ∨ g.kind? x = some k := by
  cases resolves with
  | known => exact .inr known
  | born =>
    rw [Action.kind?_born] at known
    split at known
    · rename_i same
      exact .inl same.symm
    · exact .inr known

theorem neighbors_global (resolves : Resolves g found kind name attributes (fun _ => []) r g') :
    g'.neighbors x k = g.neighbors x k := by
  cases resolves <;> rfl

/-- What is found or born lies below its parents. -/
theorem mem_neighbors (edge : Edge) (resolves : Resolves g found kind name attributes edges r g')
    (wf : g.WellFormed)
    (known : ∀ id, found = some id → ∀ edge ∈ edges id, edge.parent ∈ g.neighbors id edge.rule.parent)
    (mem : edge ∈ edges r.id) : edge.parent ∈ g'.neighbors r.id edge.rule.parent := by
  cases resolves with
  | known here => exact known _ here edge mem
  | born _ enabled => exact (Action.mem_neighbors_born wf enabled).mpr ⟨edge, mem, rfl, rfl⟩

end Resolves

/-! ### Participants -/

/-- The edges that hold a new participant. -/
def participantEdges (process domain id : EntityId) : List Edge :=
  [⟨⟨.process, .participant, .containment⟩, process, id⟩,
    ⟨⟨.domain, .participant, .domainMembership⟩, domain, id⟩]

/-- A participant is found, or born after its host, user and process have been resolved. -/
inductive ResolvesParticipant (g : Graph) (d : EntityId) (info : ParticipantInfo) : Resolved → Graph → Prop
  | known {id : EntityId} {k : EntityKind} : g.findByGuid [.participant] info.guid = some (id, k) →
      ResolvesParticipant g d info ⟨id, []⟩ g
  | built {g₁ g₂ g₃ g₄ : Graph} {host user process participant : Resolved} :
      g.findByGuid [.participant] info.guid = none →
      Resolves g (g.findGlobal .host info.host) .host info.host .plain (fun _ => []) host g₁ →
      Resolves g₁ (g₁.findChild host.id .user info.user) .user info.user .plain
        (fun id => [⟨⟨.host, .user, .containment⟩, host.id, id⟩]) user g₂ →
      Resolves g₂ (g₂.findChild user.id .process info.process) .process info.process (.process (info.pid.getD ""))
        (fun id => [⟨⟨.user, .process, .containment⟩, user.id, id⟩]) process g₃ →
      Resolves g₃ none .participant info.name (.participant info.guid)
        (participantEdges process.id d) participant g₄ →
      ResolvesParticipant g d info
        ⟨participant.id, host.changes ++ user.changes ++ process.changes ++ participant.changes⟩ g₄

/-- The identifiers ran out on the way, after a run of allowed actions. -/
def RanOut (p : Graph → Action → Prop) (g : Graph) (e : StorageError) (g' : Graph) : Prop :=
  e = .idSpaceExhausted ∧ g'.lastId.next? = none ∧ ∃ changes, Run p g changes g'

theorem Exhausted.ranOut {p : Graph → Action → Prop} {h : Graph} {e : StorageError} {changes : List StateChange}
    (exhausted : Exhausted h e g') (run : Run p g changes h) : RanOut p g e g' := by
  obtain ⟨rfl, none, rfl⟩ := exhausted
  exact ⟨rfl, none, changes, run⟩

theorem Resolves.discovers_global {key : Key} {found : Option EntityId} {attributes : Attributes} {r : Resolved}
    (resolves : Resolves g found kind name attributes (fun _ => []) r g')
    (answers : Answers (g.HasKey · key) found) (orphan : kind.parents = []) (other : kind ≠ .domain)
    (fits : ∀ id, key.FitsBirth (Entity.discovered id kind name attributes) []) :
    Run (Action.Discovers d) g r.changes g' :=
  resolves.discovers key answers fits fun _ => ⟨other, by simp [Entity.discovered, orphan], by simp⟩

theorem Resolves.discovers_child (rule : EdgeRule) {key : Key} {found : Option EntityId}
    {attributes : Attributes} {r : Resolved}
    (resolves : Resolves g found rule.child name attributes (fun id => [⟨rule, x, id⟩]) r g')
    (answers : Answers (g.HasKey · key) found)
    (only : rule.child.parents = [rule.parent]) (other : rule.child ≠ .domain) (near : g.Local d x)
    (fits : ∀ id, key.FitsBirth (Entity.discovered id rule.child name attributes) [⟨rule, x, id⟩]) :
    Run (Action.Discovers d) g r.changes g' :=
  resolves.discovers key answers fits fun _ => ⟨other, by simp [Entity.discovered, only], by simpa using near⟩

theorem resolveParticipant_ends {info : ParticipantInfo} (wf : g.WellFormed)
    (domain : g.kind? d = some .domain) :
    (resolveParticipant d info).Ends g
      (fun r g' => ResolvesParticipant g d info r g' ∧ Run (Action.Discovers d) g r.changes g')
      (RanOut (Action.Discovers d) g) := by
  rw [resolveParticipant, ends_bind, ends_get]
  cases found : g.findByGuid [.participant] info.guid with
  | some known => exact ⟨.known found, .nil⟩
  | none =>
    have lacks : g.Lacks (.participant info.guid) := by
      have answers := findParticipant_answers wf info.guid
      rwa [found] at answers
    rw [ends_bind]
    refine (resolveGlobal_ends .host (by decide)).imp ?_ fun e h fails => fails.2.ranOut .nil
    intro host g₁ hosts
    have run₁ : Run (Action.Discovers d) g host.changes g₁ :=
      hosts.discovers_global (findHost_answers wf info.host) (by decide) (by decide)
        (by simp [Key.FitsBirth])
    have wf₁ := run₁.wellFormed wf
    have known₁ := hosts.kind? fun _ => findGlobal_eq_some wf
    rw [ends_bind]
    refine (resolveChild_ends ⟨.host, .user, .containment⟩ wf₁ (by decide) known₁ (by decide)).imp ?_
      fun e h fails => fails.2.ranOut run₁
    intro user g₂ users
    have run₂ := run₁.trans (users.discovers_child ⟨.host, .user, .containment⟩ (findUser_answers wf₁ known₁)
      (by decide) (by decide) (.inr ⟨_, known₁, rfl⟩)
      (by simp [Key.FitsBirth]))
    have wf₂ := run₂.wellFormed wf
    have known₂ := users.kind? fun _ found => wf₁.kind?_of_mem (findChild_eq_some found)
    rw [ends_bind]
    refine (resolveChild_ends ⟨.user, .process, .containment⟩ wf₂ (by decide) known₂ (by decide)).imp ?_
      fun e h fails => fails.2.ranOut run₂
    intro process g₃ processes
    have run₃ := run₂.trans (processes.discovers_child ⟨.user, .process, .containment⟩
      (findProcess_answers wf₂ known₂) (by decide) (by decide) (.inr ⟨_, known₂, rfl⟩)
      (by simp [Key.FitsBirth]))
    have wf₃ := run₃.wellFormed wf
    have known₃ := processes.kind? fun _ found => wf₂.kind?_of_mem (findChild_eq_some found)
    have domain₃ := run₃.local_of_discovers.kind?_of_local wf domain
    have lacks₃ : g₃.Lacks (.participant info.guid) :=
      processes.lacks wf₂ (users.lacks wf₁ (hosts.lacks wf lacks fun _ fits => by cases fits.1)
        fun _ fits => by cases fits.1) fun _ fits => by cases fits.1
    refine introduce_bind_bind_ends ⟨.process, .participant, .containment⟩
      ⟨.domain, .participant, .domainMembership⟩ wf₃ (by decide) (by decide) (by decide) known₃ domain₃
      (by decide) (fun e h fails => fails.ranOut run₃) ?_
    intro participant g₄ participants
    refine ⟨.built found hosts users processes participants, run₃.trans
      (participants.discovers (.participant info.guid) lacks₃ (fun _ => ?_) fun _ => ⟨?_, ?_, ?_⟩)⟩
    · simp [Key.FitsBirth]
    · simp [Entity.discovered]
    · simp [Entity.discovered, EntityKind.parents_eq]
    · simpa using ⟨.inr ⟨_, known₃, rfl⟩, .inl (.self domain₃)⟩

theorem ResolvesParticipant.wellFormed {info : ParticipantInfo} {r : Resolved}
    (resolves : ResolvesParticipant g d info r g') (wf : g.WellFormed) : g'.WellFormed := by
  cases resolves with
  | known => exact wf
  | built _ hosts users processes participants =>
    exact participants.wellFormed (processes.wellFormed (users.wellFormed (hosts.wellFormed wf)))

theorem ResolvesParticipant.kind? {info : ParticipantInfo} {r : Resolved}
    (resolves : ResolvesParticipant g d info r g') :
    g'.kind? r.id = some .participant := by
  cases resolves with
  | known found =>
    obtain ⟨known, kinds⟩ := findByGuid_eq_some found
    rw [known, List.mem_singleton.mp kinds]
  | built _ _ _ _ participants => exact participants.kind? (by simp)

/-- The participant of this description lies in the domain, if it is known. -/
def Admits (g : Graph) (d : EntityId) (info : ParticipantInfo) : Prop :=
  ∀ id k, g.findByGuid [.participant] info.guid = some (id, k) → d ∈ g.neighbors id .domain

/-- The participant lies in the domain, if a known one does. -/
theorem ResolvesParticipant.mem_domain {info : ParticipantInfo} {r : Resolved}
    (resolves : ResolvesParticipant g d info r g') (wf : g.WellFormed)
    (admitted : g.Admits d info) : d ∈ g'.neighbors r.id .domain := by
  cases resolves with
  | known found => exact admitted _ _ found
  | @built _ _ _ _ _ _ _ participant _ hosts users processes participants =>
    have wf₃ := processes.wellFormed (users.wellFormed (hosts.wellFormed wf))
    exact participants.mem_neighbors ⟨⟨.domain, .participant, .domainMembership⟩, d, participant.id⟩ wf₃
      (by simp) (by simp [participantEdges])

/-! ### Announced entities -/

/-- The edges that hold a new endpoint. -/
def endpointEdges (kind : EntityKind) (participant topic id : EntityId) : List Edge :=
  [⟨⟨.participant, kind, .ownership⟩, participant, id⟩, ⟨⟨.topic, kind, .topicBinding⟩, topic, id⟩]

/-- An endpoint is born after its participant and its topic have been resolved. -/
inductive CreatesEndpoint (g : Graph) (d : EntityId) (kind : EntityKind) (info : EndpointInfo) :
    Resolved → Graph → Prop
  | built {g₁ g₂ g₃ : Graph} {participant topic endpoint : Resolved} :
      ResolvesParticipant g d info.participant participant g₁ →
      Resolves g₁ (g₁.findTopic d info.topic) .topic info.topic.name (.topic info.topic.dataType)
        (fun id => [⟨⟨.domain, .topic, .domainMembership⟩, d, id⟩]) topic g₂ →
      Resolves g₂ none kind info.name (.endpoint info.guid)
        (endpointEdges kind participant.id topic.id) endpoint g₃ →
      CreatesEndpoint g d kind info ⟨endpoint.id, participant.changes ++ topic.changes ++ endpoint.changes⟩ g₃

/-- How an announced entity comes to be there. -/
def Creates (g : Graph) (d : EntityId) : Announcement → Resolved → Graph → Prop
  | .participant info => ResolvesParticipant g d info
  | .topic info => Resolves g (g.findTopic d info) .topic info.name (.topic info.dataType)
      fun id => [⟨⟨.domain, .topic, .domainMembership⟩, d, id⟩]
  | .reader info => CreatesEndpoint g d .dataReader info
  | .writer info => CreatesEndpoint g d .dataWriter info

theorem CreatesEndpoint.wellFormed {info : EndpointInfo} {r : Resolved}
    (creates : CreatesEndpoint g d kind info r g') (wf : g.WellFormed) : g'.WellFormed := by
  cases creates with
  | built participants topics endpoints =>
    exact endpoints.wellFormed (topics.wellFormed (participants.wellFormed wf))

theorem Creates.wellFormed {announcement : Announcement} {r : Resolved}
    (creates : Creates g d announcement r g') (wf : g.WellFormed) : g'.WellFormed := by
  cases announcement with
  | participant => exact ResolvesParticipant.wellFormed creates wf
  | topic => exact Resolves.wellFormed creates wf
  | reader | writer => exact CreatesEndpoint.wellFormed creates wf

section Composed
variable (R : Graph → List StateChange → Graph → Prop) (refl : ∀ g, R g [] g)
    (trans : ∀ {g g' h changes changes'}, R g changes g' → R g' changes' h → R g (changes ++ changes') h)
include refl trans

/-- What every single step on the way to a participant does, the whole way does. -/
theorem ResolvesParticipant.composed {info : ParticipantInfo} {r : Resolved}
    (step : ∀ {g found kind name attributes edges r h}, g.WellFormed →
      kind ∈ [.host, .user, .process, .participant] → (∀ id, found = some id → g.kind? id = some kind) →
      Resolves g found kind name attributes edges r h → R g r.changes h)
    (resolves : ResolvesParticipant g d info r g') (wf : g.WellFormed) : R g r.changes g' := by
  cases resolves with
  | known => exact refl g
  | built _ hosts users processes participants =>
    have wf₁ := hosts.wellFormed wf
    have wf₂ := users.wellFormed wf₁
    have wf₃ := processes.wellFormed wf₂
    have host := step wf (by simp) (fun _ => findGlobal_eq_some wf) hosts
    have user := step wf₁ (by simp) (fun _ found => wf₁.kind?_of_mem (findChild_eq_some found)) users
    have process := step wf₂ (by simp) (fun _ found => wf₂.kind?_of_mem (findChild_eq_some found)) processes
    exact trans (trans (trans host user) process) (step wf₃ (by simp) (by simp) participants)

/-- What every single step of a creation does, the whole creation does. No locator is created on the way. -/
theorem Creates.composed {announcement : Announcement} {r : Resolved}
    (step : ∀ {g found kind name attributes edges r h}, g.WellFormed → kind ≠ .locator →
      Resolves g found kind name attributes edges r h → R g r.changes h)
    (creates : Creates g d announcement r g') (wf : g.WellFormed) : R g r.changes g' := by
  have participant : ∀ {info r h}, ResolvesParticipant g d info r h → R g r.changes h := fun resolves =>
    resolves.composed R refl trans (fun wf mem _ => step wf (by rintro rfl; simp at mem)) wf
  have endpoint : ∀ {kind info r}, kind ≠ .locator → CreatesEndpoint g d kind info r g' → R g r.changes g' := by
    intro kind info r other creates
    obtain ⟨participants, topics, endpoints⟩ := creates
    have wf₁ := participants.wellFormed wf
    have wf₂ := topics.wellFormed wf₁
    exact trans (trans (participant participants) (step wf₁ (by decide) topics)) (step wf₂ other endpoints)
  cases announcement with
  | participant => exact participant creates
  | topic => exact step wf (by decide) creates
  | reader | writer => exact endpoint (by decide) creates

end Composed

/-- No endpoint is born with a participant. -/
theorem ResolvesParticipant.lacks {info : ParticipantInfo} {r : Resolved} {guid : Guid}
    (resolves : ResolvesParticipant g d info r g') (wf : g.WellFormed) (lacks : g.Lacks (.endpoint guid)) :
    g'.Lacks (.endpoint guid) := by
  have apart : ∀ kind ∈ [EntityKind.host, .user, .process, .participant], kind ∉ EntityKind.endpoints := by
    decide
  refine resolves.composed (fun g _ h => g.Lacks (.endpoint guid) → h.Lacks (.endpoint guid)) (fun _ => id)
    (fun first second lacks => second (first lacks)) (fun wf mem _ resolves lacks => ?_) wf lacks
  exact resolves.lacks wf lacks fun _ fits => apart _ mem fits.mem_kinds

/-- An entity is in reach of a domain, and so are its topics. -/
def Seated (g : Graph) (d x : EntityId) : Prop :=
  g.Local d x ∧ ∀ t ∈ g.neighbors x .topic, d ∈ g.neighbors t .domain

theorem mem_domain_of_topic {info : TopicInfo} {r : Resolved} (wf : g.WellFormed)
    (resolves : Resolves g (g.findTopic d info) .topic info.name (.topic info.dataType)
      (fun id => [⟨⟨.domain, .topic, .domainMembership⟩, d, id⟩]) r g') :
    g'.kind? r.id = some .topic ∧ d ∈ g'.neighbors r.id .domain := by
  refine ⟨resolves.kind? fun _ found => (findTopic_eq_some wf found).1, ?_⟩
  refine resolves.mem_neighbors ⟨⟨.domain, .topic, .domainMembership⟩, d, r.id⟩ wf ?_ (by simp)
  intro id found
  simpa using (findTopic_eq_some wf found).2

/-- What is born below other entities than locators is bound to no locator. -/
theorem CreatesEndpoint.unbound {info : EndpointInfo} {r : Resolved}
    (creates : CreatesEndpoint g d kind info r g') (wf : g.WellFormed) : x ∉ g'.neighbors r.id .locator := by
  obtain ⟨participants, topics, endpoints⟩ := creates
  have wf₂ := topics.wellFormed (participants.wellFormed wf)
  cases endpoints with
  | known here => cases here
  | born _ enabled =>
    intro near
    obtain ⟨edge, mem, locator, -⟩ := (Action.mem_neighbors_born wf₂ enabled).mp near
    simp only [endpointEdges, List.mem_cons, List.not_mem_nil, or_false] at mem
    obtain rfl | rfl := mem <;> cases locator

/-- An announced entity that has just been created is bound to no locator. -/
theorem Creates.unbound {announcement : Announcement} {r : Resolved} (creates : Creates g d announcement r g')
    (wf : g.WellFormed) : x ∉ g'.neighbors r.id .locator := by
  cases announcement with
  | participant =>
    exact (ResolvesParticipant.wellFormed creates wf).not_mem (ResolvesParticipant.kind? creates) (by decide)
  | topic => exact (Resolves.wellFormed creates wf).not_mem (mem_domain_of_topic wf creates).1 (by decide)
  | reader | writer => exact CreatesEndpoint.unbound creates wf

theorem discovers_topic {info : TopicInfo} {r : Resolved} (wf : g.WellFormed)
    (domain : g.kind? d = some .domain)
    (resolves : Resolves g (g.findTopic d info) .topic info.name (.topic info.dataType)
      (fun id => [⟨⟨.domain, .topic, .domainMembership⟩, d, id⟩]) r g') :
    Run (Action.Discovers d) g r.changes g' :=
  resolves.discovers_child ⟨.domain, .topic, .domainMembership⟩ (findTopic_answers wf) (by decide) (by decide)
    (.inl (.self domain)) (by simp [Key.FitsBirth])

theorem createEndpoint_ends {info : EndpointInfo} (wf : g.WellFormed) (domain : g.kind? d = some .domain)
    (isEndpoint : kind.isEndpoint) (admitted : g.Admits d info.participant)
    (lacks : g.Lacks (.endpoint info.guid)) :
    (createEndpoint d kind info).Ends g
      (fun r g' => CreatesEndpoint g d kind info r g' ∧ Run (Action.Discovers d) g r.changes g' ∧
        g'.kind? r.id = some kind ∧ g'.Seated d r.id)
      (RanOut (Action.Discovers d) g) := by
  have rules : ⟨.participant, kind, .ownership⟩ ∈ edgeRules ∧ ⟨.topic, kind, .topicBinding⟩ ∈ edgeRules := by
    revert isEndpoint
    cases kind <;> decide
  have valid : kind ≠ .invalid ∧ kind ≠ .domain := by
    revert isEndpoint
    cases kind <;> decide
  rw [createEndpoint, ends_bind]
  refine (resolveParticipant_ends wf domain).imp_ok ?_
  intro participant g₁ held
  obtain ⟨participants, run₁⟩ := held
  have wf₁ := run₁.wellFormed wf
  have domain₁ := run₁.local_of_discovers.kind?_of_local wf domain
  rw [ends_bind]
  refine (resolveTopic_ends wf₁ domain₁).imp ?_ fun e h fails => fails.2.ranOut run₁
  intro topic g₂ topics
  have step₂ := discovers_topic wf₁ domain₁ topics
  have run₂ := run₁.trans step₂
  have wf₂ := run₂.wellFormed wf
  have knownp := step₂.local_of_discovers.kind?_of_local wf₁ participants.kind?
  have domainp := step₂.local_of_discovers.mem_parent_of_local wf₁ participants.kind? (by decide)
    (participants.mem_domain wf admitted)
  obtain ⟨knownt, domaint⟩ := mem_domain_of_topic wf₁ topics
  have lacks₂ : g₂.Lacks (.endpoint info.guid) :=
    topics.lacks wf₁ (participants.lacks wf lacks) fun _ fits => by cases fits.1
  refine introduce_bind_bind_ends ⟨.participant, kind, .ownership⟩ ⟨.topic, kind, .topicBinding⟩
    wf₂ rules (by simp) (by simp) knownp knownt valid.1 (fun e h fails => fails.ranOut run₂) ?_
  intro endpoint g₃ endpoints
  have step₃ : Run (Action.Discovers d) g₂ endpoint.changes g₃ := by
    refine endpoints.discovers (.endpoint info.guid) lacks₂ (fun _ => ?_) fun _ => ⟨?_, ?_, ?_⟩
    · simp [Key.FitsBirth, isEndpoint]
    · simpa [Entity.discovered] using valid.2
    · revert isEndpoint
      cases kind <;> simp [Entity.discovered, EntityKind.parents_eq, EntityKind.isEndpoint]
    · simpa using ⟨Or.inl (.member domainp), Or.inl (.member domaint)⟩
  have known := endpoints.kind? (by simp)
  refine ⟨.built participants topics endpoints, run₂.trans step₃, known, .inl ?_, fun t near => ?_⟩
  · refine .endpoint (p := participant.id) known isEndpoint ?_ ?_
    · exact endpoints.mem_neighbors ⟨⟨.participant, kind, .ownership⟩, participant.id, endpoint.id⟩
        wf₂ (by simp) (by simp)
    · exact step₃.local_of_discovers.mem_parent_of_local wf₂ knownp (by decide) domainp
  · have above := endpoints.mem_neighbors ⟨⟨.topic, kind, .topicBinding⟩, topic.id, endpoint.id⟩ wf₂
      (by simp) (by simp)
    rw [(step₃.wellFormed wf₂).single known (EntityKind.topic_mem_parents isEndpoint) near above]
    exact step₃.local_of_discovers.mem_parent_of_local wf₂ knownt (by decide) domaint

/-- What is announced is found or born, alive in reach of its domain, by local actions. -/
theorem createAnnounced_ends {announcement : Announcement} (wf : g.WellFormed)
    (domain : g.kind? d = some .domain)
    (admitted : ∀ info, announcement.described? = some info → g.Admits d info)
    (lacks : ∀ guid, announcement.endpoint? = some guid → g.Lacks (.endpoint guid)) :
    (createAnnounced d announcement).Ends g
      (fun r g' => Creates g d announcement r g' ∧ Run (Action.Discovers d) g r.changes g' ∧
        g'.kind? r.id = some announcement.kind ∧ g'.Seated d r.id)
      (RanOut (Action.Discovers d) g) := by
  cases announcement with
  | participant info =>
    refine (resolveParticipant_ends wf domain).imp_ok ?_
    intro r g' held
    obtain ⟨participants, run⟩ := held
    have near := participants.mem_domain wf (admitted info rfl)
    refine ⟨participants, run, participants.kind?, .inl (.member near), fun t topic => ?_⟩
    exact absurd topic ((run.wellFormed wf).not_mem participants.kind? (by decide))
  | topic info =>
    refine (resolveTopic_ends wf domain).imp ?_ fun e h fails => fails.2.ranOut .nil
    intro r g' topics
    have run := discovers_topic wf domain topics
    obtain ⟨known, near⟩ := mem_domain_of_topic wf topics
    refine ⟨topics, run, known, .inl (.member near), fun t topic => ?_⟩
    exact absurd topic ((run.wellFormed wf).not_mem known (by decide))
  | reader info | writer info =>
    exact createEndpoint_ends wf domain rfl (admitted info.participant rfl) (lacks info.guid rfl)

end Graph
end DiscoveryGraph
