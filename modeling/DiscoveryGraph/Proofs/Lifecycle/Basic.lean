import DiscoveryGraph.Lifecycle.Basic
import DiscoveryGraph.Proofs.Graph.Ownership
import DiscoveryGraph.Proofs.Lifecycle.Backing
import DiscoveryGraph.Proofs.Query.Path

/-! Stopping a domain, setting locators right, and requested transitions in general. A stop
lowers the flags of what the domain owns and of what depends on its participants, and of nothing
else, and it exposes no entity inside an inactive one. -/
namespace DiscoveryGraph

/-- Sets the flags of some entities, either way. -/
def Action.Marks (s : EntityId → Prop) : Graph → Action → Prop :=
  fun _ a => ∃ id kind active, a = .flagged id kind active ∧ s id

theorem Run.marks {active : Bool} {s : EntityId → Prop} {g g' : Graph} {changes : List StateChange}
    (run : Run (Action.Flags active s) g changes g') : Run (Action.Marks s) g changes g' :=
  run.mono fun _ _ ⟨id, kind, flagged, mine⟩ => ⟨id, kind, active, flagged, mine⟩

theorem Run.marks_mono {s t : EntityId → Prop} {g g' : Graph} {changes : List StateChange}
    (run : Run (Action.Marks s) g changes g') (sub : ∀ x, s x → t x) : Run (Action.Marks t) g changes g' :=
  run.mono fun _ _ ⟨id, kind, active, flagged, mine⟩ => ⟨id, kind, active, flagged, sub id mine⟩

theorem Run.upToFlags_of_marks {s : EntityId → Prop} {g g' : Graph} {changes : List StateChange}
    (run : Run (Action.Marks s) g changes g') : g.UpToFlags g' := by
  induction run with
  | nil => exact .refl
  | cons _ allowed _ ih =>
    obtain ⟨id, kind, active, rfl, -⟩ := allowed
    exact Graph.UpToFlags.reflag.trans ih

theorem Run.alike_of_marks {s : EntityId → Prop} {g g' : Graph} {changes : List StateChange}
    (run : Run (Action.Marks s) g changes g') : g.Alike g' := run.upToFlags_of_marks.alike

theorem Run.alive_of_marks {s : EntityId → Prop} {g g' : Graph} {changes : List StateChange} {x : EntityId}
    (run : Run (Action.Marks s) g changes g') (other : ¬ s x) : g'.alive x = g.alive x := by
  induction run with
  | nil => rfl
  | cons _ allowed _ ih =>
    obtain ⟨id, kind, active, rfl, mine⟩ := allowed
    rw [ih, Action.act, Graph.alive_reflag, if_neg]
    intro held
    obtain ⟨rfl, -⟩ := held
    exact other mine

namespace Graph
open Update
variable {g : Graph} {d id x y : EntityId} {k : EntityKind}

/-! ### What a domain finds -/

theorem finds_participant : g.Finds .domain .participant d y ↔ y ∈ g.neighbors d .participant := by
  rw [finds_iff_path .descendant [[.participant]] rfl]
  simp [Path]

theorem finds_topic : g.Finds .domain .topic d y ↔ y ∈ g.neighbors d .topic := by
  rw [finds_iff_path .descendant [[.topic]] rfl]
  simp [Path]

theorem finds_endpoint (endpoint : k.isEndpoint) :
    g.Finds .domain k d y ↔ ∃ p ∈ g.neighbors d .participant, y ∈ g.neighbors p k := by
  rw [finds_iff_path .descendant [[.participant], [k]]]
  · simp [Path]
  · cases k <;> first | rfl | cases endpoint

/-- Hosts, users, processes and locators are found through what they derive their activity from. -/
theorem finds_shared (shared : k.isShared) : g.Finds .domain k d x ↔
    ∃ kind ∈ k.derivedFrom, ∃ y, g.Finds .domain kind d y ∧ x ∈ g.neighbors y k := by
  have process : ∀ z, g.Finds .domain .process d z ↔
      ∃ y ∈ g.neighbors d .participant, z ∈ g.neighbors y .process := fun z => by
    rw [finds_iff_path .lateral [[.participant], [.process]] rfl]
    simp [Path]
  have user : ∀ z, g.Finds .domain .user d z ↔ ∃ y ∈ g.neighbors d .participant,
      ∃ p ∈ g.neighbors y .process, z ∈ g.neighbors p .user := fun z => by
    rw [finds_iff_path .lateral [[.participant], [.process], [.user]] rfl]
    simp [Path]
  cases k with
  | process => simp [EntityKind.derivedFrom, process, finds_participant]
  | user =>
    simp only [EntityKind.derivedFrom, List.mem_singleton, exists_eq_left, user, process]
    grind
  | host =>
    rw [finds_iff_path .lateral [[.participant], [.process], [.user], [.host]] rfl]
    simp only [EntityKind.derivedFrom, List.mem_singleton, exists_eq_left, user, Path]
    grind
  | locator =>
    rw [finds_iff_path .descendant [[.participant], EntityKind.endpoints, [.locator]] rfl]
    simp only [EntityKind.derivedFrom, Path, List.mem_singleton, exists_eq_left, exists_eq_right]
    constructor
    · intro path
      obtain ⟨p, member, kind, endpoint, y, below, near⟩ := path
      have finds := (finds_endpoint ((EntityKind.mem_endpoints kind).mp endpoint)).mpr ⟨p, member, below⟩
      exact ⟨kind, endpoint, y, finds, near⟩
    · intro found
      obtain ⟨kind, endpoint, y, finds, near⟩ := found
      obtain ⟨p, member, below⟩ := (finds_endpoint ((EntityKind.mem_endpoints kind).mp endpoint)).mp finds
      exact ⟨p, member, kind, endpoint, y, below, near⟩
  | domain | participant | topic | dataWriter | dataReader | invalid => cases shared

theorem expectDomain_eq_ok {u : Unit} : g.expectDomain id = .ok u ↔ g.kind? id = some .domain := by
  unfold expectDomain lookup kind?
  cases g.entity? id with
  | none => simp [Bind.bind, Except.bind]
  | some entity =>
    simp only [Bind.bind, Except.bind, Option.map_some, Option.some.injEq]
    split
    · simp_all [pure, Except.pure]
    · simp_all [throw, throwThe, MonadExceptOf.throw]

theorem expectDiscovered_eq_ok {u : Unit} :
    g.expectDiscovered id = .ok u ↔ ∃ k, g.kind? id = some k ∧ k ≠ .domain := by
  unfold expectDiscovered lookup kind?
  cases g.entity? id with
  | none => simp [Bind.bind, Except.bind]
  | some entity =>
    simp only [Bind.bind, Except.bind, Option.map_some, Option.some.injEq]
    split
    · simp_all [throw, throwThe, MonadExceptOf.throw]
    · simp_all [pure, Except.pure]

/-- What the stop of a domain reaches. -/
def Stops (g : Graph) (d x : EntityId) : Prop :=
  x = d ∨ (∃ k ∈ [EntityKind.topic, .dataWriter, .dataReader, .locator], g.Finds .domain k d x) ∨
    ∃ p ∈ g.neighbors d .participant, g.Drags p x

/-- Setting flags one by one. -/
theorem gather_flag_ends {active : Bool} {s : EntityId → Prop} {ids : List EntityId}
    (known : ∀ x ∈ ids, ∃ k, g.kind? x = some k) (mine : ∀ x ∈ ids, s x) :
    (gather (β := StateChange) (fun x => (liftM (flag x active) : Update GraphError _)) ids).Ends g
      (fun changes h => Run (Action.Flags active s) g changes h ∧ ∀ x ∈ ids, h.alive x = active)
      fun _ _ => False := by
  refine (ends_gather_all (fun done h => Run (Action.Flags active s) g done h)
    (fun x h => h.alive x = active) ?_ .nil).imp_ok fun changes h held => ⟨held.1, held.2.1⟩
  intro x mem done h run
  obtain ⟨k, here⟩ := known x mem
  rw [← run.alike.kind?] at here
  rw [ends_liftStorage]
  refine (flag_run here (mine x mem)).imp_ok ?_
  intro changes h' fact
  obtain ⟨further, set, -⟩ := fact
  refine ⟨run.trans further, set, fun z before => ?_⟩
  obtain same | ⟨-, after⟩ := further.alive_eq_or (x := z)
  · rw [same, before]
  · exact after

/-- A run exposes nothing if it leaves whatever it lowered without active contents. -/
theorem lowered_of_contents {s : EntityId → Prop} {h : Graph} {changes : List StateChange}
    (run : Run (Action.Flags false s) g changes h)
    (contents : ∀ y, s y → ∀ x, g.Inside x y → h.alive x = false) : Lowered s g changes h := by
  refine ⟨run, ?_⟩
  intro x y held
  obtain ⟨inside, active, inactive⟩ := held
  rw [run.alike.inside_iff] at inside
  obtain same | ⟨mine, -⟩ := run.alive_eq_or (x := y)
  · refine ⟨inside, ?_, by rwa [← same]⟩
    cases state : g.alive x
    · simp [run.not_alive_of_lowered state] at active
    · rfl
  · simp [contents y mine x inside] at active

/-- What a stop flags by itself, before it looks at what depends on the participants. -/
def Halts (g : Graph) (d x : EntityId) : Prop :=
  x = d ∨ x ∈ g.neighbors d .participant ∨
    ∃ k ∈ [EntityKind.topic, .dataWriter, .dataReader, .locator], g.Finds .domain k d x

theorem Halts.stops (halts : g.Halts d x) : g.Stops d x := by
  obtain rfl | near | finds := halts
  · exact .inl rfl
  · exact .inr (.inr ⟨x, near, .self⟩)
  · exact .inr (.inl finds)

/-- What a stop takes down at most: what it flags by itself and what depends on the participants. -/
def Sinks (g : Graph) (d x : EntityId) : Prop :=
  g.Halts d x ∨ ∃ p ∈ g.neighbors d .participant, g.Spreads p .participant x

theorem Sinks.stops (sinks : g.Sinks d x) (wf : g.WellFormed) : g.Stops d x := by
  obtain halts | ⟨p, near, spreads⟩ := sinks
  · exact halts.stops
  · exact .inr (.inr ⟨p, near, spreads.drags (wf.kind?_of_mem near)⟩)

theorem Halts.kind? (halts : g.Halts d x) (wf : g.WellFormed) (known : g.kind? d = some .domain) :
    ∃ k ∈ [EntityKind.domain, .participant, .topic, .dataWriter, .dataReader, .locator],
      g.kind? x = some k := by
  obtain rfl | near | ⟨k, listed, finds⟩ := halts
  · exact ⟨_, by simp, known⟩
  · exact ⟨_, by simp, wf.kind?_of_mem near⟩
  · exact ⟨k, List.mem_of_mem_drop (i := 2) listed, finds.kind? wf known⟩

/-- Whatever a stop flags besides the domain is found from there. -/
theorem Halts.finds (halts : g.Halts d x) (wf : g.WellFormed) (known : g.kind? d = some .domain)
    (here : g.kind? x = some k) (other : k ≠ .domain) : g.Finds .domain k d x := by
  obtain rfl | near | ⟨k', listed, finds⟩ := halts
  · exact absurd (kind_unique here known) other
  · obtain rfl := kind_unique here (wf.kind?_of_mem near)
    exact finds_participant.mpr near
  · obtain rfl := kind_unique here (finds.kind? wf known)
    exact finds

/-- Only participants contain anything of what a stop flags, and it flags their endpoints as well. -/
theorem Halts.inside (halts : g.Halts d y) (wf : g.WellFormed) (known : g.kind? d = some .domain)
    (inside : g.Inside x y) : g.Halts d x := by
  obtain ⟨k, listed, here⟩ := halts.kind? wf known
  obtain ⟨-, other⟩ | ⟨rfl, endpoint⟩ := inside.mem wf here
  · refine absurd inside (not_inside wf here ?_)
    intro kind
    revert listed other
    cases k <;> cases kind <;> decide
  · obtain ⟨kind, isEndpoint, near⟩ := mem_endpointsOf.mp endpoint
    have mine := finds_participant.mp (halts.finds wf known here (by decide))
    refine .inr (.inr ⟨kind, ?_, (finds_endpoint isEndpoint).mpr ⟨y, mine, near⟩⟩)
    revert isEndpoint
    cases kind <;> decide

/-- A stop sets its flags first and looks at what depends on the participants then. -/
theorem stopDomain_stages {ok : List StateChange → Graph → Prop} {bad : GraphError → Graph → Prop}
    (wf : g.WellFormed) (known : g.kind? d = some .domain)
    (rest : ∀ (participants : List EntityId) (changed : List StateChange) (h : Graph),
      (∀ p, p ∈ participants ↔ p ∈ g.neighbors d .participant) →
      Run (Action.Flags false (g.Halts d)) g changed h → (∀ x, g.Halts d x → h.alive x = false) →
      (gather (fun p => (liftM (refreshDependents deactivate p .participant) : Update GraphError _))
        participants).Ends h (fun above h' => ok (changed ++ above) h') bad) :
    (stopDomain d).Ends g ok bad := by
  obtain ⟨participants, foundp, memp⟩ := related_eq_ok (k := .participant) wf known (by decide)
  obtain ⟨owned, foundo, memo⟩ := relatedOfKinds_eq_ok [.topic, .dataWriter, .dataReader, .locator]
    wf known (by decide)
  simp only [finds_participant] at memp
  have domain : g.expectDomain d = .ok () := expectDomain_eq_ok.mpr known
  simp only [stopDomain, ends_bind, ends_liftStorage, ends_liftValidation, ends_read, domain, foundp, foundo,
    Except.ok.injEq, reduceCtorEq, false_implies, implies_true, and_true, forall_eq', forall_const]
  have flagged : ∀ x, x ∈ d :: participants.toList ++ owned.toList ↔ g.Halts d x := fun x => by
    simp only [List.cons_append, List.mem_cons, List.mem_append, Std.ExtTreeSet.mem_toList, memp, memo, Halts]
  refine (gather_flag_ends (s := g.Halts d) ?_ fun x mem => (flagged x).mp mem).imp ?_ fun _ _ => False.elim
  · intro x mem
    obtain ⟨k, -, here⟩ := ((flagged x).mp mem).kind? wf known
    exact ⟨k, here⟩
  intro changed h held
  obtain ⟨run, gone⟩ := held
  exact rest participants.toList changed h (fun p => by rw [Std.ExtTreeSet.mem_toList, memp]) run
    fun x halts => gone x ((flagged x).mpr halts)

theorem stopDomain_lowers (wf : g.WellFormed) (known : g.kind? d = some .domain) :
    (stopDomain d).Ends g (Lowered (g.Sinks d) g) fun _ _ => False := by
  refine stopDomain_stages wf known fun participants changed h memp run gone => ?_
  have lowered : Lowered (g.Halts d) g changed h := by
    refine lowered_of_contents run fun y halts x inside => ?_
    exact gone x (halts.inside wf known inside)
  refine ends_gather (fun done h => Lowered (g.Sinks d) g (changed ++ done) h) ?_ ?_
  · intro p mem done h' lowered'
    have alike := lowered'.run.alike
    have near := (memp p).mp mem
    rw [ends_liftStorage, ← refreshDependentsBy_asListed]
    refine (refreshDependentsBy_lowers .asListed deactivates_deactivate p (lowered'.run.wellFormed wf)).imp_ok ?_
    intro above h'' further
    rw [← List.append_assoc]
    refine lowered'.trans (further.mono fun x spreads => .inr ⟨p, near, spreads.of_alike alike⟩)
  · simpa using lowered.mono fun x halts => .inl halts

/-- A stop has taken down what it flags by itself, and whatever it takes the backing from goes as well, but
for topics of other domains. -/
structure Halted (g : Graph) (d : EntityId) (h : Graph) : Prop where
  gone : ∀ x, g.Halts d x → h.alive x = false
  processes : ∀ p ∈ g.neighbors d .participant, ∀ x ∈ g.neighbors p .process, h.Justified x
  upheld : ∀ x, g.kind? x ≠ some .topic → g.Backed x → h.Justified x

theorem stopDomain_halted (wf : g.WellFormed) (known : g.kind? d = some .domain) :
    (stopDomain d).Ends g (fun _ h => g.Halted d h) fun _ _ => False := by
  refine stopDomain_stages wf known fun participants changed h memp run gone => ?_
  have wf₁ := run.wellFormed wf
  have relieves : Relieves deactivate .participant := fun _ _ _ wf known _ => deactivate_subsides wf known
  refine (ends_gather_all (fun done h' => h.Subsides done h')
    (fun p h' => ∀ q ∈ g.neighbors p .process, h'.Justified q) ?_ .nil).imp_ok ?_
  · intro p mem done h' subsides
    rw [ends_liftStorage, ← refreshDependentsBy_asListed]
    refine (refreshDependentsBy_subsides .asListed relieves p (subsides.lowered.wellFormed wf₁)).imp_ok ?_
    intro above h'' fact
    obtain ⟨further, settled⟩ := fact
    refine ⟨subsides.trans further, fun q near => settled .process (by decide) q ?_,
      fun _ earlier q near => further.justified (earlier q near)⟩
    rwa [subsides.lowered.alike.neighbors, run.alike.neighbors]
  intro above h' fact
  obtain ⟨subsides, settled, -⟩ := fact
  have lowered : ∀ x, g.Halts d x → h'.alive x = false := fun x halts =>
    subsides.lowered.not_alive_of_lowered (gone x halts)
  refine ⟨lowered, fun p near => settled p ((memp p).mpr near), ?_⟩
  intro x other backed active
  obtain backed | ⟨y, kind, k, halts, knowny, dependent, knownx, near⟩ := backed_or_dependent run wf backed
  · exact subsides.upheld x backed active
  have cases : kind ≠ .domain ∧ (kind = .participant ∧ k = .process ∨ kind.isEndpoint ∧ k = .locator) := by
    obtain ⟨kind', listed, here⟩ := halts.kind? wf known
    obtain rfl := kind_unique knowny here
    have apart : k ≠ .topic := fun same => other (same ▸ knownx)
    revert listed dependent apart
    cases kind <;> cases k <;> decide
  have found := halts.finds wf known knowny cases.1
  obtain ⟨-, ⟨rfl, rfl⟩ | ⟨isEndpoint, rfl⟩⟩ := cases
  · exact settled y ((memp y).mpr (finds_participant.mp found)) x near active
  · -- The locator was flagged itself.
    have halts' : g.Halts d x := .inr (.inr ⟨.locator, by simp, (finds_shared rfl).mpr
      ⟨kind, (EntityKind.mem_endpoints kind).mpr isEndpoint, y, found, near⟩⟩)
    rw [lowered x halts'] at active
    cases active

/-- A stopped domain: what it owns is down with what depended on it, and nothing else that was backed
is left without backing, but for topics of other domains. -/
structure Stopped (g : Graph) (d : EntityId) (changes : List StateChange) (h : Graph) : Prop
    extends Lowered (g.Stops d) g changes h where
  upheld : ∀ x, g.kind? x ≠ some .topic → g.Backed x → h.Justified x

theorem stopDomain_ends (wf : g.WellFormed) (known : g.kind? d = some .domain) :
    (stopDomain d).Ends g (Stopped g d) fun _ _ => False :=
  ((stopDomain_lowers wf known).and (stopDomain_halted wf known)).imp
    (fun _ _ held => ⟨held.1.mono fun _ sinks => sinks.stops wf, held.2.upheld⟩) fun _ _ fails => fails.1

/-! ### Locators and transitions -/

/-- One locator is set to whether one of its endpoints is active, if it exists. -/
theorem rederiveLocator_ends (wf : g.WellFormed) :
    (do
      let active ← Update.read (·.hasActiveChild x .locator)
      flag x active).Ends g
      (fun changes h => Run (Action.Marks (· = x)) g changes h ∧
        h.alive x = (g.children x .locator).any g.alive ∧
        ∀ change ∈ changes, change.id = x ∧ change.active = h.alive x)
      fun _ h => h = g ∧ g.kind? x = none := by
  rw [ends_bind, ends_read, hasActiveChild_eq wf]
  refine ⟨?_, by simp⟩
  rintro active ⟨⟩
  refine flag_ends.imp ?_ fun _ _ fails => ⟨fails.2, fails.1⟩
  intro changes h held
  obtain ⟨kind, known, ⟨same, rfl, rfl⟩ | ⟨other, rfl, rfl⟩⟩ := held
  · exact ⟨.nil, same, by simp⟩
  · have set : (g.reflag x _).alive x = (g.children x .locator).any g.alive := alive_reflag_self known
    exact ⟨(run_reflag known other).marks, set, by simp [set]⟩

/-- Locators that exist are all set; one that does not ends the run early. -/
theorem rederiveLocators_ends {ids : IdSet} (wf : g.WellFormed) : (rederiveLocators ids).Ends g
    (fun changes h => Run (Action.Marks (· ∈ ids)) g changes h)
    (fun _ h => (∃ changes, Run (Action.Marks (· ∈ ids)) g changes h) ∧ ∃ x ∈ ids, g.kind? x = none) := by
  refine ends_gather (fun done h => Run (Action.Marks (· ∈ ids)) g done h) ?_ .nil
  intro locator mem done h run
  rw [Std.ExtTreeSet.mem_toList] at mem
  refine (rederiveLocator_ends (run.wellFormed wf)).imp ?_ ?_
  · intro changes h' held
    exact run.trans (held.1.marks_mono fun x here => here ▸ mem)
  · intro e h' fact
    obtain ⟨rfl, unknown⟩ := fact
    rw [run.alike_of_marks.kind?] at unknown
    exact ⟨⟨done, run⟩, locator, mem, unknown⟩

/-- Some locators have been set to whether one of their endpoints is active. -/
structure Rederived (g : Graph) (ids : IdSet) (changes : List StateChange) (h : Graph) : Prop where
  run : Run (Action.Marks (· ∈ ids)) g changes h
  locators : ∀ x ∈ ids, g.kind? x = some .locator
  set : ∀ x ∈ ids, h.alive x = (g.children x .locator).any g.alive
  told : ∀ change ∈ changes, change.active = h.alive change.id

theorem rederiveLocators_sets {ids : IdSet} (wf : g.WellFormed)
    (locators : ∀ x ∈ ids, g.kind? x = some .locator) :
    (rederiveLocators ids).Ends g (Rederived g ids) fun _ _ => False := by
  have start : ∀ change ∈ ([] : List StateChange), change.id ∈ ids ∧
      change.active = (g.children change.id .locator).any g.alive := by simp
  refine (ends_gather_all
    (fun done h => Run (Action.Marks (· ∈ ids)) g done h ∧ ∀ change ∈ done, change.id ∈ ids ∧
      change.active = (g.children change.id .locator).any g.alive)
    (fun x h => h.alive x = (g.children x .locator).any g.alive) ?_ ⟨.nil, start⟩).imp_ok ?_
  case refine_2 =>
    intro changes h held
    obtain ⟨⟨run, told⟩, set, -⟩ := held
    have set : ∀ x ∈ ids, h.alive x = (g.children x .locator).any g.alive := fun x mem =>
      set x (Std.ExtTreeSet.mem_toList.mpr mem)
    refine ⟨run, locators, set, fun change mem => ?_⟩
    rw [(told change mem).2, set _ (told change mem).1]
  intro locator mem done h held
  obtain ⟨run, told⟩ := held
  rw [Std.ExtTreeSet.mem_toList] at mem
  have alike := run.alike_of_marks
  -- Endpoints are no locators, so their flags are still as they were.
  have same : (h.children locator .locator).any h.alive = (g.children locator .locator).any g.alive := by
    rw [alike.children, Bool.eq_iff_iff, List.any_eq_true, List.any_eq_true]
    refine exists_congr fun y => and_congr_right fun child => ?_
    rw [run.alive_of_marks]
    intro listed
    obtain ⟨k, endpoint, near⟩ := mem_children.mp child
    obtain rfl := kind_unique (locators y listed) (wf.kind?_of_mem near)
    revert endpoint
    decide
  refine (rederiveLocator_ends (run.wellFormed wf)).imp ?_ ?_
  · intro changes h' held
    obtain ⟨marks, set, one⟩ := held
    rw [same] at set
    refine ⟨⟨run.trans (marks.marks_mono fun x here => here ▸ mem), ?_⟩, set, fun x earlier => ?_⟩
    · intro change listed
      obtain listed | listed := List.mem_append.mp listed
      · exact told change listed
      · obtain ⟨here, value⟩ := one change listed
        rw [here, value, set]
        exact ⟨mem, rfl⟩
    by_cases here : x = locator
    · rw [here, set]
    · rw [marks.alive_of_marks here, earlier]
  · intro e h' fact
    rw [alike.kind?, locators locator mem] at fact
    exact absurd fact.2 (by simp)

theorem apply_appeared_ends (wf : g.WellFormed) (known : g.kind? id = some k) (discovered : k ≠ .domain) :
    (apply (.appeared id)).Ends g (Activated g id) fun _ _ => False := by
  have pass : g.expectDiscovered id = .ok () := expectDiscovered_eq_ok.mpr ⟨k, known, discovered⟩
  simp only [apply, ends_bind, ends_liftStorage, ends_read, pass, reduceCtorEq, false_implies, implies_true,
    and_true, forall_const]
  exact activate_ends wf known discovered

/-- A participant may disappear over active endpoints, anything else only with inactive contents. -/
theorem apply_disappeared_ends (wf : g.WellFormed) (known : g.kind? id = some k) (discovered : k ≠ .domain) :
    (apply (.disappeared id)).Ends g
      (fun changes h => Run (Action.Flags false (g.Drags id)) g changes h ∧
        ((∀ x, g.Inside x id → g.alive x = true → k = .participant) → ∀ x y, h.Exposed x y → g.Exposed x y) ∧
        g.Subsides changes h ∧ h.alive id = false)
      fun _ _ => False := by
  have pass : g.expectDiscovered id = .ok () := expectDiscovered_eq_ok.mpr ⟨k, known, discovered⟩
  simp only [apply, ends_bind, ends_liftStorage, ends_read, pass, reduceCtorEq, false_implies, implies_true,
    and_true, forall_const]
  refine ((deactivate_ends wf known).and (deactivate_subsides wf known)).imp ?_ fun _ _ fails => fails.1
  intro changes h held
  obtain ⟨done, settled⟩ := held
  exact ⟨done.run, done.covered fun _ => by decide, settled⟩

theorem becomes_apply {transition : Transition} (wf : g.WellFormed) :
    g.Becomes ((apply transition).after g) := by
  refine Ends.after ?_
  cases transition with
  | appeared id =>
    simp only [apply, ends_bind, ends_liftStorage, ends_read]
    refine ⟨fun _ pass => ?_, fun _ _ => .refl⟩
    obtain ⟨k, known, discovered⟩ := expectDiscovered_eq_ok.mp pass
    exact (activate_ends wf known discovered).imp
      (fun _ _ held => held.raised.becomes) fun _ _ => False.elim
  | disappeared id =>
    simp only [apply, ends_bind, ends_liftStorage, ends_read]
    refine ⟨fun _ pass => ?_, fun _ _ => .refl⟩
    obtain ⟨k, known, -⟩ := expectDiscovered_eq_ok.mp pass
    exact (deactivate_ends wf known).imp (fun _ _ done => done.run.becomes) fun _ _ => False.elim
  | domainStopped d =>
    by_cases known : g.kind? d = some .domain
    · exact (stopDomain_ends wf known).imp (fun _ _ held => held.run.becomes) fun _ _ => False.elim
    · simp only [apply, stopDomain, ends_bind, ends_liftStorage, ends_read]
      exact ⟨fun _ pass => absurd (expectDomain_eq_ok.mp pass) known, fun _ _ => .refl⟩

end Graph
end DiscoveryGraph
