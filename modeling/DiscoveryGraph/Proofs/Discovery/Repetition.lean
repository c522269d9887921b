import DiscoveryGraph.Proofs.Discovery.Growth

/-! Repetition. Once a notification has been carried out, the graph is as the notification says: its
checks find the announced entity, the locators are there and bound, and what it supports is active.
On such a graph the notification changes nothing. -/
namespace DiscoveryGraph

/-- A run that sets flags to what they are is no run at all. -/
theorem Run.flags_nil {active : Bool} {s : EntityId → Prop} {g h : Graph} {changes : List StateChange}
    (run : Run (Action.Flags active s) g changes h) (set : ∀ x, s x → g.alive x = active) :
    changes = [] ∧ h = g := by
  cases run with
  | nil => exact ⟨rfl, rfl⟩
  | cons enabled allowed _ =>
    obtain ⟨id, kind, rfl, mine⟩ := allowed
    have other := enabled.2
    rw [set id mine] at other
    cases active <;> cases other

namespace Graph
open Update
variable {g g' h : Graph} {d id x : EntityId} {kind : EntityKind} {n : Notification}
    {existing found : Option EntityId} {changes : List StateChange} {r : Resolved}

/-! ### What was created passes its checks -/

/-- A participant is known by its GUID and sits in its domain and in the process, of the user, on the
host of its description. -/
structure Sits (g : Graph) (d : EntityId) (info : ParticipantInfo) (id : EntityId) : Prop where
  key : Answers (g.HasKey · (.participant info.guid)) (some id)
  domain : d ∈ g.neighbors id .domain
  context : ∃ host user process, g.HasKey host (.host info.host) ∧ g.HasKey user (.user host info.user) ∧
    g.HasKey process (.process user info.process) ∧ process ∈ g.neighbors id .process

theorem Sits.knownParticipant {info : ParticipantInfo} (sits : g.Sits d info id) (wf : g.WellFormed) :
    g.KnownParticipant d info id := by
  obtain ⟨key, domain, host, user, process, hosts, users, processes, near⟩ := sits
  have found := findParticipant_of_answers wf key
  have known : g.kind? id = some .participant := (findByGuid_eq_some found).1
  exact ⟨⟨_, found⟩, (wf.parent?_eq_some_iff known (by decide)).mpr domain,
    context_eq wf known near hosts users processes⟩

/-- A new participant sits where it was announced. -/
theorem ResolvesParticipant.sits {info : ParticipantInfo} (resolves : ResolvesParticipant g d info r g')
    (wf : g.WellFormed) (unknown : g.findByGuid [.participant] info.guid = none) : g'.Sits d info r.id := by
  cases resolves with
  | known found => simp [unknown] at found
  | @built g₁ g₂ g₃ _ host user process participant _ hosts users processes participants =>
    have wf₁ := hosts.wellFormed wf
    have wf₂ := users.wellFormed wf₁
    have wf₃ := processes.wellFormed wf₂
    have knownh := hosts.kind? fun _ => findGlobal_eq_some wf
    have knownu := users.kind? fun _ found => wf₁.kind?_of_mem (findChild_eq_some found)
    have host₁ := (hosts.answers wf (findHost_answers wf info.host) (by simp [Key.FitsBirth])).1
    have user₂ := (users.answers wf₁ (findUser_answers wf₁ knownh) (by simp [Key.FitsBirth])).1
    have process₃ := (processes.answers wf₂ (findProcess_answers wf₂ knownu) (by simp [Key.FitsBirth])).1
    have adds₃ := ((hosts.adds wf).trans (users.adds wf₁)).trans (processes.adds wf₂)
    have answers := findParticipant_answers wf info.guid
    rw [unknown] at answers
    refine ⟨participants.answers wf₃ (adds₃.answers answers (by simp)) (by simp [Key.FitsBirth]), ?_,
      host.id, user.id, process.id, ?_, ?_, ?_, ?_⟩
    · exact participants.mem_neighbors ⟨⟨.domain, .participant, .domainMembership⟩, d, participant.id⟩ wf₃
        (by simp) (by simp [participantEdges])
    · exact (((users.adds wf₁).trans (processes.adds wf₂)).trans (participants.adds wf₃)).hasKey host₁
    · exact ((processes.adds wf₂).trans (participants.adds wf₃)).hasKey user₂
    · exact (participants.adds wf₃).hasKey process₃
    · exact participants.mem_neighbors ⟨⟨.process, .participant, .containment⟩, process.id, participant.id⟩ wf₃
        (by simp) (by simp [participantEdges])

/-- A participant that was checked and resolved is known where it is announced. -/
theorem ResolvesParticipant.knownParticipant {info : ParticipantInfo}
    (resolves : ResolvesParticipant g d info r g') (wf : g.WellFormed)
    (valid : g.validateParticipant d info = .ok found) : g'.KnownParticipant d info r.id := by
  obtain ⟨-, checked⟩ := validateParticipant_eq_ok.mp valid
  cases found with
  | none => exact (resolves.sits wf checked).knownParticipant (resolves.wellFormed wf)
  | some id =>
    obtain ⟨k, found⟩ := checked.found
    cases resolves with
    | known here =>
      rw [found, Option.some_inj, Prod.mk.injEq] at here
      exact here.1 ▸ checked
    | built unknown => simp [found] at unknown

/-- A new endpoint is known with its participant and its topic. -/
theorem CreatesEndpoint.validate {info : EndpointInfo} (creates : CreatesEndpoint g d kind info r g')
    (wf : g.WellFormed) (isEndpoint : kind.isEndpoint) (valid : g.validateEndpoint d kind info = .ok none) :
    g'.validateEndpoint d kind info = .ok (some r.id) := by
  obtain ⟨legible, found, checked, unknown⟩ := validateEndpoint_eq_ok.mp valid
  obtain @⟨g₁, g₂, _, participant, topic, endpoint, participants, topics, endpoints⟩ := creates
  have wf₁ := participants.wellFormed wf
  have wf₂ := topics.wellFormed wf₁
  have wf₃ := endpoints.wellFormed wf₂
  have other : kind ≠ .participant ∧ kind ≠ .topic := by
    revert isEndpoint
    cases kind <;> decide
  have adds : Adds [.topic, kind] g₁ g' := (topics.adds wf₁).trans (endpoints.adds wf₂)
  have knownp := adds.knownParticipant wf₁ wf₃ (by simp [Ne.symm other.1])
    (participants.knownParticipant wf checked)
  have knownt := (endpoints.adds wf₂).answers (topics.answers wf₁ (findTopic_answers wf₁) (by simp [Key.FitsBirth]))
    (by simp [Ne.symm other.2])
  have lacks : g₂.Lacks (.endpoint info.guid) := by
    have answers := findEndpoint_answers wf info.guid
    rw [show g.findByGuid EntityKind.endpoints info.guid = none from unknown] at answers
    exact topics.lacks wf₁ (participants.lacks wf answers) (by simp [EntityKind.isEndpoint])
  have known := endpoints.kind? (by simp)
  have above : ∀ edge ∈ endpointEdges kind participant.id topic.id endpoint.id,
      edge.parent ∈ g'.neighbors endpoint.id edge.rule.parent :=
    fun edge mem => endpoints.mem_neighbors edge wf₂ (by simp) mem
  simp only [endpointEdges, List.mem_cons, List.not_mem_nil, or_false, forall_eq_or_imp, forall_eq] at above
  refine validateEndpoint_eq_ok.mpr ⟨legible, some participant.id, ?_, ?_, ⟨participant.id, rfl, ?_⟩, ?_⟩
  · exact validateParticipant_eq_ok.mpr ⟨(validateParticipant_eq_ok.mp checked).1, knownp⟩
  · exact findEndpoint_of_answers wf₃ known (endpoints.answers wf₂ lacks (by simp [Key.FitsBirth, isEndpoint]))
  · exact (wf₃.parent?_eq_some_iff known (EntityKind.participant_mem_parents isEndpoint)).mpr above.1
  · rw [(wf₃.parent?_eq_some_iff known (EntityKind.topic_mem_parents isEndpoint)).mpr above.2]
    exact knownt.eq (findTopic_answers wf₃)

/-- What was created passes the checks that it passed before, and is found by them. -/
theorem Creates.validate {announcement : Announcement} (creates : Creates g d announcement r g')
    (wf : g.WellFormed) (valid : g.validate d announcement = .ok none) :
    g'.validate d announcement = .ok (some r.id) := by
  cases announcement with
  | participant info =>
    obtain ⟨legible, -⟩ := validateParticipant_eq_ok.mp valid
    exact validateParticipant_eq_ok.mpr ⟨legible, ResolvesParticipant.knownParticipant creates wf valid⟩
  | topic info =>
    have answers := Resolves.answers creates wf (findTopic_answers wf) (by simp [Key.FitsBirth])
    rw [Graph.validate] at valid ⊢
    rw [(findTopic_answers (Resolves.wellFormed creates wf)).eq answers]
    cases named : checkName .topic info.name with
    | error e =>
      rw [named] at valid
      cases valid
    | ok => rfl
  | reader info | writer info => exact CreatesEndpoint.validate creates wf rfl valid

/-! ### A graph as a notification says -/

/-- The graph is as a notification of something that is there says. -/
structure Reflects (g : Graph) (n : Notification) (id : EntityId) : Prop where
  domain : g.kind? n.domain = some .domain
  valid : g.validate n.domain n.entity = .ok (some id)
  found : ∀ address ∈ n.entity.addresses, ∃ x, g.findGlobal .locator address = some x
  bound : ∀ x, x ∈ g.neighbors id .locator ↔
    ∃ address ∈ n.entity.addresses, g.findGlobal .locator address = some x
  alive : n.status = .discovered → g.alive id = true ∧ ∀ y, g.Sustains id y → g.alive y = true

theorem Announced.validate {announced : Resolved} (announces : Announced g n existing announced g')
    (wf : g.WellFormed) (valid : g.validate n.domain n.entity = .ok existing) :
    g'.validate n.domain n.entity = .ok (some announced.id) := by
  cases existing with
  | some id =>
    obtain ⟨rfl, rfl⟩ := announces
    exact valid
  | none => exact Creates.validate announces wf valid

/-- An activation that is followed by setting locators right leaves its start active, with whatever it
supports. -/
theorem Activated.alive_rederived {touched : IdSet} {rederived : List StateChange}
    (activated : Activated g id changes g') (sets : Rederived g' touched rederived h) (wf : g.WellFormed)
    (known : g.kind? id = some kind) (other : kind ≠ .locator) :
    h.alive id = true ∧ ∀ y, h.Sustains id y → h.alive y = true := by
  have alike := activated.raised.alike
  have known' : g'.kind? id = some kind := by rw [alike.kind?, known]
  have apart : ∀ {x k}, g'.kind? x = some k → k ≠ .locator → h.alive x = g'.alive x := by
    intro x k here unlike
    refine sets.run.alive_of_marks fun mem => unlike ?_
    exact kind_unique here (sets.locators x mem)
  refine ⟨(apart known' other).trans activated.alive, fun y sustains => ?_⟩
  rw [sets.run.alike_of_marks.sustains_iff] at sustains
  have raised := activated.sustained id y (.inl rfl) (alike.sustains_iff.mp sustains)
  by_cases mem : y ∈ touched
  · -- The locator has an active endpoint, the start of the activation.
    obtain ⟨kind', here, k, supports, near⟩ := sustains_iff.mp sustains
    obtain rfl := kind_unique known' here
    have wf' := activated.raised.wellFormed wf
    obtain rfl := kind_unique (sets.locators y mem) (wf'.kind?_of_mem near)
    rw [sets.set y mem, List.any_eq_true]
    refine ⟨id, mem_children.mpr ⟨kind, ?_, wf'.mem_symm near here⟩, activated.alive⟩
    exact EntityKind.mem_derivedFrom_of_mem_sustains supports (by decide)
  · rw [sets.run.alive_of_marks mem, raised]

/-- A graph that a notification was carried out on is as the notification says. -/
theorem Presents.reflects (presents : Presents g n existing changes h) (wf : g.WellFormed)
    (domain : g.kind? n.domain = some .domain) (run : Run (Action.Discovers n.domain) g changes h)
    (valid : g.validate n.domain n.entity = .ok existing) : ∃ id, h.Reflects n id := by
  cases presents with
  | @done g₁ g₂ g₃ _ announced touched appeared rederived announces known₁ rebound appears sets =>
  have wf₁ := announces.wellFormed wf
  have wf₂ := rebound.run.wellFormed wf₁
  have wf₄ := run.wellFormed wf
  have alike : g₂.Alike h := appears.raised.alike.trans sets.run.alike_of_marks
  have adds : Adds [.locator] g₁ h := ((rebound.run.adds_of_rebinds wf₁).trans alike.adds).mono (by simp)
  have located : ∀ address, h.findGlobal .locator address = g₂.findGlobal .locator address := fun address =>
    (findLocator_answers wf₄ address).eq (alike.adds.answers (findLocator_answers wf₂ address) (by simp))
  refine ⟨announced.id, run.local_of_discovers.kind?_of_local wf domain,
    adds.validate wf₁ wf₄ (announces.validate wf valid), ?_, ?_, fun again => ?_⟩
  · simpa only [located] using rebound.found
  · simpa only [located, alike.neighbors] using rebound.bound
  · rw [Appeared, if_pos (.inr again)] at appears
    exact appears.alive_rederived sets wf₂ (rebound.run.kind?_of_rebinds wf₁ known₁) n.entity.kind_ne.1

/-! ### Carrying it out again -/

/-- Locators that are all there are found. -/
theorem resolveLocators_found {addresses : List String}
    (found : ∀ address ∈ addresses, ∃ x, g.findGlobal .locator address = some x) :
    (resolveLocators addresses).Ends g
      (fun r h => h = g ∧ r.changes = [] ∧
        ∀ x, x ∈ r.ids ↔ ∃ address ∈ addresses, g.findGlobal .locator address = some x)
      fun _ _ => False := by
  induction addresses with
  | nil => exact ⟨rfl, rfl, by simp⟩
  | cons address addresses ih =>
    simp only [List.mem_cons, forall_eq_or_imp] at found
    obtain ⟨x, here⟩ := found.1
    rw [resolveLocators, ends_bind, resolveGlobal, ends_bind, ends_get, here, ends_pure, ends_bind]
    refine (ih found.2).imp_ok ?_
    intro rest h fact
    obtain ⟨rfl, none, mem⟩ := fact
    refine ⟨rfl, by simpa using none, fun y => ?_⟩
    simp only [List.mem_cons, or_and_right, exists_or, exists_eq_left, here, Option.some.injEq, mem_insert_iff,
      mem, @eq_comm _ y]

/-- Bindings that are as a notification says are left alone. -/
theorem Reflects.refreshBindings_ends (reflects : g.Reflects n id) :
    (refreshBindings id n.entity).Ends g (fun r h => h = g ∧ r.changes = [] ∧ ∀ x, x ∉ r.ids)
      fun _ _ => False := by
  obtain ⟨-, -, found, bound, -⟩ := reflects
  have rebind : ∀ {addresses : List String},
      (∀ address ∈ addresses, ∃ x, g.findGlobal .locator address = some x) →
      (∀ x, x ∈ g.neighbors id .locator ↔ ∃ address ∈ addresses, g.findGlobal .locator address = some x) →
      (rebindLocators id addresses).Ends g (fun r h => h = g ∧ r.changes = [] ∧ ∀ x, x ∉ r.ids)
        fun _ _ => False := by
    intro addresses found bound
    rw [rebindLocators, ends_bind]
    refine (resolveLocators_found found).imp_ok ?_
    intro wanted h fact
    obtain ⟨rfl, none, mem⟩ := fact
    have stale : (h.neighbors id .locator \ wanted.ids).toList = [] :=
      List.eq_nil_iff_forall_not_mem.mpr fun x => by
        simp [Std.ExtTreeSet.mem_toList, Std.ExtTreeSet.mem_diff_iff, bound, mem]
    have fresh : (wanted.ids \ h.neighbors id .locator).toList = [] :=
      List.eq_nil_iff_forall_not_mem.mpr fun x => by
        simp [Std.ExtTreeSet.mem_toList, Std.ExtTreeSet.mem_diff_iff, bound, mem]
    rw [ends_bind, ends_get]
    dsimp only
    rw [stale, fresh]
    refine ⟨rfl, none, fun x => ?_⟩
    simp [Std.ExtTreeSet.mem_union_iff, Std.ExtTreeSet.mem_diff_iff, bound, mem]
  generalize n.entity = entity at found bound ⊢
  cases entity with
  | participant | topic => exact ⟨rfl, rfl, by simp⟩
  | reader info | writer info => exact rebind found bound

/-- Where the checks find the announced entity and its bindings are as announced, all that is left is that it
appears, if it was discovered. -/
theorem Reflects.ingest_ends (reflects : g.Reflects n id) (wf : g.WellFormed) (status : Status)
    (present : status ≠ .removed) :
    (ingest { n with status }).Ends g (Appeared g { n with status } (some id) id) fun _ _ => False := by
  have pass : g.checkDomain n.domain = .ok () := checkDomain_eq_ok.mpr reflects.domain
  obtain ⟨known, -⟩ := ((validate_checks wf).of_ok reflects.valid).2 id rfl
  simp only [ingest, ends_bind, ends_liftValidation, ends_read, pass, reflects.valid, if_neg present,
    Except.ok.injEq, reduceCtorEq, false_implies, implies_true, and_true, forall_eq', forall_const]
  rw [ingestPresent_eq, announce, ends_bind, ends_liftStorage, ends_pure, ends_bind, ends_liftStorage]
  refine reflects.refreshBindings_ends.imp ?_ fun _ _ => False.elim
  intro touched h fact
  obtain ⟨rfl, none, empty⟩ := fact
  rw [ends_bind]
  refine (appear_ends wf known n.entity.kind_ne.2).imp ?_ fun _ _ => False.elim
  intro appeared h' appears
  have nothing : touched.ids.toList = [] :=
    List.eq_nil_iff_forall_not_mem.mpr fun x => by simpa [Std.ExtTreeSet.mem_toList] using empty x
  rw [ends_bind, ends_liftStorage, rederiveLocators, nothing]
  simpa [gather, none] using appears

/-- What is active with whatever it supports has nothing to revive. -/
theorem Reflects.idle (reflects : g.Reflects n id) (appears : Appeared g n (some id) id changes h) :
    changes = [] ∧ h = g := by
  by_cases again : n.status = .discovered
  · obtain ⟨active, sustained⟩ := reflects.alive again
    refine appears.raised.flags_nil fun x revives => ?_
    rw [revives.eq_of_sustained sustained, active]
  · rw [Appeared, if_neg (by simp [again])] at appears
    exact appears

/-- A graph that is as a notification says is left alone by it. -/
theorem Reflects.ingest_eq (reflects : g.Reflects n id) (wf : g.WellFormed) (present : n.status ≠ .removed) :
    ingest n g = .ok [] g :=
  ((reflects.ingest_ends wf n.status present).imp_ok fun _ _ => reflects.idle).eq_ok

/-- What is active with whatever it keeps alive does not appear again. -/
theorem apply_appeared_alive (wf : g.WellFormed) (known : g.kind? id = some kind) (discovered : kind ≠ .domain)
    (active : g.alive id = true) (sustained : ∀ y, g.Sustains id y → g.alive y = true) :
    (apply (.appeared id)).Ends g (fun changes h => changes = [] ∧ h = g) fun _ _ => False := by
  refine (apply_appeared_ends wf known discovered).imp_ok ?_
  intro changes h activated
  refine activated.raised.flags_nil fun x revives => ?_
  rw [revives.eq_of_sustained sustained, active]

/-- What is inactive does not disappear again. -/
theorem apply_disappeared_dead (known : g.kind? id = some kind) (discovered : kind ≠ .domain)
    (dead : g.alive id = false) :
    (apply (.disappeared id)).Ends g (fun changes h => changes = [] ∧ h = g) fun _ _ => False := by
  have pass : g.expectDiscovered id = .ok () := expectDiscovered_eq_ok.mpr ⟨kind, known, discovered⟩
  obtain ⟨entity, found, -⟩ := kind?_eq_some.mp known
  simp only [apply, ends_bind, ends_liftStorage, ends_read, pass, reduceCtorEq, false_implies, implies_true,
    and_true, forall_const]
  rw [deactivate, cascadeLength, deactivateWithin]
  simp only [ends_bind, ends_read, lookup_eq_ok, lookup_eq_error, found, Option.some.injEq, forall_eq']
  refine ⟨?_, by simp⟩
  refine (flag_run (s := (· = id)) known rfl).imp ?_ fun _ _ => False.elim
  intro changes h fact
  obtain ⟨run, -, unchanged⟩ := fact
  obtain ⟨rfl, rfl⟩ := run.flags_nil fun x same => by rw [same, dead]
  exact ⟨rfl, rfl⟩

/-- A removal that was carried out leaves nothing to remove. -/
theorem Removes.ingest_eq (removes : Removes g id changes h) (wf : g.WellFormed)
    (domain : g.kind? n.domain = some .domain) (valid : g.validate n.domain n.entity = .ok (some id))
    (removed : n.status = .removed) : ingest n h = .ok [] h := by
  have alike := removes.lowered.alike
  have wf' := removes.lowered.wellFormed wf
  have pass : h.checkDomain n.domain = .ok () := checkDomain_eq_ok.mpr (by rw [alike.kind?, domain])
  have valid' := (alike.adds.mono (by simp)).validate wf wf' valid
  obtain ⟨known, -⟩ := ((validate_checks wf').of_ok valid').2 id rfl
  refine Ends.eq_ok ?_
  simp only [ingest, ends_bind, ends_liftValidation, ends_read, pass, valid', if_pos removed,
    Except.ok.injEq, reduceCtorEq, false_implies, implies_true, and_true, forall_eq', forall_const]
  exact (apply_disappeared_dead known n.entity.kind_ne.2 removes.down).imp (fun _ _ fact => fact) fun _ _ => False.elim

/-- What was accepted once changes nothing the second time. -/
theorem Ingests.repeated (ingests : Ingests g n changes h) (wf : g.WellFormed)
    (domain : g.kind? n.domain = some .domain) : ingest n h = .ok [] h := by
  cases ingests with
  | present valid present presents run =>
    obtain ⟨id, reflects⟩ := presents.reflects wf domain run valid
    exact reflects.ingest_eq (run.wellFormed wf) present
  | removal valid removed removes => exact removes.ingest_eq wf domain valid removed

end Graph
end DiscoveryGraph
