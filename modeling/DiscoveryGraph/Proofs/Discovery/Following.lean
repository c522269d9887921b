import DiscoveryGraph.Proofs.Discovery.Accretion
import DiscoveryGraph.Proofs.Discovery.Mention
import DiscoveryGraph.Proofs.Discovery.Rediscovery

/-! Topics and their endpoints. A topic follows its endpoints down, whatever takes the last of them, and comes
up with the first. Only a notification that discovers the topic itself raises it above inactive endpoints. A
topic without endpoints is what it was last discovered to be. -/
namespace DiscoveryGraph

namespace EntityKind

theorem isEndpoint_of_topic_mem {kind : EntityKind} (follows : topic ∈ kind.sustains ∨ topic ∈ kind.dependents) :
    kind.isEndpoint := by
  revert follows
  cases kind <;> decide

end EntityKind

/-- What a status says of the announced entity. -/
def Status.says? : Status → Option Bool
  | discovered => some true
  | updated => none
  | removed => some false

namespace Graph
open Update
variable {g g' h : Graph} {d id t x y : EntityId} {k kind : EntityKind} {n : Notification}
    {existing : Option EntityId} {changes : List StateChange}

/-- The topic has endpoints, and none of them is active. -/
def Forsaken (g : Graph) (t : EntityId) : Prop :=
  (∃ y, y ∈ g.children t .topic) ∧ ∀ y ∈ g.children t .topic, g.alive y = false

/-- Topics with endpoints are inactive once all of their endpoints are. -/
def Followed (g : Graph) : Prop := ∀ t, g.kind? t = some .topic → g.Forsaken t → g.alive t = false

/-- The notification discovers a topic whose endpoints are all inactive. -/
def Rouses (g : Graph) (n : Notification) : Prop :=
  n.status = .discovered ∧
    ∃ t, g.kind? t = some .topic ∧ g.validate n.domain n.entity = .ok (some t) ∧ g.Forsaken t

/-- What a notification says of a topic by announcing it. -/
def told (g : Graph) (n : Notification) (t : EntityId) : Option Bool :=
  match g.validate n.domain n.entity with
  | .ok (some id) => if id = t then n.status.says? else none
  | .ok none | .error _ => none

/-! ### Endpoints of a topic -/

/-- The children of a topic are the endpoints that are bound to it. -/
theorem mem_children_topic (wf : g.WellFormed) (topic : g.kind? t = some .topic) :
    y ∈ g.children t .topic ↔ ∃ k, g.kind? y = some k ∧ k.isEndpoint ∧ t ∈ g.neighbors y .topic := by
  rw [mem_children]
  constructor
  · intro child
    obtain ⟨k, derived, near⟩ := child
    exact ⟨k, wf.kind?_of_mem near, (EntityKind.mem_endpoints k).mp derived, wf.mem_symm near topic⟩
  · intro bound
    obtain ⟨k, known, isEndpoint, above⟩ := bound
    exact ⟨k, (EntityKind.mem_endpoints k).mpr isEndpoint, wf.mem_symm above known⟩

/-- Whatever keeps a topic alive is one of its endpoints. -/
theorem Sustains.mem_children_topic (sustains : g.Sustains x t) (wf : g.WellFormed) (topic : g.kind? t = some .topic) :
    x ∈ g.children t .topic := by
  obtain ⟨kind, known, k, mem, near⟩ := sustains_iff.mp sustains
  obtain rfl := kind_unique topic (wf.kind?_of_mem near)
  exact (Graph.mem_children_topic wf topic).mpr ⟨kind, known, EntityKind.isEndpoint_of_topic_mem (.inl mem), near⟩

/-- Whatever takes a topic along is one of its endpoints. -/
theorem Passes.mem_children_topic (passes : g.Passes x t) (wf : g.WellFormed) (topic : g.kind? t = some .topic) :
    x ∈ g.children t .topic := by
  obtain ⟨kind, known, k, follows, near⟩ := passes
  obtain rfl := kind_unique topic (wf.kind?_of_mem near)
  have isEndpoint : kind.isEndpoint := by
    obtain dependent | ⟨-, other⟩ := follows
    · exact EntityKind.isEndpoint_of_topic_mem (.inr dependent)
    · cases other
  exact (Graph.mem_children_topic wf topic).mpr ⟨kind, known, isEndpoint, near⟩

/-- An endpoint in reach of a domain has its topic there. -/
theorem Local.topic (near : g.Local d y) (regular : g.Regular) (topic : g.kind? t = some .topic)
    (child : y ∈ g.children t .topic) : d ∈ g.neighbors t .domain := by
  have wf := regular.wellFormed
  obtain ⟨k, known, isEndpoint, above⟩ := (mem_children_topic wf topic).mp child
  obtain owned | ⟨k', known', shared⟩ := near
  · exact (owned.near regular above).mem_domain wf topic (.inr rfl)
  · obtain rfl := kind_unique known known'
    exact absurd shared (by revert isEndpoint; cases k <;> decide)

/-- An active topic that follows its endpoints has an active one, if it has any. -/
theorem Followed.exists_active (followed : g.Followed) (topic : g.kind? t = some .topic) (active : g.alive t = true)
    (child : y ∈ g.children t .topic) : ∃ z ∈ g.children t .topic, g.alive z = true := by
  refine Classical.byContradiction fun none => ?_
  have forsaken : g.Forsaken t :=
    ⟨⟨y, child⟩, fun z mem => Bool.eq_false_iff.mpr fun alive => none ⟨z, mem, alive⟩⟩
  rw [followed t topic forsaken] at active
  cases active

/-! ### Building -/

/-- A topic that is left with inactive endpoints alone was so before: the endpoints are not new, so their topic
is not new either. -/
theorem Enlarges.forsaken (enlarges : g.Enlarges h) (rooted : g.Rooted) (wf : g.WellFormed) (wf' : h.WellFormed)
    (topic : h.kind? t = some .topic) (forsaken : h.Forsaken t) : g.kind? t = some .topic ∧ g.Forsaken t := by
  obtain ⟨⟨y, child⟩, idle⟩ := forsaken
  obtain ⟨k, known', isEndpoint, near⟩ := (mem_children_topic wf' topic).mp child
  cases known : g.kind? y with
  | none =>
    have active := enlarges.fresh known' known
    rw [idle y child] at active
    cases active
  | some kind =>
    obtain rfl := kind_unique known' (enlarges.kind? known)
    have parent := EntityKind.topic_mem_parents isEndpoint
    obtain ⟨t', above⟩ := rooted y k known .topic parent
    obtain rfl := wf'.single known' parent near (enlarges.parents known parent above)
    have old := wf.kind?_of_mem above
    refine ⟨old, ⟨y, (mem_children_topic wf old).mpr ⟨k, known, isEndpoint, above⟩⟩, fun z mem => ?_⟩
    obtain ⟨k', knownz, isEndpoint', above'⟩ := (mem_children_topic wf old).mp mem
    rw [← enlarges.alive knownz]
    exact idle z ((mem_children_topic wf' topic).mpr ⟨k', enlarges.kind? knownz, isEndpoint',
      enlarges.parents knownz (EntityKind.topic_mem_parents isEndpoint') above'⟩)

theorem Accretes.followed (accretes : g.Accretes h) (rooted : g.Rooted) (wf : g.WellFormed) (followed : g.Followed) :
    h.Followed := by
  have enlarges := accretes.enlarges wf
  intro t topic forsaken
  obtain ⟨old, forsaken⟩ := enlarges.forsaken rooted wf (accretes.wellFormed wf) topic forsaken
  rw [enlarges.alive old, followed t old forsaken]

theorem Announced.accretes {announced : Resolved} (announces : Announced g n existing announced h)
    (wf : g.WellFormed) : g.Accretes h := by
  cases existing with
  | some id => exact announces.2 ▸ .refl
  | none =>
    have creates : Creates g n.domain n.entity announced h := announces
    refine creates.composed (fun g _ h => g.Accretes h) (fun _ => .refl) Accretes.trans (fun _ _ resolves => ?_) wf
    exact ⟨_, resolves.run fun _ _ => trivial⟩

theorem Rebound.accretes {addresses : List String} {r : ResolvedLocators} (rebound : Rebound id addresses g r h) :
    g.Accretes h :=
  ⟨_, rebound.run.mono fun _ _ rebinds => rebinds.builds⟩

/-- A notification that fails has only built by then. -/
theorem ingest_fails_building (wf : g.WellFormed) : (ingest n).Ends g (fun _ _ => True) fun _ h => g.Accretes h := by
  simp only [ingest, ends_bind, ends_liftValidation, ends_read]
  refine ⟨fun _ pass => ⟨fun existing valid => ?_, fun _ _ => .refl⟩, fun _ _ => .refl⟩
  have domain := checkDomain_checks.of_ok pass
  split
  · cases existing with
    | none => exact .refl
    | some id =>
      have known := (((validate_checks wf).of_ok valid).2 id rfl).1
      exact (apply_disappeared_ends wf known n.entity.kind_ne.2).imp (fun _ _ _ => trivial) fun _ _ => False.elim
  · rw [ingestPresent_eq, ends_bind, ends_liftStorage]
    refine ((announce_ends wf domain valid).and (announce_builds g)).imp ?_ fun _ _ fails => fails.2
    intro announced g₁ held
    obtain ⟨⟨-, run₁, known₁, -⟩, built₁⟩ := held
    have wf₁ := run₁.wellFormed wf
    rw [ends_bind, ends_liftStorage]
    refine ((refreshBindings_ends wf₁ known₁).and (refreshBindings_builds g₁)).imp ?_
      fun _ _ fails => built₁.trans fails.2
    intro touched g₂ held
    obtain ⟨rebound, -⟩ := held
    have known₂ := rebound.run.kind?_of_rebinds wf₁ known₁
    exact (settle_ends (rebound.run.wellFormed wf₁) known₂ rebound.locators).imp (fun _ _ _ => trivial)
      fun _ _ => False.elim

/-- What an announcement creates is not a topic that was there. -/
theorem Announced.ne_topic {announced : Resolved} (announces : Announced g n existing announced h) (wf : g.WellFormed)
    (valid : g.validate n.domain n.entity = .ok existing) (known : h.kind? announced.id = some n.entity.kind)
    (topic : g.kind? t = some .topic) (other : existing ≠ some t) : announced.id ≠ t := by
  rintro rfl
  have same := kind_unique known ((announces.accretes wf |>.enlarges wf).kind? topic)
  cases existing with
  | some id =>
    obtain ⟨equal, -⟩ := announces
    exact other (by rw [equal])
  | none =>
    obtain ⟨d, status, entity⟩ := n
    cases entity with
    | participant | reader | writer => cases same
    | topic info =>
      have unfound : g.findTopic d info = none := findTopic_of_validate valid
      have resolves : Resolves g (g.findTopic d info) .topic info.name (.topic info.dataType)
          (fun id => [⟨⟨.domain, .topic, .domainMembership⟩, d, id⟩]) announced h := announces
      cases resolves with
      | known found =>
        rw [unfound] at found
        cases found
      | born _ enabled => exact wf.ne_fresh enabled.1 topic rfl

/-! ### Flags -/

/-- An activation raises a topic along one of its endpoints, unless it starts there. -/
theorem Revives.topic (revives : g.Revives id t) (wf : g.WellFormed) (topic : g.kind? t = some .topic) :
    t = id ∨ ∃ y ∈ g.children t .topic, g.Revives id y := by
  cases revives with
  | self => exact .inl rfl
  | step revives sustains _ => exact .inr ⟨_, sustains.mem_children_topic wf topic, revives⟩

theorem Drags.topic (drags : g.Drags id t) (wf : g.WellFormed) (topic : g.kind? t = some .topic) :
    t = id ∨ ∃ y, y ∈ g.children t .topic := by
  cases drags with
  | self => exact .inl rfl
  | step _ passes => exact .inr ⟨_, passes.mem_children_topic wf topic⟩

/-- A topic that is left with inactive endpoints alone was so before, if flags have only been raised. -/
theorem Forsaken.of_alike (forsaken : h.Forsaken t) (alike : g.Alike h)
    (raised : ∀ y, g.alive y = true → h.alive y = true) : g.Forsaken t := by
  obtain ⟨child, idle⟩ := forsaken
  rw [alike.children] at child idle
  refine ⟨child, fun y mem => Bool.eq_false_iff.mpr fun active => ?_⟩
  have dead := idle y mem
  rw [raised y active] at dead
  cases dead

theorem Activated.followed (activated : Activated g id changes h) (wf : g.WellFormed) (followed : g.Followed)
    (calm : g.kind? id = some .topic → ¬ g.Forsaken id) : h.Followed := by
  have alike := activated.raised.alike
  intro t topic forsaken
  rw [alike.kind?] at topic
  have before := forsaken.of_alike alike fun _ => activated.raised.alive_of_raised
  obtain same | ⟨revives, -⟩ := activated.raised.alive_eq_or (x := t)
  · rw [same, followed t topic before]
  · obtain rfl | ⟨y, child, revives⟩ := revives.topic wf topic
    · exact absurd before (calm topic)
    · have dead := forsaken.2 y (by rwa [alike.children])
      rw [activated.alive_of_revives revives] at dead
      cases dead

/-- Setting locators right concerns neither topics nor endpoints. -/
theorem Rederived.alive_eq {ids : IdSet} (rederived : Rederived g ids changes h) (known : g.kind? x = some k)
    (other : k ≠ .locator) : h.alive x = g.alive x :=
  rederived.run.alive_of_marks fun mem => other (kind_unique known (rederived.locators x mem))

theorem Rederived.followed {ids : IdSet} (rederived : Rederived g ids changes h) (wf : g.WellFormed)
    (followed : g.Followed) : h.Followed := by
  have alike := rederived.run.alike_of_marks
  intro t topic forsaken
  rw [alike.kind?] at topic
  obtain ⟨child, idle⟩ := forsaken
  simp only [alike.children] at child idle
  rw [rederived.alive_eq topic (by decide), followed t topic ⟨child, fun y mem => ?_⟩]
  obtain ⟨k, known, isEndpoint, -⟩ := (mem_children_topic wf topic).mp mem
  rw [← rederived.alive_eq known (by rintro rfl; cases isEndpoint), idle y mem]

/-- A cascade of deactivations looks after the topics that it takes the last active endpoint from. -/
theorem Subsides.followed (subsides : g.Subsides changes h) (followed : g.Followed) : h.Followed := by
  have alike := subsides.lowered.alike
  intro t topic forsaken
  rw [alike.kind?] at topic
  refine Bool.eq_false_iff.mpr fun active => ?_
  obtain ⟨⟨y, child⟩, idle⟩ := forsaken
  have backed : g.Backed t := by
    rw [alike.children] at child
    exact ⟨.topic, topic, followed.exists_active topic (subsides.lowered.alive_before active) child⟩
  obtain ⟨k, known, z, mem, alive⟩ := subsides.upheld t backed active
  obtain rfl := kind_unique topic (by rwa [alike.kind?] at known)
  rw [idle z mem] at alive
  cases alive

/-! ### Operations -/

/-- A notification keeps topics behind their endpoints, unless it discovers one that has inactive ones only. -/
theorem Ingests.followed (ingests : Ingests g n changes h) (regular : g.Regular) (followed : g.Followed)
    (calm : ¬ g.Rouses n) : h.Followed := by
  obtain ⟨wf, rooted, -⟩ := regular
  cases ingests with
  | removal _ _ removes => exact removes.subsides.followed followed
  | @present existing valid present presents _ =>
    obtain @⟨g₁, g₂, g₃, _, announced, touched, appeared, rederived, announces, known₁, rebound, appears, sets⟩ :=
      presents
    have accretes : g.Accretes g₂ := (announces.accretes wf).trans rebound.accretes
    have wf₁ := announces.wellFormed wf
    have wf₂ := accretes.wellFormed wf
    have followed₂ := accretes.followed rooted wf followed
    refine sets.followed (appears.raised.wellFormed wf₂) ?_
    unfold Appeared at appears
    split at appears
    · rename_i appearing
      refine appears.followed wf₂ followed₂ fun topic forsaken => ?_
      obtain ⟨topic, forsaken⟩ := (accretes.enlarges wf).forsaken rooted wf wf₂ topic forsaken
      cases existing with
      | some id =>
        obtain ⟨rfl, -⟩ := announces
        exact calm ⟨by simpa using appearing, id, topic, valid, forsaken⟩
      | none => exact absurd rfl (announces.ne_topic wf valid known₁ topic (by simp))
    · exact appears.2 ▸ followed₂

/-- A graph is as a notification says that finds a topic there. -/
theorem reflects_topic (wf : g.WellFormed) (topic : g.kind? t = some .topic)
    (valid : g.validate n.domain n.entity = .ok (some t)) : g.Reflects { n with status := .updated } t := by
  obtain ⟨known, near, -⟩ := ((validate_checks wf).of_ok valid).2 t rfl
  have domain := wf.kind?_of_mem (near.mem_domain wf topic (.inr rfl))
  have none : n.entity.addresses = [] := by
    have kind := kind_unique known topic
    cases entity : n.entity <;> simp_all [Announcement.kind, Announcement.addresses]
  refine ⟨domain, valid, by simp [none], fun x => ?_, fun discovered => by cases discovered⟩
  simpa [none] using wf.not_mem topic (by decide)

/-- A topic that is there and discovered appears. -/
theorem ingest_discovered_topic (wf : g.WellFormed) (topic : g.kind? t = some .topic)
    (valid : g.validate n.domain n.entity = .ok (some t)) (discovered : n.status = .discovered) :
    (ingest n).Ends g (Activated g t) fun _ _ => False := by
  have appears := (reflects_topic wf topic valid).ingest_ends wf .discovered (by decide)
  rw [← discovered] at appears
  refine appears.imp_ok fun _ _ appears => ?_
  rwa [Appeared, if_pos (.inr discovered)] at appears

/-- A notification of a topic that is there is carried out, and does to the topic what it says. -/
theorem ingest_topic_ends (wf : g.WellFormed) (topic : g.kind? t = some .topic)
    (valid : g.validate n.domain n.entity = .ok (some t)) :
    (ingest n).Ends g (fun _ h => h.alive t = (n.status.says?).getD (g.alive t)) fun _ _ => False := by
  have reflects := reflects_topic wf topic valid
  cases status : n.status with
  | removed =>
    exact (ingest_removal_ends (n := n) wf reflects.domain valid status).imp_ok fun _ _ removes => removes.down
  | discovered =>
    exact (ingest_discovered_topic wf topic valid status).imp_ok fun _ _ activated => activated.alive
  | updated =>
    have appears := reflects.ingest_ends wf .updated (by decide)
    rw [← status] at appears
    refine appears.imp_ok fun _ _ appears => ?_
    rw [Appeared, if_neg (by simp [status])] at appears
    rw [appears.2]
    rfl

/-- A topic that is roused ends up active above inactive endpoints. -/
theorem Rouses.ends (rouses : g.Rouses n) (wf : g.WellFormed) :
    (ingest n).Ends g (fun _ h => ¬ h.Followed) fun _ _ => False := by
  obtain ⟨discovered, t, topic, valid, forsaken⟩ := rouses
  refine (ingest_discovered_topic wf topic valid discovered).imp_ok fun changes h activated followed => ?_
  have alike := activated.raised.alike
  obtain ⟨child, idle⟩ := forsaken
  -- A topic revives nothing but itself.
  have only : ∀ x, g.Revives t x → x = t := fun x revives => revives.eq_of_sustained fun y sustains => by
    obtain ⟨kind, known, k, mem, -⟩ := sustains_iff.mp sustains
    obtain rfl := kind_unique topic known
    cases mem
  have still : h.Forsaken t := by
    refine ⟨by rwa [alike.children], fun y mem => ?_⟩
    rw [alike.children] at mem
    obtain same | ⟨revives, -⟩ := activated.raised.alive_eq_or (x := y)
    · rw [same, idle y mem]
    · obtain ⟨k, known, isEndpoint, -⟩ := (mem_children_topic wf topic).mp mem
      obtain rfl := kind_unique known (only y revives ▸ topic)
      cases isEndpoint
  have down := followed t (by rw [alike.kind?, topic]) still
  rw [activated.alive] at down
  cases down

/-- Topics follow their endpoints after a notification exactly if it does not rouse one of them. -/
theorem followed_ingest_iff (regular : g.Regular) (followed : g.Followed) :
    ((ingest n).after g).Followed ↔ ¬ g.Rouses n := by
  have wf := regular.wellFormed
  by_cases rouses : g.Rouses n
  · exact iff_of_false ((rouses.ends wf).imp (fun _ _ out => out) fun _ _ => False.elim).after fun calm => calm rouses
  · refine iff_of_true ?_ rouses
    refine (((ingest_ends wf).and (ingest_fails_building wf)).imp ?_ ?_).after
    · exact fun _ _ held => held.1.2.followed regular followed rouses
    · exact fun _ _ fails => fails.2.followed regular.rooted wf followed

/-- What a notification says of the topic that it finds. -/
theorem told_of_found (found : g.validate n.domain n.entity = .ok (some t)) : g.told n t = n.status.says? := by
  simp [told, found]

/-- A notification says nothing of a topic that it does not find. -/
theorem told_of_not_found (other : g.validate n.domain n.entity ≠ .ok (some t)) : g.told n t = none := by
  unfold told
  split
  · rename_i id valid
    rw [if_neg]
    rintro rfl
    exact other valid
  · rfl
  · rfl

/-- A notification of something else reaches a topic along its endpoints only. -/
theorem Ingests.alive_topic (ingests : Ingests g n changes h) (wf : g.WellFormed) (topic : g.kind? t = some .topic)
    (other : g.validate n.domain n.entity ≠ .ok (some t)) (idle : ∀ y, y ∉ h.children t .topic) :
    h.alive t = g.alive t := by
  cases ingests with
  | removal valid _ removes =>
    obtain same | ⟨drags, -⟩ := removes.lowered.alive_eq_or (x := t)
    · exact same
    · obtain rfl | ⟨y, child⟩ := drags.topic wf topic
      · exact absurd valid other
      · exact absurd child (removes.lowered.alike.children ▸ idle y)
  | @present existing valid _ presents _ =>
    obtain @⟨g₁, g₂, g₃, _, announced, touched, appeared, rederived, announces, known₁, rebound, appears, sets⟩ :=
      presents
    have enlarges := ((announces.accretes wf).trans rebound.accretes).enlarges wf
    have wf₂ := rebound.run.wellFormed (announces.wellFormed wf)
    have alike := appears.raised.alike
    have topic₂ := enlarges.kind? topic
    have topic₃ : g₃.kind? t = some .topic := by rw [alike.kind?, topic₂]
    rw [sets.alive_eq topic₃ (by decide), ← enlarges.alive topic]
    obtain same | ⟨revives, -⟩ := appears.raised.alive_eq_or (x := t)
    · exact same
    · obtain same | ⟨y, child, -⟩ := revives.topic wf₂ topic₂
      · refine absurd same.symm (announces.ne_topic wf valid known₁ topic ?_)
        rintro rfl
        exact other valid
      · rw [(alike.trans sets.run.alike_of_marks).children] at idle
        exact absurd child (idle y)

/-- A notification leaves the flag of a topic without endpoints as it is, but for what it says of the topic. -/
theorem alive_ingest (wf : g.WellFormed) (topic : g.kind? t = some .topic)
    (idle : ∀ y, y ∉ ((ingest n).after g).children t .topic) :
    ((ingest n).after g).alive t = (g.told n t).getD (g.alive t) := by
  revert idle
  by_cases found : g.validate n.domain n.entity = .ok (some t)
  · rw [told_of_found found]
    exact ((ingest_topic_ends wf topic found).imp (fun _ _ said _ => said) fun _ _ => False.elim).after
  · rw [told_of_not_found found, Option.getD_none]
    refine Ends.after (p := fun h => (∀ y, y ∉ h.children t .topic) → h.alive t = g.alive t) ?_
    refine ((ingest_ends wf).and (ingest_fails_building wf)).imp ?_ ?_
    · exact fun _ _ held idle => held.1.2.alive_topic wf topic found idle
    · exact fun _ _ fails _ => (fails.2.enlarges wf).alive topic

/-- The stop of a domain takes its topics down with its endpoints, and no other topic has any of these. -/
theorem followed_stopDomain (regular : g.Regular) (domain : g.kind? d = some .domain) (followed : g.Followed) :
    ((stopDomain d).after g).Followed := by
  have wf := regular.wellFormed
  refine (((stopDomain_ends wf domain).and (stopDomain_halted wf domain)).imp ?_ fun _ _ fails => fails.1.elim).after
  intro changes h held t topic forsaken
  obtain ⟨stopped, halted⟩ := held
  have alike := stopped.run.alike
  obtain ⟨⟨y, child⟩, idle⟩ := forsaken
  rw [alike.kind?] at topic
  simp only [alike.children] at child idle
  refine Bool.eq_false_iff.mpr fun active => ?_
  obtain ⟨z, mem, alive⟩ := followed.exists_active topic (stopped.run.alive_before active) child
  obtain same | ⟨stops, -⟩ := stopped.run.alive_eq_or (x := z)
  · rw [idle z mem, alive] at same
    cases same
  · have near := (stops.local regular domain).topic regular topic mem
    have halts : g.Halts d t := .inr (.inr ⟨.topic, by simp, finds_topic.mpr (wf.mem_symm near topic)⟩)
    rw [halted.gone t halts] at active
    cases active

/-- The stop of a domain takes down the topics of the domain, and no other ones. -/
theorem alive_stopDomain (regular : g.Regular) (domain : g.kind? d = some .domain)
    (topic : g.kind? t = some .topic) :
    ((stopDomain d).after g).alive t = if d ∈ g.neighbors t .domain then false else g.alive t := by
  have wf := regular.wellFormed
  refine Ends.after (p := fun h => h.alive t = if d ∈ g.neighbors t .domain then false else g.alive t) ?_
  refine ((stopDomain_ends wf domain).and (stopDomain_halted wf domain)).imp ?_ fun _ _ fails => fails.1.elim
  intro changes h held
  obtain ⟨stopped, halted⟩ := held
  split
  · rename_i near
    exact halted.gone t (.inr (.inr ⟨.topic, by simp, finds_topic.mpr (wf.mem_symm near topic)⟩))
  · rename_i far
    obtain same | ⟨stops, -⟩ := stopped.run.alive_eq_or (x := t)
    · exact same
    · exact absurd ((stops.local regular domain).mem_domain wf topic (.inr rfl)) far

/-- A clearing takes no endpoint without its topic. -/
theorem followed_clearDomain (regular : g.Regular) (domain : g.kind? d = some .domain) (followed : g.Followed) :
    ((clearDomain d).after g).Followed := by
  have wf := regular.wellFormed
  refine ((clearDomain_ends wf domain).imp ?_ fun _ _ => False.elim).after
  intro removed h held t topic forsaken
  obtain ⟨gone, clearing, -, without⟩ := held
  obtain ⟨stays, topic⟩ := without.kind?.mp topic
  obtain ⟨⟨y, child⟩, idle⟩ := forsaken
  rw [without.alive stays]
  refine Bool.eq_false_iff.mpr fun active => ?_
  obtain ⟨-, child⟩ := (without.mem_children stays).mp child
  obtain ⟨z, mem, alive⟩ := followed.exists_active topic active child
  have left : z ∉ gone := fun out => by
    have near := (clearing.local wf domain out).topic regular topic mem
    exact stays (clearing.mem_of_owned wf (.member near))
  have dead := idle z ((without.mem_children stays).mpr ⟨left, mem⟩)
  rw [without.alive left, alive] at dead
  cases dead

/-- A clearing leaves the flags of whatever stays as they are. -/
theorem alive_clearDomain (wf : g.WellFormed) (domain : g.kind? d = some .domain)
    (stays : ((clearDomain d).after g).kind? x = some k) : ((clearDomain d).after g).alive x = g.alive x := by
  revert stays
  refine Ends.after (p := fun h => h.kind? x = some k → h.alive x = g.alive x) ?_
  refine (clearDomain_ends wf domain).imp ?_ fun _ _ => False.elim
  intro removed h held stays
  obtain ⟨gone, -, -, without⟩ := held
  exact without.alive (without.kind?.mp stays).1

end Graph
end DiscoveryGraph
