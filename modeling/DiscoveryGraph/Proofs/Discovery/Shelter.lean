import DiscoveryGraph.Proofs.Discovery.Exposure

/-! Shelter through the stages of a notification. Locators neither shelter anything nor lie in
anything; an activation covers whatever lies exposed at its start and passes by what is stranded;
removals, stops and clearings expose nothing. -/
namespace DiscoveryGraph
namespace Graph
variable {g g' h : Graph} {d id x y : EntityId} {k kind : EntityKind} {changes : List StateChange}
    {s : EntityId → Prop}

theorem Inside.ne_locator (inside : g.Inside x y) (wf : g.WellFormed) :
    g.kind? x ≠ some .locator ∧ g.kind? y ≠ some .locator := by
  obtain ⟨kind, k, known, container, near⟩ := inside
  obtain ⟨below, above⟩ := EntityKind.ne_locator_of_container container
  rw [known, wf.kind?_of_mem near]
  simpa using ⟨below, above⟩

/-! ### Locators -/

/-- Setting locators right exposes nothing and covers nothing. -/
theorem exposed_of_marks (run : Run (Action.Marks s) g changes g') (wf : g.WellFormed)
    (locators : ∀ x, s x → g.kind? x = some .locator) : g'.Exposed x y ↔ g.Exposed x y := by
  have flags : g.Inside x y → g'.alive x = g.alive x ∧ g'.alive y = g.alive y := by
    intro inside
    obtain ⟨below, above⟩ := inside.ne_locator wf
    exact ⟨run.alive_of_marks fun mine => below (locators x mine),
      run.alive_of_marks fun mine => above (locators y mine)⟩
  rw [Exposed, Exposed, run.alike_of_marks.inside_iff]
  refine and_congr_right fun inside => ?_
  rw [(flags inside).1, (flags inside).2]

theorem exposed_of_entity? (entity : ∀ x, g'.entity? x = g.entity? x)
    (neighbors : ∀ x kind k, g.kind? x = some kind → kind.container = some k →
      g'.neighbors x k = g.neighbors x k) :
    g'.Exposed x y ↔ g.Exposed x y := by
  have inside : g'.Inside x y ↔ g.Inside x y := by
    simp only [Inside, kind?, entity]
    refine exists_congr fun kind => exists_congr fun k => and_congr_right fun known =>
      and_congr_right fun container => ?_
    rw [neighbors x kind k known container]
  rw [Exposed, Exposed, inside, alive, alive, entity, entity, alive, alive]

theorem exposed_of_rebinds {a : Action} (rebinds : a.Rebinds id g) (wf : g.WellFormed) (enabled : a.Enabled g) :
    (a.act g).Exposed x y ↔ g.Exposed x y := by
  have neighbors : ∀ x kind k, g.kind? x = some kind → kind.container = some k →
      (a.act g).neighbors x k = g.neighbors x k := by
    intro x kind k known container
    obtain ⟨below, above⟩ := EntityKind.ne_locator_of_container container
    exact rebinds.neighbors enabled known below above
  cases a with
  | born entity edges =>
    obtain ⟨-, rfl, -⟩ := rebinds
    rw [exposed_born wf enabled]
    simp
  | linked edge => exact exposed_of_entity? (fun x => entity?_link) neighbors
  | unlinked edge => exact exposed_of_entity? (fun x => entity?_unlink) neighbors
  | flagged | forgotten => exact rebinds.elim

theorem exposed_of_rebinds_run (run : Run (Action.Rebinds id) g changes g') (wf : g.WellFormed) :
    g'.Exposed x y ↔ g.Exposed x y := by
  refine run.invariant (fun h => h.Exposed x y ↔ g.Exposed x y) wf Iff.rfl ?_
  intro h a wf enabled rebinds held
  rw [exposed_of_rebinds rebinds wf enabled, held]

theorem alive_of_rebinds_run (run : Run (Action.Rebinds id) g changes g') (wf : g.WellFormed)
    (known : g.kind? x = some k) :
    g'.alive x = g.alive x := by
  refine (run.invariant (fun h => h.kind? x = some k ∧ h.alive x = g.alive x) wf ⟨known, rfl⟩ ?_).2
  intro h a wf enabled rebinds held
  obtain ⟨there, same⟩ := held
  refine ⟨Action.kind?_act wf enabled rebinds.not_forgotten there, ?_⟩
  cases a with
  | born => rw [alive_born there wf enabled, same]
  | linked | unlinked => exact same
  | flagged | forgotten => exact rebinds.elim

/-! ### Activation -/

theorem Inside.sustains (inside : g.Inside x y) : g.Sustains x y := by
  obtain ⟨kind, k, known, container, near⟩ := inside
  exact sustains_iff.mpr ⟨kind, known, k, EntityKind.mem_sustains_of_container container, near⟩

/-- An activation covers its start and whatever it raises: what lies exposed afterwards did so before,
and is not the start. -/
theorem Activated.exposed_before (activated : Activated g id changes h) (exposed : h.Exposed x y) :
    g.Exposed x y ∧ x ≠ id := by
  obtain ⟨inside, active, dead⟩ := exposed
  rw [activated.raised.alike.inside_iff] at inside
  have uncovered : ¬ (x = id ∨ g.alive x = false ∧ h.alive x = true) := by
    intro reached
    rw [activated.sustained x y reached inside.sustains] at dead
    cases dead
  rw [not_or] at uncovered
  refine ⟨⟨inside, ?_, ?_⟩, uncovered.1⟩
  · cases before : g.alive x with
    | false => exact absurd ⟨before, active⟩ uncovered.2
    | true => rfl
  · cases above : g.alive y with
    | false => rfl
    | true =>
      rw [activated.raised.alive_of_raised above] at dead
      cases dead

theorem Activated.sheltered (activated : Activated g id changes h)
    (only : ∀ x y, g.Exposed x y → x = id) : h.Sheltered := by
  rw [sheltered_iff]
  intro x y exposed
  obtain ⟨before, other⟩ := activated.exposed_before exposed
  exact other (only x y before)

/-- An activation that starts in shelter does not leave it but for topics and locators. -/
theorem Revives.eq_or_barren (revives : g.Revives id x) (wf : g.WellFormed) (alive : g.alive id = true)
    (sheltered : ∀ y, ¬ g.Exposed id y) : x = id ∨ g.kind? x = some .topic ∨ g.kind? x = some .locator := by
  induction revives with
  | self => exact .inl rfl
  | @step x y _ sustains dead ih =>
    obtain ⟨kind, known, k, mem, near⟩ := sustains_iff.mp sustains
    have here := wf.kind?_of_mem near
    obtain rfl | barren := ih
    · obtain container | rfl | rfl := EntityKind.container_of_mem_sustains mem
      · exact absurd ⟨⟨kind, k, known, container, near⟩, alive, dead⟩ (sheltered y)
      · exact .inr (.inl here)
      · exact .inr (.inr here)
    · rw [known, Option.some_inj, Option.some_inj] at barren
      obtain rfl | rfl := barren <;> cases mem

/-- What is exposed elsewhere stays exposed. -/
theorem Activated.exposed (activated : Activated g id changes h) (wf : g.WellFormed) (alive : g.alive id = true)
    (sheltered : ∀ y, ¬ g.Exposed id y) (exposed : g.Exposed x y) : h.Exposed x y := by
  obtain ⟨inside, active, dead⟩ := exposed
  refine ⟨by rwa [activated.raised.alike.inside_iff], activated.raised.alive_of_raised active, ?_⟩
  obtain same | ⟨revives, -⟩ := activated.raised.alive_eq_or (x := y)
  · rw [same, dead]
  · obtain rfl | topic | locator := revives.eq_or_barren wf alive sheltered
    · rw [dead] at alive
      cases alive
    · obtain ⟨kind, k, -, container, near⟩ := inside
      rw [wf.kind?_of_mem near, Option.some_inj] at topic
      subst topic
      cases kind <;> cases container
    · exact absurd locator (inside.ne_locator wf).2

/-! ### Notifications -/

/-- An announcement of something that is there keeps the shelter, unless it creates something stranded. -/
theorem Presents.sheltered_iff {n : Notification} {existing : Option EntityId}
    (presents : Presents g n existing changes g') (wf : g.WellFormed) (sheltered : g.Sheltered) :
    g'.Sheltered ↔ ¬ (existing = none ∧ g.Stranded n.entity) := by
  cases presents with
  | @done g₁ g₂ g₃ g₄ announced touched appeared rederived announces _ rebound appears sets =>
    have rebinds := rebound.run
    have marked : ∀ {x y}, g₃.WellFormed → (g'.Exposed x y ↔ g₃.Exposed x y) := fun wf₃ =>
      exposed_of_marks sets.run wf₃ sets.locators
    cases existing with
    | some id =>
      obtain ⟨rfl, rfl⟩ := announces
      have none₂ : ∀ x y, ¬ g₂.Exposed x y := fun x y => by
        rw [exposed_of_rebinds_run rebinds wf]
        exact Graph.sheltered_iff.mp sheltered x y
      have wf₂ := rebinds.wellFormed wf
      have wf₃ := appears.raised.wellFormed wf₂
      refine iff_of_true (Graph.sheltered_iff.mpr fun x y => ?_) (by simp)
      rw [marked wf₃]
      unfold Appeared at appears
      split at appears
      · exact Graph.sheltered_iff.mp (appears.sheltered fun x y exposed => absurd exposed (none₂ x y)) x y
      · obtain ⟨-, rfl⟩ := appears
        exact none₂ x y
    | none =>
      have creates : Creates g n.domain n.entity announced g₁ := announces
      have activated : Activated g₂ announced.id appeared g₃ := by simpa [Appeared] using appears
      have wf₁ := creates.wellFormed wf
      have wf₂ := rebinds.wellFormed wf₁
      have wf₃ := activated.raised.wellFormed wf₂
      obtain ⟨safe, only⟩ | ⟨stranded, alive, ⟨x, y, exposed⟩, covered⟩ := creates.exposure wf sheltered
      · refine iff_of_true (Graph.sheltered_iff.mpr fun x y => ?_) fun both => safe both.2
        rw [marked wf₃]
        refine Graph.sheltered_iff.mp (activated.sheltered fun x y exposed => ?_) x y
        exact only x y ((exposed_of_rebinds_run rebinds wf₁).mp exposed)
      · refine iff_of_false (fun kept => Graph.sheltered_iff.mp kept x y ?_) fun safe => safe ⟨rfl, stranded⟩
        obtain ⟨k, known⟩ := exists_of_alive alive
        rw [marked wf₃]
        refine activated.exposed wf₂ ?_ (fun z => ?_) ((exposed_of_rebinds_run rebinds wf₁).mpr exposed)
        · rw [alive_of_rebinds_run rebinds wf₁ known, alive]
        · rw [exposed_of_rebinds_run rebinds wf₁]
          exact covered z

/-- A removal exposes nothing. -/
theorem Removes.exposed_before {announcement : Announcement} (removes : Removes g id changes g') (wf : g.WellFormed)
    (known : g.kind? id = some announcement.kind) (exposed : g'.Exposed x y) : g.Exposed x y := by
  refine removes.covered announcement.kind known (fun z inside _ => ?_) x y exposed
  cases announcement with
  | participant => rfl
  | topic | reader | writer =>
    refine absurd inside (not_inside wf known fun kind => ?_)
    cases kind <;> simp [EntityKind.container, Announcement.kind]

theorem Removes.sheltered {announcement : Announcement} (removes : Removes g id changes g') (wf : g.WellFormed)
    (known : g.kind? id = some announcement.kind) (sheltered : g.Sheltered) : g'.Sheltered := by
  rw [sheltered_iff] at sheltered ⊢
  exact fun x y exposed => sheltered x y (removes.exposed_before wf known exposed)

/-- The notification creates something stranded. -/
def Strands (g : Graph) (n : Notification) : Prop :=
  g.kind? n.domain = some .domain ∧ g.validate n.domain n.entity = .ok none ∧ n.status ≠ .removed ∧
    g.Stranded n.entity

/-- A notification keeps the shelter exactly if it strands nothing. -/
theorem Ingests.sheltered_iff {n : Notification} (ingests : Ingests g n changes g') (wf : g.WellFormed)
    (domain : g.kind? n.domain = some .domain) (sheltered : g.Sheltered) : g'.Sheltered ↔ ¬ g.Strands n := by
  cases ingests with
  | @present existing valid present presents _ =>
    rw [presents.sheltered_iff wf sheltered, Strands, valid]
    simp [domain, present]
  | @removal id valid removed removes =>
    refine iff_of_true (removes.sheltered wf (((validate_checks wf).of_ok valid).2 id rfl).1 sheltered) ?_
    exact fun strands => strands.2.2.1 removed

theorem Without.exposed_before (without : g.Without s h) (exposed : h.Exposed x y) : g.Exposed x y := by
  obtain ⟨⟨kind, k, known, container, near⟩, active, dead⟩ := exposed
  obtain ⟨herex, herey, near⟩ := (without.edges x k y).mp near
  rw [without.alive herex] at active
  rw [without.alive herey] at dead
  exact ⟨⟨kind, k, (without.kind?.mp known).2, container, near⟩, active, dead⟩

theorem Without.sheltered (without : g.Without s h) (sheltered : g.Sheltered) : h.Sheltered := by
  rw [Graph.sheltered_iff] at sheltered ⊢
  exact fun x y exposed => sheltered x y (without.exposed_before exposed)

end Graph
end DiscoveryGraph
