import DiscoveryGraph.Proofs.Discovery.Portrait
import DiscoveryGraph.Proofs.Discovery.Survival

/-! What clearing cannot find. A clearing looks from its own domain for what no other domain has a use
for, but no domain leads to a locator that no endpoint is bound to. Such a locator comes about when a
notification takes it from the only endpoint that was bound to it, and another notification that names
it binds an endpoint to it again. Nothing else makes loose locators, and nothing else takes them up. -/
namespace DiscoveryGraph

namespace EntityKind

/-- Shared entities are physical, but for locators. -/
theorem isPhysical_of_isShared {kind : EntityKind} (shared : kind.isShared) (other : kind ≠ locator) :
    kind.isPhysical := by
  revert shared other
  cases kind <;> decide

end EntityKind

namespace Graph
variable {g g' h : Graph} {d e x y : EntityId} {k kind : EntityKind} {n : Notification}
    {existing : Option EntityId} {changes : List StateChange} {gone : IdSet}

/-- A locator that no endpoint is bound to. -/
def Loose (g : Graph) (x : EntityId) : Prop := g.kind? x = some .locator ∧ ∀ e, x ∉ g.neighbors e .locator

/-- The announcement names the locator by its address. -/
def Names (g : Graph) (announcement : Announcement) (x : EntityId) : Prop :=
  ∃ address ∈ announcement.addresses, g.HasKey x (.locator address)

/-- The notification is about something that is there, and passes its checks. What it announces is
`existing` if it is known. -/
structure Accepts (g : Graph) (n : Notification) (existing : Option EntityId) : Prop where
  domain : g.kind? n.domain = some .domain
  valid : g.validate n.domain n.entity = .ok existing
  present : n.status ≠ .removed

/-- The notification takes a locator from the only endpoint that is bound to it. -/
def Abandons (g : Graph) (n : Notification) (x : EntityId) : Prop :=
  ∃ e, g.Accepts n (some e) ∧ (∀ y, x ∈ g.neighbors y .locator ↔ y = e) ∧ ¬ g.Names n.entity x

/-- The notification binds an endpoint to the locator. -/
def Recovers (g : Graph) (n : Notification) (x : EntityId) : Prop :=
  ∃ existing, g.Accepts n existing ∧ g.Names n.entity x

/-! ### The stages of a notification -/

theorem Alike.loose_iff (alike : g.Alike h) : h.Loose x ↔ g.Loose x := by
  simp only [Loose, alike.kind?, alike.neighbors]

/-- The second graph has the locators of the first one, under their addresses and below the same
endpoints. -/
structure SameLocators (g h : Graph) : Prop where
  hasKey : ∀ {x address}, h.HasKey x (.locator address) ↔ g.HasKey x (.locator address)
  kind? : ∀ {x}, h.kind? x = some .locator ↔ g.kind? x = some .locator
  bound : ∀ {x y}, x ∈ h.neighbors y .locator ↔ x ∈ g.neighbors y .locator

namespace SameLocators

theorem refl : g.SameLocators g := ⟨Iff.rfl, Iff.rfl, Iff.rfl⟩

theorem trans (first : g.SameLocators g') (second : g'.SameLocators h) : g.SameLocators h :=
  ⟨second.hasKey.trans first.hasKey, second.kind?.trans first.kind?, second.bound.trans first.bound⟩

end SameLocators

theorem Resolves.sameLocators {found : Option EntityId} {name : String} {attributes : Attributes}
    {edges : EntityId → List Edge} {r : Resolved} (resolves : Resolves g found kind name attributes edges r h)
    (wf : g.WellFormed) (other : kind ≠ .locator) : g.SameLocators h := by
  have adds := resolves.adds wf
  have kinds : ∀ {x}, h.kind? x = some .locator ↔ g.kind? x = some .locator := fun {x} =>
    ⟨fun known => (adds.new known).resolve_right (by simpa using other.symm), adds.kind?⟩
  refine ⟨adds.hasKey_iff (by simpa using other.symm), kinds, fun {x y} => ?_⟩
  rw [mem_neighbors_locator (resolves.wellFormed wf), mem_neighbors_locator wf, kinds]
  refine and_congr_right fun locator => ?_
  cases resolves with
  | known => exact Iff.rfl
  | born _ enabled =>
    rw [below_born wf enabled]
    exact or_iff_left fun new => wf.ne_fresh enabled.1 locator new.1.symm

theorem Creates.sameLocators {announcement : Announcement} {r : Resolved}
    (creates : Creates g d announcement r h) (wf : g.WellFormed) : g.SameLocators h :=
  creates.composed (fun g _ h => g.SameLocators h) (fun _ => .refl) (fun first second => first.trans second)
    (fun wf other resolves => resolves.sameLocators wf other) wf

/-- Once an endpoint has been bound anew, the loose locators are those that nobody else was bound to and
that its addresses do not name. -/
theorem Rebound.loose_iff {addresses : List String} {r : ResolvedLocators} (rebound : Rebound e addresses g r h)
    (wf : g.WellFormed) (unique : ∀ {x y address}, g.HasKey x (.locator address) →
      g.HasKey y (.locator address) → x = y) :
    h.Loose x ↔ (g.kind? x = some .locator ∧ ∀ y, x ∈ g.neighbors y .locator → y = e) ∧
      ¬ ∃ address ∈ addresses, g.HasKey x (.locator address) := by
  have run := rebound.run
  have wf' := run.wellFormed wf
  have adds := run.adds_of_rebinds wf
  -- What is new is bound to the endpoint.
  have old : h.Loose x → g.kind? x = some .locator := by
    intro loose
    by_cases touched : x ∈ r.ids
    · exact wf.kind?_of_mem ((rebound.touched x touched).resolve_right (loose.2 e))
    · exact (rebound.untouched x loose.1 touched).1
  have mine : g.kind? x = some .locator →
      (x ∈ h.neighbors e .locator ↔ ∃ address ∈ addresses, g.HasKey x (.locator address)) := by
    intro known
    rw [rebound.bound]
    refine exists_congr fun address => and_congr_right fun _ => ⟨fun found => ?_, fun has => ?_⟩
    · exact (adds.hasKey_iff_of_known known).mp ((findLocator_answers wf' address).holds found)
    · refine run.findLocator_of_rebinds wf ((findLocator_answers wf address).eq (Answers.of_only fun y => ?_))
      refine ⟨fun has' => unique has' has, fun same => ?_⟩
      rwa [same]
  have others : ∀ y, y ≠ e → g.kind? x = some .locator →
      (x ∈ h.neighbors y .locator ↔ x ∈ g.neighbors y .locator) := by
    intro y other known
    rw [mem_neighbors_locator wf', mem_neighbors_locator wf,
      below_of_rebinds_run run wf fun same => absurd same other, adds.kind? known, known]
  constructor
  · intro loose
    have known := old loose
    refine ⟨⟨known, fun y near => ?_⟩, fun named => loose.2 e ((mine known).mpr named)⟩
    exact Decidable.byContradiction fun other => loose.2 y ((others y other known).mpr near)
  · intro held
    obtain ⟨⟨known, only⟩, unnamed⟩ := held
    refine ⟨adds.kind? known, fun y near => ?_⟩
    by_cases same : y = e
    · subst same
      exact unnamed ((mine known).mp near)
    · exact same (only y ((others y same known).mp near))

/-- Once a notification has been carried out, the loose locators are those that nobody but the announced
entity was bound to and that it does not name. -/
theorem Presents.loose_iff (presents : Presents g n existing changes g') (wf : g.WellFormed)
    (identified : g.Identified) : g'.Loose x ↔
      (g.kind? x = some .locator ∧ ∀ y, x ∈ g.neighbors y .locator → existing = some y) ∧
        ¬ g.Names n.entity x := by
  cases presents with
  | @done g₁ g₂ g₃ _ announced touched appeared rederived announces _ rebound appears sets =>
    have alike : g₂.Alike g' := appears.raised.alike.trans sets.run.alike_of_marks
    rw [alike.loose_iff]
    cases existing with
    | some id =>
      obtain ⟨rfl, rfl⟩ := announces
      rw [rebound.loose_iff wf (identified.unique _ _ _), Names]
      simp only [Option.some.injEq, eq_comm]
    | none =>
      have same := Creates.sameLocators announces wf
      have unbound : ∀ {x}, x ∉ g₁.neighbors announced.id .locator := Creates.unbound announces wf
      have unique : ∀ {x y address}, g₁.HasKey x (.locator address) → g₁.HasKey y (.locator address) → x = y :=
        fun hasx hasy => identified.unique _ _ _ (same.hasKey.mp hasx) (same.hasKey.mp hasy)
      have free : (∀ y, x ∈ g₁.neighbors y .locator → y = announced.id) ↔ ∀ y, x ∉ g₁.neighbors y .locator :=
        forall_congr' fun y => ⟨fun only near => unbound (only near ▸ near), fun none near => absurd near none⟩
      rw [rebound.loose_iff (announces.wellFormed wf) unique, free, Names]
      simp only [same.kind?, same.bound, same.hasKey, reduceCtorEq, imp_false]

/-- A notification leaves those locators loose that it takes from their only endpoint, and those that
were loose before and that it does not bind anything to. -/
theorem Ingests.loose_iff (ingests : Ingests g n changes g') (wf : g.WellFormed)
    (domain : g.kind? n.domain = some .domain) (identified : g.Identified) :
    g'.Loose x ↔ g.Abandons n x ∨ g.Loose x ∧ ¬ g.Recovers n x := by
  cases ingests with
  | @present existing valid present presents _ =>
    have accepts : ∀ other, g.Accepts n other ↔ other = existing := by
      intro other
      constructor
      · intro accepted
        exact Except.ok.inj (accepted.valid.symm.trans valid)
      · intro same
        exact ⟨domain, same ▸ valid, present⟩
    rw [presents.loose_iff wf identified, Recovers, Abandons]
    simp only [accepts, exists_eq_left]
    by_cases held : ∃ y, x ∈ g.neighbors y .locator
    · obtain ⟨y, near⟩ := held
      have known := wf.kind?_of_mem near
      have bound : ¬ g.Loose x := fun loose => loose.2 y near
      simp only [known, bound, true_and, false_and, or_false]
      constructor
      · intro fact
        obtain ⟨only, unnamed⟩ := fact
        refine ⟨y, (only y near).symm, fun z => ⟨fun near' => ?_, fun same => same ▸ near⟩, unnamed⟩
        exact Option.some.inj ((only z near').symm.trans (only y near))
      · intro fact
        obtain ⟨e, same, only, unnamed⟩ := fact
        exact ⟨fun z near' => same ▸ (only z).mp near' ▸ rfl, unnamed⟩
    · have none : ∀ y, x ∉ g.neighbors y .locator := fun y near => held ⟨y, near⟩
      simp only [Loose, none, false_implies, implies_true, and_true, not_false_eq_true]
      refine (or_iff_right ?_).symm
      intro fact
      obtain ⟨e, -, only, -⟩ := fact
      exact (only e).mpr rfl
  | removal _ removed removes =>
    have refuses : ∀ other, ¬ g.Accepts n other := fun _ accepted => accepted.present removed
    simp [removes.lowered.alike.loose_iff, Abandons, Recovers, refuses]

/-! ### Domains -/

theorem loose_born_domain {entity : Entity} (wf : g.WellFormed) (kind : entity.kind = .domain)
    (enabled : (Action.born entity []).Enabled g) : ((Action.born entity []).act g).Loose x ↔ g.Loose x := by
  refine and_congr ?_ Iff.rfl
  rw [Action.kind?_born]
  split
  · rename_i same
    rw [kind, ← same, wf.fresh enabled.1]
    simp
  · rfl

/-- A clearing neither finds a loose locator nor leaves another one. -/
theorem Cleared.loose_iff (cleared : g.Cleared d gone) (wf : g.WellFormed) (domain : g.kind? d = some .domain)
    (without : g.Without (· ∈ gone) h) : h.Loose x ↔ g.Loose x := by
  constructor
  · intro loose
    obtain ⟨stays, known⟩ := without.kind?.mp loose.1
    refine ⟨known, fun y near => ?_⟩
    have child : y ∈ g.children x .locator := (mem_children_locator wf known).mpr near
    obtain ⟨z, child, left⟩ := cleared.exists_child wf domain known rfl child stays
    have near' : x ∈ g.neighbors z .locator := (mem_children_locator wf known).mp child
    exact loose.2 z ((without.edges z .locator x).mpr ⟨left, stays, near'⟩)
  · intro loose
    obtain ⟨known, free⟩ := loose
    have unfound : ¬ g.Finds .domain .locator d x := by
      intro finds
      obtain ⟨-, -, y, -, near⟩ := (finds_shared rfl).mp finds
      exact free y near
    have stays : x ∉ gone := by
      intro mem
      obtain rfl | ⟨k, -, finds⟩ | ⟨k, -, finds, -⟩ := cleared.only x mem
      · cases kind_unique known domain
      · exact unfound (kind_unique known (finds.kind? wf domain) ▸ finds)
      · exact unfound (kind_unique known (finds.kind? wf domain) ▸ finds)
    exact ⟨without.kind?.mpr ⟨stays, known⟩, fun y near => free y ((without.edges y .locator x).mp near).2.2⟩

/-- Where there are no domains there is nothing but loose locators. -/
theorem loose_of_no_domain (regular : g.Regular) (populated : g.Populated)
    (none : ∀ d, g.kind? d ≠ some .domain) (known : g.kind? x = some k) : g.Loose x := by
  have wf := regular.wellFormed
  have locator : ∀ k x, g.kind? x = some k → k = .locator := by
    intro k
    induction k using EntityKind.derived_induction with
    | step k ih =>
      intro x known
      cases shared : k.isShared with
      | false =>
        obtain ⟨e, owned⟩ := exists_owner regular known shared fun same => none x (same ▸ known)
        exact absurd (owned.domain wf) (none e)
      | true =>
        refine Decidable.byContradiction fun other => ?_
        obtain ⟨y, child⟩ := populated x k known (EntityKind.isPhysical_of_isShared shared other)
        obtain ⟨kind, derived, near⟩ := mem_children.mp child
        exact EntityKind.ne_locator_of_mem_derivedFrom derived (ih kind derived y (wf.kind?_of_mem near))
  refine ⟨locator k x known ▸ known, fun e near => ?_⟩
  obtain ⟨kind, known', adjoins⟩ := wf.exists_of_mem near
  rw [locator kind e known'] at adjoins
  revert adjoins
  decide

theorem WellFormed.kind?_ne (wf : g.WellFormed) (none : g.ofKind k = ∅) (x : EntityId) : g.kind? x ≠ some k := by
  intro known
  have mem := wf.ofKind_iff.mpr known
  rw [none] at mem
  simp at mem

/-- A graph of which no entity is known holds nothing but the identifier that was handed out last. -/
theorem WellFormed.eq_of_unknown (wf : g.WellFormed) (unknown : ∀ x, g.kind? x = none) :
    g = { lastId := g.lastId } := by
  have absent : ∀ x, g.entity? x = none := fun x => kind?_eq_none.mp (unknown x)
  have entities : g.entities = ∅ := Std.ExtTreeMap.ext_getElem? fun x =>
    (absent x).trans Std.ExtTreeMap.getElem?_empty.symm
  have byKind : g.byKind = ∅ := Index.eq_empty fun k x mem => by
    cases (unknown x).symm.trans (wf.ofKind_iff.mp mem)
  have byName : g.byName = ∅ := Index.eq_empty fun key x mem => by
    obtain ⟨entity, found, -⟩ := wf.named_iff.mp mem
    cases (absent x).symm.trans found
  have byGuid : g.byGuid = ∅ := Index.eq_empty fun guid x mem => by
    obtain ⟨entity, found, -⟩ := wf.withGuid_iff.mp mem
    cases (absent x).symm.trans found
  have relations : g.relations = ∅ := Index.eq_empty fun key x mem => by
    cases (unknown x).symm.trans (wf.kind?_of_mem mem)
  obtain ⟨_, _, _, _, _, _⟩ := g
  subst entities byKind byName byGuid relations
  rfl

end Graph
end DiscoveryGraph
