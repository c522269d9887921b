import DiscoveryGraph.Proofs.Discovery.Repetition

/-! An endpoint that goes and comes back. Its removal takes down the endpoint itself and, where nothing else
keeps them up, its topic and its locators, but never its participant; its return raises exactly those again.
So the two cancel out, whoever shares the topic and the locators. -/
namespace DiscoveryGraph

namespace EntityKind

/-- Nothing follows from topics and locators. -/
theorem nothing_follows {kind : EntityKind} (leaf : kind = topic ∨ kind = locator) :
    kind.dependents = [] ∧ kind.sustains = [] ∧ kind ≠ participant := by
  revert leaf
  cases kind <;> decide

theorem follows_of_isEndpoint {kind : EntityKind} (isEndpoint : kind.isEndpoint) :
    kind.dependents = [topic, locator] ∧ kind.sustains = [participant, topic, locator] ∧ kind ≠ participant := by
  revert isEndpoint
  cases kind <;> decide

end EntityKind

namespace Graph
open Update
variable {g h h' : Graph} {id x : EntityId} {kind : EntityKind} {n : Notification}
    {changes changes' : List StateChange}

/-- The entity is the topic of an endpoint or one of its locators. -/
def Carries (g : Graph) (id x : EntityId) : Prop := x ∈ g.neighbors id .topic ∨ x ∈ g.neighbors id .locator

theorem Carries.leaf (carries : g.Carries id x) (wf : g.WellFormed) {k : EntityKind} (known : g.kind? x = some k) :
    k = .topic ∨ k = .locator :=
  carries.imp (fun near => kind_unique known (wf.kind?_of_mem near))
    fun near => kind_unique known (wf.kind?_of_mem near)

/-- An endpoint takes along its topic and its locators at most. -/
theorem Drags.of_endpoint (drags : g.Drags id x) (wf : g.WellFormed) (known : g.kind? id = some kind)
    (isEndpoint : kind.isEndpoint) : x = id ∨ g.Carries id x := by
  induction drags with
  | self => exact .inl rfl
  | step _ passes ih =>
    obtain ⟨kind', known', k, follows, near⟩ := passes
    obtain rfl | carries := ih
    · obtain rfl := kind_unique known known'
      obtain ⟨dependents, -, other⟩ := EntityKind.follows_of_isEndpoint isEndpoint
      simp only [dependents, other, false_and, or_false, List.mem_cons, List.not_mem_nil] at follows
      obtain rfl | rfl := follows
      · exact .inr (.inl near)
      · exact .inr (.inr near)
    · obtain ⟨dependents, -, other⟩ := EntityKind.nothing_follows (carries.leaf wf known')
      simp [dependents, other] at follows

/-- An endpoint whose participant is active revives its topic and its locators at most. -/
theorem Revives.of_endpoint (revives : g.Revives id x) (wf : g.WellFormed) (known : g.kind? id = some kind)
    (isEndpoint : kind.isEndpoint) (owned : ∀ p ∈ g.neighbors id .participant, g.alive p = true) :
    x = id ∨ g.Carries id x := by
  induction revives with
  | self => exact .inl rfl
  | step _ sustains dead ih =>
    obtain ⟨kind', known', k, supports, near⟩ := sustains_iff.mp sustains
    obtain rfl | carries := ih
    · obtain rfl := kind_unique known known'
      obtain ⟨-, supported, -⟩ := EntityKind.follows_of_isEndpoint isEndpoint
      simp only [supported, List.mem_cons, List.not_mem_nil, or_false] at supports
      obtain rfl | rfl | rfl := supports
      · simp [owned _ near] at dead
      · exact .inr (.inl near)
      · exact .inr (.inr near)
    · obtain ⟨-, supported, -⟩ := EntityKind.nothing_follows (carries.leaf wf known')
      simp [supported] at supports

theorem sustains_of_endpoint (known : g.kind? id = some kind) (isEndpoint : kind.isEndpoint) {k : EntityKind}
    (mem : k ∈ [EntityKind.participant, .topic, .locator]) (near : x ∈ g.neighbors id k) : g.Sustains id x :=
  sustains_iff.mpr ⟨kind, known, k, (EntityKind.follows_of_isEndpoint isEndpoint).2.1 ▸ mem, near⟩

/-- The removal of an endpoint leaves its participant as it is. -/
theorem alive_owner_of_lowered (wf : g.WellFormed) (known : g.kind? id = some kind) (isEndpoint : kind.isEndpoint)
    (lowered : Run (Action.Flags false (g.Drags id)) g changes h) (near : x ∈ g.neighbors id .participant) :
    h.alive x = g.alive x := by
  obtain same | ⟨drags, -⟩ := lowered.alive_eq_or (x := x)
  · exact same
  · have participant := wf.kind?_of_mem near
    obtain rfl | carries := drags.of_endpoint wf known isEndpoint
    · obtain rfl := kind_unique known participant
      cases isEndpoint
    · obtain other | other := carries.leaf wf participant
      · cases other
      · cases other

/-- The return of an endpoint raises what its removal lowered, and nothing else. -/
theorem eq_of_lowered_raised (wf : g.WellFormed) (known : g.kind? id = some kind) (isEndpoint : kind.isEndpoint)
    (active : g.alive id = true) (sustained : ∀ y, g.Sustains id y → g.alive y = true)
    (lowered : Run (Action.Flags false (g.Drags id)) g changes h) (activated : Activated h id changes' h') :
    h' = g := by
  have alike := lowered.alike
  have wf' := lowered.wellFormed wf
  have known' : h.kind? id = some kind := by rw [alike.kind?, known]
  have carried : ∀ {y}, g.Carries id y → g.Sustains id y := fun carries => by
    obtain near | near := carries
    · exact sustains_of_endpoint known isEndpoint (by simp) near
    · exact sustains_of_endpoint known isEndpoint (by simp) near
  -- The participant stays up, so the return does not climb on from it.
  have owned : ∀ p ∈ h.neighbors id .participant, h.alive p = true := by
    intro p near
    rw [alike.neighbors] at near
    rw [alive_owner_of_lowered wf known isEndpoint lowered near,
      sustained p (sustains_of_endpoint known isEndpoint (by simp) near)]
  have settled : ∀ {y}, y = id ∨ g.Carries id y → h'.alive y = g.alive y := by
    intro y reached
    obtain rfl | carries := reached
    · rw [activated.alive, active]
    · rw [sustained y (carried carries), activated.sustained id y (.inl rfl) (alike.sustains_iff.mpr (carried carries))]
  refine (lowered.upToFlags.trans activated.raised.upToFlags).eq_of_alive .refl fun x => ?_
  obtain same | ⟨drags, -⟩ := lowered.alive_eq_or (x := x)
  · obtain same' | ⟨revives, -⟩ := activated.raised.alive_eq_or (x := x)
    · rw [same', same]
    · refine settled ((revives.of_endpoint wf' known' isEndpoint owned).imp_right ?_)
      rw [Carries, alike.neighbors, alike.neighbors]
      exact fun carries => carries
  · exact settled (drags.of_endpoint wf known isEndpoint)

/-! ### Going and coming back -/

/-- The removal of something that is found is carried out. -/
theorem ingest_removal_ends (wf : g.WellFormed) (domain : g.kind? n.domain = some .domain)
    (valid : g.validate n.domain n.entity = .ok (some id)) (removed : n.status = .removed) :
    (ingest n).Ends g (Removes g id) fun _ _ => False := by
  have pass : g.checkDomain n.domain = .ok () := checkDomain_eq_ok.mpr domain
  obtain ⟨known, -⟩ := ((validate_checks wf).of_ok valid).2 id rfl
  simp only [ingest, ends_bind, ends_liftValidation, ends_read, pass, valid, if_pos removed, Except.ok.injEq,
    reduceCtorEq, false_implies, implies_true, and_true, forall_eq', forall_const]
  refine (apply_disappeared_ends wf known n.entity.kind_ne.2).imp_ok ?_
  intro changes h held
  obtain ⟨run, covers, subsides, down⟩ := held
  refine ⟨run, fun k here => ?_, subsides, down⟩
  obtain rfl := kind_unique known here
  exact covers

/-- Whatever flags change, the announced entity is found and bound as before. -/
theorem Reflects.of_alike (reflects : g.Reflects n id) (wf : g.WellFormed) (wf' : h.WellFormed)
    (alike : g.Alike h) : h.Reflects { n with status := .updated } id := by
  have located : ∀ address, h.findGlobal .locator address = g.findGlobal .locator address := fun address =>
    (findLocator_answers wf' address).eq (alike.adds.answers (findLocator_answers wf address) (by simp))
  constructor
  case domain => exact alike.kind?.trans reflects.domain
  case valid => exact (alike.adds.mono (by simp)).validate wf wf' reflects.valid
  case found => simpa only [located] using reflects.found
  case bound => simpa only [located, alike.neighbors] using reflects.bound
  case alive => exact fun discovered => by cases discovered

/-- Where an endpoint has just been discovered, its removal and its return are carried out and cancel out. -/
theorem Reflects.returns (reflects : g.Reflects n id) (wf : g.WellFormed) (isEndpoint : n.entity.kind.isEndpoint)
    (discovered : n.status = .discovered) :
    ∃ lost h back, ingest { n with status := .removed } g = .ok lost h ∧ h.alive id = false ∧
      ingest n h = .ok back g := by
  obtain ⟨known, -⟩ := ((validate_checks wf).of_ok reflects.valid).2 id rfl
  obtain ⟨active, sustained⟩ := reflects.alive discovered
  obtain ⟨lost, h, removal, removes⟩ :=
    (ingest_removal_ends (n := { n with status := .removed }) wf reflects.domain reflects.valid rfl).exists_ok
  have wf' := removes.lowered.wellFormed wf
  have left := reflects.of_alike wf wf' removes.lowered.alike
  obtain ⟨back, g', return', appears⟩ := (left.ingest_ends wf' .discovered (by decide)).exists_ok
  rw [Appeared, if_pos (.inr rfl)] at appears
  obtain rfl := eq_of_lowered_raised wf known isEndpoint active sustained removes.lowered appears
  refine ⟨lost, h, back, removal, removes.down, ?_⟩
  rwa [show n = { n with status := .discovered } by rw [← discovered]]

end Graph
end DiscoveryGraph
