import DiscoveryGraph.Proofs.Discovery.Validation
import DiscoveryGraph.Proofs.Lifecycle.Clearing

/-! How far changes reach. Activation climbs from an entity of a domain to what the domain owns or
nobody owns, and so do deactivation, the stop of a domain and its clearing wherever the topic of
every endpoint lies in the domain of its participant. -/
namespace DiscoveryGraph

namespace EntityKind

theorem isShared_of_mem_parents {kind k : EntityKind} (shared : kind.isShared)
    (parent : k ∈ kind.parents) : k.isShared := by
  revert shared parent
  cases kind <;> cases k <;> decide

theorem mem_derivedFrom_of_mem_parents {kind k : EntityKind} (shared : k.isShared) (parent : k ∈ kind.parents) :
    kind ∈ k.derivedFrom := by
  revert shared parent
  cases kind <;> cases k <;> decide

theorem mem_derivedFrom_of_adjoins {kind k : EntityKind} (shared : k.isShared)
    (unshared : kind.isShared = false) (adjoins : kind.Adjoins k) : kind ∈ k.derivedFrom := by
  revert shared unshared adjoins
  cases kind <;> cases k <;> decide

end EntityKind

namespace Graph
variable {g h : Graph} {d e x y : EntityId} {k kind : EntityKind}

theorem Alike.owned (alike : g.Alike h) (owned : g.Owned d x) : h.Owned d x := by
  cases owned with
  | self known => exact .self (by rwa [alike.kind?])
  | member near => exact .member (by rwa [alike.neighbors])
  | endpoint known isEndpoint near domain =>
    exact .endpoint (by rwa [alike.kind?]) isEndpoint (by rwa [alike.neighbors]) (by rwa [alike.neighbors])

theorem Alike.local (alike : g.Alike h) (near : g.Local d x) : h.Local d x := by
  obtain owned | ⟨k, known, shared⟩ := near
  · exact .inl (alike.owned owned)
  · exact .inr ⟨k, by rwa [alike.kind?], shared⟩

/-- An entity that nobody owns, seen from its kind. -/
theorem seated_of_shared (wf : g.WellFormed) (known : g.kind? x = some k) (shared : k.isShared) :
    g.Seated d x := by
  refine ⟨.inr ⟨k, known, shared⟩, fun t topic => absurd topic (wf.not_mem known ?_)⟩
  revert shared
  cases k <;> decide

theorem seated_of_mem_domain (wf : g.WellFormed) (near : d ∈ g.neighbors x .domain) : g.Seated d x := by
  refine ⟨.inl (.member near), fun t topic => ?_⟩
  obtain ⟨kind, known, adjoins⟩ := wf.exists_of_mem near
  refine absurd topic (wf.not_mem known ?_)
  obtain rfl | rfl := EntityKind.of_adjoins_domain adjoins <;> decide

/-- An endpoint within reach is owned through its participant. -/
theorem Local.participant (wf : g.WellFormed) (near : g.Local d x) (known : g.kind? x = some k)
    (isEndpoint : k.isEndpoint) : ∃ p ∈ g.neighbors x .participant, d ∈ g.neighbors p .domain := by
  obtain owned | ⟨k', known', shared⟩ := near
  · exact owned.participant wf known isEndpoint
  · obtain rfl := kind_unique known known'
    revert isEndpoint shared
    cases k <;> simp [EntityKind.isEndpoint, EntityKind.isShared]

/-! ### Activation -/

theorem Seated.of_sustains (wf : g.WellFormed) (seated : g.Seated d x) (sustains : g.Sustains x y) :
    g.Seated d y := by
  obtain ⟨kind, known, k, mem, near⟩ := sustains_iff.mp sustains
  have here := wf.kind?_of_mem near
  have cases : k.isShared ∨ kind.isEndpoint ∧ (k = .participant ∨ k = .topic) := by
    revert mem
    cases kind <;> cases k <;> decide
  obtain shared | ⟨isEndpoint, rfl | rfl⟩ := cases
  · exact seated_of_shared wf here shared
  · obtain ⟨p, above, domain⟩ := seated.1.participant wf known isEndpoint
    have single := wf.single known (EntityKind.participant_mem_parents isEndpoint) near above
    exact seated_of_mem_domain wf (by rwa [single])
  · exact seated_of_mem_domain wf (seated.2 y near)

theorem Revives.seated (wf : g.WellFormed) (seated : g.Seated d e) (revives : g.Revives e x) :
    g.Seated d x := by
  induction revives with
  | self => exact seated
  | step _ sustains _ ih => exact ih.of_sustains wf sustains

/-! ### Deactivation -/

theorem Local.of_passes (regular : g.Regular) (near : g.Local d x) (passes : g.Passes x y) : g.Local d y := by
  obtain ⟨wf, -, square⟩ := regular
  obtain ⟨kind, known, k, follows, next⟩ := passes
  have here := wf.kind?_of_mem next
  have cases : k.isShared ∨ (kind.isEndpoint ∧ k = .topic) ∨ kind = .participant ∧ k.isEndpoint := by
    revert follows
    cases kind <;> cases k <;> decide
  obtain shared | ⟨isEndpoint, rfl⟩ | ⟨rfl, isEndpoint⟩ := cases
  · exact .inr ⟨k, here, shared⟩
  · obtain ⟨p, above, domain⟩ := near.participant wf known isEndpoint
    exact .inl (.member (square x kind p y d known isEndpoint above next domain))
  · exact .inl (.endpoint here isEndpoint (wf.mem_symm next known) (near.mem_domain wf known (.inl rfl)))

theorem Drags.local (regular : g.Regular) (near : g.Local d e) (drags : g.Drags e x) : g.Local d x := by
  induction drags with
  | self => exact near
  | step _ passes ih => exact ih.of_passes regular passes

/-- What a domain finds of these kinds it owns. -/
theorem owned_of_finds (wf : g.WellFormed) (known : g.kind? d = some .domain)
    (listed : k ∈ [EntityKind.participant, .topic, .dataWriter, .dataReader]) (finds : g.Finds .domain k d x) :
    g.Owned d x := by
  have here := finds.kind? wf known
  have kinds : k = .participant ∨ k = .topic ∨ k.isEndpoint := by
    revert listed
    cases k <;> decide
  obtain rfl | rfl | isEndpoint := kinds
  · exact .member (wf.mem_symm (finds_participant.mp finds) known)
  · exact .member (wf.mem_symm (finds_topic.mp finds) known)
  · obtain ⟨p, member, near⟩ := (finds_endpoint isEndpoint).mp finds
    have participant := wf.kind?_of_mem member
    exact .endpoint here isEndpoint (wf.mem_symm near participant) (wf.mem_symm member known)

theorem Owned.domain (owned : g.Owned d x) (wf : g.WellFormed) : g.kind? d = some .domain := by
  cases owned with
  | self known => exact known
  | member near => exact wf.kind?_of_mem near
  | endpoint _ _ _ near => exact wf.kind?_of_mem near

/-- A domain finds what it owns. -/
theorem Owned.finds (owned : g.Owned d x) (wf : g.WellFormed) (known : g.kind? x = some k)
    (other : k ≠ .domain) : g.Finds .domain k d x := by
  cases owned with
  | self domain => exact absurd (kind_unique known domain) other
  | member near =>
    obtain ⟨kind, known', adjoins⟩ := wf.exists_of_mem near
    obtain rfl := kind_unique known known'
    have back := wf.mem_symm near known
    obtain rfl | rfl := EntityKind.of_adjoins_domain adjoins
    · exact finds_participant.mpr back
    · exact finds_topic.mpr back
  | @endpoint x p k' known' isEndpoint near member =>
    obtain rfl := kind_unique known known'
    exact (finds_endpoint isEndpoint).mpr
      ⟨p, wf.mem_symm member (wf.kind?_of_mem near), wf.mem_symm near known⟩

theorem Stops.local (regular : g.Regular) (known : g.kind? d = some .domain) (stops : g.Stops d x) :
    g.Local d x := by
  have wf := regular.wellFormed
  obtain rfl | ⟨k, listed, finds⟩ | ⟨p, member, drags⟩ := stops
  · exact .inl (.self known)
  · have kinds : k = .locator ∨ k ∈ [EntityKind.participant, .topic, .dataWriter, .dataReader] := by
      revert listed
      cases k <;> decide
    obtain rfl | listed := kinds
    · exact .inr ⟨_, finds.kind? wf known, rfl⟩
    · exact .inl (owned_of_finds wf known listed finds)
  · exact drags.local regular (.inl (.member (wf.mem_symm member known)))

/-! ### Clearing -/

/-- The edges of what a domain owns end at what it owns or nobody owns. -/
theorem Owned.near (regular : g.Regular) (owned : g.Owned d x) (next : y ∈ g.neighbors x k) : g.Local d y := by
  obtain ⟨wf, rooted, square⟩ := regular
  obtain ⟨kind, known, adjoins⟩ := wf.exists_of_mem next
  have here := wf.kind?_of_mem next
  have back := wf.mem_symm next known
  obtain ⟨kind', known', -, isEndpoint | ⟨rfl, rfl⟩ | ⟨kinds, domain⟩⟩ := owned.kind? wf <;>
    rw [known, Option.some_inj] at known' <;> subst known'
  · obtain ⟨p, above, domain⟩ := owned.participant wf known isEndpoint
    have cases : k = .participant ∨ k = .topic ∨ k = .locator := by
      revert isEndpoint adjoins
      cases kind <;> cases k <;> decide
    obtain rfl | rfl | rfl := cases
    · have same := wf.single known (EntityKind.participant_mem_parents isEndpoint) next above
      exact .inl (.member (by rwa [same]))
    · exact .inl (.member (square x kind p y d known isEndpoint above next domain))
    · exact .inr ⟨_, here, rfl⟩
  · exact .inl (.member back)
  · have cases : k = .process ∨ k = .domain ∨ k.isEndpoint := by
      revert adjoins
      obtain rfl | rfl := kinds <;> cases k <;> decide
    obtain rfl | rfl | isEndpoint := cases
    · exact .inr ⟨_, here, rfl⟩
    · have same := wf.single known (by obtain rfl | rfl := kinds <;> decide) next domain
      exact .inl (same ▸ .self here)
    · obtain rfl | rfl := kinds
      · exact .inl (.endpoint here isEndpoint back domain)
      · obtain ⟨p, above⟩ := rooted y k here .participant (EntityKind.participant_mem_parents isEndpoint)
        obtain ⟨e, member⟩ := rooted p .participant (wf.kind?_of_mem above) .domain (by decide)
        have same := wf.single known (by decide) (square y k p x e here isEndpoint above back member) domain
        exact .inl (.endpoint here isEndpoint above (same ▸ member))

section Clearing
variable {gone : IdSet}

/-- What is cleared is owned by the domain, or shared and without other children. -/
theorem Clearing.owned_or_orphan (clearing : g.Clearing d gone) (wf : g.WellFormed)
    (domain : g.kind? d = some .domain) (mem : x ∈ gone) :
    g.Owned d x ∨ ∃ k, g.kind? x = some k ∧ k.isShared ∧ ∀ y ∈ g.children x k, y ∈ gone := by
  obtain rfl | ⟨k, listed, finds⟩ | ⟨k, listed, finds, all⟩ := clearing.only x mem
  · exact .inl (.self domain)
  · exact .inl (owned_of_finds wf domain listed finds)
  · refine .inr ⟨k, finds.kind? wf domain, ?_, all⟩
    revert listed
    cases k <;> decide

theorem Clearing.local (clearing : g.Clearing d gone) (wf : g.WellFormed) (domain : g.kind? d = some .domain)
    (mem : x ∈ gone) : g.Local d x := by
  obtain owned | ⟨k, here, shared, -⟩ := clearing.owned_or_orphan wf domain mem
  · exact .inl owned
  · exact .inr ⟨k, here, shared⟩

/-- Everything the domain owns is cleared. -/
theorem Clearing.mem_of_owned (clearing : g.Clearing d gone) (wf : g.WellFormed)
    (owned : g.Owned d x) : x ∈ gone := by
  obtain ⟨k, known, -, cases⟩ := owned.kind? wf
  have kinds : k = .domain ∧ x = d ∨ k ∈ [EntityKind.participant, .topic, .dataWriter, .dataReader] := by
    obtain isEndpoint | same | ⟨rfl | rfl, -⟩ := cases
    · right
      revert isEndpoint
      cases k <;> decide
    · exact .inl same
    · exact .inr (by decide)
    · exact .inr (by decide)
  obtain ⟨-, rfl⟩ | listed := kinds
  · exact clearing.domain
  · refine clearing.owned k listed x (owned.finds wf known ?_)
    rintro rfl
    revert listed
    decide

/-- Whatever has a cleared parent is cleared as well. -/
theorem Clearing.mem_of_parent (clearing : g.Clearing d gone) (regular : g.Regular)
    (domain : g.kind? d = some .domain)
    (known : g.kind? x = some kind) (parent : k ∈ kind.parents) (near : y ∈ g.neighbors x k)
    (mem : y ∈ gone) : x ∈ gone := by
  have wf := regular.wellFormed
  have here := wf.kind?_of_mem near
  obtain owned | ⟨k', here', shared, all⟩ := clearing.owned_or_orphan wf domain mem
  · obtain owned' | ⟨kind', known', shared⟩ := owned.near regular (wf.mem_symm near known)
    · exact clearing.mem_of_owned wf owned'
    · obtain ⟨k', here', unshared, -⟩ := owned.kind? wf
      rw [known, Option.some_inj] at known'
      rw [here, Option.some_inj] at here'
      subst known' here'
      rw [EntityKind.isShared_of_mem_parents shared parent] at unshared
      cases unshared
  · obtain rfl := kind_unique here here'
    exact all x (mem_children.mpr ⟨kind, EntityKind.mem_derivedFrom_of_mem_parents shared parent,
      wf.mem_symm near known⟩)

/-- The graph that is left has all parents and its endpoints in one domain each. -/
theorem Clearing.regular (clearing : g.Clearing d gone) (regular : g.Regular)
    (domain : g.kind? d = some .domain)
    (wf' : h.WellFormed) (without : g.Without (· ∈ gone) h) : h.Regular := by
  refine ⟨wf', ?_, ?_⟩
  · intro x kind known k parent
    obtain ⟨stays, known⟩ := without.kind?.mp known
    obtain ⟨y, near⟩ := regular.rooted x kind known k parent
    refine ⟨y, (without.edges x k y).mpr ⟨stays, ?_, near⟩⟩
    exact fun mem => stays (clearing.mem_of_parent regular domain known parent near mem)
  · intro x k p t e known isEndpoint nearp neart member
    obtain ⟨-, -, nearp⟩ := (without.edges x _ p).mp nearp
    obtain ⟨-, stayst, neart⟩ := (without.edges x _ t).mp neart
    obtain ⟨-, stayse, member⟩ := (without.edges p _ e).mp member
    exact (without.edges t _ e).mpr ⟨stayst, stayse,
      regular.square x k p t e (without.kind?.mp known).2 isEndpoint nearp neart member⟩

/-- What another domain owns stays, and so does everything it shares an edge with. -/
theorem Clearing.not_mem (clearing : g.Clearing d gone) (regular : g.Regular)
    (domain : g.kind? d = some .domain)
    (owned : g.Owned e x) (other : e ≠ d) : x ∉ gone ∧ ∀ k, ∀ y ∈ g.neighbors x k, y ∉ gone := by
  have wf := regular.wellFormed
  have distant := owned.not_local wf other
  have stays : x ∉ gone := fun mem => distant (clearing.local wf domain mem)
  refine ⟨stays, fun k y near mem => ?_⟩
  obtain ⟨kind, known, adjoins⟩ := wf.exists_of_mem near
  obtain owned' | ⟨k', here, shared, all⟩ := clearing.owned_or_orphan wf domain mem
  · exact distant (owned'.near regular (wf.mem_symm near known))
  · rw [wf.kind?_of_mem near, Option.some_inj] at here
    subst here
    obtain ⟨kind', known', unshared, -⟩ := owned.kind? wf
    obtain rfl := kind_unique known known'
    have derived := EntityKind.mem_derivedFrom_of_adjoins shared unshared adjoins
    exact stays (all x (mem_children.mpr ⟨kind, derived, wf.mem_symm near known⟩))

end Clearing

end Graph

namespace Run
variable {g g' : Graph} {d : EntityId} {s : EntityId → Prop} {changes : List StateChange}

/-- What holds of each flag as it is set may be told from the graph at the start. -/
theorem imp_of_marks {q : Graph → Action → Prop} (run : Run (Action.Marks s) g changes g') (wf : g.WellFormed)
    (each : ∀ h id kind active, g.Alike h → s id → h.kind? id = some kind → q h (.flagged id kind active)) :
    Run q g changes g' := by
  refine run.imp_of_invariant g.Alike wf .refl ?_ ?_
  · rintro h _ - - ⟨id, kind, active, rfl, -⟩ alike
    exact alike.trans .reflag
  · rintro h _ - enabled ⟨id, kind, active, rfl, mine⟩ alike
    exact each h id kind active alike mine enabled.1

/-- Setting flags within reach is local. -/
theorem local_of_marks (run : Run (Action.Marks s) g changes g') (wf : g.WellFormed)
    (near : ∀ x, s x → g.Local d x) : Run (Action.Local d) g changes g' :=
  run.imp_of_marks wf fun _ id _ _ alike mine _ => alike.local (near id mine)

/-- Setting flags within reach is left to discovery, but for the flag of the domain. -/
theorem discovers_of_marks (run : Run (Action.Marks s) g changes g') (wf : g.WellFormed)
    (near : ∀ x, s x → g.Local d x) (apart : ∀ x, s x → ∃ k, g.kind? x = some k ∧ k ≠ .domain) :
    Run (Action.Discovers d) g changes g' := by
  refine run.imp_of_marks wf fun h id kind active alike mine known => ⟨alike.local (near id mine), ?_⟩
  obtain ⟨k, known', other⟩ := apart id mine
  rw [alike.kind?] at known
  exact Graph.kind_unique known known' ▸ other

end Run

end DiscoveryGraph
