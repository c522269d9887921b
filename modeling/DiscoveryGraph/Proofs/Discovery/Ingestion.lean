import DiscoveryGraph.Proofs.Discovery.Reach

/-! Ingestion, stage by stage. A notification that passes its checks is carried out to the end, or
until the identifiers run out; one that does not leaves the graph alone. -/
namespace DiscoveryGraph

theorem Announcement.kind_ne (announcement : Announcement) :
    announcement.kind ≠ .locator ∧ announcement.kind ≠ .domain := by
  cases announcement <;> simp [Announcement.kind]

/-- The addresses of the announced locators. -/
def Announcement.addresses : Announcement → List String
  | .participant _ | .topic _ => []
  | .reader info | .writer info => info.locators

/-- Brings the locators of an endpoint up to date: locators that are not there yet, without attributes,
and bindings of the endpoint. -/
def Action.Rebinds (endpoint : EntityId) : Graph → Action → Prop
  | g, born entity edges =>
    entity.kind = .locator ∧ edges = [] ∧ entity.attributes = .plain ∧ g.Lacks (.locator entity.name)
  | _, linked edge | _, unlinked edge => edge.rule.kind = .locatorBinding ∧ edge.parent = endpoint
  | _, flagged .. | _, forgotten _ => False

theorem Action.Rebinds.not_forgotten {g : Graph} {a : Action} {x : EntityId} (rebinds : a.Rebinds x g)
    (entity : Entity) : a ≠ .forgotten entity := by
  intro same
  subst same
  exact rebinds.elim

theorem Action.Rebinds.discovers {g : Graph} {a : Action} {d x : EntityId} (rebinds : a.Rebinds x g)
    (near : g.Local d x) : a.Discovers d g := by
  cases a with
  | born entity edges =>
    obtain ⟨locator, rfl, -, lacks⟩ := rebinds
    refine ⟨by simp [Action.Local, locator, EntityKind.parents_eq], .locator entity.name, ?_, lacks⟩
    simp [Key.FitsBirth, locator]
  | linked edge | unlinked edge => exact ⟨⟨rebinds.1, by rwa [rebinds.2]⟩, trivial⟩
  | flagged | forgotten => exact rebinds.elim

/-- Only the edges between the endpoint and locators are concerned. -/
theorem Action.Rebinds.mem_neighbors {g : Graph} {a : Action} {x y z : EntityId} {k : EntityKind}
    (rebinds : a.Rebinds x g) (enabled : a.Enabled g) (below : ¬ (y = x ∧ k = .locator))
    (above : ¬ (z = x ∧ g.kind? y = some .locator)) : z ∈ (a.act g).neighbors y k ↔ z ∈ g.neighbors y k := by
  have never : ∀ {edge : Edge}, edge.Legal g → edge.rule.kind = .locatorBinding → edge.parent = x →
      ¬ edge.Joins y k z := by
    intro edge legal binding endpoint joins
    have locator := (EntityKind.locatorBinding_not_mem_parents _ legal.rule binding).2.2
    obtain ⟨rfl, rfl, -⟩ | ⟨rfl, -, rfl⟩ := joins
    · exact below ⟨endpoint, locator⟩
    · exact above ⟨endpoint, by rw [legal.child, locator]⟩
  cases a with
  | born entity edges =>
    obtain ⟨-, rfl, -⟩ := rebinds
    rfl
  | linked edge =>
    rw [act, Graph.mem_neighbors_link]
    exact or_iff_right (never enabled.1 rebinds.1 rebinds.2)
  | unlinked edge =>
    rw [act, Graph.mem_neighbors_unlink]
    exact and_iff_right (never enabled.1 rebinds.1 rebinds.2)
  | flagged | forgotten => exact rebinds.elim

/-- Entities that are no locators keep their neighbors that are none. -/
theorem Action.Rebinds.neighbors {g : Graph} {a : Action} {x y : EntityId} {kind k : EntityKind}
    (rebinds : a.Rebinds x g) (enabled : a.Enabled g) (known : g.kind? y = some kind) (other : kind ≠ .locator)
    (apart : k ≠ .locator) : (a.act g).neighbors y k = g.neighbors y k :=
  Std.ExtTreeSet.ext_mem fun _ => rebinds.mem_neighbors enabled (fun both => apart both.2) fun both =>
    other (Graph.kind_unique known both.2)

/-- A locator that is found under its address stays the one that is found. -/
theorem Action.Rebinds.findLocator {g : Graph} {a : Action} {x y : EntityId} {address : String}
    (rebinds : a.Rebinds x g) (wf : g.WellFormed) (enabled : a.Enabled g)
    (found : g.findGlobal .locator address = some y) : (a.act g).findGlobal .locator address = some y := by
  have answers := Graph.findLocator_answers wf address
  rw [found] at answers
  refine (Graph.findLocator_answers (wellFormed_act wf enabled) address).eq (answers.congr fun z => ?_)
  cases a with
  | born entity edges =>
    rw [Graph.hasKey_born wf enabled]
    refine or_iff_right fun new => ?_
    have same : entity.name = address := new.2.1.2
    exact rebinds.2.2.2 y (same ▸ answers.1)
  | linked | unlinked => simp only [Graph.HasKey, Key.parent?, act, Graph.entity?_link, Graph.entity?_unlink,
      reduceCtorEq, false_implies, implies_true]
  | flagged | forgotten => exact rebinds.elim

namespace Run
variable {g g' : Graph} {d x y : EntityId} {k kind : EntityKind} {changes : List StateChange}

theorem findLocator_of_rebinds (run : Run (Action.Rebinds x) g changes g') (wf : g.WellFormed) {address : String}
    (found : g.findGlobal .locator address = some y) : g'.findGlobal .locator address = some y :=
  run.invariant (fun h => h.findGlobal .locator address = some y) wf found
    fun wf enabled rebinds held => rebinds.findLocator wf enabled held

theorem kind?_of_rebinds (run : Run (Action.Rebinds x) g changes g') (wf : g.WellFormed)
    (known : g.kind? y = some k) : g'.kind? y = some k :=
  run.invariant (fun h => h.kind? y = some k) wf known
    fun wf enabled rebinds held => Action.kind?_act wf enabled rebinds.not_forgotten held

theorem discovers_of_rebinds (run : Run (Action.Rebinds x) g changes g') (wf : g.WellFormed)
    (near : g.Local d x) : Run (Action.Discovers d) g changes g' :=
  run.imp_of_invariant (fun h => h.Local d x) wf near
    (fun wf enabled rebinds held => (rebinds.discovers held).1.local wf enabled held)
    fun _ _ rebinds held => rebinds.discovers held

theorem neighbors_of_rebinds (run : Run (Action.Rebinds x) g changes g') (wf : g.WellFormed)
    (known : g.kind? y = some kind) (other : kind ≠ .locator) (apart : k ≠ .locator) :
    g'.neighbors y k = g.neighbors y k := by
  refine (run.invariant (fun h => h.kind? y = some kind ∧ h.neighbors y k = g.neighbors y k) wf
    ⟨known, rfl⟩ ?_).2
  intro h a wf enabled rebinds held
  obtain ⟨there, same⟩ := held
  exact ⟨Action.kind?_act wf enabled rebinds.not_forgotten there,
    (rebinds.neighbors enabled there other apart).trans same⟩

theorem seated_of_rebinds (run : Run (Action.Rebinds x) g changes g') (wf : g.WellFormed)
    (known : g.kind? x = some kind) (other : kind ≠ .locator) (seated : g.Seated d x) : g'.Seated d x := by
  refine ⟨(run.discovers_of_rebinds wf seated.1).local_of_discovers.local_of_local wf seated.1, fun t topic => ?_⟩
  rw [run.neighbors_of_rebinds wf known other (by decide)] at topic
  rw [run.neighbors_of_rebinds wf (wf.kind?_of_mem topic) (by decide) (by decide)]
  exact seated.2 t topic

end Run

namespace Graph
open Update
variable {g g' h : Graph} {d e x y : EntityId} {k kind : EntityKind} {p q : Graph → Action → Prop}

/-! ### Locators -/

theorem RanOut.imp {e : StorageError} (out : RanOut p g e g')
    (weaker : ∀ changes, Run p g changes g' → Run q g changes g') : RanOut q g e g' := by
  obtain ⟨same, none, changes, run⟩ := out
  exact ⟨same, none, changes, weaker changes run⟩

theorem RanOut.after {e : StorageError} {changes : List StateChange} (out : RanOut p h e g')
    (run : Run p g changes h) :
    RanOut p g e g' := by
  obtain ⟨same, none, changes', run'⟩ := out
  exact ⟨same, none, _, run.trans run'⟩

/-- The locators with some addresses have been found or born; nothing else has changed. -/
structure Located (e : EntityId) (addresses : List String) (g : Graph) (r : ResolvedLocators) (g' : Graph) :
    Prop where
  run : Run (Action.Rebinds e) g r.changes g'
  mem_ids : ∀ x, x ∈ r.ids ↔ ∃ address ∈ addresses, g'.findGlobal .locator address = some x
  found : ∀ address ∈ addresses, ∃ x, g'.findGlobal .locator address = some x
  old : ∀ x, g'.kind? x = some .locator → x ∈ r.ids ∨ g.kind? x = some .locator
  neighbors : ∀ x k, g'.neighbors x k = g.neighbors x k

theorem Located.locator {addresses : List String} {r : ResolvedLocators} (located : Located e addresses g r g')
    (wf : g.WellFormed) (mem : x ∈ r.ids) : g'.kind? x = some .locator := by
  obtain ⟨address, -, found⟩ := (located.mem_ids x).mp mem
  exact findGlobal_eq_some (located.run.wellFormed wf) found

theorem resolveLocators_ends {addresses : List String} (wf : g.WellFormed) :
    (resolveLocators addresses).Ends g (Located e addresses g) (RanOut (Action.Rebinds e) g) := by
  induction addresses generalizing g with
  | nil => exact ⟨.nil, by simp, by simp, fun _ here => .inr here, fun _ _ => rfl⟩
  | cons address addresses ih =>
    rw [resolveLocators, ends_bind]
    refine (resolveGlobal_ends .locator (by decide)).imp ?_ fun e h fails => fails.2.ranOut .nil
    intro first g₁ firsts
    have run₁ : Run (Action.Rebinds e) g first.changes g₁ := firsts.run fun _ unknown => by
      have lacks := findLocator_answers wf address
      rw [unknown] at lacks
      exact ⟨rfl, rfl, rfl, lacks⟩
    rw [ends_bind]
    refine (ih (run₁.wellFormed wf)).imp ?_ fun e h fails => fails.after run₁
    intro rest g₂ held
    obtain ⟨run₂, mem_ids, found, old, neighbors⟩ := held
    have resolved := firsts.answers wf (findLocator_answers wf address)
      (by simp [Key.FitsBirth])
    have here := run₂.findLocator_of_rebinds (run₁.wellFormed wf)
      ((findLocator_answers (run₁.wellFormed wf) address).eq resolved)
    refine ⟨run₁.trans run₂, fun x => ?_, ?_, fun x there => ?_, fun x k => ?_⟩
    · simp only [List.mem_cons, or_and_right, exists_or, exists_eq_left, here, Option.some.injEq, mem_insert_iff,
        mem_ids, @eq_comm _ x]
    · simpa only [List.mem_cons, forall_eq_or_imp] using ⟨⟨_, here⟩, found⟩
    · rw [mem_insert_iff, or_assoc]
      obtain mem | there := old x there
      · exact .inr (.inl mem)
      · exact (firsts.eq_or_known there).imp (fun same => same) .inr
    · rw [neighbors, firsts.neighbors_global]

/-- The binding of an endpoint to a locator. -/
def binding (kind : EntityKind) (endpoint locator : EntityId) : Edge :=
  ⟨⟨kind, .locator, .locatorBinding⟩, endpoint, locator⟩

theorem binding_legal (isEndpoint : kind.isEndpoint) (known : g.kind? e = some kind)
    (locator : g.kind? x = some .locator) :
    (binding kind e x).Legal g ∧ (binding kind e x).Vacant g := by
  refine ⟨⟨?_, known, locator⟩, fun single => by cases single⟩
  revert isEndpoint
  cases kind <;> simp [binding, edgeRules, EntityKind.isEndpoint]

/-- An endpoint has been bound to some locators, or released from some; others keep their edges. -/
structure Rewired (e : EntityId) (s : EntityId → Prop) (bound : Prop) (g g' : Graph) : Prop where
  run : Run (Action.Rebinds e) g [] g'
  kinds : ∀ x, g'.kind? x = g.kind? x
  mine : ∀ x, x ∈ g'.neighbors e .locator ↔ s x ∧ bound ∨ ¬ s x ∧ x ∈ g.neighbors e .locator
  neighbors : ∀ x k, x ≠ e → ¬ s x → g'.neighbors x k = g.neighbors x k

theorem Rewired.trans {s t : EntityId → Prop} {bound : Prop} (first : Rewired e s bound g h)
    (second : Rewired e t bound h g') : Rewired e (fun x => s x ∨ t x) bound g g' := by
  refine ⟨first.run.trans second.run, fun x => (second.kinds x).trans (first.kinds x), fun x => ?_,
    fun x k apart outside => ?_⟩
  · rw [second.mine, first.mine]
    grind
  · rw [not_or] at outside
    rw [second.neighbors x k apart outside.2, first.neighbors x k apart outside.1]

/-- Releasing an endpoint from some locators and binding it to others. -/
theorem forM_bindings_ends (update : EntityId → EntityId → Update StorageError Bool) (bound : Prop)
    {locators : List EntityId} (wf : g.WellFormed) (known : g.kind? e = some kind)
    (all : ∀ x ∈ locators, g.kind? x = some .locator)
    (step : ∀ h x, h.WellFormed → h.kind? e = some kind → h.kind? x = some .locator →
      (update e x).Ends h (fun _ h' => Rewired e (· = x) bound h h') fun _ _ => False) :
    (locators.forM fun x => discard (update e x)).Ends g
      (fun _ g' => Rewired e (· ∈ locators) bound g g') fun _ _ => False := by
  induction locators generalizing g with
  | nil => exact ⟨.nil, fun _ => rfl, by simp, fun _ _ _ _ => rfl⟩
  | cons locator locators ih =>
    simp only [List.mem_cons, forall_eq_or_imp] at all
    show (discard (update e locator) >>= fun _ => locators.forM fun x => discard (update e x)).Ends g _ _
    rw [ends_bind, ends_discard]
    refine (step g locator wf known all.1).imp_ok ?_
    intro _ h first
    refine (ih (first.run.wellFormed wf) ?_ fun x mem => ?_).imp_ok fun _ g' rest => ?_
    · exact (first.kinds e).trans known
    · exact (first.kinds x).trans (all.2 x mem)
    · simpa only [List.mem_cons] using first.trans rest

theorem rewired_unlink (legal : (binding kind e x).Legal g) (apart : e ≠ x) :
    Rewired e (· = x) False g (g.unlink (binding kind e x)) := by
  refine ⟨Run.single (a := .unlinked (binding kind e x)) ⟨legal, rfl⟩ ⟨rfl, rfl⟩, fun _ => rfl, fun y => ?_,
    fun y k apart other => Std.ExtTreeSet.ext_mem fun z => ?_⟩
  · rw [mem_neighbors_unlink]
    simp only [Edge.Joins, binding]
    grind
  · rw [mem_neighbors_unlink]
    refine and_iff_right fun joins => ?_
    obtain ⟨same, -⟩ | ⟨same, -⟩ := joins
    · exact apart same
    · exact other same

theorem rewired_link (legal : (binding kind e x).Legal g) (vacant : (binding kind e x).Vacant g) (apart : e ≠ x) :
    Rewired e (· = x) True g (g.link (binding kind e x)) := by
  refine ⟨Run.single (a := .linked (binding kind e x)) ⟨legal, vacant⟩ ⟨rfl, rfl⟩, fun _ => rfl, fun y => ?_,
    fun y k apart other => Std.ExtTreeSet.ext_mem fun z => ?_⟩
  · rw [mem_neighbors_link]
    simp only [Edge.Joins, binding]
    grind
  · rw [mem_neighbors_link]
    refine or_iff_right fun joins => ?_
    obtain ⟨same, -⟩ | ⟨same, -⟩ := joins
    · exact apart same
    · exact other same

theorem endpoint_ne_locator (isEndpoint : kind.isEndpoint) (known : g.kind? e = some kind)
    (locator : g.kind? x = some .locator) : e ≠ x := by
  intro same
  subst same
  obtain rfl := kind_unique known locator
  cases isEndpoint

theorem forM_unbind_ends {locators : List EntityId} (wf : g.WellFormed) (isEndpoint : kind.isEndpoint)
    (known : g.kind? e = some kind) (all : ∀ x ∈ locators, g.kind? x = some .locator) :
    (locators.forM fun x => discard (unbind e x)).Ends g
      (fun _ g' => Rewired e (· ∈ locators) False g g') fun _ _ => False := by
  refine forM_bindings_ends unbind False wf known all fun h x _ known locator => ?_
  obtain ⟨legal, -⟩ := binding_legal isEndpoint known locator
  refine (unbind_ends legal rfl (.inl ⟨rfl, rfl⟩)).imp_ok ?_
  intro _ h' same
  subst same
  exact rewired_unlink legal (endpoint_ne_locator isEndpoint known locator)

/-- A binding that is there already is left as it is. -/
theorem forM_bind_ends {locators : List EntityId} (wf : g.WellFormed) (isEndpoint : kind.isEndpoint)
    (known : g.kind? e = some kind) (all : ∀ x ∈ locators, g.kind? x = some .locator) :
    (locators.forM fun x => discard (bind e x)).Ends g
      (fun _ g' => Rewired e (· ∈ locators) True g g') fun _ _ => False := by
  refine forM_bindings_ends bind True wf known all fun h x wf known locator => ?_
  obtain ⟨legal, vacant⟩ := binding_legal isEndpoint known locator
  refine (bind_ends legal vacant (.inl ⟨rfl, rfl⟩)).imp_ok ?_
  intro _ h' fact
  obtain ⟨near, rfl⟩ | ⟨-, rfl⟩ := fact
  · refine ⟨.nil, fun _ => rfl, fun y => ?_, fun _ _ _ _ => rfl⟩
    by_cases same : y = x
    · subst same
      exact iff_of_true (wf.mem_symm near locator) (.inl ⟨rfl, trivial⟩)
    · simp [same]
  · exact rewired_link legal vacant (endpoint_ne_locator isEndpoint known locator)

/-- The bindings of an endpoint have been brought up to date: it is bound to the locators with the
given addresses, all of which are there. Locators that are reported were bound to it or are now; those
that are not were there before and have the same endpoints as before. -/
structure Rebound (e : EntityId) (addresses : List String) (g : Graph) (r : ResolvedLocators) (g' : Graph) :
    Prop where
  run : Run (Action.Rebinds e) g r.changes g'
  locators : ∀ x ∈ r.ids, g'.kind? x = some .locator
  touched : ∀ x ∈ r.ids, x ∈ g.neighbors e .locator ∨ x ∈ g'.neighbors e .locator
  untouched : ∀ x, g'.kind? x = some .locator → x ∉ r.ids →
    g.kind? x = some .locator ∧ ∀ k, g'.neighbors x k = g.neighbors x k
  found : ∀ address ∈ addresses, ∃ x, g'.findGlobal .locator address = some x
  bound : ∀ x, x ∈ g'.neighbors e .locator ↔ ∃ address ∈ addresses, g'.findGlobal .locator address = some x

/-- What is no endpoint has no locators. -/
theorem rebound_nothing (unbound : ∀ x, x ∉ g.neighbors e .locator) : Rebound e [] g ⟨∅, []⟩ g :=
  ⟨.nil, by simp, by simp, fun _ here _ => ⟨here, fun _ => rfl⟩, by simp, by simpa using unbound⟩

/-- Once the wanted locators are there, it remains to release the endpoint from the others and to bind it to
those. -/
theorem Located.rebound {addresses : List String} {wanted : ResolvedLocators} {g₂ g₃ : Graph} {stale fresh : IdSet}
    (located : Located e addresses g wanted h) (wf : g.WellFormed) (isEndpoint : kind.isEndpoint)
    (known : g.kind? e = some kind) (old : stale = h.neighbors e .locator \ wanted.ids)
    (new : fresh = wanted.ids \ h.neighbors e .locator) (released : Rewired e (· ∈ stale) False h g₂)
    (bound : Rewired e (· ∈ fresh) True g₂ g₃) : Rebound e addresses g ⟨stale ∪ fresh, wanted.changes⟩ g₃ := by
  subst old new
  have wf₁ := located.run.wellFormed wf
  have rewires : Run (Action.Rebinds e) h [] g₃ := released.run.trans bound.run
  have known₃ := rewires.kind?_of_rebinds wf₁ (located.run.kind?_of_rebinds wf known)
  have kept : ∀ {address x}, h.findGlobal .locator address = some x → g₃.findGlobal .locator address = some x :=
    rewires.findLocator_of_rebinds wf₁
  -- Stale locators are released and fresh ones bound, so that those that are wanted are left.
  have exact : ∀ x, x ∈ g₃.neighbors e .locator ↔ x ∈ wanted.ids := by
    intro x
    rw [bound.mine, released.mine]
    simp only [Std.ExtTreeSet.mem_diff_iff]
    by_cases near : x ∈ h.neighbors e .locator <;> by_cases want : x ∈ wanted.ids <;> simp [near, want]
  constructor
  case run => simpa using located.run.trans rewires
  case locators =>
    intro x mem
    refine rewires.kind?_of_rebinds wf₁ ?_
    simp only [Std.ExtTreeSet.mem_union_iff, Std.ExtTreeSet.mem_diff_iff] at mem
    exact mem.elim (fun stale => wf₁.kind?_of_mem stale.1) fun fresh => located.locator wf fresh.1
  case touched =>
    intro x mem
    simp only [Std.ExtTreeSet.mem_union_iff, Std.ExtTreeSet.mem_diff_iff, located.neighbors] at mem
    exact mem.imp (fun stale => stale.1) fun fresh => (exact x).mpr fresh.1
  case untouched =>
    intro x here outside
    rw [Std.ExtTreeSet.mem_union_iff, not_or] at outside
    have apart : x ≠ e := (endpoint_ne_locator isEndpoint known₃ here).symm
    have same : ∀ k, g₃.neighbors x k = g.neighbors x k := fun k => by
      rw [bound.neighbors x k apart outside.2, released.neighbors x k apart outside.1, located.neighbors]
    refine ⟨?_, same⟩
    rw [bound.kinds, released.kinds] at here
    obtain wanted | known := located.old x here
    · have near : x ∈ h.neighbors e .locator := by
        refine Decidable.byContradiction fun far => outside.2 ?_
        exact Std.ExtTreeSet.mem_diff_iff.mpr ⟨wanted, far⟩
      rw [located.neighbors] at near
      exact wf.kind?_of_mem near
    · exact known
  case found =>
    intro address mem
    obtain ⟨x, found⟩ := located.found address mem
    exact ⟨x, kept found⟩
  case bound =>
    intro x
    rw [exact, located.mem_ids]
    constructor
    · intro fact
      obtain ⟨address, mem, found⟩ := fact
      exact ⟨address, mem, kept found⟩
    · intro fact
      obtain ⟨address, mem, found⟩ := fact
      obtain ⟨y, here⟩ := located.found address mem
      rw [kept here] at found
      exact ⟨address, mem, found ▸ here⟩

theorem rewire_ends {addresses : List String} {wanted : ResolvedLocators} (wf : g.WellFormed)
    (isEndpoint : kind.isEndpoint) (known : g.kind? e = some kind) (located : Located e addresses g wanted h) :
    (do
      let current := (← get).neighbors e .locator
      let stale := current \ wanted.ids
      let fresh := wanted.ids \ current
      stale.toList.forM fun locator => discard (unbind e locator)
      fresh.toList.forM fun locator => discard (bind e locator)
      return ⟨stale ∪ fresh, wanted.changes⟩ : Update StorageError ResolvedLocators).Ends h
      (Rebound e addresses g) fun _ _ => False := by
  have wf₁ := located.run.wellFormed wf
  have known₁ := located.run.kind?_of_rebinds wf known
  rw [ends_bind, ends_get, ends_bind]
  refine (forM_unbind_ends wf₁ isEndpoint known₁ fun x mem => ?_).imp ?_ fun _ _ => False.elim
  · rw [Std.ExtTreeSet.mem_toList, Std.ExtTreeSet.mem_diff_iff] at mem
    exact wf₁.kind?_of_mem mem.1
  intro _ g₂ released
  simp only [Std.ExtTreeSet.mem_toList] at released
  rw [ends_bind]
  refine (forM_bind_ends (released.run.wellFormed wf₁) isEndpoint (released.run.kind?_of_rebinds wf₁ known₁)
    fun x mem => released.run.kind?_of_rebinds wf₁ ?_).imp ?_ fun _ _ => False.elim
  · rw [Std.ExtTreeSet.mem_toList, Std.ExtTreeSet.mem_diff_iff] at mem
    exact located.locator wf mem.1
  intro _ g₃ bound
  simp only [Std.ExtTreeSet.mem_toList] at bound
  exact located.rebound wf isEndpoint known rfl rfl released bound

theorem rebindLocators_ends {addresses : List String} (wf : g.WellFormed) (isEndpoint : kind.isEndpoint)
    (known : g.kind? e = some kind) :
    (rebindLocators e addresses).Ends g (Rebound e addresses g) (RanOut (Action.Rebinds e) g) := by
  rw [rebindLocators, ends_bind]
  refine (resolveLocators_ends wf).imp_ok ?_
  intro wanted h located
  exact (rewire_ends wf isEndpoint known located).imp (fun _ _ rebound => rebound) fun _ _ => False.elim

theorem refreshBindings_ends {announcement : Announcement} (wf : g.WellFormed)
    (known : g.kind? e = some announcement.kind) :
    (refreshBindings e announcement).Ends g (Rebound e announcement.addresses g)
      (RanOut (Action.Rebinds e) g) := by
  cases announcement with
  | participant info =>
    have participant : g.kind? e = some .participant := known
    exact rebound_nothing fun _ => wf.not_mem participant (by decide)
  | topic info =>
    have topic : g.kind? e = some .topic := known
    exact rebound_nothing fun _ => wf.not_mem topic (by decide)
  | reader info | writer info => exact rebindLocators_ends wf rfl known

/-! ### A notification -/

/-- The announced entity, which is created if it is not there. -/
def announce (n : Notification) : Option EntityId → Update StorageError Resolved
  | some id => pure ⟨id, []⟩
  | none => createAnnounced n.domain n.entity

/-- A new entity appears, and so does one that was discovered again. -/
def appear (n : Notification) (existing : Option EntityId) (id : EntityId) :
    Update GraphError (List StateChange) :=
  if existing = none ∨ n.status = .discovered then apply (.appeared id) else pure []

/-- The stages one after the other. -/
theorem ingestPresent_eq {n : Notification} {existing : Option EntityId} : ingestPresent n existing = (do
    let announced ← announce n existing
    let touched ← refreshBindings announced.id n.entity
    let appeared ← appear n existing announced.id
    let rederived ← rederiveLocators touched.ids
    return announced.changes ++ touched.changes ++ appeared ++ rederived) := by
  obtain ⟨d, status, entity⟩ := n
  cases existing with
  | none => rfl
  | some id =>
    by_cases again : status = .discovered
    · subst again
      rfl
    · simp only [ingestPresent, announce, appear, again, reduceCtorEq, or_self, if_false]
      rfl

/-- How the announced entity comes to be there. -/
def Announced (g : Graph) (n : Notification) (existing : Option EntityId) (announced : Resolved)
    (g' : Graph) : Prop :=
  match existing with
  | some id => announced = ⟨id, []⟩ ∧ g' = g
  | none => Creates g n.domain n.entity announced g'

theorem Announced.wellFormed {n : Notification} {existing : Option EntityId} {announced : Resolved}
    (announces : Announced g n existing announced g') (wf : g.WellFormed) : g'.WellFormed := by
  cases existing with
  | some id => exact announces.2 ▸ wf
  | none => exact Creates.wellFormed announces wf

theorem announce_ends {n : Notification} {existing : Option EntityId} (wf : g.WellFormed)
    (domain : g.kind? n.domain = some .domain) (valid : g.validate n.domain n.entity = .ok existing) :
    (announce n existing).Ends g
      (fun r g' => Announced g n existing r g' ∧ Run (Action.Discovers n.domain) g r.changes g' ∧
        g'.kind? r.id = some n.entity.kind ∧ g'.Seated n.domain r.id)
      (RanOut (Action.Discovers n.domain) g) := by
  obtain ⟨admits, found⟩ := (validate_checks wf).of_ok valid
  cases existing with
  | some id => exact ⟨⟨rfl, rfl⟩, .nil, found id rfl⟩
  | none => exact createAnnounced_ends wf domain admits (lacks_of_validate wf valid)

/-- Whether or not the announced entity appears. -/
def Appeared (g : Graph) (n : Notification) (existing : Option EntityId) (id : EntityId)
    (changes : List StateChange) (g' : Graph) : Prop :=
  if existing = none ∨ n.status = .discovered then Activated g id changes g' else changes = [] ∧ g' = g

theorem Appeared.raised {n : Notification} {existing : Option EntityId} {changes : List StateChange}
    (appeared : Appeared g n existing e changes g') : Run (Action.Flags true (g.Revives e)) g changes g' := by
  unfold Appeared at appeared
  split at appeared
  · exact appeared.raised
  · obtain ⟨rfl, rfl⟩ := appeared
    exact .nil

theorem appear_ends {n : Notification} {existing : Option EntityId} (wf : g.WellFormed)
    (known : g.kind? e = some kind) (discovered : kind ≠ .domain) :
    (appear n existing e).Ends g (Appeared g n existing e) fun _ _ => False := by
  unfold appear Appeared
  split
  · exact apply_appeared_ends wf known discovered
  · exact ⟨rfl, rfl⟩

/-- How an announcement of something that is there is carried out. -/
inductive Presents (g : Graph) (n : Notification) (existing : Option EntityId) : List StateChange → Graph → Prop
  | done {g₁ g₂ g₃ g₄ : Graph} {announced : Resolved} {touched : ResolvedLocators}
      {appeared rederived : List StateChange} :
      Announced g n existing announced g₁ →
      g₁.kind? announced.id = some n.entity.kind →
      Rebound announced.id n.entity.addresses g₁ touched g₂ →
      Appeared g₂ n existing announced.id appeared g₃ →
      Rederived g₃ touched.ids rederived g₄ →
      Presents g n existing (announced.changes ++ touched.changes ++ appeared ++ rederived) g₄

/-- Once the announced entity and its locators are there, nothing can go wrong any more. -/
theorem settle_ends {n : Notification} {existing : Option EntityId} {announced : Resolved}
    {touched : ResolvedLocators} (wf : g.WellFormed) (known : g.kind? announced.id = some n.entity.kind)
    (locators : ∀ x ∈ touched.ids, g.kind? x = some .locator) :
    (do
      let appeared ← appear n existing announced.id
      let rederived ← rederiveLocators touched.ids
      return announced.changes ++ touched.changes ++ appeared ++ rederived : Update GraphError (List StateChange)).Ends g
      (fun changes g' => ∃ appeared rederived h,
        changes = announced.changes ++ touched.changes ++ appeared ++ rederived ∧
          Appeared g n existing announced.id appeared h ∧ Rederived h touched.ids rederived g')
      fun _ _ => False := by
  rw [ends_bind]
  refine (appear_ends wf known n.entity.kind_ne.2).imp_ok ?_
  intro appeared h appears
  have raised := appears.raised
  rw [ends_bind, ends_liftStorage]
  refine (rederiveLocators_sets (raised.wellFormed wf) fun x mem => ?_).imp ?_ fun _ _ => False.elim
  · rw [raised.alike.kind?, locators x mem]
  · intro rederived g' sets
    exact ⟨appeared, rederived, h, rfl, appears, sets⟩

theorem ingestPresent_ends {n : Notification} {existing : Option EntityId} (wf : g.WellFormed)
    (domain : g.kind? n.domain = some .domain) (valid : g.validate n.domain n.entity = .ok existing) :
    (ingestPresent n existing).Ends g
      (fun changes g' => Presents g n existing changes g' ∧ Run (Action.Discovers n.domain) g changes g')
      (fun e g' => ∃ cause, e = .storage cause ∧ RanOut (Action.Discovers n.domain) g cause g') := by
  rw [ingestPresent_eq, ends_bind, ends_liftStorage]
  refine (announce_ends wf domain valid).imp ?_ fun cause h out => ⟨cause, rfl, out⟩
  intro announced g₁ held
  obtain ⟨created, run₁, known₁, seated₁⟩ := held
  have wf₁ := run₁.wellFormed wf
  rw [ends_bind, ends_liftStorage]
  refine (refreshBindings_ends wf₁ known₁).imp ?_ fun cause h out =>
    ⟨cause, rfl, (out.imp fun _ run => run.discovers_of_rebinds wf₁ seated₁.1).after run₁⟩
  intro touched g₂ rebound
  have rebinds := rebound.run
  have wf₂ := rebinds.wellFormed wf₁
  have known₂ := rebinds.kind?_of_rebinds wf₁ known₁
  have seated₂ := rebinds.seated_of_rebinds wf₁ known₁ n.entity.kind_ne.1 seated₁
  have run₂ := run₁.trans (rebinds.discovers_of_rebinds wf₁ seated₁.1)
  refine (settle_ends wf₂ known₂ rebound.locators).imp ?_ fun _ _ => False.elim
  intro changes g₄ settled
  obtain ⟨appeared, rederived, g₃, rfl, appears, sets⟩ := settled
  have raised := appears.raised
  have run₃ := run₂.trans (raised.marks.discovers_of_marks wf₂ (fun x revives => (revives.seated wf₂ seated₂).1)
    fun x revives => revives.known wf₂ known₂ n.entity.kind_ne.2)
  have locators₃ : ∀ x ∈ touched.ids, g₃.kind? x = some .locator := fun x mem => by
    rw [raised.alike.kind?, rebound.locators x mem]
  have run₄ := run₃.trans (sets.run.discovers_of_marks (raised.wellFormed wf₂)
    (fun x mem => .inr ⟨_, locators₃ x mem, rfl⟩) fun x mem => ⟨_, locators₃ x mem, by decide⟩)
  exact ⟨.done created known₁ rebound appears sets, run₄⟩

/-- How an announcement of something that has gone is carried out. -/
structure Removes (g : Graph) (id : EntityId) (changes : List StateChange) (g' : Graph) : Prop where
  lowered : Run (Action.Flags false (g.Drags id)) g changes g'
  covered : ∀ k, g.kind? id = some k → (∀ x, g.Inside x id → g.alive x = true → k = .participant) →
    ∀ x y, g'.Exposed x y → g.Exposed x y
  subsides : g.Subsides changes g'
  down : g'.alive id = false

/-- The ways in which a notification is refused. -/
def Refusal (d : EntityId) (e : GraphError) : Prop :=
  ∃ cause : ValidationError, e = .validation cause ∧ (cause = .unknownDomain d ∨ cause.IsRejection)

/-- How a notification is carried out. -/
inductive Ingests (g : Graph) (n : Notification) (changes : List StateChange) (g' : Graph) : Prop
  | present {existing : Option EntityId} : g.validate n.domain n.entity = .ok existing → n.status ≠ .removed →
      Presents g n existing changes g' → Run (Action.Discovers n.domain) g changes g' → Ingests g n changes g'
  | removal {id : EntityId} : g.validate n.domain n.entity = .ok (some id) → n.status = .removed →
      Removes g id changes g' → Ingests g n changes g'

/-- A notification is refused and leaves the graph alone, or is carried out to its end, or to where
the identifiers run out. -/
theorem ingest_ends {n : Notification} (wf : g.WellFormed) : (ingest n).Ends g
    (fun changes g' => g.kind? n.domain = some .domain ∧ Ingests g n changes g')
    (fun e g' => Refusal n.domain e ∧ g' = g ∨
      g.kind? n.domain = some .domain ∧ ∃ cause, e = .storage cause ∧
        RanOut (Action.Discovers n.domain) g cause g') := by
  simp only [ingest, ends_bind, ends_liftValidation, ends_read]
  refine ⟨fun _ pass => ?_, fun cause fails =>
    .inl ⟨⟨cause, rfl, .inl (checkDomain_checks.of_error fails)⟩, trivial⟩⟩
  have domain := checkDomain_checks.of_ok pass
  refine ⟨fun existing valid => ?_, fun cause fails =>
    .inl ⟨⟨cause, rfl, .inr ((validate_checks wf).of_error fails)⟩, trivial⟩⟩
  split
  · rename_i removed
    cases existing with
    | none => exact .inl ⟨⟨_, rfl, .inr ⟨_, rfl⟩⟩, rfl⟩
    | some id =>
      have known := (((validate_checks wf).of_ok valid).2 id rfl).1
      refine (apply_disappeared_ends wf known n.entity.kind_ne.2).imp ?_ fun _ _ => False.elim
      intro changes g' held
      obtain ⟨run, covers, subsides, down⟩ := held
      refine ⟨domain, .removal valid removed ⟨run, fun k here => ?_, subsides, down⟩⟩
      obtain rfl := kind_unique known here
      exact covers
  · rename_i present
    refine (ingestPresent_ends wf domain valid).imp ?_ fun _ _ out => .inr ⟨domain, out⟩
    intro changes g' fact
    obtain ⟨presents, run⟩ := fact
    exact ⟨domain, .present valid present presents run⟩

/-- A notification that passes its checks is carried out. -/
theorem ingest_eq_ingestPresent {n : Notification} {existing : Option EntityId}
    (domain : g.kind? n.domain = some .domain) (valid : g.validate n.domain n.entity = .ok existing)
    (present : n.status ≠ .removed) : ingest n g = ingestPresent n existing g := by
  have pass : g.checkDomain n.domain = .ok () := checkDomain_eq_ok.mpr domain
  simp only [ingest, Bind.bind, EStateM.bind, liftM, monadLift, MonadLift.monadLift, EStateM.adaptExcept,
    Update.read, pass, valid, if_neg present]

/-- A notification that passes its checks is not refused. -/
theorem not_refusal_of_present {n : Notification} {existing : Option EntityId} {e : GraphError}
    (wf : g.WellFormed)
    (domain : g.kind? n.domain = some .domain) (valid : g.validate n.domain n.entity = .ok existing)
    (present : n.status ≠ .removed) (fails : ingest n g = .error e g') : ¬ Refusal n.domain e := by
  rw [ingest_eq_ingestPresent domain valid present] at fails
  obtain ⟨cause, rfl, -⟩ := (ingestPresent_ends wf domain valid).of_error fails
  intro held
  obtain ⟨cause, other, -⟩ := held
  cases other

/-- On the graphs that discovery builds a notification has local effects only. -/
theorem Ingests.local {n : Notification} {changes : List StateChange}
    (ingests : Ingests g n changes g') (regular : g.Regular) :
    Run (Action.Local n.domain) g changes g' := by
  cases ingests with
  | present _ _ _ run => exact run.local_of_discovers
  | @removal id valid _ removes =>
    have seated := (((validate_checks regular.wellFormed).of_ok valid).2 id rfl).2
    exact removes.lowered.marks.local_of_marks regular.wellFormed fun x drags => drags.local regular seated.1

theorem Ingests.run {n : Notification} {changes : List StateChange} (ingests : Ingests g n changes g') :
    Run (fun _ _ => True) g changes g' := by
  cases ingests with
  | present _ _ _ run => exact run.mono fun _ _ _ => trivial
  | removal _ _ removes => exact removes.lowered.mono fun _ _ _ => trivial

end Graph
end DiscoveryGraph
