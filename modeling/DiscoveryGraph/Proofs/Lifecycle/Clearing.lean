import DiscoveryGraph.Lifecycle.Clear
import DiscoveryGraph.Proofs.Lifecycle.Basic

/-! Clearing a domain succeeds and leaves the graph without a set of entities: the domain, what it
owns, and locators, processes, users and hosts none of whose children are left. -/
namespace DiscoveryGraph

/-- Forgets some entities. -/
def Action.Forgets (s : EntityId → Prop) : Graph → Action → Prop :=
  fun _ a => ∃ entity, a = .forgotten entity ∧ s entity.id

/-- The changes of state that removed entities amount to. -/
def StateChange.lost (removed : List Entity) : List StateChange :=
  (removed.filter (·.active)).map fun entity => ⟨entity.id, entity.kind, false⟩

namespace Graph
open Update
variable {g h h' : Graph} {d id x y : EntityId} {k : EntityKind} {s t : EntityId → Prop}
  {owned candidates orphans : IdSet}

/-- The second graph is the first one without some entities and their edges. -/
structure Without (g : Graph) (s : EntityId → Prop) (h : Graph) : Prop where
  gone : ∀ x, s x → h.entity? x = none
  kept : ∀ x, ¬ s x → h.entity? x = g.entity? x
  edges : ∀ x k y, y ∈ h.neighbors x k ↔ ¬ s x ∧ ¬ s y ∧ y ∈ g.neighbors x k

theorem without_nothing : g.Without (fun _ => False) g := ⟨by simp, by simp, by simp⟩

theorem Without.kind? (without : g.Without s h) : h.kind? x = some k ↔ ¬ s x ∧ g.kind? x = some k := by
  by_cases out : s x
  · simp [kind?_eq_none.mpr (without.gone x out), out]
  · simp [Graph.kind?, without.kept x out, out]

theorem Without.alive (without : g.Without s h) (stays : ¬ s x) : h.alive x = g.alive x := by
  rw [Graph.alive, without.kept x stays, Graph.alive]

theorem Without.mem_children (without : g.Without s h) (stays : ¬ s x) :
    y ∈ h.children x k ↔ ¬ s y ∧ y ∈ g.children x k := by
  simp only [Graph.mem_children, without.edges]
  grind

theorem Without.trans (first : g.Without s h) (second : h.Without t h') :
    g.Without (fun x => s x ∨ t x) h' := by
  refine ⟨fun x out => ?_, fun x stays => ?_, fun x k y => ?_⟩
  · by_cases later : t x
    · exact second.gone x later
    · rw [second.kept x later, first.gone x (out.resolve_right later)]
  · rw [second.kept x fun later => stays (.inr later), first.kept x fun early => stays (.inl early)]
  · rw [second.edges, first.edges]
    simp only [not_or]
    constructor
    · intro held
      obtain ⟨laterx, latery, earlyx, earlyy, near⟩ := held
      exact ⟨⟨earlyx, laterx⟩, ⟨earlyy, latery⟩, near⟩
    · intro fact
      obtain ⟨⟨earlyx, laterx⟩, ⟨earlyy, latery⟩, near⟩ := fact
      exact ⟨laterx, latery, earlyx, earlyy, near⟩

theorem Without.congr (without : g.Without s h) (same : ∀ x, s x ↔ t x) : g.Without t h := by
  obtain rfl : s = t := funext fun x => propext (same x)
  exact without

theorem WellFormed.without_forget (wf : g.WellFormed) {entity : Entity} (found : g.entity? id = some entity) :
    g.Without (· = id) (g.forget entity) := by
  have same := wf.keyed found
  subst same
  refine ⟨fun x here => ?_, fun x other => ?_, fun x k y => wf.mem_neighbors_forget found⟩
  · rw [entity?_forget, if_pos here.symm]
  · rw [entity?_forget, if_neg fun here => other here.symm]

theorem lost_append {removed removed' : List Entity} :
    StateChange.lost (removed ++ removed') = StateChange.lost removed ++ StateChange.lost removed' := by
  simp only [StateChange.lost, List.filter_append, List.map_append]

theorem changes_forgotten {entity : Entity} :
    (Action.forgotten entity).changes = StateChange.lost [entity] := by
  simp only [StateChange.lost, Action.changes, List.filter_cons]
  cases entity.active <;> rfl

/-- Different entities that exist are all removed, one by one, and returned as they were. -/
theorem gather_remove_ends {ids : List EntityId} (wf : g.WellFormed) (nodup : ids.Nodup)
    (known : ∀ x ∈ ids, ∃ k, g.kind? x = some k) :
    (gather (fun id => return [← (liftM (remove id) : Update GraphError Entity)]) ids).Ends g
      (fun removed h => Run (Action.Forgets (· ∈ ids)) g (StateChange.lost removed) h ∧ g.Without (· ∈ ids) h ∧
        removed.map (·.id) = ids ∧ ∀ entity ∈ removed, g.entity? entity.id = some entity)
      fun _ _ => False := by
  induction ids generalizing g with
  | nil => exact ⟨.nil, without_nothing.congr (by simp), rfl, by simp⟩
  | cons id ids ih =>
    rw [List.nodup_cons] at nodup
    obtain ⟨k, here⟩ := known id (by simp)
    simp only [gather, ends_bind, ends_pure, ends_liftStorage]
    refine remove_ends.imp ?_ fun e _ fails => by simp [kind?_eq_none.mpr fails.1] at here
    intro entity h held
    obtain ⟨found, rfl⟩ := held
    have without := wf.without_forget found
    have same := wf.keyed found
    subst same
    have run : Run (Action.Forgets (· ∈ entity.id :: ids)) g (StateChange.lost [entity]) (g.forget entity) := by
      rw [← changes_forgotten]
      exact Run.single found ⟨entity, rfl, by simp⟩
    refine (ih (wf.forget found) nodup.2 ?_).imp_ok ?_
    · intro x mem
      obtain ⟨k, there⟩ := known x (by simp [mem])
      refine ⟨k, ?_⟩
      rw [kind?_forget, if_neg, there]
      intro equal
      subst equal
      exact nodup.1 mem
    · intro removed h fact
      obtain ⟨further, without', listed, read⟩ := fact
      refine ⟨?_, (without.trans without').congr (by simp), congrArg (entity.id :: ·) listed, ?_⟩
      · rw [lost_append]
        refine run.trans (further.mono ?_)
        intro _ _ given
        obtain ⟨other, rfl, mem⟩ := given
        exact ⟨other, rfl, by simp [mem]⟩
      · intro other mem
        obtain rfl | mem := List.mem_cons.mp mem
        · exact found
        · have later := read other mem
          rw [entity?_forget] at later
          split at later
          · cases later
          · exact later

/-! ### What is cleared -/

/-- A set that the clearing of a domain may remove: what it owns, and besides it only entities
all of whose children are in the set. -/
structure Clearing (g : Graph) (d : EntityId) (gone : IdSet) : Prop where
  domain : d ∈ gone
  owned : ∀ k ∈ [EntityKind.participant, .topic, .dataWriter, .dataReader],
    ∀ x, g.Finds .domain k d x → x ∈ gone
  only : ∀ x ∈ gone, x = d ∨
    (∃ k ∈ [EntityKind.participant, .topic, .dataWriter, .dataReader], g.Finds .domain k d x) ∨
      ∃ k ∈ [EntityKind.locator, .process, .user, .host], g.Finds .domain k d x ∧ ∀ y ∈ g.children x k, y ∈ gone

/-- What the clearing of a domain removes: whatever it leaves without a child goes as well. -/
structure Cleared (g : Graph) (d : EntityId) (gone : IdSet) : Prop extends Clearing g d gone where
  orphans : ∀ k ∈ [EntityKind.locator, .process, .user, .host], ∀ x, g.Finds .domain k d x →
    (∀ y ∈ g.children x k, y ∈ gone) → x ∈ gone

/-- Takes the candidates in order and adds each one whose children are all owned or in by then. -/
def sweep (g : Graph) (k : EntityKind) (owned : IdSet) : List EntityId → IdSet → IdSet
  | [], orphans => orphans
  | id :: ids, orphans =>
    g.sweep k owned ids
      (if (g.children id k).all fun child => owned.contains child || orphans.contains child then
        orphans.insert id
      else
        orphans)

theorem addOrphans_eq_sweep : g.addOrphans k owned candidates orphans = g.sweep k owned candidates.toList orphans := by
  unfold addOrphans
  generalize candidates.toList = ids
  induction ids generalizing orphans with
  | nil => rfl
  | cons id ids ih => exact ih

theorem mem_insert_iff : x ∈ owned.insert y ↔ x = y ∨ x ∈ owned := by
  rw [Std.ExtTreeSet.mem_insert, Std.LawfulEqOrd.compare_eq_iff_eq, eq_comm]

theorem all_gone_iff {ids : List EntityId} :
    (ids.all fun child => owned.contains child || orphans.contains child) = true ↔ ∀ y ∈ ids, y ∈ owned ∪ orphans := by
  simp only [List.all_eq_true, Bool.or_eq_true, ← Std.ExtTreeSet.mem_iff_contains, Std.ExtTreeSet.mem_union_iff]

theorem mem_union_of_subset {others : IdSet} (grows : ∀ x ∈ orphans, x ∈ others) (mem : x ∈ owned ∪ orphans) :
    x ∈ owned ∪ others :=
  Std.ExtTreeSet.mem_union_iff.mpr ((Std.ExtTreeSet.mem_union_iff.mp mem).imp_right (grows x))

theorem mem_sweep_of_mem {ids : List EntityId} (mem : x ∈ orphans) : x ∈ g.sweep k owned ids orphans := by
  induction ids generalizing orphans with
  | nil => exact mem
  | cons id ids ih =>
    rw [sweep]
    apply ih
    split
    · exact mem_insert_iff.mpr (.inr mem)
    · exact mem

/-- What a sweep adds is a candidate all of whose children are owned or end up in the set. -/
theorem mem_sweep {ids : List EntityId} (mem : x ∈ g.sweep k owned ids orphans) :
    x ∈ orphans ∨ x ∈ ids ∧ ∀ y ∈ g.children x k, y ∈ owned ∪ g.sweep k owned ids orphans := by
  induction ids generalizing orphans with
  | nil => exact .inl mem
  | cons id ids ih =>
    rw [sweep] at mem ⊢
    obtain early | ⟨listed, orphan⟩ := ih mem
    · split at early
      · rename_i orphan
        rw [if_pos orphan]
        obtain rfl | early := mem_insert_iff.mp early
        · refine .inr ⟨by simp, fun y child => ?_⟩
          exact mem_union_of_subset (fun z mem => mem_sweep_of_mem (mem_insert_iff.mpr (.inr mem)))
            (all_gone_iff.mp orphan y child)
        · exact .inl early
      · exact .inl early
    · exact .inr ⟨by simp [listed], orphan⟩

/-- A sweep misses no candidate whose children are owned or in the set. -/
theorem mem_sweep_of_orphan {ids : List EntityId} (listed : x ∈ ids)
    (orphan : ∀ y ∈ g.children x k, y ∈ owned ∪ orphans) : x ∈ g.sweep k owned ids orphans := by
  induction ids generalizing orphans with
  | nil => cases listed
  | cons id ids ih =>
    rw [sweep]
    obtain rfl | listed := List.mem_cons.mp listed
    · rw [if_pos (all_gone_iff.mpr orphan)]
      exact mem_sweep_of_mem (mem_insert_iff.mpr (.inl rfl))
    · refine ih listed fun y child => mem_union_of_subset (fun z mem => ?_) (orphan y child)
      split
      · exact mem_insert_iff.mpr (.inr mem)
      · exact mem

theorem mem_addOrphans (g : Graph) (k : EntityKind) (owned candidates orphans : IdSet) :
    (∀ x ∈ orphans, x ∈ g.addOrphans k owned candidates orphans) ∧
      (∀ x ∈ g.addOrphans k owned candidates orphans, x ∈ orphans ∨
        x ∈ candidates ∧ ∀ y ∈ g.children x k, y ∈ owned ∪ g.addOrphans k owned candidates orphans) ∧
      ∀ x ∈ candidates, (∀ y ∈ g.children x k, y ∈ owned ∪ orphans) →
        x ∈ g.addOrphans k owned candidates orphans := by
  rw [addOrphans_eq_sweep]
  refine ⟨fun x => mem_sweep_of_mem, fun x mem => ?_, fun x candidate => ?_⟩
  · simpa only [Std.ExtTreeSet.mem_toList] using mem_sweep mem
  · exact mem_sweep_of_orphan (Std.ExtTreeSet.mem_toList.mpr candidate)

/-- Adding the orphans of some kinds keeps a set one that may be removed. Kinds are taken children
first, so no later one adds a child of what an earlier one has passed over. -/
theorem orphaned_eq_ok (kinds : List EntityKind) (wf : g.WellFormed)
    (known : g.kind? d = some .domain)
    (listed : ∀ k ∈ kinds, k ∈ [EntityKind.locator, .process, .user, .host])
    (upward : kinds.Pairwise fun k k' => k' ∉ k.derivedFrom) (clearing : g.Clearing d (owned ∪ orphans)) :
    ∃ final, g.orphaned d owned orphans kinds = .ok final ∧ g.Clearing d (owned ∪ final) ∧
      (∀ x ∈ orphans, x ∈ final) ∧ (∀ x ∈ final, x ∈ orphans ∨ ∃ k ∈ kinds, g.kind? x = some k) ∧
      ∀ k ∈ kinds, ∀ x, g.Finds .domain k d x → (∀ y ∈ g.children x k, y ∈ owned ∪ final) → x ∈ final := by
  induction kinds generalizing orphans with
  | nil => exact ⟨orphans, rfl, clearing, fun _ => id, fun _ => .inl, by simp⟩
  | cons k kinds ih =>
    simp only [List.mem_cons, forall_eq_or_imp, List.pairwise_cons] at listed upward
    have ordinary : k ≠ .invalid ∧ k ∉ k.derivedFrom := by
      have here := listed.1
      revert here
      cases k <;> decide
    obtain ⟨candidates, found, iff⟩ := related_eq_ok wf known ordinary.1
    obtain ⟨grows, only, misses⟩ := mem_addOrphans g k owned candidates orphans
    have widens : ∀ x ∈ owned ∪ orphans, x ∈ owned ∪ g.addOrphans k owned candidates orphans :=
      fun x => mem_union_of_subset grows
    have next : g.Clearing d (owned ∪ g.addOrphans k owned candidates orphans) := by
      refine ⟨widens d clearing.domain, fun k' mem x finds => widens x (clearing.owned k' mem x finds),
        fun x mem => ?_⟩
      have early_or : x ∈ owned ∪ orphans ∨
          x ∈ candidates ∧ ∀ y ∈ g.children x k, y ∈ owned ∪ g.addOrphans k owned candidates orphans := by
        rw [Std.ExtTreeSet.mem_union_iff] at mem ⊢
        obtain mem | mem := mem
        · exact .inl (.inl mem)
        · exact (only x mem).imp_left .inr
      obtain early | ⟨candidate, orphan⟩ := early_or
      · obtain rfl | finds | ⟨k', mem', finds, all⟩ := clearing.only x early
        · exact .inl rfl
        · exact .inr (.inl finds)
        · exact .inr (.inr ⟨k', mem', finds, fun y child => widens y (all y child)⟩)
      · exact .inr (.inr ⟨k, by simpa using listed.1, (iff x).mp candidate, orphan⟩)
    obtain ⟨final, rest, clearing', grows', only', misses'⟩ := ih (by simpa using listed.2) upward.2 next
    have added : ∀ x ∈ final, x ∈ orphans ∨ g.kind? x = some k ∨ ∃ k ∈ kinds, g.kind? x = some k := by
      intro x mem
      obtain early | late := only' x mem
      · exact (only x early).imp (fun early => early) fun fact => .inl (((iff x).mp fact.1).kind? wf known)
      · exact .inr (.inr late)
    refine ⟨final, ?_, clearing', fun x mem => grows' x (grows x mem), fun x mem => ?_, fun k' mem => ?_⟩
    · simp only [orphaned, found, Bind.bind, Except.bind]
      exact rest
    · simpa only [List.mem_cons, or_and_right, exists_or, exists_eq_left] using added x mem
    obtain rfl | mem := List.mem_cons.mp mem
    · intro x finds all
      refine grows' x (misses x ((iff x).mpr finds) fun y child => ?_)
      obtain ⟨kind, derived, near⟩ := mem_children.mp child
      have here := wf.kind?_of_mem near
      rw [Std.ExtTreeSet.mem_union_iff]
      refine (Std.ExtTreeSet.mem_union_iff.mp (all y child)).imp_right fun mem => ?_
      obtain early | same | ⟨k, mem, same⟩ := added y mem
      · exact early
      · exact absurd (kind_unique here same ▸ derived) ordinary.2
      · exact absurd (kind_unique here same ▸ derived) (upward.1 k mem)
    · exact misses' k' mem

/-- What is removed is listed in two parts: what the domain owns, and what that leaves without a child. -/
theorem clearance_eq_ok (wf : g.WellFormed) (known : g.kind? d = some .domain) :
    ∃ owned orphans : IdSet, g.clearance d = .ok (owned.toList ++ orphans.toList) ∧
      g.Cleared d (owned ∪ orphans) ∧
      (∀ x, x ∈ owned ↔ x = d ∨
        ∃ k ∈ [EntityKind.participant, .topic, .dataWriter, .dataReader], g.Finds .domain k d x) ∧
      ∀ x ∈ orphans, ∃ k ∈ [EntityKind.locator, .process, .user, .host], g.kind? x = some k := by
  obtain ⟨found, eq, iff⟩ := relatedOfKinds_eq_ok [.participant, .topic, .dataWriter, .dataReader]
    wf known (by decide)
  have split : ∀ x, x ∈ found.insert d ↔ x = d ∨
      ∃ k ∈ [EntityKind.participant, .topic, .dataWriter, .dataReader], g.Finds .domain k d x := by
    intro x
    rw [mem_insert_iff, iff]
  have first : ∀ x, x ∈ found.insert d ∪ (∅ : IdSet) ↔ x ∈ found.insert d := fun x => by
    simp [Std.ExtTreeSet.mem_union_iff]
  have start : g.Clearing d (found.insert d ∪ ∅) := by
    refine ⟨?_, fun k mem x finds => ?_, fun x mem => ?_⟩
    · exact (first d).mpr ((split d).mpr (.inl rfl))
    · exact (first x).mpr ((split x).mpr (.inr ⟨k, mem, finds⟩))
    · exact ((split x).mp ((first x).mp mem)).imp_right .inl
  obtain ⟨orphans, eq', clearing, -, only, misses⟩ := orphaned_eq_ok [.locator, .process, .user, .host] wf known
    (fun _ => id) (by decide) start
  refine ⟨found.insert d, orphans, ?_, ⟨clearing, fun k mem x finds all => ?_⟩, split, fun x mem => ?_⟩
  · simp only [clearance, owned, eq, Except.map, Bind.bind, Except.bind, eq']
    rfl
  · exact Std.ExtTreeSet.mem_union_iff.mpr (.inr (misses k mem x finds all))
  · exact (only x mem).resolve_left (by simp)

theorem nodup_toList (ids : IdSet) : ids.toList.Nodup :=
  ids.distinct_toList.imp fun apart same => apart (by simp [same])

theorem ascending_toList (ids : IdSet) : ids.toList.Pairwise (·.value < ·.value) := by
  refine ids.ordered_toList.imp ?_
  intro x y less
  have less : compare x.value y.value = .lt := less
  exact Std.compare_eq_lt.mp less

theorem nodup_parts (apart : ∀ x ∈ orphans, x ∉ owned) : (owned.toList ++ orphans.toList).Nodup := by
  refine List.nodup_append.mpr ⟨nodup_toList _, nodup_toList _, ?_⟩
  intro x early _ late equal
  subst equal
  rw [Std.ExtTreeSet.mem_toList] at early late
  exact apart x late early

theorem mem_parts : x ∈ owned.toList ++ orphans.toList ↔ x ∈ owned ∪ orphans := by
  simp only [List.mem_append, Std.ExtTreeSet.mem_toList, Std.ExtTreeSet.mem_union_iff]

/-- No domain owns an entity of a kind that domains share. -/
theorem owned_apart (wf : g.WellFormed) (known : g.kind? d = some .domain)
    (shared : ∃ k ∈ [EntityKind.locator, .process, .user, .host], g.kind? x = some k) :
    ¬ (x = d ∨ ∃ k ∈ [EntityKind.participant, .topic, .dataWriter, .dataReader], g.Finds .domain k d x) := by
  have apart : ∀ k ∈ [EntityKind.locator, .process, .user, .host],
      k ∉ [EntityKind.domain, .participant, .topic, .dataWriter, .dataReader] := by decide
  obtain ⟨k, mem, here⟩ := shared
  intro held
  obtain rfl | ⟨k', owns, finds⟩ := held
  · exact apart k mem (kind_unique here known ▸ by simp)
  · exact apart k mem (kind_unique here (finds.kind? wf known) ▸ List.mem_cons_of_mem _ owns)

theorem Clearing.known {gone : IdSet} (clearing : g.Clearing d gone) (wf : g.WellFormed)
    (known : g.kind? d = some .domain) (mem : x ∈ gone) : ∃ k, g.kind? x = some k := by
  obtain rfl | ⟨k, -, finds⟩ | ⟨k, -, finds, -⟩ := clearing.only x mem
  · exact ⟨_, known⟩
  · exact ⟨k, finds.kind? wf known⟩
  · exact ⟨k, finds.kind? wf known⟩

/-- Clearing a domain removes a set of entities, keeps everything else as it was, and returns what it
removed, which is what the domain owns and then the rest. -/
theorem clearDomain_returns (wf : g.WellFormed) (known : g.kind? d = some .domain) :
    (clearDomain d).Ends g
      (fun removed h => ∃ owned orphans : IdSet,
        (∀ x, x ∈ owned ↔ x = d ∨
          ∃ k ∈ [EntityKind.participant, .topic, .dataWriter, .dataReader], g.Finds .domain k d x) ∧
        (∀ x ∈ orphans, x ∉ owned) ∧ g.Cleared d (owned ∪ orphans) ∧
        (removed.map (·.id) = owned.toList ++ orphans.toList ∧
          ∀ entity ∈ removed, g.entity? entity.id = some entity) ∧
        Run (Action.Forgets (· ∈ owned ∪ orphans)) g (StateChange.lost removed) h ∧
        g.Without (· ∈ owned ∪ orphans) h)
      fun _ _ => False := by
  obtain ⟨owned, orphans, eq, cleared, split, shared⟩ := clearance_eq_ok wf known
  have apart : ∀ x ∈ orphans, x ∉ owned := fun x mem owns => owned_apart wf known (shared x mem) ((split x).mp owns)
  have domain : g.expectDomain d = .ok () := expectDomain_eq_ok.mpr known
  simp only [clearDomain, ends_bind, ends_liftStorage, ends_liftValidation, ends_read, domain, eq,
    Except.ok.injEq, reduceCtorEq, false_implies, implies_true, and_true, forall_eq', forall_const]
  refine (gather_remove_ends wf (nodup_parts apart) ?_).imp_ok ?_
  · exact fun x mem => cleared.known wf known (mem_parts.mp mem)
  intro removed h held
  obtain ⟨run, without, read⟩ := held
  refine ⟨owned, orphans, split, apart, cleared, read, run.mono ?_, without.congr fun x => mem_parts⟩
  intro _ _ fact
  obtain ⟨entity, rfl, mem⟩ := fact
  exact ⟨entity, rfl, mem_parts.mp mem⟩

/-- Clearing a domain removes a set of entities and keeps everything else as it was. -/
theorem clearDomain_ends (wf : g.WellFormed) (known : g.kind? d = some .domain) :
    (clearDomain d).Ends g
      (fun removed h => ∃ gone, g.Cleared d gone ∧
        Run (Action.Forgets (· ∈ gone)) g (StateChange.lost removed) h ∧ g.Without (· ∈ gone) h)
      fun _ _ => False :=
  (clearDomain_returns wf known).imp_ok fun _ _ ⟨_, _, _, _, cleared, _, effect⟩ => ⟨_, cleared, effect⟩

theorem becomes_clearDomain (wf : g.WellFormed) : g.Becomes ((clearDomain d).after g) := by
  refine Ends.after ?_
  by_cases known : g.kind? d = some .domain
  · refine (clearDomain_ends wf known).imp ?_ fun _ _ => False.elim
    intro removed h held
    obtain ⟨gone, -, run, -⟩ := held
    exact run.becomes
  · simp only [clearDomain, ends_bind, ends_liftStorage, ends_read]
    exact ⟨fun _ pass => absurd (expectDomain_eq_ok.mp pass) known, fun _ _ => .refl⟩

end Graph
end DiscoveryGraph
