import DiscoveryGraph.Lifecycle.Deactivation
import DiscoveryGraph.Proofs.Graph.Primitive

/-! Runs that only set flags one way. They leave everything but flags alone, so what an entity
is and how it is related may be read off any of their graphs. -/
namespace DiscoveryGraph

/-- Sets the flags of some entities to one value. -/
def Action.Flags (active : Bool) (s : EntityId → Prop) : Graph → Action → Prop :=
  fun _ a => ∃ id kind, a = .flagged id kind active ∧ s id

namespace Graph

/-- The graphs differ in flags at most. -/
structure Alike (g g' : Graph) : Prop where
  profile : ∀ x, g'.profile? x = g.profile? x
  relations : g'.relations = g.relations
  lastId : g'.lastId = g.lastId

namespace Alike
variable {g g' g'' : Graph} {x : EntityId} {k : EntityKind}

theorem refl : Alike g g := ⟨fun _ => rfl, rfl, rfl⟩

theorem trans (h : Alike g g') (h' : Alike g' g'') : Alike g g'' :=
  ⟨fun x => (h'.profile x).trans (h.profile x), h'.relations.trans h.relations, h'.lastId.trans h.lastId⟩

theorem symm (h : Alike g g') : Alike g' g :=
  ⟨fun x => (h.profile x).symm, h.relations.symm, h.lastId.symm⟩

theorem reflag {active : Bool} : Alike g (g.reflag x active) := ⟨fun _ => profile?_reflag, rfl, rfl⟩

theorem kind? (h : Alike g g') : g'.kind? x = g.kind? x := kind?_of_profile? (h.profile x)

theorem neighbors (h : Alike g g') : g'.neighbors x k = g.neighbors x k := by
  rw [Graph.neighbors, h.relations, Graph.neighbors]

theorem sustained (h : Alike g g') : g'.sustained x k = g.sustained x k := by
  simp only [Graph.sustained, h.neighbors]

theorem endpointsOf (h : Alike g g') : g'.endpointsOf x = g.endpointsOf x := by
  simp only [Graph.endpointsOf, h.neighbors]

theorem children (h : Alike g g') : g'.children x k = g.children x k := by
  simp only [Graph.children, h.neighbors]

end Alike

theorem alive_reflag_self {g : Graph} {id : EntityId} {kind : EntityKind} {active : Bool}
    (known : g.kind? id = some kind) : (g.reflag id active).alive id = active := by
  rw [alive_reflag, if_pos ⟨rfl, by simp [known]⟩]

/-- An entity is its profile with its flag. -/
theorem entity?_congr {g g' : Graph} {x : EntityId} (profile : g'.profile? x = g.profile? x)
    (flag : g'.alive x = g.alive x) : g'.entity? x = g.entity? x := by
  unfold profile? at profile
  unfold alive at flag
  revert profile flag
  rcases g'.entity? x with _ | ⟨_, _, _, _, _⟩ <;> rcases g.entity? x with _ | ⟨_, _, _, _, _⟩ <;> simp_all

/-- The graphs are equal apart from flags. -/
structure UpToFlags (g g' : Graph) : Prop where
  profile : ∀ x, g'.profile? x = g.profile? x
  rest : g' = { g with entities := g'.entities }

namespace UpToFlags
variable {g g' g'' : Graph} {x : EntityId}

theorem refl : UpToFlags g g := ⟨fun _ => rfl, rfl⟩

theorem trans (h : UpToFlags g g') (h' : UpToFlags g' g'') : UpToFlags g g'' := by
  refine ⟨fun x => (h'.profile x).trans (h.profile x), ?_⟩
  rw [h'.rest, h.rest]

theorem reflag {active : Bool} : UpToFlags g (g.reflag x active) := ⟨fun _ => profile?_reflag, rfl⟩

theorem alike (h : UpToFlags g g') : g.Alike g' := by
  refine ⟨h.profile, ?_, ?_⟩
  · rw [h.rest]
  · rw [h.rest]

/-- Once the flags agree as well, the graphs are equal. -/
theorem eq_of_alive (h : UpToFlags g g') (h' : UpToFlags g g'') (same : ∀ x, g'.alive x = g''.alive x) :
    g' = g'' := by
  have entities : g'.entities = g''.entities := Std.ExtTreeMap.ext_getElem? fun x =>
    entity?_congr ((h.profile x).trans (h'.profile x).symm) (same x)
  rw [h.rest, h'.rest, entities]

end UpToFlags

/-- The changes tell of every flag that differs, and each time once. -/
structure Reports (g : Graph) (changes : List StateChange) (g' : Graph) : Prop where
  once : (changes.map (·.id)).Nodup
  mem_iff : ∀ change, change ∈ changes ↔ g.kind? change.id = some change.kind ∧
    g.alive change.id = !change.active ∧ g'.alive change.id = change.active

/-- Where no flag differs, nothing is reported. -/
theorem Reports.eq_nil {g g' : Graph} {changes : List StateChange} (reports : Reports g changes g')
    (same : ∀ x, g'.alive x = g.alive x) : changes = [] := by
  refine List.eq_nil_iff_forall_not_mem.mpr fun change mem => ?_
  obtain ⟨-, before, after⟩ := (reports.mem_iff change).mp mem
  rw [same, before] at after
  simp at after

/-- What is reported is settled but for its order. -/
theorem Reports.perm {g g' : Graph} {changes changes' : List StateChange} (reports : Reports g changes g')
    (reports' : Reports g changes' g') : changes'.Perm changes := by
  have nodup : ∀ {told : List StateChange}, (told.map (·.id)).Nodup → told.Nodup := fun once =>
    List.Pairwise.of_map _ (fun _ _ apart same => apart (congrArg _ same)) once
  rw [List.perm_ext_iff_of_nodup (nodup reports'.once) (nodup reports.once)]
  intro change
  rw [reports.mem_iff, reports'.mem_iff]

/-- Reports are put together where no flag is changed twice. -/
theorem Reports.append {g g' g'' : Graph} {changes changes' : List StateChange} (reports : Reports g changes g')
    (reports' : Reports g' changes' g'') (alike : g.Alike g')
    (apart : ∀ x, g'.alive x = g.alive x ∨ g''.alive x = g'.alive x) : Reports g (changes ++ changes') g'' := by
  constructor
  case once =>
    rw [List.map_append, List.nodup_append]
    refine ⟨reports.once, reports'.once, ?_⟩
    intro x early _ late equal
    subst equal
    obtain ⟨change, mem, rfl⟩ := List.mem_map.mp early
    obtain ⟨change', mem', same⟩ := List.mem_map.mp late
    obtain ⟨-, before, after⟩ := (reports.mem_iff change).mp mem
    obtain ⟨-, before', after'⟩ := (reports'.mem_iff change').mp mem'
    rw [same] at before' after'
    obtain kept | kept := apart change.id
    · simp [before, after] at kept
    · simp [before', after'] at kept
  case mem_iff =>
    intro change
    rw [List.mem_append, reports.mem_iff, reports'.mem_iff, alike.kind?]
    obtain kept | kept := apart change.id
    · rw [kept]
      grind
    · rw [kept]
      grind

end Graph

namespace Run
variable {active : Bool} {s t : EntityId → Prop} {g g' : Graph} {changes : List StateChange} {x : EntityId}

theorem upToFlags (run : Run (Action.Flags active s) g changes g') : g.UpToFlags g' := by
  induction run with
  | nil => exact .refl
  | cons _ allowed _ ih =>
    obtain ⟨id, kind, rfl, -⟩ := allowed
    exact Graph.UpToFlags.reflag.trans ih

theorem alike (run : Run (Action.Flags active s) g changes g') : g.Alike g' := run.upToFlags.alike

/-- A flag keeps its value unless it is one of those that the run sets. -/
theorem alive_eq_or (run : Run (Action.Flags active s) g changes g') :
    g'.alive x = g.alive x ∨ s x ∧ g'.alive x = active := by
  induction run with
  | nil => exact .inl rfl
  | cons _ allowed _ ih =>
    obtain ⟨id, kind, rfl, mine⟩ := allowed
    obtain same | changed := ih
    · rw [same, Action.act, Graph.alive_reflag]
      split
      · rename_i here
        exact .inr ⟨here.1 ▸ mine, rfl⟩
      · exact .inl rfl
    · exact .inr changed

/-- A flag that has the value a run sets keeps it. -/
theorem alive_of_set (run : Run (Action.Flags active s) g changes g') (h : g.alive x = active) :
    g'.alive x = active := by
  obtain same | ⟨-, set⟩ := run.alive_eq_or (x := x)
  · rwa [same]
  · exact set

theorem alive_of_raised (run : Run (Action.Flags true s) g changes g') (h : g.alive x = true) :
    g'.alive x = true := run.alive_of_set h

theorem not_alive_of_lowered (run : Run (Action.Flags false s) g changes g') (h : g.alive x = false) :
    g'.alive x = false := run.alive_of_set h

theorem alive_before (run : Run (Action.Flags false s) g changes g') (h : g'.alive x = true) :
    g.alive x = true := by
  cases before : g.alive x
  · rw [run.not_alive_of_lowered before] at h
    cases h
  · rfl

/-- No flag is set twice, and every flag that differs was set. -/
theorem reports (run : Run (Action.Flags active s) g changes g') : g.Reports changes g' := by
  induction run with
  | nil =>
    refine ⟨List.nodup_nil, fun change => ?_⟩
    simp only [List.not_mem_nil, false_iff]
    intro told
    obtain ⟨-, before, after⟩ := told
    simp [before] at after
  | @cons g g' _ told enabled allowed rest ih =>
    obtain ⟨id, kind, rfl, -⟩ := allowed
    obtain ⟨known, before⟩ := enabled
    have here : (g.reflag id active).alive id = active := Graph.alive_reflag_self known
    have after : g'.alive id = active := rest.alive_of_set here
    have later : ∀ change ∈ told, change.id ≠ id := fun change mem same => by
      obtain ⟨-, earlier, last⟩ := (ih.mem_iff change).mp mem
      rw [same] at earlier last
      simp [Action.act, here, ← last, after] at earlier
    constructor
    case once =>
      rw [Action.changes, List.singleton_append, List.map_cons, List.nodup_cons]
      refine ⟨fun mem => ?_, ih.once⟩
      obtain ⟨change, mem, same⟩ := List.mem_map.mp mem
      exact later change mem same
    case mem_iff =>
      intro change
      rw [Action.changes, List.singleton_append, List.mem_cons]
      constructor
      · intro first
        obtain rfl | mem := first
        · exact ⟨known, before, after⟩
        · obtain ⟨knownc, earlier, last⟩ := (ih.mem_iff change).mp mem
          rw [Action.act, Graph.alive_reflag, if_neg (fun both => later change mem both.1.symm)] at earlier
          exact ⟨by rwa [Action.act, Graph.Alike.reflag.kind?] at knownc, earlier, last⟩
      · intro differs
        obtain ⟨knownc, earlier, last⟩ := differs
        by_cases same : change.id = id
        · obtain ⟨id', kind', active'⟩ := change
          obtain rfl : id' = id := same
          obtain rfl := Graph.kind_unique known knownc
          obtain rfl : active = active' := after.symm.trans last
          exact .inl rfl
        · refine .inr ((ih.mem_iff change).mpr ⟨?_, ?_, last⟩)
          · rwa [Action.act, Graph.Alike.reflag.kind?]
          · rwa [Action.act, Graph.alive_reflag, if_neg fun both => same both.1.symm]

theorem active_of_flags (run : Run (Action.Flags active s) g changes g') :
    ∀ change ∈ changes, change.active = active := by
  refine run.forall_changes _ fun _ _ allowed change mem => ?_
  obtain ⟨id, kind, rfl, -⟩ := allowed
  rw [List.mem_singleton.mp mem]

theorem flags_mono (run : Run (Action.Flags active s) g changes g') (sub : ∀ x, s x → t x) :
    Run (Action.Flags active t) g changes g' :=
  run.mono fun _ _ ⟨id, kind, flagged, mine⟩ => ⟨id, kind, flagged, sub id mine⟩

end Run

namespace Graph
open Update
variable {g : Graph} {id x y : EntityId} {kind : EntityKind} {ids : List EntityId}

theorem flag_ends {active : Bool} : (flag id active).Ends g
    (fun changes g' => ∃ kind, g.kind? id = some kind ∧
      ((g.alive id = active ∧ changes = [] ∧ g' = g) ∨
        (g.alive id = !active ∧ changes = [⟨id, kind, active⟩] ∧ g' = g.reflag id active)))
    (fun _ g' => g.kind? id = none ∧ g' = g) := by
  rw [flag, ends_bind]
  refine setActive_ends.imp ?_ fun e g' fails => ⟨fails.1, fails.2.2⟩
  intro changed g' held
  obtain ⟨kind, known, rfl, rfl⟩ := held
  split
  · rename_i changed
    have known' : (g.reflag id active).kind? id = some kind := by rw [Alike.reflag.kind?, known]
    rw [ends_bind, ends_read]
    constructor
    · intro entity found
      have same := kind?_of_entity? (lookup_eq_ok.mp found)
      rw [known'] at same
      cases same
      exact ⟨_, known, .inr ⟨by simpa [← Bool.eq_not] using changed, rfl, rfl⟩⟩
    · intro e missing
      rw [kind?_eq_none.mpr (lookup_eq_error.mp missing).1] at known'
      cases known'
  · rename_i same
    exact ⟨kind, known, .inl ⟨by simpa using same, rfl, rfl⟩⟩

theorem run_reflag {active : Bool} (known : g.kind? id = some kind) (other : g.alive id = !active) :
    Run (Action.Flags active (· = id)) g [⟨id, kind, active⟩] (g.reflag id active) :=
  Run.single (a := .flagged id kind active) ⟨known, other⟩ ⟨id, kind, rfl, rfl⟩

/-- Setting a flag of an existing entity is a run of at most one action. -/
theorem flag_run {active : Bool} {s : EntityId → Prop} (known : g.kind? id = some kind) (mine : s id) :
    (flag id active).Ends g
      (fun changes g' => Run (Action.Flags active s) g changes g' ∧ g'.alive id = active ∧
        (changes = [] ↔ g.alive id = active))
      fun _ _ => False := by
  refine flag_ends.imp ?_ fun e g' fails => by simp [known] at fails
  intro changes g' held
  obtain ⟨kind', known', ⟨same, rfl, rfl⟩ | ⟨other, rfl, rfl⟩⟩ := held
  · exact ⟨.nil, same, by simp [same]⟩
  · refine ⟨(run_reflag known' other).flags_mono ?_, alive_reflag_self known', by simp [other]⟩
    rintro x rfl
    exact mine

/-! ### Lists of neighbors -/

theorem mem_children : y ∈ g.children x kind ↔ ∃ k ∈ kind.derivedFrom, y ∈ g.neighbors x k := by
  simp [children]

theorem mem_sustained : y ∈ g.sustained x kind ↔ ∃ k ∈ kind.sustains, y ∈ g.neighbors x k := by
  simp [sustained]

theorem mem_endpointsOf : y ∈ g.endpointsOf x ↔ ∃ k, k.isEndpoint ∧ y ∈ g.neighbors x k := by
  simp [endpointsOf]

/-- Entities that exist can all be asked for their flags. -/
theorem anyActive_eq (known : ∀ x ∈ ids, ∃ k, g.kind? x = some k) :
    g.anyActive ids = .ok (ids.any g.alive) := by
  induction ids with
  | nil => rfl
  | cons id ids ih =>
    obtain ⟨k, here⟩ := known id (by simp)
    have rest := ih fun x mem => known x (by simp [mem])
    simp only [anyActive, isActive_of_kind? here, Bind.bind, Except.bind, List.any_cons]
    cases g.alive id
    · simpa using rest
    · rfl

theorem inactiveOf_eq (known : ∀ x ∈ ids, ∃ k, g.kind? x = some k) :
    g.inactiveOf ids = .ok (ids.filter (! g.alive ·)) := by
  induction ids with
  | nil => rfl
  | cons id ids ih =>
    obtain ⟨k, here⟩ := known id (by simp)
    have rest := ih fun x mem => known x (by simp [mem])
    simp only [inactiveOf, isActive_of_kind? here, rest, Bind.bind, Except.bind, List.filter_cons]
    cases g.alive id <;> rfl

theorem hasActiveChild_eq (wf : g.WellFormed) :
    g.hasActiveChild id kind = .ok ((g.children id kind).any g.alive) := by
  apply anyActive_eq
  intro x mem
  obtain ⟨k, -, mem⟩ := mem_children.mp mem
  exact ⟨k, wf.kind?_of_mem mem⟩

end Graph
end DiscoveryGraph
