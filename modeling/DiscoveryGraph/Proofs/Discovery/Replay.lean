import DiscoveryGraph.Proofs.Discovery.Clearance
import DiscoveryGraph.Proofs.Discovery.Ingestion

/-! The changes that an accepted notification returns tell, one after the other, how the old graph became
the new one: each of them is of an entity that comes or of a flag that flips, and in the end every entity
of the new graph has been told of with its flag. -/
namespace DiscoveryGraph

/-- What is known of entities: of those that are there, the kind and the flag. -/
abbrev Standing := EntityId → Option (EntityKind × Bool)

/-- What is known once a change has been heard of. -/
def Standing.enter (standing : Standing) (change : StateChange) : Standing := fun x =>
  if change.id = x then some (change.kind, change.active) else standing x

/-- Changes are told in an order in which each of them makes sense, and lead from what was known before to
what is known afterwards. -/
inductive Recounts : Standing → List StateChange → Standing → Prop
  | nil {before : Standing} : Recounts before [] before
  /-- An entity that nobody has heard of comes, and it comes as active. -/
  | comes {before behind : Standing} {change : StateChange} {changes : List StateChange} :
      before change.id = none → change.active = true →
      Recounts (before.enter change) changes behind → Recounts before (change :: changes) behind
  /-- An entity that is there has its flag changed. -/
  | flips {before behind : Standing} {change : StateChange} {changes : List StateChange} :
      before change.id = some (change.kind, !change.active) →
      Recounts (before.enter change) changes behind → Recounts before (change :: changes) behind

namespace Recounts
variable {before between behind : Standing} {change change' : StateChange} {changes changes' : List StateChange}
    {x : EntityId} {k : EntityKind} {active : Bool}

theorem trans (first : Recounts before changes between) (second : Recounts between changes' behind) :
    Recounts before (changes ++ changes') behind := by
  induction first with
  | nil => exact second
  | comes unknown active _ ih => exact .comes unknown active (ih second)
  | flips known _ ih => exact .flips known (ih second)

/-- What is told in two parts is known by halves in between. -/
theorem exists_of_append (recounts : Recounts before (changes ++ changes') behind) :
    ∃ between, Recounts before changes between ∧ Recounts between changes' behind := by
  induction changes generalizing before with
  | nil => exact ⟨before, .nil, recounts⟩
  | cons change changes ih =>
    cases recounts with
    | comes unknown active rest =>
      obtain ⟨between, first, second⟩ := ih rest
      exact ⟨between, .comes unknown active first, second⟩
    | flips known rest =>
      obtain ⟨between, first, second⟩ := ih rest
      exact ⟨between, .flips known first, second⟩

/-- An entity keeps its kind. -/
theorem keeps (recounts : Recounts before changes behind) (known : before x = some (k, active)) :
    ∃ active, behind x = some (k, active) := by
  induction recounts generalizing active with
  | nil => exact ⟨active, known⟩
  | @comes before _ change _ unknown _ _ ih =>
    have other : change.id ≠ x := by
      rintro rfl
      rw [unknown] at known
      cases known
    exact ih (by rw [Standing.enter, if_neg other, known])
  | @flips before _ change _ there _ ih =>
    by_cases here : change.id = x
    · subst here
      rw [there] at known
      cases known
      exact ih (by rw [Standing.enter, if_pos rfl])
    · exact ih (by rw [Standing.enter, if_neg here, known])

/-- Whatever is told of is there in the end, and of the kind that is told. -/
theorem known_of_mem (recounts : Recounts before changes behind) (mem : change ∈ changes) :
    ∃ active, behind change.id = some (change.kind, active) := by
  induction recounts with
  | nil => cases mem
  | comes _ _ rest ih | flips _ rest ih =>
    obtain rfl | later := List.mem_cons.mp mem
    · exact rest.keeps (by rw [Standing.enter, if_pos rfl])
    · exact ih later

theorem kind_unique (recounts : Recounts before changes behind) (mem : change ∈ changes)
    (mem' : change' ∈ changes) (same : change.id = change'.id) : change.kind = change'.kind := by
  obtain ⟨active, known⟩ := recounts.known_of_mem mem
  obtain ⟨active', known'⟩ := recounts.known_of_mem mem'
  rw [same, known'] at known
  exact (Prod.mk.inj (Option.some.inj known)).1.symm

theorem tail (recounts : Recounts before (change :: changes) behind) :
    Recounts (before.enter change) changes behind := by
  cases recounts <;> assumption

/-- What has a flag already is not told to get it. -/
theorem ne_of_known (recounts : Recounts before (change :: changes) behind)
    (known : before x = some (k, change.active)) : change.id ≠ x := by
  rintro rfl
  cases recounts with
  | comes unknown =>
    rw [unknown] at known
    cases known
  | flips there =>
    rw [there] at known
    simp at known

theorem not_mem_of_known (recounts : Recounts before changes behind) (known : before x = some (k, active))
    (same : ∀ change ∈ changes, change.id = x → change.active = active) : x ∉ changes.map (·.id) := by
  induction changes generalizing before with
  | nil => simp
  | cons change changes ih =>
    have other : change.id ≠ x := by
      intro here
      refine recounts.ne_of_known (k := k) ?_ here
      rw [known, same change (by simp) here]
    rw [List.map_cons, List.mem_cons, not_or]
    refine ⟨Ne.symm other, ih recounts.tail ?_ fun later mem => same later (by simp [mem])⟩
    rw [Standing.enter, if_neg other, known]

/-- What is told of with one flag only is told of once at most. -/
theorem count_le_one (recounts : Recounts before changes behind)
    (same : ∀ change ∈ changes, change.id = x → change.active = active) : (changes.map (·.id)).count x ≤ 1 := by
  induction changes generalizing before with
  | nil => simp
  | cons change changes ih =>
    have later : ∀ change ∈ changes, change.id = x → change.active = active := fun later mem =>
      same later (by simp [mem])
    by_cases here : change.id = x
    · have absent : x ∉ changes.map (·.id) := by
        refine recounts.tail.not_mem_of_known (k := change.kind) ?_ later
        rw [Standing.enter, if_pos here, same change (by simp) here]
      simp [here, List.count_eq_zero.mpr absent]
    · rw [List.map_cons, List.count_cons_of_ne here]
      exact ih recounts.tail later

/-- What is known in the end is what is known once everything has been heard of. -/
theorem foldl_eq (recounts : Recounts before changes behind) : changes.foldl Standing.enter before = behind := by
  induction recounts with
  | nil => rfl
  | comes _ _ _ ih | flips _ _ ih => exact ih

end Recounts

/-! ### Runs -/

/-- The kinds and flags of the entities of a graph. -/
def Graph.standing (g : Graph) : Standing := fun x => (g.entity? x).map fun entity => (entity.kind, entity.active)

section Runs
open DiscoveryGraph.Graph
variable {p : Graph → Action → Prop} {g h : Graph} {a : Action} {changes : List StateChange} {x : EntityId}

/-- An action is told by its changes, unless it forgets an entity. -/
theorem Action.recounts (wf : g.WellFormed) (enabled : a.Enabled g) (keeps : ∀ entity, a ≠ .forgotten entity) :
    Recounts g.standing a.changes (a.act g).standing := by
  cases a with
  | born entity edges =>
    obtain ⟨next, -, active, -⟩ := enabled
    have after : ((Action.born entity edges).act g).standing =
        g.standing.enter ⟨entity.id, entity.kind, true⟩ := by
      funext x
      rw [Graph.standing, Action.act, entity?_links, entity?_add, Standing.enter]
      split
      · rw [Option.map_some, active]
      · rfl
    rw [after]
    exact .comes (by rw [Graph.standing, kind?_eq_none.mp (wf.fresh next)]; rfl) rfl .nil
  | linked | unlinked => exact .nil
  | flagged id kind active =>
    obtain ⟨known, other⟩ := enabled
    obtain ⟨entity, found, rfl⟩ := kind?_eq_some.mp known
    have after : (g.reflag id active).standing = g.standing.enter ⟨id, entity.kind, active⟩ := by
      funext x
      rw [Graph.standing, entity?_reflag, Standing.enter]
      split
      · rename_i here
        rw [← here, found]
        rfl
      · rfl
    rw [Action.act, after]
    rw [alive_of_entity? found] at other
    exact .flips (by rw [Graph.standing, found, Option.map_some, other]) .nil
  | forgotten entity => exact absurd rfl (keeps entity)

/-- A run that forgets nothing is told by its changes. -/
theorem Run.recounts (run : Run p g changes h) (wf : g.WellFormed)
    (keeps : ∀ g a, p g a → ∀ entity, a ≠ .forgotten entity) : Recounts g.standing changes h.standing := by
  induction run with
  | nil => exact .nil
  | cons enabled allowed _ ih =>
    exact (Action.recounts wf enabled (keeps _ _ allowed)).trans (ih (Action.wellFormed_act wf enabled))

theorem Run.mem_of_marks {s : EntityId → Prop} (run : Run (Action.Marks s) g changes h) :
    ∀ change ∈ changes, s change.id := by
  refine run.forall_changes _ fun _ _ allowed change mem => ?_
  obtain ⟨id, kind, active, rfl, mine⟩ := allowed
  rw [List.mem_singleton.mp mem]
  exact mine

theorem Run.active_of_rebinds {e : EntityId} (run : Run (Action.Rebinds e) g changes h) :
    ∀ change ∈ changes, change.active = true := by
  refine run.forall_changes _ fun _ a allowed change mem => ?_
  cases a with
  | born => rw [List.mem_singleton.mp mem]
  | linked | unlinked => cases mem
  | flagged | forgotten => exact allowed.elim

end Runs

/-! ### Stages -/

namespace Graph
variable {g g' h : Graph} {d e : EntityId} {k : EntityKind} {n : Notification} {r : Resolved}
    {existing : Option EntityId} {changes : List StateChange}

theorem Resolves.active {found : Option EntityId} {name : String} {attributes : Attributes}
    {edges : EntityId → List Edge} (resolves : Resolves g found k name attributes edges r h) :
    ∀ change ∈ r.changes, change.active = true := by
  cases resolves <;> simp

/-- What is created is created active. -/
theorem Announced.active (announces : Announced g n existing r h) (wf : g.WellFormed) :
    ∀ change ∈ r.changes, change.active = true := by
  cases existing with
  | some id => simp [announces.1]
  | none =>
    exact announces.composed (fun _ changes _ => ∀ change ∈ changes, change.active = true) (by simp)
      (fun first second => by simpa [or_imp, forall_and] using ⟨first, second⟩) (fun _ _ resolves => resolves.active) wf

/-- The changes of an accepted notification. -/
structure Account (g : Graph) (n : Notification) (changes : List StateChange) (h : Graph) : Prop where
  recounts : Recounts g.standing changes h.standing
  replay : changes.foldl Standing.enter g.standing = h.standing
  once : ∀ change ∈ changes, change.kind ≠ .locator → (changes.map (·.id)).count change.id = 1
  twice : ∀ change ∈ changes, (changes.map (·.id)).count change.id ≤ 2
  flags : ∀ change ∈ changes, change.kind ≠ .locator → (change.active = true ↔ n.status ≠ .removed)

theorem kind?_of_standing {x : EntityId} {active : Bool} (known : g.standing x = some (k, active)) :
    g.kind? x = some k := by
  obtain ⟨entity, found, same⟩ := Option.map_eq_some_iff.mp known
  rw [kind?_of_entity? found, (Prod.mk.inj same).1]

theorem Rederived.kind_of_mem {ids : IdSet} (sets : Rederived g ids changes h) {before : Standing}
    (recounts : Recounts before changes h.standing) : ∀ change ∈ changes, change.kind = .locator := by
  intro change mem
  obtain ⟨active, known⟩ := recounts.known_of_mem mem
  have locator := sets.locators _ (sets.run.mem_of_marks change mem)
  rw [← sets.run.alike_of_marks.kind?] at locator
  exact kind_unique (kind?_of_standing known) locator

/-- Everything is raised first, as far as it is not active; after that, locators are set, each of them at
most once. -/
theorem Presents.account (presents : Presents g n existing changes h) (wf : g.WellFormed)
    (recounts : Recounts g.standing changes h.standing) (present : n.status ≠ .removed) : g.Account n changes h := by
  cases presents with
  | @done _ _ g₃ _ announced touched appeared rederived announces _ rebound appears sets =>
  have raised : ∀ change ∈ announced.changes ++ touched.changes ++ appeared, change.active = true := by
    simp only [List.mem_append]
    rintro change ((mem | mem) | mem)
    · exact announces.active wf change mem
    · exact rebound.run.active_of_rebinds change mem
    · exact appears.raised.active_of_flags change mem
  obtain ⟨between, first, second⟩ := recounts.exists_of_append
  have locators := sets.kind_of_mem second
  have raisedOnce : ∀ x, ((announced.changes ++ touched.changes ++ appeared).map (·.id)).count x ≤ 1 := fun x =>
    first.count_le_one fun change mem _ => raised change mem
  have setOnce : ∀ x, (rederived.map (·.id)).count x ≤ 1 := fun x =>
    second.count_le_one fun change mem here => by rw [sets.told change mem, here]
  refine ⟨recounts, recounts.foldl_eq, fun change mem other => ?_, fun change _ => ?_, fun change mem other => ?_⟩
  · have unset : change.id ∉ rederived.map (·.id) := by
      intro set
      obtain ⟨later, mem', same⟩ := List.mem_map.mp set
      have agree := recounts.kind_unique mem (List.mem_append_right _ mem') same.symm
      exact other (agree.trans (locators later mem'))
    have here : 0 < ((announced.changes ++ touched.changes ++ appeared ++ rederived).map (·.id)).count change.id :=
      List.count_pos_iff.mpr (List.mem_map_of_mem mem)
    rw [List.map_append, List.count_append, List.count_eq_zero.mpr unset] at here ⊢
    exact Nat.le_antisymm (raisedOnce change.id) here
  · rw [List.map_append, List.count_append]
    exact Nat.add_le_add (raisedOnce change.id) (setOnce change.id)
  · obtain mem | mem := List.mem_append.mp mem
    · simp [raised change mem, present]
    · exact absurd (locators change mem) other

/-- A removal only lowers flags. -/
theorem Removes.account {id : EntityId} (removes : Removes g id changes h)
    (recounts : Recounts g.standing changes h.standing) (removed : n.status = .removed) : g.Account n changes h := by
  have lowered := removes.lowered.active_of_flags
  have once : ∀ x, (changes.map (·.id)).count x ≤ 1 := fun x =>
    recounts.count_le_one fun change mem _ => lowered change mem
  refine ⟨recounts, recounts.foldl_eq, fun change mem _ => ?_, fun change _ => ?_, fun change mem _ => ?_⟩
  · exact Nat.le_antisymm (once change.id) (List.count_pos_iff.mpr (List.mem_map_of_mem mem))
  · exact Nat.le_trans (once change.id) (by decide)
  · simp [lowered change mem, removed]

theorem Ingests.account (ingests : Ingests g n changes h) (wf : g.WellFormed) : g.Account n changes h := by
  cases ingests with
  | present _ present presents run =>
    exact presents.account wf (run.recounts wf fun _ _ discovers => discovers.1.not_forgotten) present
  | removal _ removed removes =>
    refine removes.account (removes.lowered.recounts wf fun _ _ flags entity => ?_) removed
    obtain ⟨id, kind, rfl, -⟩ := flags
    simp

/-- What an accepted notification returns leads from the entities and flags of a graph that was built to
those of the graph that it becomes. Only a locator is told of twice, and everything else is told to be
active, or inactive if the notification is of a removal. -/
theorem Built.ingest_account (built : g.Built) (accepted : ingest n g = .ok changes h) : g.Account n changes h := by
  have wf := built.wellFormed
  exact ((ingest_ends wf).of_ok accepted).2.account wf

/-- A reader that has gone is announced to have another locator. The locator is created, and so active at
first, and set inactive then with the reader that it is bound to. -/
theorem Built.ingest_account_updated :
    let reader (status : Status) (locator : String) : Notification :=
      ⟨⟨1⟩, status, .reader ⟨⟨.replicate 16 1⟩, "reader",
        ⟨⟨.replicate 16 2⟩, "node", "host", "user", "process", none⟩, ⟨"square", "ShapeType"⟩, [locator]⟩⟩
    let g := [.create .domain "0" (.domain 0), .ingest (reader .discovered "udp:1"),
      .ingest (reader .removed "udp:1")].foldl Operation.act ∅
    g.Built ∧ ∃ changes h, ingest (reader .updated "udp:2") g = .ok changes h ∧
      g.Account (reader .updated "udp:2") changes h ∧
      changes = [⟨⟨9⟩, .locator, true⟩, ⟨⟨9⟩, .locator, false⟩] := by
  intro reader g
  have built : g.Built := Built.empty.foldl _
  have told : (match ingest (reader .updated "udp:2") g with
      | .ok changes _ => some changes
      | .error .. => none) = some [⟨⟨9⟩, .locator, true⟩, ⟨⟨9⟩, .locator, false⟩] := by decide +kernel
  clear_value g
  cases accepted : ingest (reader .updated "udp:2") g with
  | ok changes h =>
    rw [accepted] at told
    exact ⟨built, changes, h, rfl, Built.ingest_account built accepted, Option.some.inj told⟩
  | error e h =>
    rw [accepted] at told
    cases told

end Graph
end DiscoveryGraph
