import DiscoveryGraph.Discovery.Validation
import DiscoveryGraph.Proofs.Graph.Key

/-! Lookups are searches for keys. Each one takes the first entity, in ascending order, that has the
key it looks for, and so its answer depends on nothing but on who has that key. -/
namespace DiscoveryGraph

/-- The answer of a search that takes the first match. -/
def Answers (p : EntityId → Prop) : Option EntityId → Prop
  | none => ∀ x, ¬ p x
  | some x => p x ∧ ∀ y, p y → (compare x y).isLE

namespace Answers
variable {p q : EntityId → Prop} {found found' : Option EntityId} {x : EntityId}

theorem congr (answers : Answers p found) (same : ∀ x, q x ↔ p x) : Answers q found := by
  obtain rfl : q = p := funext fun x => propext (same x)
  exact answers

/-- There is one answer to a search. -/
theorem eq (answers : Answers p found) (answers' : Answers p found') : found = found' := by
  cases found with
  | none =>
    cases found' with
    | none => rfl
    | some y => exact absurd answers'.1 (answers y)
  | some x =>
    cases found' with
    | none => exact absurd answers.1 (answers' x)
    | some y =>
      have same := Std.OrientedCmp.isLE_antisymm (answers.2 y answers'.1) (answers'.2 x answers.1)
      rw [Std.LawfulEqOrd.eq_of_compare same]

theorem holds (answers : Answers p found) (same : found = some x) : p x := by
  subst same
  exact answers.1

/-- The only match is what a search finds. -/
theorem of_only (only : ∀ y, p y ↔ y = x) : Answers p (some x) := by
  refine ⟨(only x).mpr rfl, fun y held => ?_⟩
  rw [(only y).mp held]
  exact Std.ReflCmp.isLE_rfl

/-- The first match in a set. -/
theorem find? (ids : IdSet) (p : EntityId → Bool) :
    Answers (fun x => x ∈ ids ∧ p x = true) (ids.toList.find? p) := by
  cases found : ids.toList.find? p with
  | none =>
    rw [List.find?_eq_none] at found
    exact fun x held => found x (Std.ExtTreeSet.mem_toList.mpr held.1) held.2
  | some x =>
    obtain ⟨held, before, behind, split, missed⟩ := List.find?_eq_some_iff_append.mp found
    have ordered := ids.ordered_toList
    rw [split, List.pairwise_append, List.pairwise_cons] at ordered
    have mem : ∀ y, y ∈ ids ↔ y ∈ before ++ x :: behind := fun y => by
      rw [← split, Std.ExtTreeSet.mem_toList]
    refine ⟨⟨(mem x).mpr (by simp), held⟩, fun y there => ?_⟩
    obtain ⟨there, held'⟩ := there
    rw [mem, List.mem_append, List.mem_cons] at there
    obtain early | rfl | late := there
    · exact absurd (missed y early) (by simp [held'])
    · exact Std.ReflCmp.isLE_rfl
    · rw [ordered.2.1.1 y late]
      rfl

theorem first? (ids : IdSet) : Answers (· ∈ ids) ids.first? := by
  have answers := find? ids fun _ => true
  rw [← List.head?_filter, List.filter_eq_self.mpr (by simp)] at answers
  exact answers.congr fun x => by simp

end Answers

namespace Graph
variable {g : Graph} {x y d : EntityId} {k kind : EntityKind} {name : String} {key : Key}

theorem nameOf?_eq_some : g.nameOf? x = some name ↔ ∃ entity, g.entity? x = some entity ∧ entity.name = name := by
  simp [nameOf?]

theorem findHost_answers (wf : g.WellFormed) (name : String) :
    Answers (g.HasKey · (.host name)) (g.findGlobal .host name) := by
  refine (Answers.first? (g.named .host name)).congr fun x => ?_
  simp [wf.named_iff, HasKey]

theorem findLocator_answers (wf : g.WellFormed) (address : String) :
    Answers (g.HasKey · (.locator address)) (g.findGlobal .locator address) := by
  refine (Answers.first? (g.named .locator address)).congr fun x => ?_
  simp [wf.named_iff, HasKey]

/-- A child is known by its name below its parent. -/
theorem mem_neighbors_and_named (wf : g.WellFormed) (known : g.kind? y = some kind) :
    x ∈ g.neighbors y k ∧ g.nameOf? x = some name ↔
      ∃ entity, g.entity? x = some entity ∧ (entity.kind = k ∧ entity.name = name) ∧ y ∈ g.neighbors x kind := by
  rw [nameOf?_eq_some]
  constructor
  · intro held
    obtain ⟨near, entity, found, rfl⟩ := held
    exact ⟨entity, found, ⟨kind_unique (kind?_of_entity? found) (wf.kind?_of_mem near), rfl⟩, wf.mem_symm near known⟩
  · intro held
    obtain ⟨entity, found, ⟨rfl, rfl⟩, near⟩ := held
    exact ⟨wf.mem_symm near (kind?_of_entity? found), entity, found, rfl⟩

theorem findUser_answers (wf : g.WellFormed) (known : g.kind? y = some .host) :
    Answers (g.HasKey · (.user y name)) (g.findChild y .user name) := by
  refine (Answers.find? (g.neighbors y .user) _).congr fun x => ?_
  rw [decide_eq_true_eq, mem_neighbors_and_named wf known]
  simp [HasKey]

theorem findProcess_answers (wf : g.WellFormed) (known : g.kind? y = some .user) :
    Answers (g.HasKey · (.process y name)) (g.findChild y .process name) := by
  refine (Answers.find? (g.neighbors y .process) _).congr fun x => ?_
  rw [decide_eq_true_eq, mem_neighbors_and_named wf known]
  simp [HasKey]

theorem findTopic_answers (wf : g.WellFormed) {info : TopicInfo} :
    Answers (g.HasKey · (.topic d info.name info.dataType)) (g.findTopic d info) := by
  refine (Answers.find? (g.named .topic info.name) _).congr fun x => ?_
  simp only [wf.named_iff, HasKey, Key.Fits, Key.parent?, Bool.and_eq_true, ← Std.ExtTreeSet.mem_iff_contains,
    Option.any_eq_true, decide_eq_true_eq]
  grind

theorem findByGuid_answers (wf : g.WellFormed) {kinds : List EntityKind} {guid : Guid} :
    Answers (fun x => ∃ entity, g.entity? x = some entity ∧ entity.kind ∈ kinds ∧ entity.guid? = some guid)
      ((g.findByGuid kinds guid).map (·.1)) := by
  have search : (g.findByGuid kinds guid).map (·.1) =
      (g.withGuid guid).toList.find? fun id => (g.entity? id).any (·.kind ∈ kinds) := by
    unfold findByGuid
    induction (g.withGuid guid).toList with
    | nil => rfl
    | cons id ids ih =>
      rw [List.findSome?_cons, List.find?_cons]
      cases g.entity? id with
      | none => simpa using ih
      | some entity => by_cases listed : entity.kind ∈ kinds <;> simp [listed, ih]
  rw [search]
  refine (Answers.find? (g.withGuid guid) _).congr fun x => ?_
  simp only [wf.withGuid_iff, Option.any_eq_true, decide_eq_true_eq]
  grind

theorem findParticipant_answers (wf : g.WellFormed) (guid : Guid) :
    Answers (g.HasKey · (.participant guid)) ((g.findByGuid [.participant] guid).map (·.1)) := by
  refine (findByGuid_answers wf).congr fun x => ?_
  simp [HasKey]

theorem findEndpoint_answers (wf : g.WellFormed) (guid : Guid) :
    Answers (g.HasKey · (.endpoint guid)) ((g.findByGuid EntityKind.endpoints guid).map (·.1)) := by
  refine (findByGuid_answers wf).congr fun x => ?_
  simp [HasKey]

/-- The only one who has a key is who is found by it. -/
theorem Identified.answers (identified : g.Identified) (has : g.HasKey x key) :
    Answers (g.HasKey · key) (some x) := by
  refine Answers.of_only fun y => ⟨fun has' => identified.unique y x key has' has, fun same => ?_⟩
  rwa [same]

end Graph
end DiscoveryGraph
