import DiscoveryGraph.Proofs.Discovery.Operation
import DiscoveryGraph.Proofs.Graph.EdgeSet

/-! Binding and releasing two entities, on the set of undirected edges. Neither asks which of the two is
named first: what they answer and the graph they leave depend on the pair alone. -/
namespace DiscoveryGraph
namespace Graph
open Update
variable {g h h' : Graph} {a b : EntityId} {edge : Edge} {pair : Sym2 EntityId} {answer answer' : Option Bool}

/-- An edge between the two entities is legal and absent, and its child has no parent in its place. -/
def Bindable (g : Graph) (a b : EntityId) : Prop :=
  ∃ edge : Edge, edge.Legal g ∧ edge.ends = s(a, b) ∧ s(a, b) ∉ g.edgeSet ∧
    (edge.rule.kind = .locatorBinding ∨ ∀ y, y ∉ g.neighbors edge.child edge.rule.parent)

/-- The edge that two entities may share is one between an endpoint and a locator. -/
def Separable (g : Graph) (a b : EntityId) : Prop :=
  ∃ edge : Edge, edge.Legal g ∧ edge.ends = s(a, b) ∧ edge.rule.kind = .locatorBinding

theorem vacant_iff : edge.Vacant g ↔
    edge.rule.kind = .locatorBinding ∨ ∀ y, y ∉ g.neighbors edge.child edge.rule.parent := by
  rw [Edge.Vacant, EdgeKind.isSingleParent, bne_iff_ne, imp_iff_not_or, not_not]

theorem bindable_iff : g.Bindable a b ↔
    ∃ edge : Edge, edge.Legal g ∧ edge.ends = s(a, b) ∧ s(a, b) ∉ g.edgeSet ∧ edge.Vacant g := by
  simp only [Bindable, vacant_iff]

/-! ### One outcome for a pair -/

/-- What binding a pair answers, and the graph it leaves. -/
inductive Binding (g : Graph) (pair : Sym2 EntityId) : Option Bool → Graph → Prop
  | present : pair ∈ g.edgeSet → Binding g pair (some false) g
  | added {edge : Edge} : edge.Legal g → edge.ends = pair → pair ∉ g.edgeSet → edge.Vacant g →
      Binding g pair (some true) (g.link edge)
  | refused : pair ∉ g.edgeSet → (∀ edge : Edge, edge.Legal g → edge.ends = pair → ¬ edge.Vacant g) →
      Binding g pair none g

/-- What releasing a pair answers, and the graph it leaves. -/
inductive Releasing (g : Graph) (pair : Sym2 EntityId) : Option Bool → Graph → Prop
  | removed {edge : Edge} : edge.Legal g → edge.ends = pair → edge.rule.kind = .locatorBinding →
      pair ∈ g.edgeSet → Releasing g pair (some true) (g.unlink edge)
  | absent {edge : Edge} : edge.Legal g → edge.ends = pair → edge.rule.kind = .locatorBinding →
      pair ∉ g.edgeSet → Releasing g pair (some false) g
  | refused : (∀ edge : Edge, edge.Legal g → edge.ends = pair → edge.rule.kind ≠ .locatorBinding) →
      Releasing g pair none g

theorem Binding.unique (binding : g.Binding pair answer h) (binding' : g.Binding pair answer' h') :
    answer = answer' ∧ h = h' := by
  cases binding with
  | present mem =>
    cases binding' with
    | present => exact ⟨rfl, rfl⟩
    | added _ _ absent => exact absurd mem absent
    | refused absent => exact absurd mem absent
  | added legal same absent vacant =>
    cases binding' with
    | present mem => exact absurd mem absent
    | added legal' same' =>
      obtain rfl := legal_unique legal legal' (same.trans same'.symm)
      exact ⟨rfl, rfl⟩
    | refused _ taken => exact absurd vacant (taken _ legal same)
  | refused absent taken =>
    cases binding' with
    | present mem => exact absurd mem absent
    | added legal' same' _ vacant => exact absurd vacant (taken _ legal' same')
    | refused => exact ⟨rfl, rfl⟩

theorem Releasing.unique (releasing : g.Releasing pair answer h) (releasing' : g.Releasing pair answer' h') :
    answer = answer' ∧ h = h' := by
  cases releasing with
  | removed legal same separable mem =>
    cases releasing' with
    | removed legal' same' =>
      obtain rfl := legal_unique legal legal' (same.trans same'.symm)
      exact ⟨rfl, rfl⟩
    | absent _ _ _ absent => exact absurd mem absent
    | refused fixed => exact absurd separable (fixed _ legal same)
  | absent legal same separable absent =>
    cases releasing' with
    | removed _ _ _ mem => exact absurd mem absent
    | absent => exact ⟨rfl, rfl⟩
    | refused fixed => exact absurd separable (fixed _ legal same)
  | refused fixed =>
    cases releasing' with
    | removed legal' same' separable => exact absurd separable (fixed _ legal' same')
    | absent legal' same' separable => exact absurd separable (fixed _ legal' same')
    | refused => exact ⟨rfl, rfl⟩

theorem Binding.present_iff (binding : g.Binding pair answer h) : answer = some false ↔ pair ∈ g.edgeSet := by
  cases binding with
  | present mem => exact iff_of_true rfl mem
  | added _ _ absent => exact iff_of_false (by simp) absent
  | refused absent => exact iff_of_false (by simp) absent

theorem Binding.added_iff (binding : g.Binding s(a, b) answer h) : answer = some true ↔ g.Bindable a b := by
  rw [bindable_iff]
  cases binding with
  | present mem =>
    refine iff_of_false (by simp) fun bindable => ?_
    obtain ⟨_, _, _, absent, _⟩ := bindable
    exact absent mem
  | added legal same absent vacant => exact iff_of_true rfl ⟨_, legal, same, absent, vacant⟩
  | refused absent taken =>
    refine iff_of_false (by simp) fun bindable => ?_
    obtain ⟨edge, legal, same, -, vacant⟩ := bindable
    exact taken edge legal same vacant

theorem Binding.redrawn (wf : g.WellFormed) (binding : g.Binding pair (some true) h) :
    g.Redrawn h (insert pair g.edgeSet) := by
  cases binding with
  | added legal same absent vacant => exact same ▸ link_redrawn wf legal vacant

theorem Binding.idle (binding : g.Binding pair answer h) (old : answer ≠ some true) : h = g := by
  cases binding with
  | present => rfl
  | added => exact absurd rfl old
  | refused => rfl

theorem Releasing.removed_iff (releasing : g.Releasing s(a, b) answer h) :
    answer = some true ↔ g.Separable a b ∧ s(a, b) ∈ g.edgeSet := by
  cases releasing with
  | removed legal same separable mem => exact iff_of_true rfl ⟨⟨_, legal, same, separable⟩, mem⟩
  | absent _ _ _ absent => exact iff_of_false (by simp) fun fact => absent fact.2
  | refused fixed =>
    refine iff_of_false (by simp) fun fact => ?_
    obtain ⟨⟨edge, legal, same, separable⟩, -⟩ := fact
    exact fixed edge legal same separable

theorem Releasing.absent_iff (releasing : g.Releasing s(a, b) answer h) :
    answer = some false ↔ g.Separable a b ∧ s(a, b) ∉ g.edgeSet := by
  cases releasing with
  | removed _ _ _ mem => exact iff_of_false (by simp) fun fact => fact.2 mem
  | absent legal same separable absent => exact iff_of_true rfl ⟨⟨_, legal, same, separable⟩, absent⟩
  | refused fixed =>
    refine iff_of_false (by simp) fun fact => ?_
    obtain ⟨⟨edge, legal, same, separable⟩, -⟩ := fact
    exact fixed edge legal same separable

theorem Releasing.redrawn (wf : g.WellFormed) (releasing : g.Releasing pair (some true) h) :
    g.Redrawn h (g.edgeSet \ {pair}) := by
  cases releasing with
  | removed legal same => exact same ▸ unlink_redrawn wf legal

theorem Releasing.idle (releasing : g.Releasing pair answer h) (other : answer ≠ some true) : h = g := by
  cases releasing with
  | removed => exact absurd rfl other
  | absent => rfl
  | refused => rfl

/-- What was bound may be released at once, and nothing is left of it. -/
theorem Binding.released (wf : g.WellFormed) (binding : g.Binding s(a, b) (some true) h)
    (separable : g.Separable a b) : h.Releasing s(a, b) (some true) g := by
  obtain ⟨edge', legal', same', locator⟩ := separable
  cases binding with
  | @added edge legal same absent vacant =>
    obtain rfl := legal_unique legal legal' (same.trans same'.symm)
    have linked := link_redrawn wf legal vacant
    have released : (g.link edge).Releasing s(a, b) (some true) ((g.link edge).unlink edge) := by
      refine .removed ⟨legal.rule, legal.parent, legal.child⟩ same locator ?_
      rw [linked.edgeSet, same]
      exact Set.mem_insert _ _
    rwa [unlink_link wf legal vacant (same ▸ absent)] at released

theorem bind_binding (wf : g.WellFormed) (a b : EntityId) :
    g.Binding s(a, b) ((bind a b).answer? g) ((bind a b).after g) := by
  refine Ends.answer ?_
  rw [bind, ends_bind, ends_read]
  constructor
  · intro edge found
    obtain ⟨legal, same⟩ := edgeBetween_eq_ok_iff.mp found
    have filed : (g.neighbors edge.child edge.rule.parent).contains edge.parent = true ↔ s(a, b) ∈ g.edgeSet := by
      rw [← Std.ExtTreeSet.mem_iff_contains, parent_mem_neighbors wf legal, same]
    rw [ends_bind, ends_get]
    split
    · rename_i here
      exact .present (filed.mp here)
    · rename_i other
      have absent : s(a, b) ∉ g.edgeSet := fun mem => other (filed.mpr mem)
      split
      · rename_i existing taken
        refine .refused absent fun edge' legal' same' vacant => ?_
        obtain rfl := legal_unique legal legal' (same.trans same'.symm)
        rw [holder?_eq_none.mpr vacant] at taken
        cases taken
      · rename_i vacant
        exact .added legal same absent (holder?_eq_none.mp vacant)
  · intro e failed
    have unrelated : ∀ edge : Edge, edge.Legal g → edge.ends ≠ s(a, b) := fun edge legal same => by
      rw [edgeBetween_eq_ok_iff.mpr ⟨legal, same⟩] at failed
      cases failed
    refine .refused (fun mem => ?_) fun edge legal same _ => unrelated edge legal same
    obtain ⟨edge, legal, same⟩ := exists_legal_of_mem wf mem
    exact unrelated edge legal same

/-- Both halves of an edge are stored or neither is, so `unbind` might as well answer from the parent's. -/
theorem unbind_eq (wf : g.WellFormed) (legal : edge.Legal g) (same : edge.ends = s(a, b)) :
    unbind a b g = if edge.rule.kind.isRemovable then
        .ok ((g.neighbors edge.parent edge.rule.child).contains edge.child) (g.unlink edge)
      else .error (.inconsistent (.immutable edge.rule)) g := by
  refine Ends.eq (unbind_ends_of (fun edge' kind found known => ?_) fun e failed => ?_)
  · obtain ⟨legal', same'⟩ := edgeBetween_eq_ok_iff.mp found
    obtain rfl := legal_unique legal legal' (same.trans same'.symm)
    have filed : (g.neighbors a kind).contains b = (g.neighbors edge.parent edge.rule.child).contains edge.child := by
      rw [Bool.eq_iff_iff, ← Std.ExtTreeSet.mem_iff_contains, ← Std.ExtTreeSet.mem_iff_contains,
        child_mem_neighbors wf legal, mem_neighbors_iff wf, and_iff_left known, same]
    rw [filed]
    split <;> rfl
  · rw [edgeBetween_eq_ok_iff.mpr ⟨legal, same⟩] at failed
    cases failed

theorem unbind_releasing (wf : g.WellFormed) (a b : EntityId) :
    g.Releasing s(a, b) ((unbind a b).answer? g) ((unbind a b).after g) := by
  refine Ends.answer (unbind_ends_of ?_ ?_)
  · intro edge kind found known
    obtain ⟨legal, same⟩ := edgeBetween_eq_ok_iff.mp found
    have filed : (g.neighbors a kind).contains b = true ↔ s(a, b) ∈ g.edgeSet := by
      rw [← Std.ExtTreeSet.mem_iff_contains, mem_neighbors_iff wf, and_iff_left known]
    split
    · rename_i removable
      have separable : edge.rule.kind = .locatorBinding := by simpa [EdgeKind.isRemovable] using removable
      by_cases mem : s(a, b) ∈ g.edgeSet
      · rw [filed.mpr mem]
        exact .removed legal same separable mem
      · rw [Bool.eq_false_iff.mpr (mt filed.mp mem), unlink_of_not_mem wf legal (same ▸ mem)]
        exact .absent legal same separable mem
    · rename_i fixed
      refine .refused fun edge' legal' same' separable => fixed ?_
      obtain rfl := legal_unique legal legal' (same.trans same'.symm)
      simp [EdgeKind.isRemovable, separable]
  · intro e failed
    refine .refused fun edge legal same _ => ?_
    rw [edgeBetween_eq_ok_iff.mpr ⟨legal, same⟩] at failed
    cases failed

/-! ### Both orders -/

/-- `bind` adds an undirected edge. -/
structure BindsEdge (g : Graph) (a b : EntityId) : Prop where
  added : (bind a b).answer? g = some true ↔ g.Bindable a b
  present : (bind a b).answer? g = some false ↔ s(a, b) ∈ g.edgeSet
  refused : (bind a b).answer? g = none ↔ ¬ g.Bindable a b ∧ s(a, b) ∉ g.edgeSet
  adds : (bind a b).answer? g = some true → g.Redrawn ((bind a b).after g) (insert s(a, b) g.edgeSet)
  idle : (bind a b).answer? g ≠ some true → (bind a b).after g = g
  answer_comm : (bind b a).answer? g = (bind a b).answer? g
  after_comm : (bind b a).after g = (bind a b).after g
  result_comm : (∃ edge : Edge, edge.Legal g ∧ edge.ends = s(a, b)) → bind b a g = bind a b g

/-- `unbind` takes an undirected edge away. -/
structure ReleasesEdge (g : Graph) (a b : EntityId) : Prop where
  removed : (unbind a b).answer? g = some true ↔ g.Separable a b ∧ s(a, b) ∈ g.edgeSet
  absent : (unbind a b).answer? g = some false ↔ g.Separable a b ∧ s(a, b) ∉ g.edgeSet
  removes : (unbind a b).answer? g = some true → g.Redrawn ((unbind a b).after g) (g.edgeSet \ {s(a, b)})
  idle : (unbind a b).answer? g ≠ some true → (unbind a b).after g = g
  answer_comm : (unbind b a).answer? g = (unbind a b).answer? g
  after_comm : (unbind b a).after g = (unbind a b).after g
  result_comm : (∃ edge : Edge, edge.Legal g ∧ edge.ends = s(a, b)) → unbind b a g = unbind a b g

theorem bind_comm (wf : g.WellFormed) (a b : EntityId) :
    (bind b a).answer? g = (bind a b).answer? g ∧ (bind b a).after g = (bind a b).after g := by
  have swapped := bind_binding wf b a
  rw [Sym2.eq_swap] at swapped
  exact swapped.unique (bind_binding wf a b)

theorem unbind_comm (wf : g.WellFormed) (a b : EntityId) :
    (unbind b a).answer? g = (unbind a b).answer? g ∧ (unbind b a).after g = (unbind a b).after g := by
  have swapped := unbind_releasing wf b a
  rw [Sym2.eq_swap] at swapped
  exact swapped.unique (unbind_releasing wf a b)

/-- The edge that two entities may share is all that either operation asks for. -/
theorem result_comm (wf : g.WellFormed) (legal : edge.Legal g) (same : edge.ends = s(a, b)) :
    bind b a g = bind a b g ∧ unbind b a g = unbind a b g := by
  have swap : edge.ends = s(b, a) := same.trans Sym2.eq_swap
  have found : g.edgeBetween a b = .ok edge := edgeBetween_eq_ok_iff.mpr ⟨legal, same⟩
  have swapped : g.edgeBetween b a = .ok edge := edgeBetween_eq_ok_iff.mpr ⟨legal, swap⟩
  constructor
  · simp only [bind, Bind.bind, EStateM.bind, Update.read, found, swapped]
  · rw [unbind_eq wf legal same, unbind_eq wf legal swap]

theorem bindsEdge (wf : g.WellFormed) (a b : EntityId) : g.BindsEdge a b := by
  obtain ⟨answers, leaves⟩ := bind_comm wf a b
  have binding := bind_binding wf a b
  constructor
  case added => exact binding.added_iff
  case present => exact binding.present_iff
  case refused =>
    rw [← binding.added_iff, ← binding.present_iff]
    rcases (bind a b).answer? g with _ | _ | _ <;> simp
  case adds =>
    intro new
    rw [new] at binding
    exact binding.redrawn wf
  case idle => exact binding.idle
  case answer_comm => exact answers
  case after_comm => exact leaves
  case result_comm => exact fun ⟨_, legal, same⟩ => (result_comm wf legal same).1

theorem releasesEdge (wf : g.WellFormed) (a b : EntityId) : g.ReleasesEdge a b := by
  obtain ⟨answers, leaves⟩ := unbind_comm wf a b
  have releasing := unbind_releasing wf a b
  constructor
  case removed => exact releasing.removed_iff
  case absent => exact releasing.absent_iff
  case removes =>
    intro removed
    rw [removed] at releasing
    exact releasing.redrawn wf
  case idle => exact releasing.idle
  case answer_comm => exact answers
  case after_comm => exact leaves
  case result_comm => exact fun ⟨_, legal, same⟩ => (result_comm wf legal same).2

/-- In every graph that was built, `bind` and `unbind` act on a set of undirected edges: which of two
entities is named first makes no difference to what they answer or leave. `bind` adds the edge if it is
legal and absent and its child is free for it, finds it there, or fails; `unbind` takes away an edge between an
endpoint and a locator; and where `bind` has just added one, `unbind` leads back to the graph before. -/
theorem Built.edges_exact (built : g.Built) (a b : EntityId) :
    g.BindsEdge a b ∧ g.ReleasesEdge a b ∧
      ((bind a b).answer? g = some true → g.Separable a b →
        (unbind a b).answer? ((bind a b).after g) = some true ∧ (unbind a b).after ((bind a b).after g) = g) := by
  have wf := built.wellFormed
  refine ⟨bindsEdge wf a b, releasesEdge wf a b, fun added separable => ?_⟩
  have binding := bind_binding wf a b
  rw [added] at binding
  have bound : ((bind a b).after g).WellFormed := (bind_atMostOne (a := a) (b := b)).becomes.wellFormed wf
  exact (unbind_releasing bound a b).unique (binding.released wf separable)

/-- A reader is bound to a locator, named second, and released from it; another topic is refused. -/
theorem Built.edges_exact_reader :
    let participant : ParticipantInfo := ⟨⟨.replicate 16 1⟩, "node", "host", "user", "process", none⟩
    let reader : EndpointInfo := ⟨⟨.replicate 16 2⟩, "reader", participant, ⟨"square", "ShapeType"⟩, []⟩
    let g := [.create .domain "0" (.domain 0), .ingest ⟨⟨1⟩, .discovered, .reader reader⟩,
      .create .locator "udp:1" .plain, .create .topic "circle" (.topic "ShapeType")].foldl Operation.act ∅
    g.Built ∧ s(⟨7⟩, ⟨8⟩) ∉ g.edgeSet ∧ g.Redrawn ((bind ⟨8⟩ ⟨7⟩).after g) (insert s(⟨7⟩, ⟨8⟩) g.edgeSet) ∧
      (unbind ⟨7⟩ ⟨8⟩).after ((bind ⟨7⟩ ⟨8⟩).after g) = g ∧
      (bind ⟨7⟩ ⟨9⟩).answer? g = none ∧ ¬ g.Bindable ⟨7⟩ ⟨9⟩ := by
  intro participant reader g
  have built : g.Built := Built.empty.foldl _
  have added : (bind ⟨7⟩ ⟨8⟩).answer? g = some true := by decide +kernel
  have refused : (bind ⟨7⟩ ⟨9⟩).answer? g = none := by decide +kernel
  have legal : (⟨⟨.dataReader, .locator, .locatorBinding⟩, ⟨7⟩, ⟨8⟩⟩ : Edge).Legal g :=
    ⟨by decide, by decide +kernel, by decide +kernel⟩
  clear_value g
  obtain ⟨binds, -, restores⟩ := Built.edges_exact built ⟨7⟩ ⟨8⟩
  obtain ⟨rejects, -, -⟩ := Built.edges_exact built ⟨7⟩ ⟨9⟩
  obtain ⟨_, _, _, absent, _⟩ := binds.added.mp added
  refine ⟨built, absent, ?_, (restores added ⟨_, legal, rfl, rfl⟩).2, refused, (rejects.refused.mp refused).1⟩
  rw [binds.after_comm]
  exact binds.adds added

end Graph
end DiscoveryGraph
