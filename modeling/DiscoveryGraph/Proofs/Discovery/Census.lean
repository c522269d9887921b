import DiscoveryGraph.Proofs.Discovery.Operation

/-! The indexes and the identifiers of a graph that operations build. Whatever the operations are, they
come down to those of the store, which create, flag, remove, bind and unbind entities one at a time.
However that is done, the identifiers that are handed out ascend, and the entities that are left are as
many as were created less those that were removed. -/
namespace DiscoveryGraph
namespace Graph
open Update
variable {g g' : Graph} {edge : Edge} {edges : List Edge}

/-! ### Operations of the store -/

/-- The operations of the store, of which the others are made. -/
def Operation.isPrimitive : Operation → Bool
  | create .. | setActive .. | remove .. | bind .. | unbind .. => true
  | apply .. | rederiveLocators .. | clearDomain .. | ingest .. => false

/-- The identifier that is returned where an operation of the store creates an entity. -/
def Operation.created (g : Graph) : Operation → List EntityId
  | create kind name attributes =>
    match Graph.create kind name attributes g with
    | .ok id _ => [id]
    | .error .. => []
  | _ => []

/-- The identifier of the entity that is returned where an operation of the store removes one. -/
def Operation.removed (g : Graph) : Operation → List EntityId
  | remove id =>
    match Graph.remove id g with
    | .ok entity _ => [entity.id]
    | .error .. => []
  | _ => []

/-- What operations report one after the other. -/
def reports (report : Graph → Operation → List EntityId) (g : Graph) : List Operation → List EntityId
  | [] => []
  | operation :: operations => report g operation ++ reports report (operation.act g) operations

/-- The list of operations with every operation that is not of the store replaced by operations of the
store that leave the same graph behind. -/
inductive Expands : Graph → List Operation → List Operation → Prop
  | nil {g : Graph} : Expands g [] []
  | primitive {g : Graph} {operation : Operation} {operations edits : List Operation} :
      operation.isPrimitive = true → Expands (operation.act g) operations edits →
      Expands g (operation :: operations) (operation :: edits)
  | composite {g : Graph} {operation : Operation} {steps operations edits : List Operation} :
      operation.isPrimitive = false → (∀ step ∈ steps, step.isPrimitive = true) →
      steps.foldl Operation.act g = operation.act g → Expands (operation.act g) operations edits →
      Expands g (operation :: operations) (steps ++ edits)

theorem Expands.isPrimitive {operations edits : List Operation} (expands : g.Expands operations edits) :
    ∀ edit ∈ edits, edit.isPrimitive = true := by
  induction expands with
  | nil => simp
  | primitive primitive _ ih => simpa [primitive] using ih
  | composite _ primitive _ _ ih =>
    intro edit mem
    obtain mem | mem := List.mem_append.mp mem
    · exact primitive edit mem
    · exact ih edit mem

/-- The same graph is left behind in the end. -/
theorem Expands.foldl_act {operations edits : List Operation} (expands : g.Expands operations edits) :
    edits.foldl Operation.act g = operations.foldl Operation.act g := by
  induction expands with
  | nil => rfl
  | primitive _ _ ih => exact ih
  | composite _ _ same _ ih => rw [List.foldl_append, same, ih, List.foldl_cons]

/-! ### Actions as operations of the store -/

end Graph

/-- An action as operations of the store. -/
def Action.edits : Action → List Graph.Operation
  | born entity edges => .create entity.kind entity.name entity.attributes ::
      edges.map fun edge => .bind edge.parent edge.child
  | linked edge => [.bind edge.parent edge.child]
  | unlinked edge => [.unbind edge.parent edge.child]
  | flagged id _ active => [.setActive id active]
  | forgotten entity => [.remove entity.id]

theorem Action.isPrimitive_edits (a : Action) : ∀ edit ∈ a.edits, edit.isPrimitive = true := by
  cases a with
  | born entity edges => simp [edits, Graph.Operation.isPrimitive]
  | linked | unlinked | flagged | forgotten => simp [edits, Graph.Operation.isPrimitive]

namespace Graph
open Update
variable {g g' : Graph} {edge : Edge} {edges : List Edge}

theorem act_create {entity : Entity} (next : g.lastId.next? = some entity.id) (valid : entity.kind ≠ .invalid)
    (active : entity.active = true) :
    (Operation.create entity.kind entity.name entity.attributes).act g = g.add entity := by
  refine ((create_ends g _ _ _).imp ?_ ?_).after_eq
  · intro id h held
    obtain ⟨-, next', rfl⟩ := held
    obtain rfl : entity.id = id := Option.some.inj (next.symm.trans next')
    rw [Entity.discovered, ← active]
  · intro e h fails
    rw [(fails.2 valid).2] at next
    cases next

theorem act_bind (wf : g.WellFormed) (legal : edge.Legal g) (vacant : edge.Vacant g) :
    (Operation.bind edge.parent edge.child).act g = g.link edge := by
  refine ((bind_ends legal vacant (.inl ⟨rfl, rfl⟩)).imp ?_ fun _ _ => False.elim).after_eq
  intro new h held
  obtain ⟨old, rfl⟩ | ⟨-, rfl⟩ := held
  · exact (link_of_mem wf legal old).symm
  · rfl

theorem foldl_act_bind (wf : g.WellFormed) (fan : g.Fan edges) :
    (edges.map fun edge => Operation.bind edge.parent edge.child).foldl Operation.act g =
      edges.foldl link g := by
  induction edges generalizing g with
  | nil => rfl
  | cons edge edges ih =>
    have first : (Operation.bind edge.parent edge.child).act g = g.link edge :=
      act_bind wf (fan.legal edge (by simp)) (fan.vacant edge (by simp))
    rw [List.map_cons, List.foldl_cons, List.foldl_cons, first, ih (wf.link_head fan) fan.tail]

end Graph

/-- Every action that may be taken can be taken by operations of the store. -/
theorem Action.foldl_edits {g : Graph} {a : Action} (wf : g.WellFormed) (enabled : a.Enabled g) :
    a.edits.foldl Graph.Operation.act g = a.act g := by
  cases a with
  | born entity edges =>
    obtain ⟨next, valid, active, up⟩ := enabled
    rw [edits, List.foldl_cons, Graph.act_create next valid active]
    exact Graph.foldl_act_bind (wf.add next valid) (wf.fan_add next up)
  | linked edge => exact Graph.act_bind wf enabled.1 enabled.2
  | unlinked edge =>
    exact ((Graph.unbind_ends enabled.1 enabled.2 (.inl ⟨rfl, rfl⟩)).imp
      (fun _ _ => id) fun _ _ => False.elim).after_eq
  | flagged id kind active =>
    obtain ⟨known, other⟩ := enabled
    refine (Graph.setActive_ends.imp ?_ ?_).after_eq
    · intro changed h held
      obtain ⟨-, -, rfl, rfl⟩ := held
      rw [if_pos (by simp [other]), act]
    · intro e h fails
      rw [fails.1] at known
      cases known
  | forgotten entity =>
    refine (Graph.remove_ends.imp ?_ ?_).after_eq
    · intro found h held
      obtain ⟨here, rfl⟩ := held
      obtain rfl : entity = found := Option.some.inj (enabled.symm.trans here)
      rfl
    · intro e h fails
      cases enabled.symm.trans fails.1

/-- What a run leads to, operations of the store lead to. -/
theorem Run.exists_edits {p : Graph → Action → Prop} {g g' : Graph} {changes : List StateChange}
    (run : Run p g changes g') (wf : g.WellFormed) : ∃ edits : List Graph.Operation,
      (∀ edit ∈ edits, edit.isPrimitive = true) ∧ edits.foldl Graph.Operation.act g = g' := by
  induction run with
  | nil => exact ⟨[], by simp, rfl⟩
  | @cons g g' a changes enabled _ _ ih =>
    obtain ⟨edits, primitive, same⟩ := ih (Action.wellFormed_act wf enabled)
    refine ⟨a.edits ++ edits, ?_, ?_⟩
    · intro edit mem
      obtain mem | mem := List.mem_append.mp mem
      · exact a.isPrimitive_edits edit mem
      · exact primitive edit mem
    · rw [List.foldl_append, Action.foldl_edits wf enabled, same]

namespace Graph
open Update
variable {g : Graph}

/-- All operations come down to operations of the store. -/
theorem exists_expands (operations : List Operation) (wf : g.WellFormed) : ∃ edits, g.Expands operations edits := by
  induction operations generalizing g with
  | nil => exact ⟨[], .nil⟩
  | cons operation operations ih =>
    obtain ⟨rest, expands⟩ := ih (operation.wellFormed_act wf)
    cases kind : operation.isPrimitive with
    | true => exact ⟨operation :: rest, .primitive kind expands⟩
    | false =>
      obtain ⟨changes, run⟩ := operation.becomes_act wf
      obtain ⟨steps, primitive, same⟩ := run.exists_edits wf
      exact ⟨steps ++ rest, .composite kind primitive same expands⟩

/-! ### Counting -/

/-- What an operation of the store creates takes the next identifier, and the size counts what comes
and goes. -/
structure Tallied (g : Graph) (operation : Operation) : Prop where
  created : operation.created g = [] ∧ (operation.act g).lastId = g.lastId ∨
    ∃ id, operation.created g = [id] ∧ g.lastId.next? = some id ∧ (operation.act g).lastId = id
  size : (operation.act g).size + (operation.removed g).length = g.size + (operation.created g).length

/-- An operation of the store that neither creates nor removes keeps to what is there. -/
theorem tallied_of_atMostOne {operation : Operation} {sort : Action → Prop} (created : operation.created g = [])
    (removed : operation.removed g = []) (one : AtMostOne sort g (operation.act g))
    (keeps : ∀ a, sort a → (a.act g).lastId = g.lastId ∧ (a.act g).size = g.size) : g.Tallied operation := by
  have same : (operation.act g).lastId = g.lastId ∧ (operation.act g).size = g.size := by
    obtain same | ⟨a, -, sorted, same⟩ := one
    · rw [same]
      exact ⟨rfl, rfl⟩
    · rw [same]
      exact keeps a sorted
  exact ⟨.inl ⟨created, same.1⟩, by rw [created, removed, same.2]⟩

theorem tallied_create {kind : EntityKind} {name : String} {attributes : Attributes} (wf : g.WellFormed) :
    g.Tallied (.create kind name attributes) := by
  cases run : Graph.create kind name attributes g with
  | ok id h =>
    obtain ⟨-, next, rfl⟩ := (create_ends g kind name attributes).of_ok run
    have created : (Operation.create kind name attributes).created g = [id] := by
      rw [Operation.created, run]
    have act : (Operation.create kind name attributes).act g =
        g.add (Entity.discovered id kind name attributes) := by
      rw [Operation.act, Update.after, run]
    refine ⟨.inr ⟨id, created, next, by rw [act]; rfl⟩, ?_⟩
    rw [act, created, size_add (wf.fresh next)]
    rfl
  | error e h =>
    obtain ⟨rfl, -⟩ := (create_ends g kind name attributes).of_error run
    have act : (Operation.create kind name attributes).act h = h := by
      rw [Operation.act, Update.after, run]
    have created : (Operation.create kind name attributes).created h = [] := by
      rw [Operation.created, run]
    exact ⟨.inl ⟨created, by rw [act]⟩, by rw [act, created]; rfl⟩

theorem tallied_remove {id : EntityId} (wf : g.WellFormed) : g.Tallied (.remove id) := by
  cases run : Graph.remove id g with
  | ok entity h =>
    obtain ⟨found, rfl⟩ := remove_ends.of_ok run
    have removed : (Operation.remove id).removed g = [entity.id] := by rw [Operation.removed, run]
    have act : (Operation.remove id).act g = g.forget entity := by rw [Operation.act, Update.after, run]
    have known : g.kind? entity.id = some entity.kind := by
      rw [wf.keyed found, kind?_of_entity? found]
    refine ⟨.inl ⟨rfl, by rw [act]; rfl⟩, ?_⟩
    rw [act, removed]
    exact size_forget known
  | error e h =>
    obtain ⟨-, -, rfl⟩ := remove_ends.of_error run
    have act : (Operation.remove id).act h = h := by rw [Operation.act, Update.after, run]
    have removed : (Operation.remove id).removed h = [] := by rw [Operation.removed, run]
    exact ⟨.inl ⟨rfl, by rw [act]⟩, by rw [act, removed]; rfl⟩

theorem tallied (operation : Operation) (wf : g.WellFormed) (primitive : operation.isPrimitive = true) :
    g.Tallied operation := by
  cases operation with
  | create => exact tallied_create wf
  | remove => exact tallied_remove wf
  | setActive =>
    refine tallied_of_atMostOne rfl rfl setActive_atMostOne ?_
    rintro _ ⟨kind, rfl⟩
    exact ⟨rfl, size_reflag⟩
  | bind =>
    refine tallied_of_atMostOne rfl rfl bind_atMostOne ?_
    rintro _ ⟨edge, rfl⟩
    exact ⟨rfl, size_link⟩
  | unbind =>
    refine tallied_of_atMostOne rfl rfl unbind_atMostOne ?_
    rintro _ ⟨edge, rfl⟩
    exact ⟨rfl, size_unlink⟩
  | apply | rederiveLocators | clearDomain | ingest => cases primitive

/-- Operations of the store one after the other: what they create ascends from the last identifier, and
the size is what was created less what was removed. -/
theorem census (edits : List Operation) (wf : g.WellFormed) (primitive : ∀ edit ∈ edits, edit.isPrimitive = true) :
    (reports Operation.created g edits).Pairwise (·.value.toNat < ·.value.toNat) ∧
      (∀ id ∈ reports Operation.created g edits,
        g.lastId.value.toNat < id.value.toNat ∧ id.value.toNat < EntityId.invalid.value.toNat) ∧
      (edits.foldl Operation.act g).size + (reports Operation.removed g edits).length =
        g.size + (reports Operation.created g edits).length := by
  induction edits generalizing g with
  | nil => simp [reports]
  | cons edit edits ih =>
    simp only [List.mem_cons, forall_eq_or_imp] at primitive
    have wf' := edit.wellFormed_act wf
    obtain ⟨ascending, bounds, size⟩ := ih wf' primitive.2
    obtain ⟨created, size'⟩ := tallied edit wf primitive.1
    have total : (edits.foldl Operation.act (edit.act g)).size +
        (reports Operation.removed g (edit :: edits)).length =
          g.size + (reports Operation.created g (edit :: edits)).length := by
      simp only [reports, List.length_append]
      omega
    obtain ⟨none, lastId⟩ | ⟨id, one, next, lastId⟩ := created
    · rw [lastId] at bounds
      refine ⟨?_, ?_, total⟩
      · rwa [reports, none, List.nil_append]
      · rwa [reports, none, List.nil_append]
    · have succ := EntityId.value_next next
      have limit := EntityId.next_lt_invalid next
      rw [lastId] at bounds
      refine ⟨?_, ?_, total⟩
      · rw [reports, one, List.singleton_append, List.pairwise_cons]
        exact ⟨fun later mem => (bounds later mem).1, ascending⟩
      · intro later mem
        rw [reports, one, List.singleton_append, List.mem_cons] at mem
        obtain rfl | mem := mem
        · exact ⟨by omega, limit⟩
        · have bound := bounds later mem
          exact ⟨by omega, bound.2⟩

theorem wellFormed_foldl (operations : List Operation) (wf : g.WellFormed) :
    (operations.foldl Operation.act g).WellFormed := by
  induction operations generalizing g with
  | nil => exact wf
  | cons operation operations ih => exact ih (operation.wellFormed_act wf)

/-- Whatever operations have done to the empty graph, each entity is filed under its own identifier, and
each index finds exactly the entities of its key; and in terms of the store, the identifiers that were
handed out ascend and are not reserved, and the size is what was created less what was removed. -/
theorem indexes_agree (operations : List Operation) :
    let g := operations.foldl Operation.act ∅
    (∀ id entity, g.entity? id = some entity → entity.id = id) ∧
      (∀ k id, id ∈ g.ofKind k ↔ ∃ entity, g.entity? id = some entity ∧ entity.kind = k) ∧
      (∀ k name id, id ∈ g.named k name ↔
        ∃ entity, g.entity? id = some entity ∧ entity.kind = k ∧ entity.name = name) ∧
      (∀ guid id, id ∈ g.withGuid guid ↔ ∃ entity, g.entity? id = some entity ∧ entity.guid? = some guid) ∧
      (∃ edits, Expands ∅ operations edits) ∧
      ∀ edits, Expands ∅ operations edits →
        (reports Operation.created ∅ edits).Pairwise (·.value < ·.value) ∧
        (∀ id ∈ reports Operation.created ∅ edits, id ≠ .all ∧ id ≠ .invalid) ∧
        g.size + (reports Operation.removed ∅ edits).length = (reports Operation.created ∅ edits).length := by
  intro g
  have wf : g.WellFormed := wellFormed_foldl operations wellFormed_empty
  refine ⟨fun _ _ => wf.keyed, fun k id => wf.ofKind_iff.trans kind?_eq_some, fun _ _ _ => wf.named_iff,
    fun _ _ => wf.withGuid_iff, exists_expands operations wellFormed_empty, fun edits expands => ?_⟩
  obtain ⟨ascending, bounds, size⟩ := census edits wellFormed_empty expands.isPrimitive
  have last : (∅ : Graph).lastId.value.toNat = 0 := rfl
  have none : (∅ : Graph).size = 0 := rfl
  refine ⟨ascending.imp UInt64.lt_iff_toNat_lt.mpr, fun id mem => ?_, ?_⟩
  · have bound := bounds id mem
    constructor
    · rintro rfl
      exact absurd bound.1 (by decide)
    · rintro rfl
      exact absurd bound.2 (Nat.lt_irrefl _)
  · rw [expands.foldl_act, none, Nat.zero_add] at size
    exact size

/-- A participant is announced in a domain, its process is removed, and a host of the same name as the
one it runs on is created. The announcement comes down to eight operations of the store, four of which
create an entity. -/
theorem indexes_agree_announced :
    let guid : Guid := ⟨.replicate 16 1⟩
    let operations : List Operation := [.create .domain "0" (.domain 0),
      .ingest ⟨⟨1⟩, .discovered, .participant ⟨guid, "node", "host", "user", "process", none⟩⟩,
      .remove ⟨4⟩, .create .host "host" .plain]
    let edits : List Operation := [.create .domain "0" (.domain 0),
      .create .host "host" .plain, .create .user "user" .plain, .bind ⟨2⟩ ⟨3⟩,
      .create .process "process" (.process ""), .bind ⟨3⟩ ⟨4⟩, .create .participant "node" (.participant guid),
      .bind ⟨4⟩ ⟨5⟩, .bind ⟨1⟩ ⟨5⟩, .remove ⟨4⟩, .create .host "host" .plain]
    let g := operations.foldl Operation.act ∅
    Expands ∅ operations edits ∧ reports Operation.created ∅ edits = [⟨1⟩, ⟨2⟩, ⟨3⟩, ⟨4⟩, ⟨5⟩, ⟨6⟩] ∧
      g.size = 5 := by
  intro guid operations edits g
  have expands : Expands ∅ operations edits := by
    refine .primitive rfl ?_
    refine @Expands.composite _ _ ((edits.drop 1).take 8) _ (edits.drop 9) rfl (by decide) (by decide +kernel) ?_
    refine .primitive rfl ?_
    exact .primitive rfl .nil
  obtain ⟨-, -, -, -, -, counted⟩ := indexes_agree operations
  have size := (counted edits expands).2.2
  have created : reports Operation.created ∅ edits = [⟨1⟩, ⟨2⟩, ⟨3⟩, ⟨4⟩, ⟨5⟩, ⟨6⟩] := by decide +kernel
  have removed : reports Operation.removed ∅ edits = [⟨4⟩] := by decide +kernel
  rw [created, removed] at size
  exact ⟨expands, created, Nat.succ.inj size⟩

end Graph
end DiscoveryGraph
