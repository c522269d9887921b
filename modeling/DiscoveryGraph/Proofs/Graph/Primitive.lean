import DiscoveryGraph.Proofs.Graph.Action
import DiscoveryGraph.Proofs.Outcome

/-! The operations of the store. Each either leaves the graph alone or takes one action, and the
ones that other operations rely on are shown to succeed where they are used. -/
namespace DiscoveryGraph
namespace Graph
open Update
variable {g : Graph} {id a b : EntityId}

/-- An operation of the store leaves the graph alone or takes one action of its own sort that may be
taken. -/
def AtMostOne (sort : Action → Prop) (g g' : Graph) : Prop :=
  g' = g ∨ ∃ action : Action, action.Enabled g ∧ sort action ∧ g' = action.act g

theorem AtMostOne.becomes {sort : Action → Prop} {g' : Graph} (one : AtMostOne sort g g') : g.Becomes g' := by
  obtain rfl | ⟨action, enabled, -, rfl⟩ := one
  · exact .refl
  · exact (Run.single (p := fun _ _ => True) enabled trivial).becomes

/-! ### Entities -/

/-- A new entity takes the next identifier; it is refused for its kind or for want of one. -/
theorem create_ends (g : Graph) (kind : EntityKind) (name : String) (attributes : Attributes) :
    (create kind name attributes).Ends g
      (fun id g' => kind ≠ .invalid ∧ g.lastId.next? = some id ∧
        g' = g.add (Entity.discovered id kind name attributes))
      (fun e g' => g' = g ∧ (kind ≠ .invalid → e = .idSpaceExhausted ∧ g.lastId.next? = none)) := by
  unfold create
  split
  · rename_i invalid
    simp [invalid]
  · rename_i valid
    rw [ends_bind, ends_get]
    cases next : g.lastId.next? with
    | none => simp
    | some id => simp [valid]

theorem create_atMostOne {kind : EntityKind} {name : String} {attributes : Attributes} :
    AtMostOne (∃ entity, · = .born entity []) g ((create kind name attributes).after g) := by
  refine ((create_ends g kind name attributes).imp ?_ fun e g' fails => .inl fails.1).after
  intro id g' held
  obtain ⟨valid, next, rfl⟩ := held
  exact .inr ⟨.born (Entity.discovered id kind name attributes) [],
    ⟨next, valid, rfl, by simp, by simp, by simp, .nil⟩, ⟨_, rfl⟩, rfl⟩

theorem setActive_ends {active : Bool} : (setActive id active).Ends g
    (fun changed g' => ∃ kind, g.kind? id = some kind ∧
      changed = (g.alive id != active) ∧ g' = if changed then g.reflag id active else g)
    (fun e g' => g.kind? id = none ∧ e = .entityNotFound id ∧ g' = g) := by
  rw [setActive, ends_bind, ends_read]
  constructor
  · intro entity found
    rw [lookup_eq_ok] at found
    have state := alive_of_entity? found
    have known := kind?_of_entity? found
    split
    · rename_i same
      exact ⟨_, known, by simp [state, same], by simp⟩
    · rename_i other
      refine ⟨_, known, by simp [state, other], ?_⟩
      simpa using insert_eq_reflag found
  · intro e missing
    rw [lookup_eq_error] at missing
    exact ⟨kind?_eq_none.mpr missing.1, missing.2, rfl⟩

theorem setActive_atMostOne {active : Bool} :
    AtMostOne (∃ kind, · = .flagged id kind active) g ((setActive id active).after g) := by
  refine (setActive_ends.imp ?_ fun e g' fails => .inl fails.2.2).after
  intro changed g' held
  obtain ⟨kind, known, rfl, rfl⟩ := held
  split
  · rename_i changed
    exact .inr ⟨.flagged id kind active, ⟨known, by simpa [bne_iff_ne, ← Bool.eq_not] using changed⟩,
      ⟨kind, rfl⟩, rfl⟩
  · exact .inl rfl

theorem remove_ends : (remove id).Ends g
    (fun entity g' => g.entity? id = some entity ∧ g' = g.forget entity)
    (fun e g' => g.entity? id = none ∧ e = .entityNotFound id ∧ g' = g) := by
  simp [remove, lookup_eq_ok, lookup_eq_error]

theorem remove_atMostOne (wf : g.WellFormed) :
    AtMostOne (∃ entity, · = .forgotten entity) g ((remove id).after g) := by
  refine (remove_ends.imp ?_ fun e g' fails => .inl fails.2.2).after
  intro entity g' held
  obtain ⟨found, rfl⟩ := held
  refine .inr ⟨.forgotten entity, ?_, ⟨entity, rfl⟩, rfl⟩
  rwa [Action.Enabled, wf.keyed found]

/-! ### Edges -/

/-- A legal edge is found between its ends, in either order. -/
theorem edgeBetween_of_legal {edge : Edge} (legal : edge.Legal g)
    (ends : a = edge.parent ∧ b = edge.child ∨ a = edge.child ∧ b = edge.parent) :
    g.edgeBetween a b = .ok edge := by
  obtain ⟨down, up⟩ := edgeRule?_of_mem edge.rule legal.rule
  have above := kindOf_eq_ok.mpr legal.parent
  have below := kindOf_eq_ok.mpr legal.child
  obtain ⟨rfl, rfl⟩ | ⟨rfl, rfl⟩ := ends
  · simp [edgeBetween, above, below, down, Bind.bind, Except.bind, pure, Except.pure]
  · simp [edgeBetween, above, below, up, Bind.bind, Except.bind, pure, Except.pure]

theorem legal_of_edgeBetween {edge : Edge} (found : g.edgeBetween a b = .ok edge) : edge.Legal g := by
  simp only [edgeBetween, Bind.bind, Except.bind] at found
  split at found
  · cases found
  · rename_i first known
    rw [kindOf_eq_ok] at known
    split at found
    · cases found
    · rename_i second known'
      rw [kindOf_eq_ok] at known'
      split at found
      · cases found
      · rename_i rule ruled
        cases found
        obtain ⟨mem, ⟨-, rfl, rfl⟩ | ⟨h, -, -⟩⟩ := mem_edgeRules_of_edgeRule? ruled
        · exact ⟨mem, known, known'⟩
        · cases h
      · rename_i rule ruled
        cases found
        obtain ⟨mem, ⟨h, -, -⟩ | ⟨-, rfl, rfl⟩⟩ := mem_edgeRules_of_edgeRule? ruled
        · cases h
        · exact ⟨mem, known', known⟩

theorem holder?_eq_none {rule : EdgeRule} {child : EntityId} : g.holder? rule child = none ↔
    (rule.kind.isSingleParent → ∀ y, y ∉ g.neighbors child rule.parent) := by
  unfold holder?
  split
  · rename_i single
    simp only [single, forall_const, parent?, IdSet.first?, List.head?_eq_none_iff,
      ← Std.ExtTreeSet.mem_toList, List.eq_nil_iff_forall_not_mem]
  · rename_i many
    simp [many]

theorem bind_atMostOne : AtMostOne (∃ edge, · = .linked edge) g ((bind a b).after g) := by
  refine Ends.after ?_
  rw [bind, ends_bind, ends_read]
  constructor
  · intro edge found
    rw [ends_bind, ends_get]
    split
    · exact .inl rfl
    · split
      · exact .inl rfl
      · rename_i vacant
        exact .inr ⟨.linked edge, ⟨legal_of_edgeBetween found, holder?_eq_none.mp vacant⟩, ⟨edge, rfl⟩, rfl⟩
  · exact fun _ _ => .inl rfl

/-- What is left after `unbind` is told by the edge that the two entities may share; what is answered, by
the half of it that was at the first one. -/
theorem unbind_ends_of {ok : Bool → Graph → Prop} {bad : StorageError → Graph → Prop}
    (found : ∀ edge kind, g.edgeBetween a b = .ok edge → g.kind? b = some kind →
      if edge.rule.kind.isRemovable then ok ((g.neighbors a kind).contains b) (g.unlink edge)
      else bad (.inconsistent (.immutable edge.rule)) g)
    (failed : ∀ e, g.edgeBetween a b = .error e → bad e g) : (unbind a b).Ends g ok bad := by
  simp only [edgeBetween, Bind.bind, Except.bind] at found failed
  rw [unbind, ends_bind, ends_read]
  refine ⟨fun first known => ?_, fun e missing => failed e (by rw [missing])⟩
  rw [ends_bind, ends_read]
  refine ⟨fun second known' => ?_, fun e missing => failed e (by rw [known, missing])⟩
  simp only [known, known'] at found failed
  have kind := kindOf_eq_ok.mp known'
  cases ruled : edgeRule? first second with
  | none => exact failed _ (by rw [ruled]; rfl)
  | some one =>
    obtain ⟨rule, parental⟩ := one
    -- The rule names the parent's kind first, `unbind` the kind of the entity that it was given first.
    cases parental with
    | true =>
      obtain ⟨-, ⟨-, rfl, rfl⟩ | ⟨h, -, -⟩⟩ := mem_edgeRules_of_edgeRule? ruled
      · have held := found ⟨rule, a, b⟩ rule.child (by rw [ruled]; rfl) kind
        simp only
        split <;> simp_all [unlink]
      · cases h
    | false =>
      obtain ⟨-, ⟨h, -, -⟩ | ⟨-, rfl, rfl⟩⟩ := mem_edgeRules_of_edgeRule? ruled
      · cases h
      · have held := found ⟨rule, b, a⟩ rule.parent (by rw [ruled]; rfl) kind
        simp only
        split <;> simp_all [unlink, detach_comm]

theorem unbind_atMostOne : AtMostOne (∃ edge, · = .unlinked edge) g ((unbind a b).after g) := by
  refine Ends.after (unbind_ends_of ?_ fun _ _ => .inl rfl)
  intro edge _ found _
  split
  · rename_i removable
    exact .inr ⟨.unlinked edge, ⟨legal_of_edgeBetween found, removable⟩, ⟨edge, rfl⟩, rfl⟩
  · exact .inl rfl

/-- A legal edge without a rival is filed from either end, unless it is there already. -/
theorem bind_ends {edge : Edge} (legal : edge.Legal g) (vacant : edge.Vacant g)
    (ends : a = edge.parent ∧ b = edge.child ∨ a = edge.child ∧ b = edge.parent) :
    (bind a b).Ends g
      (fun _ g' => edge.parent ∈ g.neighbors edge.child edge.rule.parent ∧ g' = g ∨
        edge.parent ∉ g.neighbors edge.child edge.rule.parent ∧ g' = g.link edge)
      fun _ _ => False := by
  have found := edgeBetween_of_legal legal ends
  have free := holder?_eq_none.mpr vacant
  by_cases old : edge.parent ∈ g.neighbors edge.child edge.rule.parent
  · simp [bind, found, old]
  · simp [bind, found, free, old]

/-- An edge that is there already is filed again without a trace. -/
theorem link_of_mem {edge : Edge} (wf : g.WellFormed) (legal : edge.Legal g)
    (old : edge.parent ∈ g.neighbors edge.child edge.rule.parent) : g.link edge = g := by
  have back : edge.child ∈ g.neighbors edge.parent edge.rule.child := wf.mem_symm old legal.child
  have filed : g.relations.insert ⟨edge.parent, edge.rule.child⟩ edge.child = g.relations :=
    Index.insert_of_mem back
  have filed' : g.relations.insert ⟨edge.child, edge.rule.parent⟩ edge.parent = g.relations :=
    Index.insert_of_mem old
  simp only [link, filed, filed']

/-- A removable edge is taken away from either end. -/
theorem unbind_ends {edge : Edge} (legal : edge.Legal g) (removable : edge.rule.kind.isRemovable)
    (ends : a = edge.parent ∧ b = edge.child ∨ a = edge.child ∧ b = edge.parent) :
    (unbind a b).Ends g (fun _ g' => g' = g.unlink edge) fun _ _ => False := by
  have found := edgeBetween_of_legal legal ends
  refine unbind_ends_of (fun edge' _ found' _ => ?_) fun e failed => ?_
  · obtain rfl := Except.ok.inj (found.symm.trans found')
    rw [if_pos removable]
  · cases found.symm.trans failed

end Graph
end DiscoveryGraph
