import DiscoveryGraph.Proofs.Lifecycle.Backing

/-! Deactivation without a bound on its depth. A call that returns has a tree of the calls it makes, those that
refresh its dependents included, and the rules below say which trees there are. Every call on an existing entity has
exactly one: a call passes on to kinds with shorter cascades only, whatever the flags and however parents are shared. -/
namespace DiscoveryGraph

/-- A call of the deactivation that returns: it finds its entity inactive, or it switches the entity off, reports
that, and makes further calls. -/
inductive CallTree where
  | idle (id : EntityId)
  | effective (change : StateChange) (calls : List CallTree)

namespace CallTree

mutual

/-- What the effective calls of a tree report, one change each, in the order in which they are made. -/
def changes : CallTree → List StateChange
  | idle _ => []
  | effective change calls => change :: allChanges calls

def allChanges : List CallTree → List StateChange
  | [] => []
  | tree :: trees => tree.changes ++ allChanges trees

end

theorem allChanges_append (ts ts' : List CallTree) : allChanges (ts ++ ts') = allChanges ts ++ allChanges ts' := by
  induction ts with
  | nil => rfl
  | cons t ts ih => rw [List.cons_append, allChanges, allChanges, ih, List.append_assoc]

end CallTree

namespace Graph
open Update CallTree

mutual

/-- A call on an entity, with its tree and with the graph that it leaves. -/
inductive Unfolds : Graph → EntityId → CallTree → Graph → Prop
  | idle {g : Graph} {id : EntityId} {kind : EntityKind} : g.kind? id = some kind → g.alive id = false →
      Unfolds g id (.idle id) g
  | effective {g h h' : Graph} {id : EntityId} {kind : EntityKind} {below above : List CallTree} :
      g.kind? id = some kind → g.alive id = true →
      UnfoldsEach (g.reflag id false) (if kind = .participant then (g.reflag id false).endpointsOf id else []) below h →
      Refreshes h id kind.dependents above h' →
      Unfolds g id (.effective ⟨id, kind, false⟩ (below ++ above)) h'

/-- Calls on some entities, one after the other. -/
inductive UnfoldsEach : Graph → List EntityId → List CallTree → Graph → Prop
  | nil {g : Graph} : UnfoldsEach g [] [] g
  | cons {g g' h : Graph} {x : EntityId} {xs : List EntityId} {t : CallTree} {ts : List CallTree} :
      Unfolds g x t g' → UnfoldsEach g' xs ts h → UnfoldsEach g (x :: xs) (t :: ts) h

/-- The calls that refresh the dependents of an entity, one kind of them after the other. -/
inductive Refreshes : Graph → EntityId → List EntityKind → List CallTree → Graph → Prop
  | nil {g : Graph} {id : EntityId} : Refreshes g id [] [] g
  | cons {g g' h : Graph} {id : EntityId} {k : EntityKind} {ks : List EntityKind} {ts ts' : List CallTree} :
      RefreshesEach g k (g.neighbors id k).toList ts g' → Refreshes g' id ks ts' h →
      Refreshes g id (k :: ks) (ts ++ ts') h

/-- The calls that refresh dependents of one kind: one on each that is active and has no active child. -/
inductive RefreshesEach : Graph → EntityKind → List EntityId → List CallTree → Graph → Prop
  | nil {g : Graph} {k : EntityKind} : RefreshesEach g k [] [] g
  | skip {g h : Graph} {k : EntityKind} {p : EntityId} {ps : List EntityId} {ts : List CallTree} :
      g.isActive p = .ok false ∨ g.isActive p = .ok true ∧ g.hasActiveChild p k = .ok true →
      RefreshesEach g k ps ts h → RefreshesEach g k (p :: ps) ts h
  | call {g g' h : Graph} {k : EntityKind} {p : EntityId} {ps : List EntityId} {t : CallTree} {ts : List CallTree} :
      g.isActive p = .ok true → g.hasActiveChild p k = .ok false → Unfolds g p t g' → RefreshesEach g' k ps ts h →
      RefreshesEach g k (p :: ps) (t :: ts) h

end

variable {g h h' : Graph} {id x : EntityId} {k kind : EntityKind} {t t' : CallTree} {ts ts' : List CallTree}
    {p : EntityId} {xs ps : List EntityId} {ks : List EntityKind} {n : Nat}

/-! ### What a tree reports -/

mutual

/-- The effective calls of a tree are what changes the graph: each lowers a flag, and nothing raises one. -/
theorem Unfolds.run : ∀ {g : Graph} {id : EntityId} {t : CallTree} {h : Graph}, g.Unfolds id t h →
    Run (Action.Flags false fun _ => True) g t.changes h
  | _, _, _, _, .idle _ _ => .nil
  | g, id, _, _, @Unfolds.effective _ _ _ _ kind _ _ known active below above => by
    have lowers : Run (Action.Flags false (· = id)) g [⟨id, kind, false⟩] (g.reflag id false) :=
      run_reflag known active
    rw [changes, allChanges_append]
    exact (lowers.flags_mono fun _ _ => trivial).trans (below.run.trans above.run)

theorem UnfoldsEach.run : ∀ {g : Graph} {xs : List EntityId} {ts : List CallTree} {h : Graph},
    g.UnfoldsEach xs ts h → Run (Action.Flags false fun _ => True) g (allChanges ts) h
  | _, _, _, _, .nil => .nil
  | _, _, _, _, .cons first rest => first.run.trans rest.run

theorem Refreshes.run : ∀ {g : Graph} {id : EntityId} {ks : List EntityKind} {ts : List CallTree} {h : Graph},
    g.Refreshes id ks ts h → Run (Action.Flags false fun _ => True) g (allChanges ts) h
  | _, _, _, _, _, .nil => .nil
  | _, _, _, _, _, .cons first rest => by
    rw [allChanges_append]
    exact first.run.trans rest.run

theorem RefreshesEach.run : ∀ {g : Graph} {k : EntityKind} {ps : List EntityId} {ts : List CallTree} {h : Graph},
    g.RefreshesEach k ps ts h → Run (Action.Flags false fun _ => True) g (allChanges ts) h
  | _, _, _, _, _, .nil => .nil
  | _, _, _, _, _, .skip _ rest => rest.run
  | _, _, _, _, _, .call _ _ first rest => first.run.trans rest.run

end

mutual

/-- There is at most one tree. -/
theorem Unfolds.unique : ∀ {g : Graph} {id : EntityId} {t : CallTree} {h : Graph}, g.Unfolds id t h →
    ∀ {t' h'}, g.Unfolds id t' h' → t = t' ∧ h = h'
  | _, _, _, _, .idle _ dead => by
    intro other
    cases other with
    | idle => exact ⟨rfl, rfl⟩
    | effective _ active => simp [dead] at active
  | _, _, _, _, .effective known active below above => by
    intro other
    cases other with
    | idle _ dead => simp [dead] at active
    | effective known' _ below' above' =>
      obtain rfl := kind_unique known known'
      obtain ⟨rfl, rfl⟩ := below.unique below'
      obtain ⟨rfl, rfl⟩ := above.unique above'
      exact ⟨rfl, rfl⟩

theorem UnfoldsEach.unique : ∀ {g : Graph} {xs : List EntityId} {ts : List CallTree} {h : Graph},
    g.UnfoldsEach xs ts h → ∀ {ts' h'}, g.UnfoldsEach xs ts' h' → ts = ts' ∧ h = h'
  | _, _, _, _, .nil => by
    intro other
    cases other
    exact ⟨rfl, rfl⟩
  | _, _, _, _, .cons first rest => by
    intro other
    obtain _ | ⟨first', rest'⟩ := other
    obtain ⟨rfl, rfl⟩ := first.unique first'
    obtain ⟨rfl, rfl⟩ := rest.unique rest'
    exact ⟨rfl, rfl⟩

theorem Refreshes.unique : ∀ {g : Graph} {id : EntityId} {ks : List EntityKind} {ts : List CallTree} {h : Graph},
    g.Refreshes id ks ts h → ∀ {ts' h'}, g.Refreshes id ks ts' h' → ts = ts' ∧ h = h'
  | _, _, _, _, _, .nil => by
    intro other
    cases other
    exact ⟨rfl, rfl⟩
  | _, _, _, _, _, .cons first rest => by
    intro other
    obtain _ | ⟨first', rest'⟩ := other
    obtain ⟨rfl, rfl⟩ := first.unique first'
    obtain ⟨rfl, rfl⟩ := rest.unique rest'
    exact ⟨rfl, rfl⟩

theorem RefreshesEach.unique : ∀ {g : Graph} {k : EntityKind} {ps : List EntityId} {ts : List CallTree} {h : Graph},
    g.RefreshesEach k ps ts h → ∀ {ts' h'}, g.RefreshesEach k ps ts' h' → ts = ts' ∧ h = h'
  | _, _, _, _, _, .nil => by
    intro other
    cases other
    exact ⟨rfl, rfl⟩
  | _, _, _, _, _, .skip passed rest => by
    intro other
    cases other with
    | skip _ rest' => exact rest.unique rest'
    | call active childless => simp [active, childless] at passed
  | _, _, _, _, _, .call active childless first rest => by
    intro other
    cases other with
    | skip passed => simp [active, childless] at passed
    | call _ _ first' rest' =>
      obtain ⟨rfl, rfl⟩ := first.unique first'
      obtain ⟨rfl, rfl⟩ := rest.unique rest'
      exact ⟨rfl, rfl⟩

end

/-! ### Every call returns -/

/-- One dependent of kind `k`, as a refresh treats it. -/
def refreshParent (deactivate : EntityId → Update StorageError (List StateChange)) (k : EntityKind) (p : EntityId) :
    Update StorageError (List StateChange) := do
  if ← Update.read (·.isActive p) then
    if ← Update.read (·.hasActiveChild p k) then return [] else deactivate p
  else
    return []

/-- The dependents of kind `k`, as a refresh treats them. -/
def refreshKind (deactivate : EntityId → Update StorageError (List StateChange)) (id : EntityId) (k : EntityKind) :
    Update StorageError (List StateChange) := do
  let parents := (← get).neighbors id k
  gather (refreshParent deactivate k) parents.toList

theorem refreshDependents_eq (deactivate : EntityId → Update StorageError (List StateChange)) :
    refreshDependents deactivate id kind = gather (refreshKind deactivate id) kind.dependents := rfl

/-- A dependent that exists is passed over or deactivated, as the two checks say. -/
theorem refreshParent_ends {deactivate : EntityId → Update StorageError (List StateChange)}
    {ok : List StateChange → Graph → Prop} {bad : StorageError → Graph → Prop} (wf : g.WellFormed)
    (known : g.kind? p = some k)
    (skip : g.isActive p = .ok false ∨ g.isActive p = .ok true ∧ g.hasActiveChild p k = .ok true → ok [] g)
    (call : g.isActive p = .ok true → g.hasActiveChild p k = .ok false → (deactivate p).Ends g ok bad) :
    (refreshParent deactivate k p).Ends g ok bad := by
  have active := isActive_of_kind? known
  have backed : g.hasActiveChild p k = .ok ((g.children p k).any g.alive) := hasActiveChild_eq wf
  rw [refreshParent, ends_bind, ends_read, active]
  refine ⟨?_, by simp⟩
  rintro _ ⟨⟩
  cases state : g.alive p with
  | false => exact skip (.inl (by rw [active, state]))
  | true =>
    rw [if_pos rfl, ends_bind, ends_read, backed]
    refine ⟨?_, by simp⟩
    rintro _ ⟨⟩
    cases children : (g.children p k).any g.alive with
    | true => exact skip (.inr ⟨by rw [active, state], by rw [backed, children]⟩)
    | false => exact call (by rw [active, state]) (by rw [backed, children])

section Depth
variable {deactivate : EntityId → Update StorageError (List StateChange)}
  (returns : ∀ {g : Graph} {x : EntityId} {k : EntityKind}, g.WellFormed → g.kind? x = some k → k.cascade ≤ n →
    (deactivate x).Ends g (fun changes h => ∃ t, g.Unfolds x t h ∧ t.changes = changes) fun _ _ => False)

include returns

theorem unfoldsEach_ends (wf : g.WellFormed) (known : ∀ x ∈ xs, ∃ k, g.kind? x = some k ∧ k.cascade ≤ n) :
    (gather deactivate xs).Ends g (fun changes h => ∃ ts, g.UnfoldsEach xs ts h ∧ allChanges ts = changes)
      fun _ _ => False := by
  induction xs generalizing g with
  | nil => exact ⟨[], .nil, rfl⟩
  | cons x xs ih =>
    obtain ⟨k, here, shallow⟩ := known x (by simp)
    simp only [gather, ends_bind, ends_pure]
    refine (returns wf here shallow).imp_ok ?_
    intro changes g' fact
    obtain ⟨t, first, rfl⟩ := fact
    refine (ih (first.run.wellFormed wf) fun y mem => ?_).imp_ok ?_
    · rw [first.run.alike.kind?]
      exact known y (by simp [mem])
    · intro changes h fact
      obtain ⟨ts, rest, rfl⟩ := fact
      exact ⟨t :: ts, .cons first rest, rfl⟩

theorem refreshesEach_ends (wf : g.WellFormed) (known : ∀ p ∈ ps, g.kind? p = some k) (shallow : k.cascade ≤ n) :
    (gather (refreshParent deactivate k) ps).Ends g
      (fun changes h => ∃ ts, g.RefreshesEach k ps ts h ∧ allChanges ts = changes) fun _ _ => False := by
  induction ps generalizing g with
  | nil => exact ⟨[], .nil, rfl⟩
  | cons p ps ih =>
    have here := known p (by simp)
    have later : ∀ {g' : Graph}, g.Alike g' → ∀ q ∈ ps, g'.kind? q = some k := fun alike q mem => by
      rw [alike.kind?]
      exact known q (by simp [mem])
    simp only [gather, ends_bind, ends_pure]
    refine refreshParent_ends wf here (fun passed => ?_) fun active childless => ?_
    · refine (ih wf (later .refl)).imp_ok fun _ h fact => ?_
      obtain ⟨ts, rest, rfl⟩ := fact
      exact ⟨ts, .skip passed rest, rfl⟩
    · refine (returns wf here shallow).imp_ok fun _ g' fact => ?_
      obtain ⟨t, first, rfl⟩ := fact
      refine (ih (first.run.wellFormed wf) (later first.run.alike)).imp_ok fun _ h fact => ?_
      obtain ⟨ts, rest, rfl⟩ := fact
      exact ⟨t :: ts, .call active childless first rest, rfl⟩

theorem refreshes_ends (wf : g.WellFormed) (shallow : ∀ k ∈ ks, k.cascade ≤ n) :
    (gather (refreshKind deactivate id) ks).Ends g
      (fun changes h => ∃ ts, g.Refreshes id ks ts h ∧ allChanges ts = changes) fun _ _ => False := by
  induction ks generalizing g with
  | nil => exact ⟨[], .nil, rfl⟩
  | cons k ks ih =>
    simp only [gather, refreshKind, ends_bind, ends_get, ends_pure]
    have known : ∀ p ∈ (g.neighbors id k).toList, g.kind? p = some k := fun p mem =>
      wf.kind?_of_mem (Std.ExtTreeSet.mem_toList.mp mem)
    refine (refreshesEach_ends returns wf known (shallow k (by simp))).imp_ok ?_
    intro changes g' fact
    obtain ⟨ts, first, rfl⟩ := fact
    refine (ih (first.run.wellFormed wf) fun k' mem => shallow k' (by simp [mem])).imp_ok ?_
    intro changes h fact
    obtain ⟨ts', rest, rfl⟩ := fact
    exact ⟨ts ++ ts', .cons first rest, allChanges_append ts ts'⟩

end Depth

/-- A depth as great as the cascade of its kind is all that a call needs. -/
theorem deactivateWithin_returns (wf : g.WellFormed) (known : g.kind? id = some kind) (deep : kind.cascade ≤ n) :
    (deactivateWithin n id).Ends g (fun changes h => ∃ t, g.Unfolds id t h ∧ t.changes = changes)
      fun _ _ => False := by
  induction n generalizing g id kind with
  | zero =>
    have := kind.cascade_pos
    omega
  | succ n ih =>
    rw [← deactivateWithinBy_asListed]
    refine deactivateWithinBy_succ_ends .asListed known (fun idle => ⟨_, .idle known idle, rfl⟩) fun active => ?_
    simp only [deactivateWithinBy_asListed, refreshDependentsBy_asListed, refreshDependents_eq]
    have wf₁ := wf.reflag id false
    rw [ends_bind]
    refine (unfoldsEach_ends ih wf₁ fun y mem => ?_).imp_ok fun _ h fact => ?_
    · rw [Arrangement.mem_ids] at mem
      split at mem
      · rename_i participant
        obtain ⟨k, isEndpoint, near⟩ := mem_endpointsOf.mp mem
        have shallower : k.cascade < kind.cascade := EntityKind.cascade_lt (.inr ⟨participant, isEndpoint⟩)
        exact ⟨k, wf₁.kind?_of_mem near, by omega⟩
      · cases mem
    obtain ⟨below, contents, rfl⟩ := fact
    rw [ends_bind]
    refine (refreshes_ends ih (contents.run.wellFormed wf₁) fun k dependent => ?_).imp_ok fun _ h' fact => ?_
    · have shallower := EntityKind.cascade_lt (.inl dependent)
      omega
    obtain ⟨above, refresh, rfl⟩ := fact
    refine ⟨_, .effective known active contents refresh, ?_⟩
    rw [changes, allChanges_append]
    rfl

theorem deactivate_returns (wf : g.WellFormed) (known : g.kind? id = some kind) :
    (deactivate id).Ends g (fun changes h => ∃ t, g.Unfolds id t h ∧ t.changes = changes) fun _ _ => False :=
  deactivateWithin_returns wf known kind.cascade_le

/-- A refresh returns as well, on whatever it is made. -/
theorem refreshDependents_returns (wf : g.WellFormed) :
    (refreshDependents deactivate id kind).Ends g
      (fun changes h => ∃ ts, g.Refreshes id kind.dependents ts h ∧ allChanges ts = changes) fun _ _ => False := by
  rw [refreshDependents_eq]
  exact refreshes_ends deactivateWithin_returns wf fun k _ => k.cascade_le

end Graph
end DiscoveryGraph
