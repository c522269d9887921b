import DiscoveryGraph.Proofs.Lifecycle.Activation

/-! The worklist of an activation without a bound on its visits. The loop goes on as long as anything is pending and
the visits succeed, so that it need not end. From an entity that exists it does, with nothing left to visit, and as
soon as the activation itself does: the kinds along a chain of supports bound what one pending entity can cause. -/
namespace DiscoveryGraph
namespace Activation
open DiscoveryGraph.Graph Update

/-- The loop comes to an end after `n` visits: nothing is pending by then, or the last visit fails. -/
inductive Loop : Activation → Graph → Nat → EStateM.Result StorageError Graph Activation → Prop
  | emptied {run : Activation} {g : Graph} : run.pending = [] → Loop run g 0 (.ok run g)
  | failed {run : Activation} {g h : Graph} {e : StorageError} : run.pending ≠ [] → run.visit g = .error e h →
      Loop run g 1 (.error e h)
  | visited {run run' : Activation} {g g' : Graph} {n : Nat} {r : EStateM.Result StorageError Graph Activation} :
      run.pending ≠ [] → run.visit g = .ok run' g' → Loop run' g' n r → Loop run g (n + 1) r

variable {g h : Graph} {id : EntityId} {k : EntityKind} {run run' : Activation} {n n' : Nat}
    {r r' : EStateM.Result StorageError Graph Activation}

/-- There is at most one end. -/
theorem Loop.unique (loop : Loop run g n r) (loop' : Loop run g n' r') : n = n' ∧ r = r' := by
  induction loop generalizing n' r' with
  | emptied done =>
    cases loop' with
    | emptied => exact ⟨rfl, rfl⟩
    | failed busy => exact absurd done busy
    | visited busy => exact absurd done busy
  | failed busy visit =>
    cases loop' with
    | emptied done => exact absurd done busy
    | failed _ visit' =>
      obtain ⟨rfl, rfl⟩ := by simpa only [EStateM.Result.error.injEq] using visit.symm.trans visit'
      exact ⟨rfl, rfl⟩
    | visited _ visit' => cases visit.symm.trans visit'
  | visited busy visit _ ih =>
    cases loop' with
    | emptied done => exact absurd done busy
    | failed _ visit' => cases visit.symm.trans visit'
    | visited _ visit' rest' =>
      obtain ⟨rfl, rfl⟩ := by simpa only [EStateM.Result.ok.injEq] using visit.symm.trans visit'
      obtain ⟨rfl, rfl⟩ := ih rest'
      exact ⟨rfl, rfl⟩

/-- Bounded visits that leave nothing pending are all the visits that the loop makes. -/
theorem loop_of_visits (ended : visits n run g = .ok run' h) (done : run'.pending = []) :
    ∃ m ≤ n, Loop run g m (.ok run' h) := by
  induction n generalizing run g with
  | zero =>
    cases ended
    exact ⟨0, Nat.le_refl 0, .emptied done⟩
  | succ n ih =>
    rw [visits] at ended
    split at ended
    · rename_i empty
      cases ended
      exact ⟨0, Nat.zero_le _, .emptied done⟩
    · rename_i busy
      cases visit : run.visit g with
      | error => simp only [Bind.bind, EStateM.bind, visit, reduceCtorEq] at ended
      | ok run₁ g₁ =>
        simp only [Bind.bind, EStateM.bind, visit] at ended
        obtain ⟨m, few, rest⟩ := ih ended
        exact ⟨m + 1, by omega, .visited (by simpa using busy) visit rest⟩

theorem visits_of_nil (done : run.pending = []) : visits n run = pure run := by
  cases n with
  | zero => rfl
  | succ n => rw [visits, done, List.isEmpty_nil, if_pos rfl]

/-- A domain is passed over, and anything else is visited as its kind needs. -/
theorem visits_ends (wf : g.WellFormed) (known : g.kind? id = some k) :
    (visits (chainSize g chainLength id) { pending := [id] }).Ends g (fun run _ => run.pending = [])
      fun _ _ => False := by
  by_cases isDomain : k = .domain
  · obtain ⟨entity, found, rfl⟩ := kind?_eq_some.mp known
    rw [chainLength, chainSize_succ known, Nat.add_comm, visits]
    simp [visit, lookup_eq_ok, lookup_eq_error, found, isDomain, visits_of_nil]
  · rw [← visitsBy_asListed]
    refine (visitsBy_ends .asListed wf known isDomain .initial (by simp [total, weight])).imp_ok ?_
    exact fun _ _ held => held.2

theorem activate_eq : activate id g =
    (visits (chainSize g chainLength id) { pending := [id] } >>= fun run => pure run.changes) g := rfl

/-- From an entity that exists the loop ends with nothing left to visit, and it has made the visits of an activation. -/
theorem loop_ends (wf : g.WellFormed) (known : g.kind? id = some k) :
    ∃ n ≤ chainSize g chainLength id, ∃ run h, Loop { pending := [id] } g n (.ok run h) ∧ run.pending = [] ∧
      activate id g = .ok run.changes h := by
  obtain ⟨run, h, ended, done⟩ := (visits_ends wf known).exists_ok
  obtain ⟨n, few, loop⟩ := loop_of_visits ended done
  refine ⟨n, few, run, h, loop, done, ?_⟩
  simp only [activate_eq, Bind.bind, EStateM.bind, ended]
  rfl

/-- An entity that does not exist fails its visit, which is the first. -/
theorem loop_unknown (unknown : g.kind? id = none) :
    Loop { pending := [id] } g 1 (.error (.entityNotFound id) g) := by
  refine .failed (by simp) ?_
  simp [visit, Bind.bind, EStateM.bind, Update.read, lookup, kind?_eq_none.mp unknown]

end Activation
end DiscoveryGraph
