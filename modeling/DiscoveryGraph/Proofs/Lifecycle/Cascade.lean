import DiscoveryGraph.Proofs.Lifecycle.Basic

/-! How far a cascade may go. Once some entities have fallen, the active endpoints of a fallen
participant may fall as well, and so may an active entity that has a fallen child if all of its
active children may fall. Nothing else does, in whatever order the cascade goes on, and a stopped
domain takes nothing along but what may fall with what it flags itself. -/
namespace DiscoveryGraph.Graph
open Update
variable {g h : Graph} {d id x y : EntityId} {k : EntityKind} {n : Nat} {s t : EntityId → Prop}
    {changes : List StateChange}

/-- What may fall with some entities. -/
inductive Falls (g : Graph) (s : EntityId → Prop) : EntityId → Prop
  | start {x : EntityId} : s x → Falls g s x
  | endpoint {p y : EntityId} : Falls g s p → g.kind? p = some .participant → y ∈ g.endpointsOf p →
      g.alive y = true → Falls g s y
  | derived {x c : EntityId} {k : EntityKind} : g.kind? x = some k → g.alive x = true → c ∈ g.children x k →
      Falls g s c → (∀ y ∈ g.children x k, g.alive y = true → Falls g s y) → Falls g s x

/-- What may fall with one entity, which has to be active for that. -/
def FallsWith (g : Graph) (id : EntityId) : EntityId → Prop := g.Falls fun x => x = id ∧ g.alive x = true

namespace Falls

theorem exists_start (falls : g.Falls s x) : ∃ y, s y := by
  induction falls with
  | start mine => exact ⟨_, mine⟩
  | endpoint _ _ _ _ ih => exact ih
  | derived _ _ _ _ _ ih _ => exact ih

/-- Participants fall first, or not at all. -/
theorem of_participant (falls : g.Falls s x) (wf : g.WellFormed) (known : g.kind? x = some .participant) :
    s x := by
  cases falls with
  | start mine => exact mine
  | endpoint _ _ mem _ =>
    obtain ⟨kind, isEndpoint, near⟩ := mem_endpointsOf.mp mem
    obtain rfl := kind_unique known (wf.kind?_of_mem near)
    cases isEndpoint
  | derived known' _ child _ _ =>
    obtain rfl := kind_unique known known'
    obtain ⟨kind, derived, -⟩ := mem_children.mp child
    cases derived

/-- What falls later on, after some of what may fall has, might have fallen from the start. -/
theorem of_run (run : Run (Action.Flags false (g.Falls s)) g changes h) (start : ∀ x, t x → g.Falls s x)
    (falls : h.Falls t x) : g.Falls s x := by
  have alike := run.alike
  induction falls with
  | start mine => exact start _ mine
  | endpoint _ known mem active ih =>
    rw [alike.kind?] at known
    rw [alike.endpointsOf] at mem
    exact .endpoint ih known mem (run.alive_before active)
  | derived known active child _ _ ih ihs =>
    rw [alike.kind?] at known
    rw [alike.children] at child ihs
    refine .derived known (run.alive_before active) child ih fun y mem before => ?_
    obtain same | ⟨fallen, -⟩ := run.alive_eq_or (x := y)
    · exact ihs y mem (same.trans before)
    · exact fallen

end Falls

/-- A refresh goes on to what may fall with its start. -/
theorem refreshDependentsBy_falls (order : Arrangement)
    {deactivate : EntityId → Update StorageError (List StateChange)}
    (deactivates : ∀ (g : Graph) (id : EntityId) (k : EntityKind), g.WellFormed → g.kind? id = some k →
      (deactivate id).Ends g (Run (Action.Flags false (g.FallsWith id)) g) fun _ _ => False)
    (wf : g.WellFormed) (known : g.kind? id = some k) :
    (refreshDependentsBy order deactivate id k).Ends g (Run (Action.Flags false (g.Falls (· = id))) g)
      fun _ _ => False := by
  refine (refreshDependentsBy_ends order (Run (Action.Flags false (g.Falls (· = id))) g) (fun _ _ => True) wf
    (fun run => ⟨run.alike, run.wellFormed wf⟩) (fun _ _ _ _ _ _ => trivial) ?_ .nil).imp_ok
    fun _ _ held => held.1
  intro done h run kind dependent p near active childless
  have knownp := wf.kind?_of_mem near
  refine (deactivates h p kind (run.wellFormed wf) (by rw [run.alike.kind?, knownp])).imp_ok ?_
  intro changes h' further
  refine ⟨run.trans (further.flags_mono fun x => .of_run run ?_), trivial, fun _ _ => trivial⟩
  rintro x ⟨rfl, -⟩
  have child : id ∈ g.children x kind :=
    mem_children.mpr ⟨k, (EntityKind.mem_dependents_iff k kind).mp dependent, wf.mem_symm near known⟩
  refine .derived knownp (run.alive_before active) child (.start rfl) fun y mem before => ?_
  obtain same | ⟨fallen, -⟩ := run.alive_eq_or (x := y)
  · simp [childless y mem, before] at same
  · exact fallen

theorem deactivateWithinBy_falls (order : Arrangement) (wf : g.WellFormed) (known : g.kind? id = some k) :
    (deactivateWithinBy order n id).Ends g (Run (Action.Flags false (g.FallsWith id)) g) fun _ _ => False := by
  induction n generalizing g id k with
  | zero => exact .nil
  | succ n ih =>
    refine deactivateWithinBy_succ_ends order known (fun _ => .nil) fun active => ?_
    have here : g.FallsWith id id := .start ⟨rfl, active⟩
    have lowers : Run (Action.Flags false (· = id)) g [⟨id, k, false⟩] (g.reflag id false) :=
      run_reflag known active
    rw [ends_bind]
    refine (ends_gather (fun below h => Run (Action.Flags false (g.FallsWith id)) g ([⟨id, k, false⟩] ++ below) h)
      ?_ ?_).imp_ok ?_
    · intro y mem below h run
      rw [order.mem_ids] at mem
      split at mem
      · rename_i participant
        rw [Alike.reflag.endpointsOf] at mem
        obtain ⟨kind, -, near⟩ := mem_endpointsOf.mp mem
        have knowny : h.kind? y = some kind := by rw [run.alike.kind?, wf.kind?_of_mem near]
        refine (ih (run.wellFormed wf) knowny).imp_ok ?_
        intro changes h' further
        rw [← List.append_assoc]
        refine run.trans (further.flags_mono fun x => .of_run run ?_)
        rintro x ⟨rfl, alive⟩
        exact here.endpoint (participant ▸ known) mem (run.alive_before alive)
      · cases mem
    · simpa using lowers.flags_mono fun x same => same ▸ here
    · intro below h run
      have known' : h.kind? id = some k := by rw [run.alike.kind?, known]
      rw [ends_bind]
      refine (refreshDependentsBy_falls order (fun _ _ _ => ih) (run.wellFormed wf) known').imp_ok ?_
      intro above h' further
      refine run.trans (further.flags_mono fun x => .of_run run ?_)
      rintro x rfl
      exact here

theorem stopDomain_falls (wf : g.WellFormed) (known : g.kind? d = some .domain) :
    (stopDomain d).Ends g (Run (Action.Flags false (g.Falls (g.Halts d))) g) fun _ _ => False := by
  refine stopDomain_stages wf known fun participants changed h memp run _ => ?_
  refine ends_gather (fun done h => Run (Action.Flags false (g.Falls (g.Halts d))) g (changed ++ done) h) ?_ ?_
  · intro p mem done h' run'
    have near := (memp p).mp mem
    have knownp : h'.kind? p = some .participant := by rw [run'.alike.kind?, wf.kind?_of_mem near]
    have falls : ∀ (g : Graph) (id : EntityId) (k : EntityKind), g.WellFormed → g.kind? id = some k →
        (deactivate id).Ends g (Run (Action.Flags false (g.FallsWith id)) g) fun _ _ => False := by
      rw [← deactivateBy_asListed]
      exact fun _ _ _ => deactivateWithinBy_falls .asListed
    rw [ends_liftStorage, ← refreshDependentsBy_asListed]
    refine (refreshDependentsBy_falls .asListed falls (run'.wellFormed wf) knownp).imp_ok ?_
    intro above h'' further
    rw [← List.append_assoc]
    refine run'.trans (further.flags_mono fun x => .of_run run' ?_)
    rintro x rfl
    exact .start (.inr (.inl near))
  · simpa using run.flags_mono fun x halts => .start halts

end DiscoveryGraph.Graph
