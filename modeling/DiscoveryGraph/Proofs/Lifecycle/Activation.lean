import DiscoveryGraph.Proofs.Lifecycle.Arrangement

/-! Activation reaches exactly what it has to. It raises nothing but inactive entities along
chains of support from its start, and it leaves every support of its start and of whatever it
raised active. The bound on its visits is never what ends it, in whatever order it makes them. -/
namespace DiscoveryGraph

namespace EntityKind

/-- The length of the longest chain of kinds that starts with a kind and goes on to kinds that are
kept alive. -/
def chain : EntityKind → Nat
  | dataWriter | dataReader => 5
  | participant => 4
  | process => 3
  | user => 2
  | _ => 1

theorem chain_lt {kind k : EntityKind} (mem : k ∈ kind.sustains) : k.chain < kind.chain := by
  cases kind <;> revert k <;> decide

theorem chain_pos (kind : EntityKind) : 0 < kind.chain := by cases kind <;> decide

theorem chain_le (kind : EntityKind) : kind.chain ≤ Activation.chainLength := by cases kind <;> decide

theorem ne_domain_of_mem_sustains {kind k : EntityKind} (mem : k ∈ kind.sustains) : k ≠ domain := by
  cases kind <;> revert k <;> decide

end EntityKind

namespace Graph

/-- An entity keeps another one alive. -/
def Sustains (g : Graph) (x y : EntityId) : Prop := ∃ kind, g.kind? x = some kind ∧ y ∈ g.sustained x kind

/-- What an entity revives: itself and, from there on, inactive supports. -/
inductive Revives (g : Graph) (id : EntityId) : EntityId → Prop
  | self : Revives g id id
  | step {x y : EntityId} : Revives g id x → g.Sustains x y → g.alive y = false → Revives g id y

variable {g h : Graph} {id x y : EntityId} {k : EntityKind}

theorem sustains_iff : g.Sustains x y ↔
    ∃ kind, g.kind? x = some kind ∧ ∃ k ∈ kind.sustains, y ∈ g.neighbors x k := by
  simp only [Sustains, mem_sustained]

theorem Alike.sustains_iff (alike : g.Alike h) : h.Sustains x y ↔ g.Sustains x y := by
  simp only [Sustains, alike.kind?, alike.sustained]

theorem Sustains.known (sustains : g.Sustains x y) (wf : g.WellFormed) :
    ∃ k, g.kind? y = some k ∧ k ≠ .domain := by
  obtain ⟨kind, -, k, mem, near⟩ := sustains_iff.mp sustains
  exact ⟨k, wf.kind?_of_mem near, EntityKind.ne_domain_of_mem_sustains mem⟩

theorem Revives.known (revives : g.Revives id x) (wf : g.WellFormed) (start : g.kind? id = some k)
    (discovered : k ≠ .domain) : ∃ k, g.kind? x = some k ∧ k ≠ .domain := by
  cases revives with
  | self => exact ⟨k, start, discovered⟩
  | step _ sustains _ => exact sustains.known wf

/-- What keeps only active entities alive revives nothing but itself. -/
theorem Revives.eq_of_sustained (revives : g.Revives id x)
    (sustained : ∀ y, g.Sustains id y → g.alive y = true) : x = id := by
  induction revives with
  | self => rfl
  | step _ sustains dead ih =>
    subst ih
    rw [sustained _ sustains] at dead
    cases dead

end Graph

namespace Activation
open DiscoveryGraph.Graph Update
variable {g h : Graph} {id x : EntityId} {k : EntityKind} {run : Activation} {n : Nat}

/-! ### The bound -/

section Total
variable {w w' : EntityId → Nat} {ids ids' : List EntityId}

theorem total_congr (same : ∀ x ∈ ids, w x = w' x) : total w ids = total w' ids := by
  induction ids with
  | nil => rfl
  | cons id ids ih => rw [total, total, same id (by simp), ih fun x mem => same x (by simp [mem])]

theorem total_append : total w (ids ++ ids') = total w ids + total w ids' := by
  induction ids with
  | nil => simp [total]
  | cons id ids ih => rw [List.cons_append, total, total, ih, Nat.add_assoc]

theorem total_perm (perm : ids.Perm ids') : total w ids = total w ids' := by
  induction perm with
  | nil => rfl
  | cons _ _ ih => rw [total, total, ih]
  | swap => simp only [total, Nat.add_left_comm]
  | trans _ _ ih ih' => rw [ih, ih']

theorem total_filter_le (p : EntityId → Bool) : total w (ids.filter p) ≤ total w ids := by
  induction ids with
  | nil => simp
  | cons id ids ih =>
    rw [List.filter_cons, total]
    split
    · rw [total]
      omega
    · omega

end Total

theorem chainSize_succ (known : g.kind? id = some k) :
    chainSize g (n + 1) id = 1 + total (chainSize g n) (g.sustained id k) := by
  obtain ⟨entity, found, rfl⟩ := kind?_eq_some.mp known
  simp only [chainSize, found]

/-- Longer chains than an entity can start add nothing. -/
theorem chainSize_stable (wf : g.WellFormed) (known : g.kind? id = some k) (long : k.chain ≤ n) :
    chainSize g (n + 1) id = chainSize g n id := by
  induction n generalizing id k with
  | zero =>
    have := k.chain_pos
    omega
  | succ n ih =>
    rw [chainSize_succ known, chainSize_succ known]
    refine congrArg (1 + ·) (total_congr fun y mem => ?_)
    obtain ⟨k', mem', near⟩ := mem_sustained.mp mem
    have shorter := EntityKind.chain_lt mem'
    exact ih (wf.kind?_of_mem near) (by omega)

/-- The number of visits that an entity can cause. -/
def weight (g : Graph) (id : EntityId) : Nat := chainSize g chainLength id

theorem weight_eq (wf : g.WellFormed) (known : g.kind? id = some k) :
    weight g id = 1 + total (weight g) (g.sustained id k) := by
  have deep : weight g id = chainSize g (chainLength + 1) id := (chainSize_stable wf known k.chain_le).symm
  rw [deep, chainSize_succ known]
  rfl

/-! ### The worklist -/

/-- Every support of an entity is active or about to be visited. -/
def Settled (h : Graph) (pending : List EntityId) (x : EntityId) : Prop :=
  ∀ y, h.Sustains x y → h.alive y = true ∨ y ∈ pending

/-- Where an activation of `id` in `g` stands. -/
structure Progress (g : Graph) (id : EntityId) (run : Activation) (h : Graph) : Prop where
  raised : Run (Action.Flags true (g.Revives id)) g run.changes h
  revived : ∀ x ∈ run.pending, g.Revives id x
  start : id ∈ run.pending ∨ h.alive id = true ∧ Settled h run.pending id
  settled : ∀ x, g.alive x = false → h.alive x = true → Settled h run.pending x

/-- At first only the start is to be visited. -/
theorem Progress.initial : Progress g id { pending := [id] } g := by
  refine ⟨.nil, ?_, .inl (by simp), ?_⟩
  · simpa using Revives.self
  · intro x dead alive
    simp [dead] at alive

/-- What one visit adds to the list: the inactive supports of an entity, the last of them first. -/
def idleSupports (g h : Graph) (x : EntityId) (kind : EntityKind) : List EntityId :=
  ((g.sustained x kind).filter (! h.alive ·)).reverse

theorem mem_idleSupports {y : EntityId} :
    y ∈ idleSupports g h x k ↔ y ∈ g.sustained x k ∧ h.alive y = false := by
  simp [idleSupports]

theorem total_idleSupports_lt (wf : g.WellFormed) (known : g.kind? x = some k) :
    total (weight g) (idleSupports g h x k) + 1 ≤ weight g x := by
  have bound : total (weight g) ((g.sustained x k).filter (! h.alive ·)) ≤ _ := total_filter_le _
  rw [idleSupports, total_perm (List.reverse_perm _), weight_eq wf known]
  omega

/-- An entity that was raised leaves the list for its inactive supports, and nothing else that was
settled notices. -/
theorem Progress.visited {h' : Graph} {rest : List EntityId} {changes : List StateChange}
    (progress : Progress g id run h) (pending : run.pending = x :: rest) (known : g.kind? x = some k)
    (flags : Run (Action.Flags true (· = x)) h changes h') (alive : h'.alive x = true) :
    Progress g id { pending := idleSupports g h' x k ++ rest, changes := run.changes ++ changes } h' := by
  have alike := progress.raised.alike.trans flags.alike
  have revived := progress.revived x (by simp [pending])
  have keeps : ∀ z, Settled h run.pending z → Settled h' (idleSupports g h' x k ++ rest) z := by
    intro z settled y sustains
    rw [flags.alike.sustains_iff] at sustains
    obtain raised | mem := settled y sustains
    · exact .inl (flags.alive_of_raised raised)
    · rw [pending, List.mem_cons] at mem
      obtain rfl | mem := mem
      · exact .inl alive
      · exact .inr (List.mem_append_right _ mem)
  have here : Settled h' (idleSupports g h' x k ++ rest) x := by
    intro y sustains
    obtain ⟨kind, known', mem⟩ := alike.sustains_iff.mp sustains
    obtain rfl := kind_unique known known'
    cases state : h'.alive y
    · exact .inr (List.mem_append_left _ (mem_idleSupports.mpr ⟨mem, state⟩))
    · exact .inl rfl
  constructor
  case raised =>
    refine progress.raised.trans (flags.flags_mono ?_)
    intro y same
    rwa [same]
  case revived =>
    intro y mem
    obtain mem | mem := List.mem_append.mp mem
    · obtain ⟨mem, dead⟩ := mem_idleSupports.mp mem
      refine revived.step ⟨k, known, mem⟩ ?_
      cases state : g.alive y
      · rfl
      · rw [flags.alive_of_raised (progress.raised.alive_of_raised state)] at dead
        cases dead
    · exact progress.revived y (by simp [pending, mem])
  case start =>
    obtain mem | ⟨raised, settled⟩ := progress.start
    · rw [pending, List.mem_cons] at mem
      obtain rfl | mem := mem
      · exact .inr ⟨alive, here⟩
      · exact .inl (List.mem_append_right _ mem)
    · exact .inr ⟨flags.alive_of_raised raised, keeps id settled⟩
  case settled =>
    intro z dead raised
    obtain unchanged | ⟨rfl, -⟩ := flags.alive_eq_or (x := z)
    · exact keeps z (progress.settled z dead (by rwa [← unchanged]))
    · exact here

theorem visit_ends (wf : g.WellFormed) (known : g.kind? id = some k) (discovered : k ≠ .domain)
    {x : EntityId} {rest : List EntityId} (pending : run.pending = x :: rest) (progress : Progress g id run h) :
    run.visit.Ends h
      (fun run' h' => Progress g id run' h' ∧
        total (weight g) run'.pending + 1 ≤ total (weight g) run.pending)
      fun _ _ => False := by
  have alike := progress.raised.alike
  obtain ⟨kind, knownx, discoveredx⟩ := (progress.revived x (by simp [pending])).known wf known discovered
  have knownx' : h.kind? x = some kind := by rw [alike.kind?, knownx]
  obtain ⟨entity, found, rfl⟩ := kind?_eq_some.mp knownx'
  simp only [visit, pending, ends_bind, ends_read, lookup_eq_ok, lookup_eq_error, found, Option.some.injEq]
  refine ⟨?_, by simp⟩
  intro _ equal
  subst equal
  rw [if_neg discoveredx, ends_bind]
  refine (flag_run (s := (· = x)) knownx' rfl).imp_ok ?_
  intro changes h' held
  obtain ⟨flags, alivex, -⟩ := held
  have same : h'.sustained x entity.kind = g.sustained x entity.kind := (alike.trans flags.alike).sustained
  have exist : ∀ y ∈ g.sustained x entity.kind, ∃ k, h'.kind? y = some k := by
    intro y mem
    obtain ⟨k, -, near⟩ := mem_sustained.mp mem
    exact ⟨k, by rw [(alike.trans flags.alike).kind?, wf.kind?_of_mem near]⟩
  simp only [ends_bind, ends_read, same, inactiveOf_eq exist, ends_pure, Except.ok.injEq, reduceCtorEq,
    false_implies, implies_true, and_true, forall_eq']
  refine ⟨progress.visited pending knownx flags alivex, ?_⟩
  have fewer := total_idleSupports_lt (h := h') wf knownx
  rw [idleSupports] at fewer
  rw [total_append, total]
  omega

/-- What is still to be visited matters, the order does not. -/
theorem Progress.rearranged {ids : List EntityId} (progress : Progress g id run h)
    (perm : ids.Perm run.pending) : Progress g id { run with pending := ids } h := by
  have settled : ∀ x, Settled h run.pending x → Settled h ids x := fun x held y sustains =>
    (held y sustains).imp_right perm.mem_iff.mpr
  refine ⟨progress.raised, fun x mem => progress.revived x (perm.mem_iff.mp mem), ?_, ?_⟩
  · exact progress.start.imp perm.mem_iff.mpr fun held => ⟨held.1, settled id held.2⟩
  · exact fun x dead alive => settled x (progress.settled x dead alive)

theorem visitsBy_ends (order : Arrangement) (wf : g.WellFormed) (known : g.kind? id = some k)
    (discovered : k ≠ .domain) (progress : Progress g id run h) (enough : total (weight g) run.pending ≤ n) :
    (visitsBy order n run).Ends h (fun run' h' => Progress g id run' h' ∧ run'.pending = [])
      fun _ _ => False := by
  induction n generalizing run h with
  | zero =>
    refine ⟨progress, ?_⟩
    cases pending : run.pending with
    | nil => rfl
    | cons x rest =>
      obtain ⟨kind, knownx, -⟩ := (progress.revived x (by simp [pending])).known wf known discovered
      rw [pending, total, weight_eq wf knownx] at enough
      omega
  | succ n ih =>
    have perm := order.ids_perm h run.pending
    have progress := progress.rearranged perm
    rw [← total_perm perm] at enough
    rw [visitsBy, ends_bind, ends_get]
    cases pending : order.ids h run.pending with
    | nil => simpa [pending] using progress
    | cons x rest =>
      rw [pending] at progress enough
      simp only [List.isEmpty_cons, Bool.false_eq_true, if_false, ends_bind]
      refine (visit_ends wf known discovered rfl progress).imp_ok ?_
      intro run' h' held
      have fewer : total (weight g) run'.pending + 1 ≤ total (weight g) (x :: rest) := held.2
      exact ih held.1 (by omega)

end Activation

namespace Graph
open Update Activation
variable {g : Graph} {id : EntityId} {k : EntityKind}

/-- A finished activation: it raised only what its start revives, and whatever the start or anything
it raised keeps alive is alive. -/
structure Activated (g : Graph) (id : EntityId) (changes : List StateChange) (h : Graph) : Prop where
  raised : Run (Action.Flags true (g.Revives id)) g changes h
  alive : h.alive id = true
  sustained : ∀ x y, x = id ∨ g.alive x = false ∧ h.alive x = true → g.Sustains x y → h.alive y = true

theorem activateBy_ends (order : Arrangement) (wf : g.WellFormed) (known : g.kind? id = some k)
    (discovered : k ≠ .domain) : (activateBy order id).Ends g (Activated g id) fun _ _ => False := by
  rw [activateBy, ends_bind, ends_get, ends_bind]
  refine (visitsBy_ends order wf known discovered .initial (by simp [total, weight])).imp_ok ?_
  intro run h held
  obtain ⟨progress, done⟩ := held
  obtain mem | ⟨alive, settled⟩ := progress.start
  · simp [done] at mem
  refine ⟨progress.raised, alive, ?_⟩
  intro x y origin sustains
  rw [← progress.raised.alike.sustains_iff] at sustains
  have settledx : Settled h run.pending x := by
    obtain rfl | ⟨dead, raised⟩ := origin
    · exact settled
    · exact progress.settled x dead raised
  obtain alive | mem := settledx y sustains
  · exact alive
  · simp [done] at mem

theorem activate_ends (wf : g.WellFormed) (known : g.kind? id = some k) (discovered : k ≠ .domain) :
    (activate id).Ends g (Activated g id) fun _ _ => False := by
  rw [← activateBy_asListed]
  exact activateBy_ends .asListed wf known discovered

end Graph
end DiscoveryGraph
