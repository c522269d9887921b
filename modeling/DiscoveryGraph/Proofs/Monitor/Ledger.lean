import Mathlib.Data.List.Perm.Subperm
import DiscoveryGraph.Proofs.Monitor.Simulation

/-! What threads have done and what they still owe. Each request of a thread is decided once, in order, and each
delivery that the sequential run makes for it is made by the thread itself, later on. -/
namespace DiscoveryGraph
namespace Service
open DiscoveryGraph.Graph
variable {s : Service} {thread other : Thread} {stage : Stage} {request : Request} {move : Move} {d : EntityId}
  {moves moves' : List Move} {v w : World}

/-! ### Threads apart -/

/-- What is on record for one thread, in order. -/
def ofThread {α : Type} (thread : Thread) (entries : List (Thread × α)) : List α :=
  entries.filterMap fun entry => if entry.1 = thread then some entry.2 else none

section OfThread
variable {α : Type} {entries entries' : List (Thread × α)}

theorem ofThread_append : ofThread thread (entries ++ entries') = ofThread thread entries ++ ofThread thread entries' :=
  List.filterMap_append

theorem ofThread_map_same {xs : List α} : ofThread thread (xs.map (thread, ·)) = xs := by
  simp [ofThread, List.filterMap_map]

theorem ofThread_map_other {xs : List α} (apart : other ≠ thread) : ofThread thread (xs.map (other, ·)) = [] := by
  simp [ofThread, List.filterMap_map, apart]

theorem ofThread_of_alone (alone : ∀ entry ∈ entries, entry.1 = thread) :
    ofThread thread entries = entries.map Prod.snd := by
  induction entries with
  | nil => rfl
  | cons entry entries ih =>
    rw [List.forall_mem_cons] at alone
    rw [ofThread, filterMap_cons_toList, if_pos alone.1]
    exact congrArg (entry.2 :: ·) (ih alone.2)

variable [DecidableEq α]

end OfThread

/-! ### What is due -/

/-- The requests that threads set out to carry out. -/
def called (moves : List Move) : List (Thread × Request) := moves.filterMap Move.called?

/-- What listeners were told, and who told them. -/
def tellings (moves : List Move) : List (Thread × Delivery) := moves.filterMap Move.told?

/-- What listeners receive when requests are done one after another, on account of which thread. -/
def dues (service : Service) : List (Thread × Request) → List (Thread × Delivery)
  | [] => []
  | (thread, request) :: requests =>
    (request.yields service).map (thread, ·) ++ (request.act service).dues requests

/-- How many requests of the worker fail when requests are done one after another. -/
def failures (service : Service) : List (Thread × Request) → Nat
  | [] => 0
  | (thread, request) :: requests =>
    (decide (thread = .worker) && request.fails service).toNat + (request.act service).failures requests

theorem decided_append : decided (moves ++ moves') = decided moves ++ decided moves' := List.filterMap_append

theorem tellings_append : tellings (moves ++ moves') = tellings moves ++ tellings moves' := List.filterMap_append

theorem tellings_cons : tellings (move :: moves) = move.told?.toList ++ tellings moves := filterMap_cons_toList

section Dues
variable {requests requests' : List (Thread × Request)}

theorem dues_append :
    s.dues (requests ++ requests') = s.dues requests ++ (s.run (requests.map Prod.snd)).dues requests' := by
  induction requests generalizing s with
  | nil => rfl
  | cons entry requests ih => rw [List.cons_append, dues, dues, ih, List.append_assoc]; rfl

theorem dues_decided_cons : s.dues (decided (move :: moves)) =
    s.dues move.decided?.toList ++ (s.run (move.decided?.toList.map Prod.snd)).dues (decided moves) := by
  rw [decided, filterMap_cons_toList, dues_append]
  rfl

theorem failures_append : s.failures (requests ++ requests') =
    s.failures requests + (s.run (requests.map Prod.snd)).failures requests' := by
  induction requests generalizing s with
  | nil => exact (Nat.zero_add _).symm
  | cons entry requests ih => rw [List.cons_append, failures, failures, ih, Nat.add_assoc]; rfl

theorem dues_alone (alone : ∀ entry ∈ requests, entry.1 = thread) : ∀ entry ∈ s.dues requests, entry.1 = thread := by
  induction requests generalizing s with
  | nil => exact fun entry mem => by cases mem
  | cons entry requests ih =>
    rw [List.forall_mem_cons] at alone
    rw [dues, List.forall_mem_append, List.forall_mem_map]
    exact ⟨fun _ _ => alone.1, ih alone.2⟩

/-- Nothing that was delivered is taken back. -/
theorem delivered_act (sound : s.Sound) : (request.act s).delivered = s.delivered ++ request.yields s := by
  have grows : s.delivered <+: (request.act s).delivered := by
    have steps : Steps s request (request.act s) := steps_act sound
    revert steps
    generalize request.act s = s'
    intro steps
    cases steps with
    | declined | refused | exhausted | started => exact List.prefix_rfl
    | applied | stopped | cleared => exact List.prefix_append _ _
  obtain ⟨deliveries, same⟩ := grows
  rw [Request.yields, ← same, List.drop_left]

theorem dues_map_snd (sound : s.Sound) :
    (s.run (requests.map Prod.snd)).delivered = s.delivered ++ (s.dues requests).map Prod.snd := by
  induction requests generalizing s with
  | nil => exact (List.append_nil _).symm
  | cons entry requests ih =>
    obtain ⟨thread, request⟩ := entry
    have rest : ((request.act s).run (requests.map Prod.snd)).delivered = _ := ih ((steps_act sound).sound sound)
    have unstamped : ((request.yields s).map (thread, ·)).map Prod.snd = request.yields s := by
      rw [List.map_map]
      exact List.map_id _
    rw [delivered_act sound, List.append_assoc] at rest
    rw [dues, List.map_append, unstamped]
    exact rest

end Dues

/-! ### What is decided -/

theorem stage_doing {activity : Activity} :
    (v.doing thread activity).stage other = if other = thread then activity.stage else v.stage other := by
  rw [World.stage, World.doing_threads]
  split <;> rfl

/-- A thread that turns to something else than a call owed no decision and owes none. -/
theorem undecided_doing {activity activity' : Activity} (about : v.threads thread = activity)
    (before : activity.stage.undecided = []) (after : activity'.stage.undecided = []) :
    ((v.doing thread activity').stage other).undecided = (v.stage other).undecided := by
  rw [stage_doing]
  split
  · next same => rw [after, same, World.stage, about, before]
  · rfl

/-- A thread that turns to a call owes its decision. -/
theorem undecided_called {activity : Activity} (about : v.threads thread = activity)
    (before : activity.stage.undecided = []) :
    ((v.doing thread (.calling (.called request))).stage other).undecided =
      (v.stage other).undecided ++ ofThread other [(thread, request)] := by
  rw [stage_doing]
  split
  · next same =>
    subst same
    rw [World.stage, about, before]
    simp [Activity.stage, Stage.undecided, ofThread]
  · next apart => simp [ofThread, Ne.symm apart]

theorem ofThread_decided? {turn : Turn} :
    ofThread other (Move.proceeds thread turn.decided turn.told).decided?.toList =
      if other = thread then turn.decided.toList else [] := by
  cases turn.decided with
  | none => simp [Move.decided?, ofThread]
  | some request =>
    by_cases same : other = thread
    · simp [Move.decided?, ofThread, same]
    · simp [Move.decided?, ofThread, same, Ne.symm same]

/-- What a thread sets out to do is decided in a turn of its own, or still undecided. -/
theorem Step.calls (step : Step v move w) :
    (v.stage thread).undecided ++ ofThread thread move.called?.toList =
      ofThread thread move.decided?.toList ++ (w.stage thread).undecided := by
  have idle (same : (w.stage thread).undecided = (v.stage thread).undecided) :
      (v.stage thread).undecided ++ ofThread thread [] =
        (ofThread thread [] : List Request) ++ (w.stage thread).undecided := by
    rw [same]
    exact List.append_nil _
  cases step with
  | submits free | enqueues free | submitted free | flushes free | marks free | flushed free | returns free =>
    exact idle (undecided_doing free rfl rfl)
  | tries | answers => exact idle rfl
  | finishes _ ended => exact idle (undecided_doing ended rfl rfl)
  | requests free => exact (undecided_called free rfl).symm
  | @takes message queue _ free =>
    cases message with
    | notify n => exact (undecided_called free rfl).symm
    | barrier ticket => exact idle rfl
  | @proceeds mover stage decided told calling goes free decides tells =>
    obtain rfl : v.stage mover = stage := World.stage_of_threads calling
    subst decides tells
    rw [ofThread_decided?, stage_proceed]
    split
    · next same =>
      rw [same, undecided_turn]
      exact List.append_nil _
    · exact List.append_nil _

/-- One if the worker has failed to apply a notification and not taken that down yet, zero otherwise. -/
def World.unrecorded (world : World) : Nat := if world.stage .worker = .ended false then 1 else 0

theorem World.unrecorded_congr (same : w.stage .worker = v.stage .worker) : w.unrecorded = v.unrecorded := by
  rw [unrecorded, same, unrecorded]

/-- A notification of the worker that fails is taken down, at last. -/
theorem Tracks.rejected_step (tracks : Tracks s v) (sound : s.Sound) (step : Step v move w) :
    w.service.rejected + w.unrecorded =
      v.service.rejected + v.unrecorded + s.failures move.decided?.toList := by
  have elsewhere {p : Nat} {activity : Activity} : (v.doing (.caller p) activity).unrecorded = v.unrecorded :=
    World.unrecorded_congr (by rw [stage_doing, if_neg (by simp)])
  cases step with
  | submits | submitted | flushes | flushed | requests | returns => exact congrArg (v.service.rejected + ·) elsewhere
  | enqueues | marks => exact congrArg (v.service.rejected + ·) elsewhere
  | answers => rfl
  | @tries p n outcome service free offers =>
    obtain ⟨rfl, -, posted⟩ | ⟨rfl, -, same⟩ := (Step.tries free offers).of_tries
    · rw [posted]
      rfl
    · rw [same]
      rfl
  | @takes message queue _ free =>
    cases message with
    | notify n =>
      have before : v.unrecorded = 0 := by
        rw [World.unrecorded, World.stage, free]
        rfl
      rw [before]
      rfl
    | barrier ticket => rfl
  | @finishes n succeeded _ ended =>
    have before : v.unrecorded = (!succeeded).toNat := by
      rw [World.unrecorded, World.stage, ended]
      cases succeeded <;> rfl
    rw [before]
    cases succeeded <;> rfl
  | @proceeds mover stage decided told calling goes free decides tells =>
    obtain rfl : v.stage mover = stage := World.stage_of_threads calling
    subst decides tells
    obtain ⟨s', advances⟩ := advances_turn sound tracks.agrees (tracks.fits mover) (tracks.access free) goes
    have kept : (v.proceed mover (v.stage mover)).service.rejected = v.service.rejected := aside_turn.rejected
    rw [kept, Nat.add_assoc]
    refine congrArg (v.service.rejected + ·) ?_
    cases mover with
    | caller p =>
      have same : (v.proceed (.caller p) (v.stage (.caller p))).stage .worker = v.stage .worker := by
        rw [stage_proceed, if_neg (by simp)]
      rw [World.unrecorded_congr same]
      cases ((v.stage (.caller p)).turn v.service).decided <;> simp [Move.decided?, failures]
    | worker =>
      have before : v.unrecorded = 0 := by
        refine if_neg fun ended => ?_
        rw [ended] at goes
        cases goes
      rw [before, World.unrecorded, stage_proceed, if_pos rfl]
      simp only [advances.fails]
      cases ((v.stage .worker).turn v.service).decided with
      | none => simp [Move.decided?, failures]
      | some request => cases failed : request.fails s <;> simp [Move.decided?, failures, failed]

/-- What a thread was to do and sets out to do is decided once each, in order, or still undecided. -/
theorem Execution.calls (execution : Execution v moves w) :
    (v.stage thread).undecided ++ ofThread thread (called moves) =
      ofThread thread (decided moves) ++ (w.stage thread).undecided := by
  induction execution with
  | nil => exact List.append_nil _
  | cons step _ ih =>
    rw [called, decided, filterMap_cons_toList, filterMap_cons_toList, ofThread_append, ofThread_append,
      ← List.append_assoc, step.calls, List.append_assoc, List.append_assoc]
    exact congrArg (_ ++ ·) ih

theorem Execution.rejected (execution : Execution v moves w) (tracks : Tracks s v) (sound : s.Sound) :
    w.service.rejected + w.unrecorded = v.service.rejected + v.unrecorded + s.failures (decided moves) := by
  induction execution generalizing s with
  | nil => rfl
  | cons step _ ih =>
    rw [ih (tracks.step sound step) sound.run, tracks.rejected_step sound step, decided, decided,
      filterMap_cons_toList, failures_append, Nat.add_assoc]

/-! ### What is delivered -/

theorem ofThread_told? {turn : Turn} :
    ofThread other (Move.proceeds thread turn.decided turn.told).told?.toList =
      if other = thread then turn.told.toList else [] := by
  cases turn.told with
  | none => simp [Move.told?, ofThread]
  | some delivery =>
    by_cases same : other = thread
    · simp [Move.told?, ofThread, same]
    · simp [Move.told?, ofThread, same, Ne.symm same]

theorem ofThread_dues_decided? {turn : Turn} :
    ofThread other (s.dues (Move.proceeds thread turn.decided turn.told).decided?.toList) =
      if other = thread then turn.decided.toList.flatMap (Request.yields s) else [] := by
  cases turn.decided with
  | none => simp [Move.decided?, dues, ofThread]
  | some request =>
    have one : s.dues (Move.proceeds thread (some request) turn.told).decided?.toList =
        (request.yields s).map (thread, ·) := List.append_nil _
    rw [one]
    split
    · rename_i same
      rw [same, ofThread_map_same]
      exact (List.append_nil _).symm
    · rename_i apart
      exact ofThread_map_other (Ne.symm apart)

/-- No domain is cleared while a call has yet to look for the listener that its events are for. -/
def Considerate (v : World) (move : Move) : Prop :=
  ∀ clearer d, move.decided? = some (clearer, .clear d) →
    ∀ thread events, v.stage thread = .seeking d events → received (v.service.listenerOf d) events = []

theorem Stage.access_of_clear {rest : List Request} (undecided : stage.undecided = .clear d :: rest) :
    (stage.waits = true ∨ stage.holds = true) ∧ ∀ monitors, stage.settle monitors = monitors := by
  cases stage with
  | called request =>
    cases undecided
    exact ⟨.inl rfl, fun _ => rfl⟩
  | clearing => exact ⟨.inr rfl, fun _ => rfl⟩
  | opening | opened | noted | cleared | seeking | telling | ended => cases undecided

/-- Whoever decides to clear a domain sees the monitors of the sequential run. -/
theorem Tracks.monitors_of_clears (tracks : Tracks s v) (free : (v.stage thread).waits = true → v.guard = none)
    (clears : ((v.stage thread).turn v.service).decided = some (.clear d)) : v.service.monitors = s.monitors := by
  have undecided : (v.stage thread).undecided = .clear d :: ((v.stage thread).turn v.service).stage.undecided := by
    rw [← undecided_turn (v := v.service), clears]
    rfl
  obtain ⟨needs, settled⟩ := Stage.access_of_clear undecided
  rw [← tracks.access free needs, settled]

/-- What a call tells and still owes after a turn is what it owed, but for what a clear has made void, and what
its request yields if the turn decides it. -/
theorem Tracks.owes_step (tracks : Tracks s v) (sound : s.Sound) (step : Step v move w) (thread : Thread) :
    ∃ rest, ofThread thread move.told?.toList ++
        (w.stage thread).owes (s.run (move.decided?.toList.map Prod.snd)) =
      rest ++ ofThread thread (s.dues move.decided?.toList) ∧
      rest.Sublist ((v.stage thread).owes s) ∧ (Considerate v move → rest = (v.stage thread).owes s) := by
  obtain ⟨calm, idle, silent⟩ | ⟨mover, goes, free, rfl, rfl⟩ := step.calm_or_proceeds
  · refine ⟨(v.stage thread).owes s, ?_, .refl _, fun _ => rfl⟩
    have same : (w.stage thread).owes s = (v.stage thread).owes s := by
      obtain same | ⟨before, after⟩ := calm.stages thread
      · rw [same]
      · rw [Stage.owes_of_plain before, Stage.owes_of_plain after]
    rw [silent, idle]
    exact same.trans (List.append_nil _).symm
  · obtain ⟨s', advances⟩ := advances_turn sound tracks.agrees (tracks.fits mover) (tracks.access free) goes
    rw [run_decided?, advances.follows, ofThread_told?, ofThread_dues_decided?, stage_proceed]
    by_cases same : thread = mover
    · subst same
      refine ⟨(v.stage thread).owes s, ?_, .refl _, fun _ => rfl⟩
      simp only [if_true]
      exact advances.accounts
    · simp only [if_neg same, List.nil_append, List.append_nil]
      refine ⟨(v.stage thread).owes s', rfl, ?_⟩
      rw [← advances.follows]
      cases decided : ((v.stage mover).turn v.service).decided with
      | none => exact ⟨.refl _, fun _ => rfl⟩
      | some request =>
        refine ⟨Stage.owes_act_sublist (tracks.fits thread) sound, fun considerate => ?_⟩
        refine Stage.owes_act (tracks.fits thread) sound fun d events seeks clears => ?_
        subst clears
        rw [listenerOf, ← tracks.monitors_of_clears free decided]
        exact considerate mover d rfl thread events seeks

/-- What is delivered in a turn is what the turn tells. -/
theorem Step.delivered (step : Step v move w) :
    w.service.delivered = v.service.delivered ++ move.told?.toList.map Prod.snd := by
  obtain ⟨calm, -, silent⟩ | ⟨mover, -, -, rfl, rfl⟩ := step.calm_or_proceeds
  · rw [silent, calm.delivered]
    exact (List.append_nil _).symm
  · have grows : ((v.stage mover).turn v.service).Aside v.service := aside_turn
    refine grows.delivered.trans (congrArg (v.service.delivered ++ ·) ?_)
    cases ((v.stage mover).turn v.service).told <;> rfl

theorem Execution.delivered (execution : Execution v moves w) :
    w.service.delivered = v.service.delivered ++ (tellings moves).map Prod.snd := by
  induction execution with
  | nil => exact (List.append_nil _).symm
  | cons step _ ih =>
    rw [ih, step.delivered, tellings, tellings, filterMap_cons_toList, List.map_append, List.append_assoc]

/-- No domain is cleared on the way while a call has yet to look for the listener that its events are for. -/
def Timely (world : World) (moves : List Move) : Prop :=
  ∀ before move after v, moves = before ++ move :: after → Execution world before v → Considerate v move

theorem Timely.of_cons (timely : Timely v (move :: moves)) :
    Considerate v move ∧ ∀ w, Step v move w → Timely w moves := by
  refine ⟨timely [] move moves v rfl .nil, fun w step before other after u parts execution => ?_⟩
  exact timely (move :: before) other after u (by rw [parts]; rfl) (.cons step execution)

theorem timely_of_no_clear (none : ∀ thread d, (thread, .clear d) ∉ decided moves) : Timely v moves := by
  intro before move after world parts _ clearer d clears
  refine absurd ?_ (none clearer d)
  rw [parts]
  exact List.mem_filterMap.mpr ⟨move, by simp, clears⟩

/-- If clears are timely, it is all that is due. -/
theorem Execution.owes_eq (execution : Execution v moves w) (tracks : Tracks s v) (sound : s.Sound)
    (timely : Timely v moves) :
    ofThread thread (tellings moves) ++ (w.stage thread).owes (s.sequential moves) =
      (v.stage thread).owes s ++ ofThread thread (s.dues (decided moves)) := by
  induction execution generalizing s with
  | nil => exact (List.append_nil _).symm
  | cons step _ ih =>
    obtain ⟨considerate, later⟩ := timely.of_cons
    obtain ⟨rest, accounts, -, same⟩ := tracks.owes_step sound step thread
    have after := ih (tracks.step sound step) sound.run (later _ step)
    rw [sequential_cons, dues_decided_cons, tellings_cons, ofThread_append, ofThread_append, List.append_assoc, after,
      ← List.append_assoc, accounts, same considerate, List.append_assoc]

end Service
end DiscoveryGraph
