import DiscoveryGraph.Proofs.Monitor.Advance
import DiscoveryGraph.Proofs.Monitor.Handover

/-! An execution beside a sequential run. Whenever a turn decides a request, the sequential run carries it out
whole; in between, each thread is where its call would be if all it saw were the sequential run. -/
namespace DiscoveryGraph
namespace Service
open DiscoveryGraph.Graph
variable {s : Service} {thread other : Thread} {stage : Stage} {request : Request} {move : Move}
  {moves : List Move} {v w : World}

/-- The requests that were decided, and who carried them out. -/
def decided (moves : List Move) : List (Thread × Request) := moves.filterMap Move.decided?

theorem run_append {requests requests' : List Request} :
    s.run (requests ++ requests') = (s.run requests).run requests' :=
  List.foldl_append

/-- The service to which the requests have been done one after another that were decided. -/
def sequential (service : Service) (moves : List Move) : Service := service.run ((decided moves).map Prod.snd)

theorem sequential_cons :
    s.sequential (move :: moves) = (s.run (move.decided?.toList.map Prod.snd)).sequential moves := by
  rw [sequential, decided, filterMap_cons_toList, List.map_append, run_append]
  rfl

/-! ### Turns besides those of calls -/

/-- The call has not begun or has nothing left to do. -/
def Stage.isPlain : Stage → Bool
  | called _ | ended _ => true
  | _ => false

theorem Stage.holds_of_plain (plain : stage.isPlain = true) : stage.holds = false := by
  cases stage <;> first | rfl | cases plain

theorem Stage.settle_of_not_holds {monitors : Std.ExtTreeMap EntityId Monitor} (free : stage.holds = false) :
    stage.settle monitors = monitors := by
  cases stage <;> first | rfl | cases free

theorem Stage.holds_of_waits (waits : stage.waits = true) : stage.holds = false := by
  cases stage <;> first | rfl | cases waits

theorem Stage.owes_of_plain (plain : stage.isPlain = true) : stage.owes s = [] := by
  cases stage <;> first | rfl | cases plain

theorem Stage.fits_of_plain (plain : stage.isPlain = true) : stage.Fits s := by
  cases stage <;> trivial

/-- A turn that is not one of a call leaves the service to the calls as it is, and no call is underway that was
not so before. -/
structure Calm (v w : World) : Prop where
  agrees : w.service.Agrees v.service
  monitors : w.service.monitors = v.service.monitors
  delivered : w.service.delivered = v.service.delivered
  guard : w.guard = v.guard
  stages : ∀ thread, w.stage thread = v.stage thread ∨
    (v.stage thread).isPlain = true ∧ (w.stage thread).isPlain = true

theorem Calm.of_threads (agrees : w.service.Agrees v.service) (monitors : w.service.monitors = v.service.monitors)
    (delivered : w.service.delivered = v.service.delivered) (guard : w.guard = v.guard)
    (threads : w.threads = v.threads) : Calm v w :=
  ⟨agrees, monitors, delivered, guard, fun thread => .inl (by rw [World.stage, threads, World.stage])⟩

theorem Calm.doing {activity activity' : Activity} (calm : Calm v w) (same : w.threads thread = activity)
    (before : activity.stage.isPlain = true) (after : activity'.stage.isPlain = true) :
    Calm v (w.doing thread activity') := by
  refine ⟨calm.agrees, calm.monitors, calm.delivered, calm.guard, fun other => ?_⟩
  by_cases here : other = thread
  · subst here
    have plain : (w.stage other).isPlain = true := by rwa [World.stage, same]
    refine .inr ⟨?_, ?_⟩
    · obtain stays | ⟨before, -⟩ := calm.stages other
      · rwa [← stays]
      · exact before
    · rw [World.stage, World.doing_threads, if_pos rfl]
      exact after
  · rw [World.stage, World.doing_threads, if_neg here]
    exact calm.stages other

theorem Calm.refl : Calm v v := .of_threads ⟨rfl, rfl⟩ rfl rfl rfl rfl

/-- A turn is one of a call, or leaves the calls alone. -/
theorem Step.calm_or_proceeds (step : Step v move w) :
    (Calm v w ∧ move.decided? = none ∧ move.told? = none) ∨
    ∃ thread, (v.stage thread).isEnded = false ∧ ((v.stage thread).waits = true → v.guard = none) ∧
      move = .proceeds thread ((v.stage thread).turn v.service).decided ((v.stage thread).turn v.service).told ∧
      w = v.proceed thread (v.stage thread) := by
  cases step with
  | submits free | submitted free | flushes free | flushed free | requests free | returns free =>
    exact .inl ⟨Calm.refl.doing free rfl rfl, rfl, rfl⟩
  | @enqueues p n waiting =>
    have posted : Calm v (v.post (.notify n)) := .of_threads ⟨rfl, rfl⟩ rfl rfl rfl rfl
    have waiting : (v.post (.notify n)).threads (.caller p) = .submitting n := waiting
    exact .inl ⟨posted.doing waiting rfl rfl, rfl, rfl⟩
  | @marks p ticket waiting =>
    have marked : Calm v v.mark := .of_threads ⟨rfl, rfl⟩ rfl rfl rfl rfl
    have waiting : v.mark.threads (.caller p) = .flushing := waiting
    exact .inl ⟨marked.doing waiting rfl rfl, rfl, rfl⟩
  | @tries p n outcome service free offers =>
    refine .inl ⟨?_, rfl, rfl⟩
    obtain ⟨-, -, posted⟩ | ⟨-, -, same⟩ := (Step.tries free offers).of_tries
    · rw [posted]
      exact .of_threads ⟨rfl, rfl⟩ rfl rfl rfl rfl
    · rw [same]
      exact .refl
  | @takes message queue free idle =>
    have posted : Calm v { v with service := { v.service with queue }, hand := some message } :=
      .of_threads ⟨rfl, rfl⟩ rfl rfl rfl rfl
    cases message with
    | notify n => exact .inl ⟨posted.doing idle rfl rfl, rfl, rfl⟩
    | barrier ticket => exact .inl ⟨posted, rfl, rfl⟩
  | answers => exact .inl ⟨.of_threads ⟨rfl, rfl⟩ rfl rfl rfl rfl, rfl, rfl⟩
  | @finishes n succeeded held ended =>
    have calm : Calm v (v.doing .worker .idle) := Calm.refl.doing ended rfl rfl
    cases succeeded with
    | true => exact .inl ⟨⟨calm.agrees, calm.monitors, calm.delivered, calm.guard, calm.stages⟩, rfl, rfl⟩
    | false => exact .inl ⟨⟨⟨rfl, rfl⟩, rfl, rfl, rfl, calm.stages⟩, rfl, rfl⟩
  | @proceeds thread stage decided told calling goes free decides tells =>
    obtain rfl : v.stage thread = stage := World.stage_of_threads calling
    rw [← decides, ← tells]
    exact .inr ⟨thread, goes, free, rfl, rfl⟩

/-! ### Where the calls are -/

/-- The monitors once the call that has them to itself has given them back. -/
def World.registry (world : World) : Std.ExtTreeMap EntityId Monitor :=
  match world.guard with
  | some thread => (world.stage thread).settle world.service.monitors
  | none => world.service.monitors

/-- The world is where the calls would be if there were nothing but the sequential run. -/
structure Tracks (s : Service) (w : World) : Prop where
  agrees : w.service.Agrees s
  registry : w.registry = s.monitors
  guard : ∀ thread, w.guard = some thread ↔ (w.stage thread).holds = true
  fits : ∀ thread, (w.stage thread).Fits s

theorem Tracks.calm (tracks : Tracks s v) (calm : Calm v w) : Tracks s w := by
  have holds (thread : Thread) : (w.stage thread).holds = (v.stage thread).holds := by
    obtain same | ⟨before, after⟩ := calm.stages thread
    · rw [same]
    · rw [Stage.holds_of_plain before, Stage.holds_of_plain after]
  refine ⟨?_, ?_, fun thread => ?_, fun thread => ?_⟩
  · exact ⟨calm.agrees.graph.trans tracks.agrees.graph, calm.agrees.counter.trans tracks.agrees.counter⟩
  · rw [← tracks.registry, World.registry, World.registry, calm.guard, calm.monitors]
    cases owner : v.guard with
    | none => rfl
    | some thread =>
      dsimp only
      obtain same | ⟨before, -⟩ := calm.stages thread
      · rw [same]
      · have held := (tracks.guard thread).mp owner
        rw [Stage.holds_of_plain before] at held
        cases held
  · rw [calm.guard, holds, tracks.guard]
  · obtain same | ⟨-, after⟩ := calm.stages thread
    · rw [same]
      exact tracks.fits thread
    · exact Stage.fits_of_plain after

section Proceeds
variable {s' : Service}

theorem stage_proceed : (v.proceed thread stage).stage other =
    if other = thread then (stage.turn v.service).stage else v.stage other := by
  rw [World.stage, World.proceed]
  dsimp only [World.doing]
  split <;> rfl

theorem guard_proceed : (v.proceed thread stage).guard =
    if (stage.turn v.service).stage.holds then some thread else if stage.holds then none else v.guard := rfl

theorem Advances.needs (advances : Advances v.service s stage (stage.turn v.service) s')
    (takes : (stage.turn v.service).stage.holds = true) : stage.waits = true ∨ stage.holds = true := by
  cases waiting : stage.waits with
  | true => exact .inl rfl
  | false =>
    cases holding : stage.holds with
    | true => exact .inr rfl
    | false =>
      rw [(advances.aside waiting holding).2.2] at takes
      cases takes

/-- A call that needs the monitors for its next turn sees those of the sequential run. -/
theorem Tracks.access (tracks : Tracks s v) (free : (v.stage thread).waits = true → v.guard = none)
    (needs : (v.stage thread).waits = true ∨ (v.stage thread).holds = true) :
    (v.stage thread).settle v.service.monitors = s.monitors := by
  rw [← tracks.registry, World.registry]
  obtain waits | holds := needs
  · rw [free waits]
    exact Stage.settle_of_not_holds (Stage.holds_of_waits waits)
  · rw [(tracks.guard thread).mpr holds]

/-- While a call needs the monitors, no other one has them to itself. -/
theorem Tracks.holds_other (tracks : Tracks s v) (free : (v.stage thread).waits = true → v.guard = none)
    (needs : (v.stage thread).waits = true ∨ (v.stage thread).holds = true) (apart : other ≠ thread) :
    (v.stage other).holds = false := by
  rw [Bool.eq_false_iff]
  intro both
  have owner := (tracks.guard other).mpr both
  obtain waits | holds := needs
  · cases (free waits).symm.trans owner
  · exact apart (Option.some.inj (owner.symm.trans ((tracks.guard thread).mpr holds)))

theorem Tracks.guard_proceed (tracks : Tracks s v) (free : (v.stage thread).waits = true → v.guard = none)
    (advances : Advances v.service s (v.stage thread) ((v.stage thread).turn v.service) s') :
    (v.proceed thread (v.stage thread)).guard = some other ↔
      ((v.proceed thread (v.stage thread)).stage other).holds = true := by
  rw [Service.guard_proceed, stage_proceed]
  cases takes : ((v.stage thread).turn v.service).stage.holds with
  | true =>
    by_cases same : other = thread
    · simp [same, takes]
    · have others := tracks.holds_other free (advances.needs takes) same
      simp [same, Ne.symm same, others]
  | false =>
    cases holds : (v.stage thread).holds with
    | true =>
      by_cases same : other = thread
      · simp [same, takes]
      · have others := tracks.holds_other free (.inr holds) same
        simp [same, others]
    | false =>
      by_cases same : other = thread
      · have nobody := (tracks.guard thread).not.mpr (by simp [holds])
        simp [same, takes, nobody]
      · simp [same, tracks.guard]

theorem Tracks.registry_proceed (tracks : Tracks s v) (free : (v.stage thread).waits = true → v.guard = none)
    (advances : Advances v.service s (v.stage thread) ((v.stage thread).turn v.service) s') :
    (v.proceed thread (v.stage thread)).registry = s'.monitors := by
  rw [World.registry, Service.guard_proceed]
  cases takes : ((v.stage thread).turn v.service).stage.holds with
  | true =>
    rw [if_pos rfl]
    dsimp only
    rw [stage_proceed, if_pos rfl]
    exact advances.alone (advances.needs takes)
  | false =>
    -- The monitors are free after the turn, or the turn had nothing to do with them.
    have gives (needs : (v.stage thread).waits = true ∨ (v.stage thread).holds = true) :
        ((v.stage thread).turn v.service).service.monitors = s'.monitors := by
      rw [← advances.alone needs, Stage.settle_of_not_holds takes]
    cases holds : (v.stage thread).holds with
    | true => exact gives (.inr holds)
    | false =>
      rw [if_neg (by simp), if_neg (by simp)]
      cases waits : (v.stage thread).waits with
      | true =>
        rw [free waits]
        exact gives (.inl waits)
      | false =>
        obtain ⟨same, same', -⟩ := advances.aside waits holds
        rw [same', ← tracks.registry, World.registry]
        cases owner : v.guard with
        | none => exact same
        | some other =>
          have apart : other ≠ thread := by
            rintro rfl
            have own := (tracks.guard other).mp owner
            rw [holds] at own
            cases own
          dsimp only
          rw [stage_proceed, if_neg apart]
          exact congrArg (Stage.settle · (v.stage other)) same

theorem Tracks.fits_proceed (tracks : Tracks s v) (sound : s.Sound)
    (free : (v.stage thread).waits = true → v.guard = none)
    (advances : Advances v.service s (v.stage thread) ((v.stage thread).turn v.service) s') :
    ((v.proceed thread (v.stage thread)).stage other).Fits s' := by
  rw [stage_proceed]
  split
  · exact advances.fits
  · rename_i apart
    rw [← advances.follows]
    cases decided : ((v.stage thread).turn v.service).decided with
    | none => exact tracks.fits other
    | some request =>
      refine (tracks.fits other).act sound fun holds => ?_
      have follows := advances.follows
      rw [decided] at follows
      have follows : request.act s = s' := follows
      rw [follows]
      have rest : (v.stage thread).waits = false ∧ (v.stage thread).holds = false := by
        constructor
        · rw [Bool.eq_false_iff]
          intro waits
          have others := tracks.holds_other free (.inl waits) apart
          rw [holds] at others
          cases others
        · rw [Bool.eq_false_iff]
          intro own
          have others := tracks.holds_other free (.inr own) apart
          rw [holds] at others
          cases others
      exact (advances.aside rest.1 rest.2).2.1

theorem Tracks.proceed (tracks : Tracks s v) (sound : s.Sound)
    (free : (v.stage thread).waits = true → v.guard = none)
    (advances : Advances v.service s (v.stage thread) ((v.stage thread).turn v.service) s') :
    Tracks s' (v.proceed thread (v.stage thread)) :=
  ⟨advances.agrees, tracks.registry_proceed free advances, fun _ => tracks.guard_proceed free advances,
    fun _ => tracks.fits_proceed sound free advances⟩

end Proceeds

theorem run_decided? {turn : Turn} :
    s.run ((Move.proceeds thread turn.decided turn.told).decided?.toList.map Prod.snd) =
      s.run turn.decided.toList := by
  cases turn.decided <;> rfl

/-- The turns of calls keep step with the requests that they decide, and other turns keep off. -/
theorem Tracks.step (tracks : Tracks s v) (sound : s.Sound) (step : Step v move w) :
    Tracks (s.run (move.decided?.toList.map Prod.snd)) w := by
  obtain ⟨calm, idle, -⟩ | ⟨thread, goes, free, rfl, rfl⟩ := step.calm_or_proceeds
  · rw [idle]
    exact tracks.calm calm
  · obtain ⟨s', advances⟩ := advances_turn sound tracks.agrees (tracks.fits thread) (tracks.access free) goes
    rw [run_decided?, advances.follows]
    exact tracks.proceed sound free advances

/-! ### Executions -/

theorem Sound.run {requests : List Request} (sound : s.Sound) : (s.run requests).Sound := by
  induction requests generalizing s with
  | nil => exact sound
  | cons request requests ih => exact ih ((steps_act sound).sound sound)

/-- While nobody is about a call and nobody has the monitors, there is nothing to keep step with. -/
theorem Tracks.refl (free : v.guard = none) (rests : ∀ thread, (v.stage thread).isPlain = true) :
    Tracks v.service v := by
  refine ⟨⟨rfl, rfl⟩, ?_, fun thread => ?_, fun thread => Stage.fits_of_plain (rests thread)⟩
  · rw [World.registry, free]
  · simp [free, Stage.holds_of_plain (rests thread)]

/-- However many turns are taken, the calls are where the requests that have been decided lead, one after
another. -/
theorem Tracks.execution (tracks : Tracks s v) (sound : s.Sound) (execution : Execution v moves w) :
    Tracks (s.sequential moves) w := by
  induction execution generalizing s with
  | nil => exact tracks
  | cons step _ ih =>
    rw [sequential_cons]
    exact ih (tracks.step sound step) sound.run

end Service
end DiscoveryGraph
