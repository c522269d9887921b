import DiscoveryGraph.Proofs.Monitor.Request

/-! Calls, turn by turn. A call changes the graph in one turn; what it looks up and what it delivers takes
turns of its own, between which others may take theirs. Only a start and a clear keep the monitors to
themselves while they are at it. -/
namespace DiscoveryGraph

namespace Service
open DiscoveryGraph.Graph

/-- How far a call has come, with what it has seen so far. -/
inductive Stage where
  /-- It has been made. -/
  | called (request : Request)
  /-- A start that has the monitors to itself. -/
  | opening (number : UInt32) (listener : Option Nat)
  /-- A start that has created its domain and has yet to list the monitor. -/
  | opened (domain : EntityId) (monitor : Monitor)
  /-- A stop that has found the monitor. -/
  | noted (domain : EntityId) (monitor : Monitor)
  /-- A clear that has the monitors to itself and has found the one it is about. -/
  | clearing (domain : EntityId) (monitor : Monitor)
  /-- A clear that has removed its domain and has yet to forget the monitor. -/
  | cleared (domain : EntityId) (monitor : Monitor) (events : List Event)
  /-- An application that has yet to look for the listener. -/
  | seeking (domain : EntityId) (events : List Event)
  /-- Some events have yet to be delivered. -/
  | telling (listener : Option Nat) (events : List Event)
  | ended (succeeded : Bool)
  deriving DecidableEq

/-- What a turn of a call comes to: the service and the stage after it, the request that was decided in it,
and what a listener was told. -/
structure Turn where
  service : Service
  stage : Stage
  decided : Option Request := none
  told : Option Delivery := none

/-- The turn in which a call changes the graph is the one that decides its request. -/
def Turn.deciding {α : Type} (request : Request) (call : Call α) (next : α → Stage) (service : Service) : Turn :=
  match call service with
  | .ok a service => { service, stage := next a, decided := some request }
  | .error _ service => { service, stage := .ended false, decided := some request }

namespace Stage

/-- The next turn needs the monitors, to read them or to have them to itself, and has to wait while another
call has them. -/
def waits : Stage → Bool
  | called (.start ..) | called (.stop _) | called (.clear _) | seeking .. => true
  | _ => false

/-- The call has the monitors to itself. -/
def holds : Stage → Bool
  | opening .. | opened .. | clearing .. | cleared .. => true
  | _ => false

/-- Nothing is left to do but to return. -/
def isEnded : Stage → Bool
  | ended _ => true
  | _ => false

/-- The request, if it is not decided yet. -/
def undecided : Stage → List Request
  | called request => [request]
  | opening number listener => [.start number listener]
  | noted domain _ => [.stop domain]
  | clearing domain _ => [.clear domain]
  | _ => []

/-- The monitors once the call has given them back. -/
def settle (monitors : Std.ExtTreeMap EntityId Monitor) : Stage → Std.ExtTreeMap EntityId Monitor
  | opened domain monitor => monitors.insert domain monitor
  | cleared domain .. => monitors.erase domain
  | _ => monitors

/-- What the call still has to deliver, if it finds the monitors as the service has them. -/
def owes (service : Service) : Stage → List Delivery
  | cleared _ monitor events => received monitor.listener events
  | seeking domain events => received (service.listenerOf domain) events
  | telling listener events => received listener events
  | _ => []

/-- The next turn of a call. -/
def turn (service : Service) : Stage → Turn
  | called (.start number listener) => { service, stage := opening number listener }
  | called (.apply n) => .deciding (.apply n) (record n) (seeking n.domain) service
  | called (.stop d) =>
    match service.monitors[d]? with
    | some monitor => { service, stage := noted d monitor }
    | none => { service, stage := ended false, decided := some (.stop d) }
  | called (.clear d) =>
    match service.monitors[d]? with
    | some monitor => { service, stage := clearing d monitor }
    | none => { service, stage := ended false, decided := some (.clear d) }
  | opening number listener =>
    .deciding (.start number listener) (enter number) (opened · ⟨number, listener⟩) service
  | opened d monitor =>
    { service := { service with monitors := service.monitors.insert d monitor }, stage := ended true }
  | noted d monitor => .deciding (.stop d) (halt d) (telling monitor.listener) service
  | clearing d monitor => .deciding (.clear d) (wipe d) (cleared d monitor) service
  | cleared d monitor events =>
    { service := { service with monitors := service.monitors.erase d }
      stage := telling monitor.listener events }
  | seeking d events => { service, stage := telling (service.listenerOf d) events }
  | telling (some listener) (event :: events) =>
    { service := { service with delivered := service.delivered ++ [⟨listener, event⟩] }
      stage := telling (some listener) events
      told := some ⟨listener, event⟩ }
  | telling .. => { service, stage := ended true }
  | ended succeeded => { service, stage := ended succeeded }

end Stage

variable {s v : Service} {stage : Stage} {request : Request} {n : Notification} {d : EntityId} {number : UInt32}

/-! ### What a change of the graph depends on -/

/-- The service with the graph and the count of another one. -/
def withGraphOf (service other : Service) : Service :=
  { service with graph := other.graph, counter := other.counter }

/-- On the graph and the count of `s`, a call does to `v` what it does to `s`. -/
def Carries {α : Type} (call : Call α) (v s : Service) : Prop :=
  call (v.withGraphOf s) =
    match call s with
    | .ok a s' => .ok a (v.withGraphOf s')
    | .error e s' => .error e (v.withGraphOf s')

theorem carries_onGraph {α : Type} {update : Update GraphError α} : Carries (onGraph update) v s := by
  unfold Carries onGraph
  dsimp only [withGraphOf]
  cases update s.graph <;> rfl

theorem carries_count {changes : List StateChange} : Carries (count d changes) v s := by
  rw [Carries, count_eq, count_eq]
  obtain ⟨_, _, ⟨_, _ | _⟩, _⟩ := s <;> rfl

theorem Carries.bind {α β : Type} {call : Call α} {next : α → Call β} (first : Carries call v s)
    (rest : ∀ a s', Carries (next a) v s') : Carries (call >>= next) v s := by
  unfold Carries at first ⊢
  simp only [Bind.bind, EStateM.bind, first]
  cases call s with
  | ok a s' => exact rest a s'
  | error e s' => rfl

section Self
variable {α : Type} {call : Call α} {a : α} {e : GraphError} {s' : Service}

/-- Nothing but the graph and the count has changed. -/
theorem Carries.self_ok (carries : Carries call s s) (run : call s = .ok a s') : s' = s.withGraphOf s' := by
  have same : s.withGraphOf s = s := rfl
  rw [Carries, same, run] at carries
  exact (EStateM.Result.ok.inj carries).2

theorem Carries.self_error (carries : Carries call s s) (run : call s = .error e s') : s' = s.withGraphOf s' := by
  have same : s.withGraphOf s = s := rfl
  rw [Carries, same, run] at carries
  exact (EStateM.Result.error.inj carries).2

end Self

theorem carries_halt : Carries (halt d) v s := carries_onGraph.bind fun _ _ => carries_count

theorem carries_wipe : Carries (wipe d) v s := carries_onGraph.bind fun _ _ => carries_count

theorem carries_record : Carries (record n) v s := carries_onGraph.bind fun _ _ => carries_count

/-- A start looks at the monitors, too. -/
theorem carries_enter (same : v.monitors = s.monitors) : Carries (enter number) v s := by
  have reads : Carries (read fun service => expectFree service.graph number service.monitors.toList) v s := by
    unfold Carries read
    dsimp only [withGraphOf]
    rw [same]
    cases expectFree s.graph number s.monitors.toList <;> rfl
  exact reads.bind fun _ _ => carries_onGraph

/-! ### What a turn leaves alone -/

/-- A turn only touches the graph, the count, the monitors and the deliveries, and adds to the latter what it
tells a listener. -/
structure Turn.Aside (v : Service) (turn : Turn) : Prop where
  config : turn.service.config = v.config
  queue : turn.service.queue = v.queue
  rejected : turn.service.rejected = v.rejected
  issued : turn.service.issued = v.issued
  answered : turn.service.answered = v.answered
  delivered : turn.service.delivered = v.delivered ++ turn.told.toList

theorem aside_deciding {α : Type} {call : Call α} {next : α → Stage} (carries : Carries call v v) :
    (Turn.deciding request call next v).Aside v := by
  unfold Turn.deciding
  cases run : call v with
  | ok a s' =>
    rw [carries.self_ok run]
    exact ⟨rfl, rfl, rfl, rfl, rfl, (List.append_nil _).symm⟩
  | error e s' =>
    rw [carries.self_error run]
    exact ⟨rfl, rfl, rfl, rfl, rfl, (List.append_nil _).symm⟩

theorem aside_turn : (stage.turn v).Aside v := by
  have quiet {monitors : Std.ExtTreeMap EntityId Monitor} {stage : Stage} {decided : Option Request} :
      (Turn.mk { v with monitors } stage decided none).Aside v :=
    ⟨rfl, rfl, rfl, rfl, rfl, (List.append_nil _).symm⟩
  cases stage with
  | called request =>
    cases request with
    | start => exact quiet
    | apply n => exact aside_deciding carries_record
    | stop d | clear d =>
      rw [Stage.turn]
      cases v.monitors[d]? <;> exact quiet
  | opening => exact aside_deciding (carries_enter rfl)
  | noted => exact aside_deciding carries_halt
  | clearing => exact aside_deciding carries_wipe
  | opened | cleared | seeking | ended => exact quiet
  | telling listener events =>
    cases listener with
    | none => exact quiet
    | some listener =>
      cases events with
      | nil => exact quiet
      | cons => exact ⟨rfl, rfl, rfl, rfl, rfl, rfl⟩

theorem undecided_deciding {α : Type} {call : Call α} {next : α → Stage} (settled : ∀ a, (next a).undecided = []) :
    (Turn.deciding request call next v).decided.toList ++ (Turn.deciding request call next v).stage.undecided =
      [request] := by
  unfold Turn.deciding
  cases call v with
  | ok a s' => exact congrArg (request :: ·) (settled a)
  | error e s' => rfl

/-- The turn that decides the request of a call is one of its own, and the only one. -/
theorem undecided_turn : (stage.turn v).decided.toList ++ (stage.turn v).stage.undecided = stage.undecided := by
  cases stage with
  | called request =>
    cases request with
    | start => rfl
    | apply n => exact undecided_deciding fun _ => rfl
    | stop d | clear d =>
      rw [Stage.turn]
      cases v.monitors[d]? <;> rfl
  | opening | noted | clearing => exact undecided_deciding fun _ => rfl
  | opened | cleared | seeking | ended => rfl
  | telling listener events =>
    cases listener with
    | none => rfl
    | some listener => cases events <;> rfl

end Service
end DiscoveryGraph
