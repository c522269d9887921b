import DiscoveryGraph.Proofs.Discovery.Ingestion
import DiscoveryGraph.Proofs.Monitor.Call

/-! Requests and the services they lead to. A request is declined or refused, runs out of
identifiers midway, or does what it says; on the graphs that discovery builds this is all that can
happen, and every request leads to such a graph again. -/
namespace DiscoveryGraph

/-- Where identifiers are left there were some before. -/
theorem EntityId.next?_ne_none_of_le {id last : EntityId} (le : id.value.toNat ≤ last.value.toNat)
    (room : last.next? ≠ none) : id.next? ≠ none := by
  rw [Ne, next?_eq_none_iff] at room ⊢
  omega

namespace Service
open DiscoveryGraph.Graph Update

/-- The requests that change what is monitored. -/
inductive Request where
  | start (number : UInt32) (listener : Option Nat)
  | apply (notification : Notification)
  | stop (domain : EntityId)
  | clear (domain : EntityId)
  deriving DecidableEq

namespace Request

/-- The service after a request, whether or not it succeeds. -/
def act (service : Service) : Request → Service
  | start number listener => (Service.start number listener).after service
  | apply notification => (Service.apply notification).after service
  | stop domain => (Service.stop domain).after service
  | clear domain => (Service.clear domain).after service

/-- The domain that a request addresses, if there is one. -/
def domain? : Request → Option EntityId
  | start .. => none
  | apply notification => some notification.domain
  | stop domain | clear domain => some domain

/-- The request is a notification that the identifiers run out for. -/
def exhausts (service : Service) : Request → Bool
  | apply notification =>
    match Service.apply notification service with
    | .error (.storage .idSpaceExhausted) _ => true
    | _ => false
  | start .. | stop _ | clear _ => false

end Request

/-- The service after some requests in turn. -/
def run (service : Service) (requests : List Request) : Service := requests.foldl Request.act service

/-- The identifiers last for all of the requests. -/
def lasts (service : Service) : List Request → Bool
  | [] => true
  | request :: requests => !request.exhausts service && (request.act service).lasts requests

/-- The services that requests lead to from a new one. -/
inductive Reachable : Service → Prop
  | new {config : Config} {service : Service} : Service.new config = .ok service → Reachable service
  | step {service : Service} (request : Request) : Reachable service → Reachable (request.act service)

/-- What can happen to a service on a request. -/
inductive Steps (service : Service) : Request → Service → Prop
  | declined {request : Request} : (∀ n, request ≠ .apply n) →
      (∀ d, request.domain? = some d → d ∉ service.monitors) → Steps service request service
  | refused {n : Notification} {e : GraphError} : Graph.ingest n service.graph = .error e service.graph →
      Refusal n.domain e → Steps service (.apply n) service
  | exhausted {n : Notification} {e : StorageError} {g : Graph} :
      RanOut (Action.Discovers n.domain) service.graph e g →
      Service.apply n service = .error (.storage e) { service with graph := g } →
      Steps service (.apply n) { service with graph := g }
  | started {number : UInt32} {listener : Option Nat} {entity : Entity} :
      entity.kind = .domain → (Action.born entity []).Enabled service.graph →
      Steps service (.start number listener)
        { service with
          graph := (Action.born entity []).act service.graph
          monitors := service.monitors.insert entity.id ⟨number, listener⟩ }
  | applied {n : Notification} {changes : List StateChange} {g : Graph} :
      service.graph.kind? n.domain = some .domain → Ingests service.graph n changes g →
      Steps service (.apply n)
        ({ service with graph := g }.settled n.domain (service.listenerOf n.domain) changes)
  | stopped {d : EntityId} {changes : List StateChange} {g : Graph} :
      service.graph.kind? d = some .domain → Stopped service.graph d changes g →
      Steps service (.stop d) ({ service with graph := g }.settled d (service.listenerOf d) changes)
  | cleared {d : EntityId} {removed : List Entity} {gone : IdSet} {g : Graph} :
      service.graph.kind? d = some .domain → service.graph.Cleared d gone →
      Run (Action.Forgets (· ∈ gone)) service.graph (StateChange.lost removed) g →
      service.graph.Without (· ∈ gone) g →
      Steps service (.clear d)
        { ({ service with graph := g }.settled d (service.listenerOf d) (StateChange.lost removed)) with
          monitors := service.monitors.erase d }

/-- What requests leave true of a service. -/
structure Sound (service : Service) : Prop where
  regular : service.graph.Regular
  unlocked : service.counter.poisoned = false
  domains : ∀ d ∈ service.monitors, service.graph.kind? d = some .domain

variable {service service' : Service} {request : Request}

theorem steps_start {number : UInt32} {listener : Option Nat} :
    Steps service (.start number listener) (Request.act service (.start number listener)) := by
  have untouched : Steps service (.start number listener) service :=
    .declined (by simp) (by simp [Request.domain?])
  rw [Request.act, Call.after, start_eq]
  cases expectFree service.graph number service.monitors.toList with
  | error e => exact untouched
  | ok free =>
    obtain ⟨created, failed⟩ := ends_iff.mp (create_ends service.graph .domain (toString number.toNat)
      (.domain number))
    dsimp only
    cases run : Graph.create .domain (toString number.toNat) (.domain number) service.graph with
    | error e g =>
      obtain ⟨rfl, -⟩ := failed e g run
      exact untouched
    | ok id g =>
      obtain ⟨valid, next, rfl⟩ := created id g run
      exact @Steps.started service number listener (Entity.discovered id .domain _ _) rfl
        ⟨next, valid, rfl, by simp, by simp, by simp, .nil⟩

theorem steps_apply {n : Notification} (sound : service.Sound) :
    Steps service (.apply n) (Request.act service (.apply n)) := by
  obtain ⟨done, failed⟩ := ends_iff.mp (ingest_ends (n := n) sound.regular.wellFormed)
  rw [Request.act, Call.after, apply_eq]
  cases run : Graph.ingest n service.graph with
  | error e g =>
    obtain ⟨refusal, rfl⟩ | ⟨-, cause, rfl, out⟩ := failed e g run
    · exact .refused run refusal
    · exact .exhausted out (by rw [apply_eq, run])
  | ok changes g =>
    obtain ⟨domain, ingests⟩ := done changes g run
    simp only [sound.unlocked, Bool.false_eq_true, if_false]
    exact .applied domain ingests

/-- A monitor that is not found is not there. -/
theorem absent_of_none {request : Request} {d : EntityId} (found : service.monitors[d]? = none)
    (addressed : request.domain? = some d) : ∀ e, request.domain? = some e → e ∉ service.monitors := by
  intro e same mem
  rw [addressed, Option.some_inj] at same
  rw [← same, Std.ExtTreeMap.mem_iff_isSome_getElem?, found] at mem
  cases mem

theorem monitored (sound : service.Sound) {d : EntityId} {monitor : Monitor}
    (found : service.monitors[d]? = some monitor) :
    service.graph.kind? d = some .domain :=
  sound.domains d (Std.ExtTreeMap.mem_iff_isSome_getElem?.mpr (by simp [found]))

theorem listenerOf_eq {d : EntityId} {monitor : Monitor} (found : service.monitors[d]? = some monitor) :
    service.listenerOf d = monitor.listener := by
  rw [listenerOf, found]
  rfl

theorem steps_stop {d : EntityId} (sound : service.Sound) :
    Steps service (.stop d) (Request.act service (.stop d)) := by
  rw [Request.act, Call.after, stop_eq]
  cases found : service.monitors[d]? with
  | none => exact .declined (by simp) (absent_of_none found rfl)
  | some monitor =>
    have domain := monitored sound found
    obtain ⟨done, failed⟩ := ends_iff.mp (stopDomain_ends sound.regular.wellFormed domain)
    dsimp only [Graph.apply]
    cases run : Graph.stopDomain d service.graph with
    | error e g => exact (failed e g run).elim
    | ok changes g =>
      simp only [sound.unlocked, Bool.false_eq_true, if_false, ← listenerOf_eq found]
      exact .stopped domain (done changes g run)

theorem steps_clear {d : EntityId} (sound : service.Sound) :
    Steps service (.clear d) (Request.act service (.clear d)) := by
  rw [Request.act, Call.after, clear_eq]
  cases found : service.monitors[d]? with
  | none => exact .declined (by simp) (absent_of_none found rfl)
  | some monitor =>
    have domain := monitored sound found
    obtain ⟨done, failed⟩ := ends_iff.mp (clearDomain_ends sound.regular.wellFormed domain)
    dsimp only
    cases run : Graph.clearDomain d service.graph with
    | error e g => exact (failed e g run).elim
    | ok removed g =>
      obtain ⟨gone, clearing, forgets, without⟩ := done removed g run
      simp only [sound.unlocked, Bool.false_eq_true, if_false, ← listenerOf_eq found]
      exact .cleared domain clearing forgets without

/-- Nothing else can happen to a sound service. -/
theorem steps_act (sound : service.Sound) : Steps service request (request.act service) := by
  cases request with
  | start => exact steps_start
  | apply => exact steps_apply sound
  | stop => exact steps_stop sound
  | clear => exact steps_clear sound

theorem Steps.sound (steps : Steps service request service') (sound : service.Sound) : service'.Sound := by
  obtain ⟨regular, unlocked, domains⟩ := sound
  have wf := regular.wellFormed
  cases steps with
  | declined | refused => exact ⟨regular, unlocked, domains⟩
  | exhausted out _ =>
    obtain ⟨-, -, changes, run⟩ := out
    have run := run.local_of_discovers
    exact ⟨run.regular regular, unlocked, fun d mem => run.kind?_of_local wf (domains d mem)⟩
  | started kind enabled =>
    refine ⟨Action.regular_born_domain regular kind enabled, unlocked, fun d mem => ?_⟩
    rw [Action.kind?_born]
    split
    · rw [kind]
    · rename_i other
      rw [Std.ExtTreeMap.mem_insert, Std.LawfulEqOrd.compare_eq_iff_eq] at mem
      exact domains d (mem.resolve_left other)
  | applied domain ingests =>
    have run := ingests.local regular
    exact ⟨run.regular regular, unlocked, fun d mem => run.kind?_of_local wf (domains d mem)⟩
  | stopped domain lowered =>
    have run := lowered.run.marks.local_of_marks wf fun x stops => stops.local regular domain
    exact ⟨run.regular regular, unlocked, fun d mem => run.kind?_of_local wf (domains d mem)⟩
  | @cleared d removed gone g domain clearing forgets without =>
    refine ⟨clearing.regular regular domain (forgets.wellFormed wf) without, unlocked, fun e mem => ?_⟩
    obtain ⟨other, mem⟩ := Std.ExtTreeMap.mem_erase.mp mem
    have stays := (clearing.not_mem regular domain (.self (domains e mem)) fun same => other (by simp [same])).1
    show Option.map _ (g.entity? e) = _
    rw [without.kept e stays]
    exact domains e mem

/-- Whatever is done to the graph is done action by action. -/
theorem Steps.run (steps : Steps service request service') :
    ∃ changes, Run (fun _ _ => True) service.graph changes service'.graph := by
  cases steps with
  | declined | refused => exact ⟨[], .nil⟩
  | exhausted out _ =>
    obtain ⟨-, -, changes, run⟩ := out
    exact ⟨changes, run.mono fun _ _ _ => trivial⟩
  | started _ enabled => exact ⟨_, .single enabled trivial⟩
  | applied _ ingests => exact ⟨_, ingests.run⟩
  | stopped _ lowered => exact ⟨_, lowered.run.mono fun _ _ _ => trivial⟩
  | cleared _ _ forgets _ => exact ⟨_, forgets.mono fun _ _ _ => trivial⟩

/-- Identifiers only run out. -/
theorem Steps.lastId_le (steps : Steps service request service') :
    service.graph.lastId.value.toNat ≤ service'.graph.lastId.value.toNat := by
  obtain ⟨changes, run⟩ := steps.run
  exact run.lastId_le

theorem eq_of_new {config : Config} (new : Service.new config = .ok service) : service = { config } := by
  unfold Service.new at new
  cases valid : config.validate with
  | error e =>
    rw [valid] at new
    cases new
  | ok u =>
    rw [valid] at new
    cases new
    rfl

/-- A new service knows of nothing, so whatever is said of known entities holds of it. -/
theorem unknown_new {config : Config} (new : Service.new config = .ok service) (x : EntityId) :
    service.graph.kind? x = none := by
  obtain rfl := eq_of_new new
  exact kind?_eq_none.mpr Std.ExtTreeMap.getElem?_empty

/-- The default configuration is valid. -/
theorem new_default : Service.new {} = .ok { config := {} } := by
  have faultless : Config.fault? {} = none := by decide +kernel
  rw [Service.new, Config.validate, faultless]
  rfl

theorem sound_new {config : Config} (new : Service.new config = .ok service) : service.Sound := by
  obtain rfl := eq_of_new new
  exact ⟨regular_empty, rfl, by simp⟩

theorem Reachable.sound (reachable : service.Reachable) : service.Sound := by
  induction reachable with
  | new new => exact sound_new new
  | step request _ ih => exact (steps_act ih).sound ih

/-- Every request to a reachable service does one of the things it can do. -/
theorem Reachable.steps (reachable : service.Reachable) : Steps service request (request.act service) :=
  steps_act reachable.sound

theorem Reachable.run {requests : List Request} (reachable : service.Reachable) :
    (service.run requests).Reachable := by
  induction requests generalizing service with
  | nil => exact reachable
  | cons request requests ih => exact ih (reachable.step request)

/-- What every request of a run keeps as long as the identifiers last, the run keeps. -/
theorem run_invariant (inv : Service → Prop) {requests : List Request}
    (keeps : ∀ service, ∀ request ∈ requests, service.Reachable → request.exhausts service = false →
      inv service → inv (request.act service))
    (reachable : service.Reachable) (lasting : service.lasts requests) (start : inv service) :
    inv (service.run requests) := by
  induction requests generalizing service with
  | nil => exact start
  | cons request requests ih =>
    simp only [lasts, Bool.and_eq_true, Bool.not_eq_true'] at lasting
    have after : inv (request.act service) := keeps service request (by simp) reachable lasting.1 start
    refine ih ?_ (reachable.step request) lasting.2 after
    exact fun service request mem => keeps service request (by simp [mem])

/-! ### The stages of a run -/

section Stages
variable {requests : List Request}

theorem lastId_le_run (reachable : service.Reachable) :
    service.graph.lastId.value.toNat ≤ (service.run requests).graph.lastId.value.toNat := by
  induction requests generalizing service with
  | nil => exact Nat.le_refl _
  | cons request requests ih => exact Nat.le_trans reachable.steps.lastId_le (ih (reachable.step request))

theorem run_take_succ {n : Nat} (here : requests[n]? = some request) :
    service.run (requests.take (n + 1)) = request.act (service.run (requests.take n)) := by
  rw [run, run, List.take_add_one, here, Option.toList_some, List.foldl_append, List.foldl_cons, List.foldl_nil]

/-- An invariant that one request breaks exactly if it is a bad one holds all along a run exactly if none of its
requests is. -/
theorem run_iff_never (inv : Service → Prop) (bad : Service → Request → Prop) (start : inv service)
    (step : ∀ n request, requests[n]? = some request → inv (service.run (requests.take n)) →
      (inv (service.run (requests.take (n + 1))) ↔ ¬ bad (service.run (requests.take n)) request)) :
    (∀ n, inv (service.run (requests.take n))) ↔
      ∀ n request, requests[n]? = some request → ¬ bad (service.run (requests.take n)) request := by
  constructor
  · intro all n request here
    exact (step n request here (all n)).mp (all (n + 1))
  · intro never n
    induction n with
    | zero => exact start
    | succ n ih =>
      cases here : requests[n]? with
      | none => rwa [List.take_add_one, here, Option.toList_none, List.append_nil]
      | some request => exact (step n request here ih).mpr (never n request here)

/-- Where identifiers are left at the end of a run there were some all along. -/
theorem room_take {n : Nat} (reachable : service.Reachable)
    (room : (service.run requests).graph.lastId.next? ≠ none) :
    (service.run (requests.take n)).graph.lastId.next? ≠ none := by
  have whole : service.run requests = (service.run (requests.take n)).run (requests.drop n) := by
    rw [run, run, run, ← List.foldl_append, List.take_append_drop]
  have before : (service.run (requests.take n)).Reachable := reachable.run
  rw [whole] at room
  exact EntityId.next?_ne_none_of_le (lastId_le_run before) room

end Stages

end Service
end DiscoveryGraph
