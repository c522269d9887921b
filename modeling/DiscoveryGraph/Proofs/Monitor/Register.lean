import DiscoveryGraph.Proofs.Discovery.Inheritance
import DiscoveryGraph.Proofs.Monitor.Request

/-! The register of monitors. In every state that requests lead to, the monitored identifiers are those
of the domains, each under the number it was started with, and no number has two active domains. So a
start is refused exactly for the one active domain of its number, a domain that has been stopped stays
stopped, and the identifier of a cleared one is never given to anything again. -/
namespace DiscoveryGraph
namespace Service
open DiscoveryGraph.Graph Update
variable {service service' : Service} {request : Request} {number : UInt32} {listener : Option Nat}
  {d e : EntityId}

/-! ### Starting -/

/-- Whatever the order of a scan, it ends at an active domain of the number, or there is none. -/
theorem expectFree_cases {graph : Graph} (number : UInt32) (scan : List (EntityId × Monitor))
    (known : ∀ entry ∈ scan, graph.kind? entry.1 = some .domain) :
    expectFree graph number scan = .ok () ∧
        (∀ entry ∈ scan, entry.2.domainNumber = number → graph.alive entry.1 = false) ∨
      ∃ entry ∈ scan, entry.2.domainNumber = number ∧ graph.alive entry.1 = true ∧
        expectFree graph number scan = .error (.validation (.monitorAlreadyRunning number entry.1)) := by
  induction scan with
  | nil => exact .inl ⟨rfl, by simp⟩
  | cons entry scan ih =>
    obtain ⟨id, monitor⟩ := entry
    simp only [List.mem_cons, forall_eq_or_imp] at known
    have state := isActive_of_kind? known.1
    by_cases taken : monitor.domainNumber = number ∧ graph.alive id = true
    · refine .inr ⟨_, List.mem_cons_self, taken.1, taken.2, ?_⟩
      rw [expectFree, if_pos taken.1, state, taken.2]
    · have idle : monitor.domainNumber = number → graph.alive id = false := fun same =>
        Bool.eq_false_iff.mpr fun active => taken ⟨same, active⟩
      have next : expectFree graph number ((id, monitor) :: scan) = expectFree graph number scan := by
        rw [expectFree, state]
        split
        · rename_i same
          rw [idle same]
        · rfl
      rw [next]
      refine (ih known.2).imp (fun free => ⟨free.1, ?_⟩) fun taken => ?_
      · simpa only [List.mem_cons, forall_eq_or_imp] using ⟨idle, free.2⟩
      · obtain ⟨entry, mem, held⟩ := taken
        exact ⟨entry, List.mem_cons_of_mem _ mem, held⟩

theorem mem_monitors {monitor : Monitor} (found : service.monitors[d]? = some monitor) : d ∈ service.monitors := by
  rw [Std.ExtTreeMap.mem_iff_isSome_getElem?, found]
  rfl

/-- The monitors are those of the domains, every domain has the number of its monitor, and no number has
two active domains. -/
structure Registered (service : Service) : Prop where
  keyed : ∀ d, d ∈ service.monitors ↔ service.graph.kind? d = some .domain
  numbered : ∀ d monitor, service.monitors[d]? = some monitor →
    service.graph.Numbered monitor.domainNumber d
  unique : ∀ number d e, service.graph.Running number d → service.graph.Running number e → d = e

theorem Registered.exists_monitor (registered : service.Registered) (numbered : service.graph.Numbered number d) :
    ∃ monitor, service.monitors[d]? = some monitor ∧ monitor.domainNumber = number := by
  have mem := (registered.keyed d).mpr numbered.kind?
  rw [Std.ExtTreeMap.mem_iff_isSome_getElem?] at mem
  obtain ⟨monitor, found⟩ := Option.isSome_iff_exists.mp mem
  exact ⟨monitor, found, (registered.numbered d monitor found).eq numbered⟩

/-- The service once a domain has been opened for a number. -/
def opened (service : Service) (d : EntityId) (number : UInt32) (listener : Option Nat) : Service :=
  { service with
    graph := service.graph.add (Entity.discovered d .domain (toString number.toNat) (.domain number))
    monitors := service.monitors.insert d ⟨number, listener⟩ }

/-- How a start ends. -/
inductive Starts (service : Service) (number : UInt32) (listener : Option Nat) :
    EStateM.Result GraphError Service EntityId → Prop
  | refused {e : EntityId} : service.graph.Running number e →
      Starts service number listener (.error (.validation (.monitorAlreadyRunning number e)) service)
  | exhausted : (∀ e, ¬ service.graph.Running number e) → service.graph.lastId.next? = none →
      Starts service number listener (.error (.storage .idSpaceExhausted) service)
  | done {d : EntityId} : (∀ e, ¬ service.graph.Running number e) → service.graph.lastId.next? = some d →
      Starts service number listener (.ok d (service.opened d number listener))

theorem Registered.starts (registered : service.Registered) :
    Starts service number listener (start number listener service) := by
  have known : ∀ entry ∈ service.monitors.toList, service.graph.kind? entry.1 = some .domain := by
    rintro ⟨id, monitor⟩ mem
    exact (registered.numbered id monitor (Std.ExtTreeMap.mem_toList_iff_getElem?_eq_some.mp mem)).kind?
  rw [start_eq]
  obtain ⟨free, idle⟩ | ⟨⟨id, monitor⟩, mem, rfl, active, taken⟩ := expectFree_cases number service.monitors.toList known
  · have none : ∀ e, ¬ service.graph.Running number e := by
      rintro e ⟨numbered, active⟩
      obtain ⟨monitor, found, same⟩ := registered.exists_monitor numbered
      rw [idle (e, monitor) (Std.ExtTreeMap.mem_toList_iff_getElem?_eq_some.mpr found) same] at active
      cases active
    have ends := create_ends service.graph .domain (toString number.toNat) (.domain number)
    rw [free]
    cases run : Graph.create .domain (toString number.toNat) (.domain number) service.graph with
    | ok d g =>
      obtain ⟨-, next, rfl⟩ := ends.of_ok run
      exact .done none next
    | error e g =>
      obtain ⟨rfl, cause⟩ := ends.of_error run
      obtain ⟨rfl, out⟩ := cause (by decide)
      exact .exhausted none out
  · rw [taken]
    have found := Std.ExtTreeMap.mem_toList_iff_getElem?_eq_some.mp mem
    exact .refused ⟨registered.numbered id monitor found, active⟩

/-! ### What requests keep -/

theorem entity?_opened : (service.opened d number listener).graph.entity? e =
    if d = e then some (Entity.discovered d .domain (toString number.toNat) (.domain number))
    else service.graph.entity? e :=
  entity?_add

theorem kind?_opened : (service.opened d number listener).graph.kind? e =
    if d = e then some .domain else service.graph.kind? e :=
  kind?_add

theorem monitors_opened : (service.opened d number listener).monitors[e]? =
    if d = e then some ⟨number, listener⟩ else service.monitors[e]? := by
  simp [opened, Std.ExtTreeMap.getElem?_insert]

/-- The new domain has its number, and the others keep theirs. -/
theorem numbered_opened {other : UInt32} : (service.opened d number listener).graph.Numbered other e ↔
    if d = e then number = other else service.graph.Numbered other e := by
  unfold Numbered
  rw [entity?_opened]
  split
  · simp [Entity.discovered]
  · rfl

theorem alive_opened (apart : d ≠ e) : (service.opened d number listener).graph.alive e = service.graph.alive e := by
  rw [Graph.alive, entity?_opened, if_neg apart, Graph.alive]

theorem Registered.opened (registered : service.Registered)
    (free : ∀ e, ¬ service.graph.Running number e) : (service.opened d number listener).Registered := by
  -- The number was free, so nothing else runs under it.
  have alone : ∀ other e, (service.opened d number listener).graph.Running other e →
      if d = e then number = other else number ≠ other ∧ service.graph.Running other e := by
    rintro other e ⟨numbered, active⟩
    rw [numbered_opened] at numbered
    split
    · rename_i same
      rwa [if_pos same] at numbered
    · rename_i apart
      rw [if_neg apart] at numbered
      rw [alive_opened apart] at active
      exact ⟨fun same => free e (same ▸ ⟨numbered, active⟩), numbered, active⟩
  constructor
  case keyed =>
    intro e
    rw [Std.ExtTreeMap.mem_iff_isSome_getElem?, monitors_opened, kind?_opened]
    split
    · simp
    · rw [← Std.ExtTreeMap.mem_iff_isSome_getElem?, registered.keyed]
  case numbered =>
    intro e monitor found
    rw [monitors_opened] at found
    rw [numbered_opened]
    split
    · rename_i same
      rw [if_pos same] at found
      cases found
      rfl
    · rename_i apart
      rw [if_neg apart] at found
      exact registered.numbered e monitor found
  case unique =>
    intro other e e' running running'
    have first := alone other e running
    have second := alone other e' running'
    split at first <;> split at second
    · rename_i same same'
      rw [← same, ← same']
    · exact absurd first second.1
    · exact absurd second first.1
    · exact registered.unique other e e' first.2 second.2

/-- Requests other than a start leave no new domain, drop a monitor only with its domain, and add none. -/
structure Retains (service service' : Service) : Prop extends service.graph.Inherits service'.graph where
  fewer : ∀ (d : EntityId) (monitor : Monitor),
    service'.monitors[d]? = some monitor → service.monitors[d]? = some monitor
  kept : ∀ d ∈ service.monitors, service'.graph.kind? d = some .domain → d ∈ service'.monitors

theorem Retains.refl : service.Retains service := ⟨.refl, fun _ _ => id, fun _ mem _ => mem⟩

theorem Registered.retained (registered : service.Registered) (sound : service'.Sound)
    (retains : service.Retains service') : service'.Registered := by
  have keyed : ∀ d, d ∈ service'.monitors ↔ service'.graph.kind? d = some .domain := by
    intro d
    constructor
    · exact sound.domains d
    · intro known
      exact retains.kept d ((registered.keyed d).mpr (retains.comes d known)) known
  refine ⟨keyed, fun d monitor found => ?_, fun number d e running running' => ?_⟩
  · have known := (keyed d).mp (mem_monitors found)
    exact (retains.numbered_iff known).mpr (registered.numbered d monitor (retains.fewer d monitor found))
  · exact registered.unique number d e (retains.running running) (retains.running running')

theorem Steps.retains (steps : Steps service request service') (sound : service.Sound)
    (other : ∀ number listener, request ≠ .start number listener) : service.Retains service' := by
  have wf := sound.regular.wellFormed
  cases steps with
  | declined | refused => exact .refl
  | exhausted out _ =>
    obtain ⟨-, -, changes, run⟩ := out
    exact ⟨run.inherits_of_discovers wf, fun _ _ => id, fun _ mem _ => mem⟩
  | started => exact absurd rfl (other _ _)
  | applied _ ingests => exact ⟨ingests.inherits wf, fun _ _ => id, fun _ mem _ => mem⟩
  | stopped _ stopped => exact ⟨stopped.run.inherits_of_lowered, fun _ _ => id, fun _ mem _ => mem⟩
  | @cleared d removed gone g _ clearing _ without =>
    refine ⟨without.inherits, fun e monitor found => ?_, fun e mem known => ?_⟩
    · rw [Std.ExtTreeMap.getElem?_erase] at found
      split at found
      · cases found
      · exact found
    · refine Std.ExtTreeMap.mem_erase.mpr ⟨fun same => ?_, mem⟩
      obtain rfl : d = e := Std.LawfulEqOrd.compare_eq_iff_eq.mp same
      exact (without.kind?.mp known).1 clearing.domain

/-- A request opens a domain for a free number, or retains what there is. -/
theorem Registered.act_cases (registered : service.Registered) (sound : service.Sound) (request : Request) :
    service.Retains (request.act service) ∨
      ∃ number listener d, request = .start number listener ∧ (∀ e, ¬ service.graph.Running number e) ∧
        service.graph.lastId.next? = some d ∧
        start number listener service = .ok d (service.opened d number listener) ∧
        request.act service = service.opened d number listener := by
  cases request with
  | start number listener =>
    have starts : Starts service number listener (start number listener service) := registered.starts
    rw [Request.act, Call.after]
    generalize run : start number listener service = result at starts
    cases starts with
    | refused | exhausted => exact .inl .refl
    | @done d free next => exact .inr ⟨number, listener, d, rfl, free, next, run, rfl⟩
  | apply => exact .inl ((steps_act sound).retains sound (by simp))
  | stop => exact .inl ((steps_act sound).retains sound (by simp))
  | clear => exact .inl ((steps_act sound).retains sound (by simp))

theorem Registered.act (registered : service.Registered) (sound : service.Sound) (request : Request) :
    (request.act service).Registered := by
  obtain retains | ⟨number, listener, d, -, free, -, -, same⟩ := registered.act_cases sound request
  · exact registered.retained ((steps_act sound).sound sound) retains
  · rw [same]
    exact registered.opened free

theorem Reachable.registered (reachable : service.Reachable) : service.Registered := by
  induction reachable with
  | @new config service new =>
    have unknown : ∀ d, service.graph.kind? d ≠ some .domain := fun d => by simp [unknown_new new]
    have none : service.monitors = ∅ := by rw [eq_of_new new]
    refine ⟨fun d => iff_of_false (by simp [none]) (unknown d), by simp [none], fun _ d _ running => ?_⟩
    exact absurd running.1.kind? (unknown d)
  | step request reachable ih => exact ih.act reachable.sound request

/-! ### Over a run -/

/-- Every monitor comes from a start of its number and listener that returned its domain. -/
theorem exists_start (requests : List Request) (reachable : service.Reachable) {monitor : Monitor}
    (found : (service.run requests).monitors[d]? = some monitor) :
    service.monitors[d]? = some monitor ∨ ∃ before later opened,
      requests = before ++ .start monitor.domainNumber monitor.listener :: later ∧
        start monitor.domainNumber monitor.listener (service.run before) = .ok d opened := by
  induction requests generalizing service with
  | nil => exact .inl found
  | cons request requests ih =>
    obtain here | ⟨before, later, opened, rfl, start⟩ := ih (reachable.step request) found
    · obtain retains | ⟨number, listener, e, rfl, -, -, start, same⟩ :=
        reachable.registered.act_cases reachable.sound request
      · exact .inl (retains.fewer d monitor here)
      · rw [same, monitors_opened] at here
        split at here
        · rename_i same
          subst same
          cases here
          exact .inr ⟨[], requests, _, rfl, start⟩
        · exact .inl here
    · exact .inr ⟨request :: before, later, opened, rfl, start⟩

/-- What is gone stays gone, and the identifier it had is not handed out again. -/
theorem gone_run (requests : List Request) (reachable : service.Reachable) (gone : service.graph.kind? d = none)
    (issued : d.value.toNat ≤ service.graph.lastId.value.toNat) :
    (service.run requests).graph.kind? d = none ∧
      d.value.toNat ≤ (service.run requests).graph.lastId.value.toNat := by
  induction requests generalizing service with
  | nil => exact ⟨gone, issued⟩
  | cons request requests ih =>
    have steps : Steps service request (request.act service) := reachable.steps
    obtain ⟨changes, run⟩ := steps.run
    exact ih (reachable.step request) (run.kind?_eq_none gone issued) (Nat.le_trans issued steps.lastId_le)

/-- A domain that is not active does not become active. -/
theorem dormant_act (reachable : service.Reachable) (known : service.graph.kind? d = some .domain)
    (idle : service.graph.alive d = false) (request : Request) :
    (request.act service).graph.kind? d = none ∨
      (request.act service).graph.kind? d = some .domain ∧ (request.act service).graph.alive d = false := by
  obtain retains | ⟨number, listener, e, rfl, -, next, -, same⟩ :=
    reachable.registered.act_cases reachable.sound request
  · refine (retains.stays d known).imp id fun stays => ⟨stays, ?_⟩
    cases active : (request.act service).graph.alive d with
    | false => rfl
    | true =>
      rw [retains.lowered d stays active] at idle
      cases idle
  · have apart : e ≠ d := reachable.sound.regular.wellFormed.ne_fresh next known
    rw [same, kind?_opened, if_neg apart, alive_opened apart]
    exact .inr ⟨known, idle⟩

theorem dormant_run (requests : List Request) (reachable : service.Reachable)
    (known : service.graph.kind? d = some .domain) (idle : service.graph.alive d = false) :
    (service.run requests).graph.alive d = false := by
  induction requests generalizing service with
  | nil => exact idle
  | cons request requests ih =>
    obtain gone | ⟨known', idle'⟩ := dormant_act reachable known idle request
    · have steps : Steps service request (request.act service) := reachable.steps
      have issued := (reachable.sound.regular.wellFormed.issued known).2
      have unknown : (service.run (request :: requests)).graph.kind? d = none :=
        (gone_run requests (reachable.step request) gone (Nat.le_trans issued steps.lastId_le)).1
      rw [Graph.alive, kind?_eq_none.mp unknown]
      rfl
    · exact ih (reachable.step request) known' idle'

/-- A monitored domain is gone once it has been cleared. -/
theorem gone_clear (reachable : service.Reachable) (mem : d ∈ service.monitors) :
    ((Request.clear d).act service).graph.kind? d = none := by
  have steps : Steps service (.clear d) ((Request.clear d).act service) := reachable.steps
  generalize (Request.clear d).act service = service' at steps ⊢
  cases steps with
  | declined _ absent => exact absurd mem (absent d rfl)
  | cleared _ clearing _ without => exact kind?_eq_none.mpr (without.gone d clearing.domain)

/-- In every state that requests lead to from a new service: the monitors are those of the domains of the
graph, each with the number that it was started with; no number has two active domains; a start succeeds
exactly where no active domain has the number, as long as there is an identifier left, and reports the
one that has it otherwise; a domain that is not active never becomes active again; and a domain that is
cleared leaves an identifier that nothing bears again and no start returns. -/
theorem monitors_registered {config : Config} {fresh : Service} (new : Service.new config = .ok fresh)
    (requests : List Request) :
    let now := fresh.run requests
    (∀ d, d ∈ now.monitors ↔ now.graph.kind? d = some .domain) ∧
      (∀ d monitor, now.monitors[d]? = some monitor → now.graph.Numbered monitor.domainNumber d ∧
        ∃ before later opened, requests = before ++ .start monitor.domainNumber monitor.listener :: later ∧
          start monitor.domainNumber monitor.listener (fresh.run before) = .ok d opened) ∧
      (∀ number d e, now.graph.Running number d → now.graph.Running number e → d = e) ∧
      (∀ number listener,
        ((∃ d opened, start number listener now = .ok d opened) ↔
          (∀ e, ¬ now.graph.Running number e) ∧ now.graph.lastId.next? ≠ none) ∧
        ∀ e, now.graph.Running number e →
          start number listener now = .error (.validation (.monitorAlreadyRunning number e)) now) ∧
      (∀ d, now.graph.kind? d = some .domain → now.graph.alive d = false →
        ∀ later, (now.run later).graph.alive d = false) ∧
      ∀ d ∈ now.monitors, ∀ later, (now.run (.clear d :: later)).graph.kind? d = none ∧
        ∀ number listener opened, start number listener (now.run (.clear d :: later)) ≠ .ok d opened := by
  intro now
  have reachable : now.Reachable := (Reachable.new new).run
  have registered := reachable.registered
  refine ⟨registered.keyed, fun d monitor found => ⟨registered.numbered d monitor found, ?_⟩,
    registered.unique, fun number listener => ?_, fun d known idle later => ?_, fun d mem later => ?_⟩
  · obtain before | started := exists_start requests (.new new) found
    · rw [eq_of_new new] at before
      simp at before
    · exact started
  · have starts : Starts now number listener (start number listener now) := registered.starts
    generalize start number listener now = result at starts ⊢
    cases starts with
    | @refused e running =>
      refine ⟨iff_of_false (by simp) fun free => free.1 e running, fun e' running' => ?_⟩
      rw [registered.unique number e e' running running']
    | exhausted free out =>
      exact ⟨iff_of_false (by simp) fun room => room.2 out, fun e running => absurd running (free e)⟩
    | @done d free next =>
      exact ⟨iff_of_true ⟨d, _, rfl⟩ ⟨free, by simp [next]⟩, fun e running => absurd running (free e)⟩
  · exact dormant_run later reachable known idle
  · have cleared : ((Request.clear d).act now).Reachable := reachable.step (.clear d)
    have known := (registered.keyed d).mp mem
    have steps : Steps now (.clear d) ((Request.clear d).act now) := reachable.steps
    have issued := Nat.le_trans (reachable.sound.regular.wellFormed.issued known).2 steps.lastId_le
    have gone := gone_run later cleared (gone_clear reachable mem) issued
    refine ⟨gone.1, fun number listener opened start => ?_⟩
    have ended : (now.run (.clear d :: later)).Reachable := cleared.run
    have starts : Starts (now.run (.clear d :: later)) number listener (.ok d opened) :=
      start ▸ ended.registered.starts
    cases starts with
    | done _ next =>
      have succ := EntityId.value_next next
      have old : d.value.toNat ≤ (now.run (.clear d :: later)).graph.lastId.value.toNat := gone.2
      omega

/-- A domain is stopped, and a participant appears in it and wakes up all it can. Another domain is then
started under the same number, so that a third start is refused for the second domain, while the first one
stays stopped when the participant is announced anew, and is gone for good once it has been cleared. -/
theorem monitors_registered_restart :
    let participant : Notification :=
      ⟨⟨1⟩, .discovered, .participant ⟨⟨.replicate 16 1⟩, "node", "host", "user", "process", none⟩⟩
    let now : Service := run { config := {} } [.start 7 none, .stop ⟨1⟩, .apply participant, .start 7 (some 3)]
    Service.new {} = .ok { config := {} } ∧ now.graph.Running 7 ⟨6⟩ ∧
      start 7 none now = .error (.validation (.monitorAlreadyRunning 7 ⟨6⟩)) now ∧
      (now.run [.apply { participant with status := .updated }]).graph.alive ⟨5⟩ = true ∧
      (now.run [.apply { participant with status := .updated }]).graph.alive ⟨1⟩ = false ∧
      ⟨1⟩ ∈ now.monitors ∧ (now.run [.clear ⟨1⟩, .start 8 none]).graph.kind? ⟨1⟩ = none := by
  intro participant now
  obtain ⟨-, -, -, starts, idle, gone⟩ := monitors_registered new_default
    [.start 7 none, .stop ⟨1⟩, .apply participant, .start 7 (some 3)]
  have running : now.graph.Running 7 ⟨6⟩ :=
    ⟨⟨Entity.discovered ⟨6⟩ .domain "7" (.domain 7), by decide +kernel, rfl, rfl⟩, by decide +kernel⟩
  have monitored : ⟨1⟩ ∈ now.monitors := by decide +kernel
  exact ⟨new_default, running, (starts 7 none).2 ⟨6⟩ running, by decide +kernel,
    idle ⟨1⟩ (by decide +kernel) (by decide +kernel) [.apply { participant with status := .updated }],
    monitored, (gone ⟨1⟩ monitored [.start 8 none]).1⟩

end Service
end DiscoveryGraph
