import DiscoveryGraph.Proofs.Discovery.Survival
import DiscoveryGraph.Proofs.Monitor.Demand

/-! Support along a run of requests. No request leaves an endpoint active without its participant, and
no start, notification or stop leaves a host, a user, a process or a locator active without an active
child. A clearing may: it removes children, and leaves the flags of whatever stays as they are. -/
namespace DiscoveryGraph
namespace Graph
variable {g h : Graph} {d x y : EntityId} {k : EntityKind} {changes : List StateChange}

theorem Upholds.refl : g.Upholds g := ⟨fun held => held, fun held => held, fun held => held⟩

/-- A new domain is no child and has none. -/
theorem upholds_born_domain {entity : Entity} (wf : g.WellFormed) (kind : entity.kind = .domain)
    (enabled : (Action.born entity []).Enabled g) : g.Upholds ((Action.born entity []).act g) := by
  have settles : g.Settles ((Action.born entity []).act g) := by
    refine ⟨grows_born wf enabled, fun x k known shared unknown => ?_⟩
    rw [Action.kind?_born] at known
    split at known
    · rw [kind, Option.some_inj] at known
      subst known
      cases shared
    · rw [unknown] at known
      cases known
  refine ⟨settles.supported, fun attached x y k exposed known => ?_, settles.populated⟩
  have old : g.Exposed x y := by simpa using (exposed_born wf enabled).mp exposed
  obtain ⟨⟨kind', known'⟩, -⟩ := old.1.known wf
  obtain rfl := kind_unique known (settles.grows.kind? known')
  exact attached x y _ old known'

theorem Stopped.upholds (stopped : Stopped g d changes h) : g.Upholds h := by
  have alike := stopped.run.alike
  refine ⟨fun supported x k known shared active => ?_,
    fun attached => attached.of_alike alike stopped.covered, alike.populated⟩
  rw [alike.kind?] at known
  have before : g.alive x = true := by
    cases state : g.alive x with
    | true => rfl
    | false =>
      rw [stopped.run.not_alive_of_lowered state] at active
      cases active
  refine stopped.upheld x ?_ (supported x k known shared before) active
  rw [known]
  rintro ⟨⟩
  cases shared

end Graph

namespace Service
open DiscoveryGraph.Graph
variable {service service' : Service} {request : Request} {d : EntityId}

theorem Steps.upholds (steps : Steps service request service') (sound : service.Sound)
    (lasting : request.exhausts service = false) (keeps : ∀ d, request ≠ .clear d) :
    service.graph.Upholds service'.graph := by
  have wf := sound.regular.wellFormed
  cases steps with
  | declined | refused => exact .refl
  | exhausted out fails =>
    rw [Request.exhausts, fails, out.1] at lasting
    cases lasting
  | started kind enabled => exact upholds_born_domain wf kind enabled
  | applied _ ingests => exact ingests.upholds wf
  | stopped _ stopped => exact stopped.upholds
  | @cleared d => exact absurd rfl (keeps d)

/-- No request leaves a host, a user or a process without a child. -/
theorem Steps.populated (steps : Steps service request service') (sound : service.Sound)
    (lasting : request.exhausts service = false) (populated : service.graph.Populated) :
    service'.graph.Populated := by
  cases request with
  | start | apply | stop => exact (steps.upholds sound lasting (by simp)).populated populated
  | clear d =>
    cases steps with
    | declined => exact populated
    | cleared domain cleared _ without =>
      exact cleared.populated sound.regular.wellFormed domain without populated

/-- No request leaves an endpoint active without its participant. -/
theorem Steps.attached (steps : Steps service request service') (sound : service.Sound)
    (lasting : request.exhausts service = false) (attached : service.graph.Attached) :
    service'.graph.Attached := by
  cases request with
  | start | apply | stop => exact (steps.upholds sound lasting (by simp)).attached attached
  | clear d =>
    cases steps with
    | declined => exact attached
    | cleared _ _ _ without => exact attached.without without

theorem populated_run {config : Config} (new : Service.new config = .ok service)
    {requests : List Request} (lasting : service.lasts requests) :
    (service.run requests).graph.Populated := by
  refine run_invariant (·.graph.Populated) ?_ (.new new) lasting ?_
  · intro service request _ reachable room held
    exact reachable.steps.populated reachable.sound room held
  · intro x k known
    rw [unknown_new new] at known
    cases known

theorem attached_run {config : Config} (new : Service.new config = .ok service)
    {requests : List Request} (lasting : service.lasts requests) :
    (service.run requests).graph.Attached := by
  refine run_invariant (·.graph.Attached) ?_ (.new new) lasting ?_
  · intro service request _ reachable room held
    exact reachable.steps.attached reachable.sound room held
  · intro x y k _ known
    rw [unknown_new new] at known
    cases known

theorem supported_run {config : Config} (new : Service.new config = .ok service)
    {requests : List Request} (unclear : ∀ d, .clear d ∉ requests) (lasting : service.lasts requests) :
    (service.run requests).graph.Supported := by
  refine run_invariant (·.graph.Supported) ?_ (.new new) lasting ?_
  · intro service request mem reachable room held
    have keeps : ∀ d, request ≠ .clear d := by
      rintro d rfl
      exact unclear d mem
    exact (reachable.steps.upholds reachable.sound room keeps).supported held
  · intro x k known
    rw [unknown_new new] at known
    cases known

/-- As long as no domain is cleared and the identifiers last, no host is active without an active user,
no user without an active process, no process without an active participant, no locator without an
active endpoint bound to it, and no endpoint without its participant. -/
theorem backed_while_active {config : Config} (new : Service.new config = .ok service)
    (requests : List Request) (unclear : ∀ d, .clear d ∉ requests) (lasting : service.lasts requests) :
    let g := (service.run requests).graph
    (∀ x, g.kind? x = some .host → g.alive x = true →
        ∃ y ∈ g.neighbors x .user, g.alive y = true) ∧
      (∀ x, g.kind? x = some .user → g.alive x = true →
        ∃ y ∈ g.neighbors x .process, g.alive y = true) ∧
      (∀ x, g.kind? x = some .process → g.alive x = true →
        ∃ y ∈ g.neighbors x .participant, g.alive y = true) ∧
      (∀ x, g.kind? x = some .locator → g.alive x = true →
        ∃ k, k.isEndpoint ∧ ∃ y ∈ g.neighbors x k, g.alive y = true) ∧
      ∀ x k, g.kind? x = some k → k.isEndpoint → g.alive x = true →
        ∃ p ∈ g.neighbors x .participant, g.alive p = true := by
  intro g
  have supported : g.Supported := supported_run new unclear lasting
  have attached : g.Attached := attached_run new lasting
  have reachable : (service.run requests).Reachable := (Reachable.new new).run
  have regular : g.Regular := reachable.sound.regular
  have backed : ∀ x k, g.kind? x = some k → k.isShared → g.alive x = true →
      ∃ kind ∈ k.derivedFrom, ∃ y ∈ g.neighbors x kind, g.alive y = true := by
    intro x k known shared active
    obtain ⟨k', known', y, child, alive⟩ := supported x k known shared active
    obtain rfl := kind_unique known known'
    obtain ⟨kind, derived, near⟩ := mem_children.mp child
    exact ⟨kind, derived, y, near, alive⟩
  refine ⟨fun x known active => ?_, fun x known active => ?_, fun x known active => ?_,
    fun x known active => ?_, fun x k known isEndpoint active => ?_⟩
  · simpa [EntityKind.derivedFrom] using backed x .host known rfl active
  · simpa [EntityKind.derivedFrom] using backed x .user known rfl active
  · simpa [EntityKind.derivedFrom] using backed x .process known rfl active
  · obtain ⟨k, derived, near⟩ := backed x .locator known rfl active
    exact ⟨k, (EntityKind.mem_endpoints k).mp derived, near⟩
  · exact attached.participant regular.rooted known isEndpoint active

/-- Two domains share a process. When one of them is stopped, the host stays active, and so does a user. -/
theorem backed_while_active_stop :
    let participant (byte : UInt8) : Announcement :=
      .participant ⟨⟨.replicate 16 byte⟩, "node", "host", "user", "process", none⟩
    let g := (run { config := {} } [.start 0 none, .start 1 none,
      .apply ⟨⟨1⟩, .discovered, participant 1⟩, .apply ⟨⟨2⟩, .discovered, participant 2⟩,
      .stop ⟨1⟩]).graph
    g.alive ⟨3⟩ = true ∧ ∃ y ∈ g.neighbors ⟨3⟩ .user, g.alive y = true := by
  intro participant g
  have active : g.alive ⟨3⟩ = true := by decide +kernel
  have backed := backed_while_active new_default [.start 0 none, .start 1 none,
    .apply ⟨⟨1⟩, .discovered, participant 1⟩, .apply ⟨⟨2⟩, .discovered, participant 2⟩, .stop ⟨1⟩]
    (by simp) (lasts_of_demand (sound_new new_default) (by decide))
  exact ⟨active, backed.1 ⟨3⟩ (by decide +kernel) active⟩

/-! ### Clearing -/

/-- The clearing of a monitored domain, which is never declined. -/
theorem Steps.supported_iff (steps : Steps service (.clear d) service') (sound : service.Sound)
    (monitored : d ∈ service.monitors) (populated : service.graph.Populated)
    (supported : service.graph.Supported) :
    service'.graph.Supported ↔
      ∀ x k, service.graph.kind? x = some k → k.isShared → service.graph.alive x = true →
        service.graph.FoundElsewhere d x →
        ∃ y ∈ service.graph.children x k,
          service.graph.alive y = true ∧ service.graph.FoundElsewhere d y := by
  cases steps with
  | declined _ absent => exact absurd monitored (absent d rfl)
  | cleared domain cleared _ without =>
    exact cleared.supported_iff sound.regular domain without populated supported

/-- As long as the identifiers last, the clearing of a monitored domain leaves no host, user, process or
locator active without an active child exactly if each of them that is active and found from another
domain has an active child that is found from another domain. -/
theorem clear_keeps_supported_iff {config : Config} (new : Service.new config = .ok service)
    (requests : List Request) (lasting : service.lasts requests)
    (monitored : d ∈ (service.run requests).monitors) (supported : (service.run requests).graph.Supported) :
    let g := (service.run requests).graph
    ((Request.clear d).act (service.run requests)).graph.Supported ↔
      ∀ x k, g.kind? x = some k → k.isShared → g.alive x = true → g.FoundElsewhere d x →
        ∃ y ∈ g.children x k, g.alive y = true ∧ g.FoundElsewhere d y := by
  have reachable : (service.run requests).Reachable := (Reachable.new new).run
  exact reachable.steps.supported_iff reachable.sound monitored (populated_run new lasting) supported

/-- A process whose active participants all lie in the domain that is cleared, while an inactive one of
another domain keeps the process: this is where the condition fails. -/
theorem clear_keeps_supported_iff_process :
    let participant (byte : UInt8) : Announcement :=
      .participant ⟨⟨.replicate 16 byte⟩, "node", "host", "user", "process", none⟩
    let service : Service := run { config := {} } [.start 0 none, .start 1 none,
      .apply ⟨⟨1⟩, .discovered, participant 1⟩, .apply ⟨⟨2⟩, .discovered, participant 2⟩,
      .apply ⟨⟨2⟩, .removed, participant 2⟩]
    ¬ ∀ x k, service.graph.kind? x = some k → k.isShared → service.graph.alive x = true →
      service.graph.FoundElsewhere ⟨1⟩ x →
      ∃ y ∈ service.graph.children x k,
        service.graph.alive y = true ∧ service.graph.FoundElsewhere ⟨1⟩ y := by
  intro participant service held
  have lasting : lasts { config := {} } [.start 0 none, .start 1 none,
      .apply ⟨⟨1⟩, .discovered, participant 1⟩, .apply ⟨⟨2⟩, .discovered, participant 2⟩,
      .apply ⟨⟨2⟩, .removed, participant 2⟩] :=
    lasts_of_demand (sound_new new_default) (by decide)
  have supported := (clear_keeps_supported_iff new_default _ lasting (by decide +kernel)
    (supported_run new_default (by simp) lasting)).mpr held
  have process : ((Request.clear ⟨1⟩).act service).graph.kind? ⟨5⟩ = some .process := by decide +kernel
  have idle : ∀ y ∈ ((Request.clear ⟨1⟩).act service).graph.children ⟨5⟩ .process,
      ((Request.clear ⟨1⟩).act service).graph.alive y = false := by decide +kernel
  obtain ⟨k, known, y, child, active⟩ := supported ⟨5⟩ .process process rfl (by decide +kernel)
  obtain rfl := kind_unique known process
  rw [idle y child] at active
  cases active

/-- A clearing need not keep hosts, users, processes and locators backed: two domains share a process,
the participant of the second one goes, and the first domain is cleared with the active participant.
The process is active then, and no participant of it is. -/
theorem process_outlives_participants :
    let participant (byte : UInt8) : Announcement :=
      .participant ⟨⟨.replicate 16 byte⟩, "node", "host", "user", "process", none⟩
    let service : Service := run { config := {} } [.start 0 none, .start 1 none,
      .apply ⟨⟨1⟩, .discovered, participant 1⟩, .apply ⟨⟨2⟩, .discovered, participant 2⟩,
      .apply ⟨⟨2⟩, .removed, participant 2⟩]
    let g := ((Request.clear ⟨1⟩).act service).graph
    service.Reachable ∧ ⟨1⟩ ∈ service.monitors ∧ service.graph.Supported ∧
      g.kind? ⟨5⟩ = some .process ∧ g.alive ⟨5⟩ = true ∧
      ∀ y ∈ g.children ⟨5⟩ .process, g.alive y = false := by
  intro participant service g
  exact ⟨(Reachable.new new_default).run, by decide +kernel,
    supported_run new_default (by simp) (lasts_of_demand (sound_new new_default) (by decide)),
    by decide +kernel, by decide +kernel, by decide +kernel⟩

end Service
end DiscoveryGraph
