import DiscoveryGraph.Proofs.Monitor.Stage

/-! Calls beside requests. While a call takes its turns among those of others, a second service carries each
request out at once, in the turn that decides it. The graph and the count never differ between the two, nor do
the monitors as far as a call gets to see them; and what the second one delivers at once, the call still owes. -/
namespace DiscoveryGraph

/-- The call fails. -/
def Call.fails {α : Type} (call : Call α) (service : Service) : Bool :=
  match call service with
  | .ok .. => false
  | .error .. => true

namespace Service
open DiscoveryGraph.Graph

namespace Request

/-- The request fails. -/
def fails (service : Service) : Request → Bool
  | start number listener => (Service.start number listener).fails service
  | apply notification => (Service.apply notification).fails service
  | stop domain => (Service.stop domain).fails service
  | clear domain => (Service.clear domain).fails service

/-- What listeners receive on account of the request. -/
def yields (service : Service) (request : Request) : List Delivery :=
  (request.act service).delivered.drop service.delivered.length

end Request

variable {s v : Service} {stage : Stage} {request : Request} {n : Notification} {d : EntityId} {number : UInt32}
  {listener : Option Nat}

/-- Two services agree in what the guard of the graph covers. -/
structure Agrees (v s : Service) : Prop where
  graph : v.graph = s.graph
  counter : v.counter = s.counter

theorem Agrees.withGraphOf_eq (agrees : v.Agrees s) : v.withGraphOf s = v := by
  rw [withGraphOf, ← agrees.graph, ← agrees.counter]

section Carries
variable {α : Type} {call : Call α} {next : α → Stage} {a : α} {e : GraphError} {s' : Service}

theorem Carries.deciding_ok (carries : Carries call v s) (agrees : v.Agrees s) (run : call s = .ok a s') :
    Turn.deciding request call next v =
      { service := v.withGraphOf s', stage := next a, decided := some request } := by
  rw [Carries, agrees.withGraphOf_eq, run] at carries
  rw [Turn.deciding, carries]

theorem Carries.deciding_error (carries : Carries call v s) (agrees : v.Agrees s) (run : call s = .error e s') :
    Turn.deciding request call next v =
      { service := v.withGraphOf s', stage := .ended false, decided := some request } := by
  rw [Carries, agrees.withGraphOf_eq, run] at carries
  rw [Turn.deciding, carries]

theorem Carries.frame_ok (carries : Carries call s s) (run : call s = .ok a s') :
    s'.monitors = s.monitors ∧ s'.delivered = s.delivered := by
  rw [carries.self_ok run]
  exact ⟨rfl, rfl⟩

theorem Carries.frame_error (carries : Carries call s s) (run : call s = .error e s') :
    s'.monitors = s.monitors ∧ s'.delivered = s.delivered := by
  rw [carries.self_error run]
  exact ⟨rfl, rfl⟩

end Carries

/-! ### The calls that run, by their changes of the graph -/

theorem start_eq_enter : start number listener s =
    match enter number s with
    | .ok id s' => .ok id { s' with monitors := s'.monitors.insert id ⟨number, listener⟩ }
    | .error e s' => .error e s' := by
  simp only [start, Bind.bind, EStateM.bind]
  cases enter number s <;> rfl

theorem apply_eq_record : apply n s =
    match record n s with
    | .ok events s' =>
      .ok events { s' with delivered := s'.delivered ++ received (s'.listenerOf n.domain) events }
    | .error e s' => .error e s' := by
  simp only [apply, Bind.bind, EStateM.bind, deliver_eq]
  cases record n s <;> rfl

theorem stop_eq_halt {monitor : Monitor} (found : s.monitors[d]? = some monitor) : stop d s =
    match halt d s with
    | .ok events s' => .ok () { s' with delivered := s'.delivered ++ received monitor.listener events }
    | .error e s' => .error e s' := by
  simp only [stop, read, Service.monitor, found, Bind.bind, EStateM.bind, deliver_eq]
  cases halt d s <;> rfl

theorem clear_eq_wipe {monitor : Monitor} (found : s.monitors[d]? = some monitor) : clear d s =
    match wipe d s with
    | .ok events s' =>
      .ok () { s' with
        monitors := s'.monitors.erase d
        delivered := s'.delivered ++ received monitor.listener events }
    | .error e s' => .error e s' := by
  simp only [clear, read, Service.monitor, found, Bind.bind, EStateM.bind, deliver_eq]
  cases wipe d s <;> rfl

theorem stop_of_none (absent : s.monitors[d]? = none) : stop d s = .error (.validation (.unknownDomain d)) s := by
  simp only [stop, read, Service.monitor, absent, Bind.bind, EStateM.bind]

theorem clear_of_none (absent : s.monitors[d]? = none) : clear d s = .error (.validation (.unknownDomain d)) s := by
  simp only [clear, read, Service.monitor, absent, Bind.bind, EStateM.bind]

/-- A domain that is gone cannot be stopped. -/
theorem halt_of_unknown (unknown : s.graph.kind? d = none) : ∃ e, halt d s = .error e s := by
  cases refused : s.graph.expectDomain d with
  | ok u => cases (expectDomain_eq_ok.mp refused).symm.trans unknown
  | error e =>
    refine ⟨.storage e, ?_⟩
    simp only [halt, onGraph, Graph.apply, stopDomain, Bind.bind, EStateM.bind, liftM, monadLift,
      MonadLift.monadLift, EStateM.adaptExcept, Update.read, refused]

theorem yields_of_append {deliveries : List Delivery}
    (grows : (request.act s).delivered = s.delivered ++ deliveries) : request.yields s = deliveries := by
  rw [Request.yields, grows, List.drop_left]

/-! ### Turns beside a sequential run -/

/-- What a call has seen is still so, or has gone for good. -/
def Stage.Fits (s : Service) : Stage → Prop
  | .noted d monitor => s.monitors[d]? = some monitor ∨
      s.monitors[d]? = none ∧ s.graph.kind? d = none ∧ d.value.toNat ≤ s.graph.lastId.value.toNat
  | .clearing d monitor => s.monitors[d]? = some monitor
  | .seeking d _ => d.value.toNat ≤ s.graph.lastId.value.toNat
  | _ => True

/-- A turn of a call on `v` keeps step with `s`, to which the request is done that the turn decides. -/
structure Advances (v s : Service) (stage : Stage) (turn : Turn) (s' : Service) : Prop where
  follows : s.run turn.decided.toList = s'
  agrees : turn.service.Agrees s'
  fits : turn.stage.Fits s'
  accounts : turn.told.toList ++ turn.stage.owes s' =
    stage.owes s ++ turn.decided.toList.flatMap (Request.yields s)
  fails : turn.stage = .ended false ↔ ∃ request, turn.decided = some request ∧ request.fails s = true
  alone : stage.waits = true ∨ stage.holds = true → turn.stage.settle turn.service.monitors = s'.monitors
  aside : stage.waits = false → stage.holds = false →
    turn.service.monitors = v.monitors ∧ s'.monitors = s.monitors ∧ turn.stage.holds = false

section Deciding
variable {α : Type} {call : Call α} {next : α → Stage} {a : α} {e : GraphError} {s' : Service}

/-- A request that fails at the graph does nothing else. -/
theorem Carries.advances_error (carries : Carries call v s) (self : Carries call s s) (agrees : v.Agrees s)
    (run : call s = .error e s') (acts : request.act s = s') (fails : request.fails s = true)
    (quiet : stage.owes s = []) (access : stage.waits = true ∨ stage.holds = true → v.monitors = s.monitors) :
    Advances v s stage (.deciding request call next v) s' := by
  obtain ⟨monitors, delivered⟩ := self.frame_error run
  have yields : request.yields s = [] := yields_of_append (by rw [acts, delivered, List.append_nil])
  rw [carries.deciding_error agrees run]
  refine ⟨acts, ⟨rfl, rfl⟩, trivial, ?_, ?_, fun own => ?_, fun _ _ => ⟨rfl, monitors, rfl⟩⟩
  · have nothing : (Stage.ended false).owes s' = [] := rfl
    simp [quiet, yields, nothing]
  · simp [fails]
  · exact (access own).trans monitors.symm

/-- A request that succeeds at the graph still owes what it delivers. -/
theorem Carries.advances_ok (monitors : Std.ExtTreeMap EntityId Monitor) (deliveries : List Delivery)
    (carries : Carries call v s) (self : Carries call s s) (agrees : v.Agrees s) (run : call s = .ok a s')
    (acts : request.act s = { s' with monitors, delivered := s'.delivered ++ deliveries })
    (fails : request.fails s = false) (quiet : stage.owes s = [])
    (fits : (next a).Fits { s' with monitors, delivered := s'.delivered ++ deliveries })
    (owes : (next a).owes { s' with monitors, delivered := s'.delivered ++ deliveries } = deliveries)
    (goes : (next a).isEnded = false)
    (alone : stage.waits = true ∨ stage.holds = true → (next a).settle v.monitors = monitors)
    (aside : stage.waits = false → stage.holds = false → monitors = s.monitors ∧ (next a).holds = false) :
    Advances v s stage (.deciding request call next v)
      { s' with monitors, delivered := s'.delivered ++ deliveries } := by
  have delivered := (self.frame_ok run).2
  have yields : request.yields s = deliveries := yields_of_append (by rw [acts, delivered])
  rw [carries.deciding_ok agrees run]
  refine ⟨acts, ⟨rfl, rfl⟩, fits, ?_, ?_, alone, fun free own => ⟨rfl, aside free own⟩⟩
  · simp [quiet, yields, owes]
  · refine iff_of_false (fun ended : next a = .ended false => ?_) (by simp [fails])
    rw [ended] at goes
    cases goes

end Deciding

theorem advances_enter (agrees : v.Agrees s) (same : v.monitors = s.monitors) :
    ∃ s', Advances v s (.opening number listener) ((Stage.opening number listener).turn v) s' := by
  have carries : Carries (enter number) v s := carries_enter same
  have self : Carries (enter number) s s := carries_enter rfl
  cases run : enter number s with
  | error e s' =>
    refine ⟨_, carries.advances_error self agrees run ?_ ?_ rfl fun _ => same⟩
    · rw [Request.act, Call.after, start_eq_enter, run]
    · rw [Request.fails, Call.fails, start_eq_enter, run]
  | ok id s' =>
    have monitors := (self.frame_ok run).1
    refine ⟨_, carries.advances_ok (s'.monitors.insert id ⟨number, listener⟩) [] self agrees run ?_ ?_ rfl trivial rfl
      rfl (fun _ => ?_) ?_⟩
    · rw [Request.act, Call.after, start_eq_enter, run, List.append_nil]
    · rw [Request.fails, Call.fails, start_eq_enter, run]
    · rw [Stage.settle, same, monitors]
    · intro _ own
      cases own

/-- The domain of a notification that was recorded had been created. -/
theorem issued_of_record {events : List Event} {s' : Service} (sound : s.Sound) (run : record n s = .ok events s') :
    n.domain.value.toNat ≤ s'.graph.lastId.value.toNat := by
  have applied : apply n s = .ok events
      { s' with delivered := s'.delivered ++ received (s'.listenerOf n.domain) events } := by
    rw [apply_eq_record, run]
  have steps : Steps s (.apply n) _ := steps_act sound
  have left : (Request.apply n).act s =
      { s' with delivered := s'.delivered ++ received (s'.listenerOf n.domain) events } := by
    rw [Request.act, Call.after, applied]
  have lastId : ((Request.apply n).act s).graph.lastId = s'.graph.lastId := by rw [left]
  rw [← lastId]
  refine Nat.le_trans ?_ steps.lastId_le
  rw [apply_eq] at applied
  cases ingested : Graph.ingest n s.graph with
  | error e g =>
    rw [ingested] at applied
    cases applied
  | ok changes g =>
    obtain ⟨known, -⟩ := (Update.ends_iff.mp (ingest_ends (n := n) sound.regular.wellFormed)).1 changes g ingested
    exact (sound.regular.wellFormed.issued known).2

theorem advances_record (sound : s.Sound) (agrees : v.Agrees s) :
    ∃ s', Advances v s (.called (.apply n)) ((Stage.called (.apply n)).turn v) s' := by
  cases run : record n s with
  | error e s' =>
    refine ⟨_, carries_record.advances_error carries_record agrees run ?_ ?_ rfl (by simp [Stage.waits, Stage.holds])⟩
    · rw [Request.act, Call.after, apply_eq_record, run]
    · rw [Request.fails, Call.fails, apply_eq_record, run]
  | ok events s' =>
    have monitors := (carries_record.frame_ok run).1
    have issued : n.domain.value.toNat ≤ s'.graph.lastId.value.toNat := issued_of_record sound run
    refine ⟨_, carries_record.advances_ok s'.monitors (received (s'.listenerOf n.domain) events) carries_record agrees
      run ?_ ?_ rfl ?_ rfl rfl ?_ fun _ _ => ⟨monitors, rfl⟩⟩
    · rw [Request.act, Call.after, apply_eq_record, run]
    · rw [Request.fails, Call.fails, apply_eq_record, run]
    · exact issued
    · simp [Stage.waits, Stage.holds]

theorem advances_wipe {monitor : Monitor} (agrees : v.Agrees s) (found : s.monitors[d]? = some monitor)
    (same : v.monitors = s.monitors) :
    ∃ s', Advances v s (.clearing d monitor) ((Stage.clearing d monitor).turn v) s' := by
  cases run : wipe d s with
  | error e s' =>
    refine ⟨_, carries_wipe.advances_error carries_wipe agrees run ?_ ?_ rfl fun _ => same⟩
    · rw [Request.act, Call.after, clear_eq_wipe found, run]
    · rw [Request.fails, Call.fails, clear_eq_wipe found, run]
  | ok events s' =>
    have monitors := (carries_wipe.frame_ok run).1
    refine ⟨_, carries_wipe.advances_ok (s'.monitors.erase d) (received monitor.listener events) carries_wipe agrees run
      ?_ ?_ rfl trivial rfl rfl (fun _ => ?_) ?_⟩
    · rw [Request.act, Call.after, clear_eq_wipe found, run]
    · rw [Request.fails, Call.fails, clear_eq_wipe found, run]
    · rw [Stage.settle, same, monitors]
    · intro _ own
      cases own

/-- A stop whose monitor has been cleared since fails at the graph, where `s` declines it. -/
theorem advances_halt {monitor : Monitor} (agrees : v.Agrees s) (fits : (Stage.noted d monitor).Fits s) :
    ∃ s', Advances v s (.noted d monitor) ((Stage.noted d monitor).turn v) s' := by
  obtain found | ⟨absent, unknown, -⟩ := fits
  · cases run : halt d s with
    | error e s' =>
      refine ⟨_, carries_halt.advances_error carries_halt agrees run ?_ ?_ rfl (by simp [Stage.waits, Stage.holds])⟩
      · rw [Request.act, Call.after, stop_eq_halt found, run]
      · rw [Request.fails, Call.fails, stop_eq_halt found, run]
    | ok events s' =>
      have monitors := (carries_halt.frame_ok run).1
      refine ⟨_, carries_halt.advances_ok s'.monitors (received monitor.listener events) carries_halt agrees run
        ?_ ?_ rfl trivial rfl rfl ?_ fun _ _ => ⟨monitors, rfl⟩⟩
      · rw [Request.act, Call.after, stop_eq_halt found, run]
      · rw [Request.fails, Call.fails, stop_eq_halt found, run]
      · simp [Stage.waits, Stage.holds]
  · obtain ⟨e, run⟩ := halt_of_unknown unknown
    refine ⟨s, carries_halt.advances_error carries_halt agrees run ?_ ?_ rfl (by simp [Stage.waits, Stage.holds])⟩
    · rw [Request.act, Call.after, stop_of_none absent]
    · rw [Request.fails, Call.fails, stop_of_none absent]

/-- A turn that leaves the graph alone and decides nothing. -/
theorem Advances.of_quiet {turn : Turn} (agrees : turn.service.Agrees s) (undecided : turn.decided = none)
    (fits : turn.stage.Fits s) (accounts : turn.told.toList ++ turn.stage.owes s = stage.owes s)
    (goes : turn.stage ≠ .ended false)
    (alone : stage.waits = true ∨ stage.holds = true → turn.stage.settle turn.service.monitors = s.monitors)
    (aside : stage.waits = false → stage.holds = false →
      turn.service.monitors = v.monitors ∧ turn.stage.holds = false) : Advances v s stage turn s := by
  refine ⟨by rw [undecided]; rfl, agrees, fits, ?_, ?_, alone, fun free own => ?_⟩
  · rw [accounts, undecided]
    exact (List.append_nil _).symm
  · exact iff_of_false goes (by simp [undecided])
  · exact ⟨(aside free own).1, rfl, (aside free own).2⟩

/-- A request that no monitor is there for is declined. -/
theorem advances_declined (agrees : v.Agrees s) (same : v.monitors = s.monitors) (quiet : stage.owes s = [])
    (own : stage.waits = true) (acts : request.act s = s) (fails : request.fails s = true) :
    Advances v s stage { service := v, stage := .ended false, decided := some request } s := by
  have yields : request.yields s = [] := yields_of_append (by rw [acts, List.append_nil])
  refine ⟨acts, agrees, trivial, ?_, ?_, fun _ => same, fun free => ?_⟩
  · have nothing : (Stage.ended false).owes s = [] := rfl
    simp [quiet, yields, nothing]
  · simp [fails]
  · rw [free] at own
    cases own

/-- Every turn of a call keeps step with the sequential run. -/
theorem advances_turn (sound : s.Sound) (agrees : v.Agrees s) (fits : stage.Fits s)
    (access : stage.waits = true ∨ stage.holds = true → stage.settle v.monitors = s.monitors)
    (goes : stage.isEnded = false) : ∃ s', Advances v s stage (stage.turn v) s' := by
  cases stage with
  | called request =>
    cases request with
    | apply n => exact advances_record sound agrees
    | start number listener =>
      exact ⟨s, .of_quiet agrees rfl trivial rfl (by simp [Stage.turn]) access (by simp [Stage.waits])⟩
    | stop d =>
      have same : v.monitors = s.monitors := access (.inl rfl)
      rw [Stage.turn, same]
      cases found : s.monitors[d]? with
      | some monitor =>
        exact ⟨s, .of_quiet agrees rfl (.inl found) rfl (by simp) access (by simp [Stage.waits])⟩
      | none =>
        refine ⟨s, advances_declined agrees same rfl rfl ?_ ?_⟩
        · rw [Request.act, Call.after, stop_of_none found]
        · rw [Request.fails, Call.fails, stop_of_none found]
    | clear d =>
      have same : v.monitors = s.monitors := access (.inl rfl)
      rw [Stage.turn, same]
      cases found : s.monitors[d]? with
      | some monitor =>
        exact ⟨s, .of_quiet agrees rfl found rfl (by simp) access (by simp [Stage.waits])⟩
      | none =>
        refine ⟨s, advances_declined agrees same rfl rfl ?_ ?_⟩
        · rw [Request.act, Call.after, clear_of_none found]
        · rw [Request.fails, Call.fails, clear_of_none found]
  | opening number listener => exact advances_enter agrees (access (.inr rfl))
  | opened d monitor =>
    exact ⟨s, .of_quiet ⟨agrees.graph, agrees.counter⟩ rfl trivial rfl (by simp [Stage.turn]) access
      (by simp [Stage.holds])⟩
  | noted d monitor => exact advances_halt agrees fits
  | clearing d monitor => exact advances_wipe agrees fits (access (.inr rfl))
  | cleared d monitor events =>
    exact ⟨s, .of_quiet ⟨agrees.graph, agrees.counter⟩ rfl trivial rfl (by simp [Stage.turn]) access
      (by simp [Stage.holds])⟩
  | seeking d events =>
    have same : v.monitors = s.monitors := access (.inl rfl)
    refine ⟨s, .of_quiet agrees rfl trivial ?_ (by simp [Stage.turn]) access (by simp [Stage.waits])⟩
    simp [Stage.turn, Stage.owes, listenerOf, same]
  | telling listener events =>
    cases listener with
    | none => exact ⟨s, .of_quiet agrees rfl trivial rfl (by simp [Stage.turn]) access fun _ _ => ⟨rfl, rfl⟩⟩
    | some listener =>
      cases events with
      | nil => exact ⟨s, .of_quiet agrees rfl trivial rfl (by simp [Stage.turn]) access fun _ _ => ⟨rfl, rfl⟩⟩
      | cons event events =>
        exact ⟨s, .of_quiet ⟨agrees.graph, agrees.counter⟩ rfl trivial rfl (by simp [Stage.turn])
          (by simp [Stage.waits, Stage.holds]) fun _ _ => ⟨rfl, rfl⟩⟩
  | ended succeeded => cases goes

/-! ### What other requests leave a call -/

/-- The monitors change where one is listed under a new identifier, and where one is forgotten whose domain is
removed. -/
theorem Steps.monitors_cases {s' : Service} (steps : Steps s request s') :
    s'.monitors = s.monitors ∨
    (∃ id monitor, s.graph.lastId.value.toNat < id.value.toNat ∧ s'.monitors = s.monitors.insert id monitor) ∨
    ∃ d, request = .clear d ∧ s.graph.kind? d = some .domain ∧ s'.graph.kind? d = none ∧
      s'.monitors = s.monitors.erase d := by
  cases steps with
  | declined | refused | exhausted | applied | stopped => exact .inl rfl
  | @started number listener entity kind enabled =>
    have later := EntityId.value_next enabled.1
    exact .inr (.inl ⟨entity.id, _, by omega, rfl⟩)
  | cleared known clearing forgets without =>
    exact .inr (.inr ⟨_, rfl, known, kind?_eq_none.mpr (without.gone _ clearing.domain), rfl⟩)

theorem getElem?_insert_later {monitors : Std.ExtTreeMap EntityId Monitor} {id : EntityId} {monitor : Monitor}
    {last : Nat} (later : last < id.value.toNat) (issued : d.value.toNat ≤ last) :
    (monitors.insert id monitor)[d]? = monitors[d]? := by
  rw [Std.ExtTreeMap.getElem?_insert, if_neg]
  rw [Std.LawfulEqOrd.compare_eq_iff_eq]
  rintro rfl
  omega

/-- A call that has not come to its end yet can rely on what it has seen, whatever is requested meanwhile. -/
theorem Stage.Fits.act (fits : stage.Fits s) (sound : s.Sound)
    (alone : stage.holds = true → (request.act s).monitors = s.monitors) : stage.Fits (request.act s) := by
  have steps : Steps s request (request.act s) := steps_act sound
  have wf := sound.regular.wellFormed
  cases stage with
  | called | opening | opened | cleared | telling | ended => trivial
  | clearing d monitor =>
    show (request.act s).monitors[d]? = some monitor
    rw [alone rfl]
    exact fits
  | seeking d events => exact Nat.le_trans fits steps.lastId_le
  | noted d monitor =>
    obtain found | ⟨absent, unknown, issued⟩ := fits
    · have known := monitored sound found
      have issued := (wf.issued known).2
      obtain same | ⟨id, other, later, lists⟩ | ⟨e, -, -, gone, forgets⟩ := steps.monitors_cases
      · exact .inl (same ▸ found)
      · refine .inl ?_
        rw [lists, getElem?_insert_later later issued]
        exact found
      · by_cases same : e = d
        · subst same
          refine .inr ⟨?_, gone, Nat.le_trans issued steps.lastId_le⟩
          rw [forgets, Std.ExtTreeMap.getElem?_erase, if_pos (by simp)]
        · refine .inl ?_
          rw [forgets, Std.ExtTreeMap.getElem?_erase, if_neg (by simp [same])]
          exact found
    · obtain ⟨changes, run⟩ := steps.run
      refine .inr ⟨?_, run.kind?_eq_none unknown issued, Nat.le_trans issued steps.lastId_le⟩
      obtain same | ⟨id, other, later, lists⟩ | ⟨e, -, -, gone, forgets⟩ := steps.monitors_cases
      · rw [same]
        exact absent
      · rw [lists, getElem?_insert_later later issued]
        exact absent
      · rw [forgets, Std.ExtTreeMap.getElem?_erase]
        split
        · rfl
        · exact absent

/-- The listener of a domain that exists changes with nothing but the clearing of the domain. -/
theorem listenerOf_act (sound : s.Sound) (issued : d.value.toNat ≤ s.graph.lastId.value.toNat) :
    (request.act s).listenerOf d = s.listenerOf d ∨ request = .clear d ∧ (request.act s).listenerOf d = none := by
  have steps : Steps s request (request.act s) := steps_act sound
  unfold listenerOf
  obtain same | ⟨id, other, later, lists⟩ | ⟨e, cleared, -, -, forgets⟩ := steps.monitors_cases
  · exact .inl (by rw [same])
  · exact .inl (by rw [lists, getElem?_insert_later later issued])
  · rw [forgets, Std.ExtTreeMap.getElem?_erase]
    split
    · rename_i same
      exact .inr ⟨Std.LawfulEqOrd.eq_of_compare same ▸ cleared, rfl⟩
    · exact .inl rfl

/-- What a call owes stays the same, or a part of it does if it has yet to look for the listener of a domain that
is cleared. -/
theorem Stage.owes_act_sublist (fits : stage.Fits s) (sound : s.Sound) :
    (stage.owes (request.act s)).Sublist (stage.owes s) := by
  cases stage with
  | called | opening | opened | noted | clearing | cleared | telling | ended => exact .refl _
  | seeking d events =>
    obtain same | ⟨-, none⟩ := @listenerOf_act s request d sound fits
    · have kept : (Stage.seeking d events).owes (request.act s) = (Stage.seeking d events).owes s :=
        congrArg (received · events) same
      exact kept ▸ .refl _
    · have nothing : (Stage.seeking d events).owes (request.act s) = [] := congrArg (received · events) none
      exact nothing ▸ List.nil_sublist _

theorem Stage.owes_act (fits : stage.Fits s) (sound : s.Sound)
    (timely : ∀ d events, stage = .seeking d events → request = .clear d → received (s.listenerOf d) events = []) :
    stage.owes (request.act s) = stage.owes s := by
  have less : (stage.owes (request.act s)).Sublist (stage.owes s) := Stage.owes_act_sublist fits sound
  cases stage with
  | called | opening | opened | noted | clearing | cleared | telling | ended => rfl
  | seeking d events =>
    obtain same | ⟨clears, -⟩ := listenerOf_act sound fits
    · rw [owes, same, owes]
    · have nothing : (Stage.seeking d events).owes s = [] := timely d events rfl clears
      rw [nothing] at less ⊢
      exact List.sublist_nil.mp less

end Service
end DiscoveryGraph
