import DiscoveryGraph.Proofs.Monitor.Refinement

/-! The schedule of a caller that has the service to itself. A call whose turns nobody else comes between does
what it does in one piece, and when each call runs to its end before the next, with the worker moving only where
the caller waits for it, the turns are some that could be taken anyway. So what such calls come to follows from
what every execution comes to. -/
namespace DiscoveryGraph
namespace Service
variable {service s t : Service} {thread : Thread} {stage : Stage} {request : Request} {n : Notification}
  {ns : List Notification} {message : Message} {messages messages' : List Message} {moves moves' : List Move}
  {p k : Nat} {u v w : World}

/-! ### A call on its own -/

/-- What the call comes to if it is left alone, and whether it succeeds. -/
def Stage.outcome (service : Service) : Stage → Service × Bool
  | called request => (request.act service, !request.fails service)
  | opening number listener =>
    ((Request.start number listener).act service, !(Request.start number listener).fails service)
  | opened d monitor => ({ service with monitors := service.monitors.insert d monitor }, true)
  | noted d monitor =>
    match halt d service with
    | .ok events service =>
      ({ service with delivered := service.delivered ++ received monitor.listener events }, true)
    | .error _ service => (service, false)
  | clearing d monitor =>
    match wipe d service with
    | .ok events service =>
      ({ service with
          monitors := service.monitors.erase d
          delivered := service.delivered ++ received monitor.listener events }, true)
    | .error _ service => (service, false)
  | cleared d monitor events =>
    ({ service with
        monitors := service.monitors.erase d
        delivered := service.delivered ++ received monitor.listener events }, true)
  | seeking d events =>
    ({ service with delivered := service.delivered ++ received (service.listenerOf d) events }, true)
  | telling listener events => ({ service with delivered := service.delivered ++ received listener events }, true)
  | ended succeeded => (service, succeeded)

/-- Each turn brings the call closer to it. -/
theorem outcome_turn : (stage.turn s).stage.outcome (stage.turn s).service = stage.outcome s := by
  cases stage with
  | called request =>
    cases request with
    | start => rfl
    | apply n =>
      rw [Stage.turn, Turn.deciding, Stage.outcome, Request.act, Request.fails, Call.after, Call.fails, apply_eq_record]
      cases record n s <;> rfl
    | stop d =>
      rw [Stage.turn, Stage.outcome, Request.act, Request.fails, Call.after, Call.fails]
      cases found : s.monitors[d]? with
      | none =>
        rw [stop_of_none found]
        rfl
      | some monitor =>
        rw [stop_eq_halt found]
        dsimp only [Stage.outcome]
        cases halt d s <;> rfl
    | clear d =>
      rw [Stage.turn, Stage.outcome, Request.act, Request.fails, Call.after, Call.fails]
      cases found : s.monitors[d]? with
      | none =>
        rw [clear_of_none found]
        rfl
      | some monitor =>
        rw [clear_eq_wipe found]
        dsimp only [Stage.outcome]
        cases wipe d s <;> rfl
  | opening number listener =>
    rw [Stage.turn, Turn.deciding, Stage.outcome, Request.act, Request.fails, Call.after, Call.fails, start_eq_enter]
    cases enter number s <;> rfl
  | noted d monitor =>
    rw [Stage.turn, Turn.deciding, Stage.outcome]
    cases halt d s <;> rfl
  | clearing d monitor =>
    rw [Stage.turn, Turn.deciding, Stage.outcome]
    cases wipe d s <;> rfl
  | opened | cleared | seeking | ended => rfl
  | telling listener events =>
    have delivers {before after : List Delivery} (same : before = after) :
        (({ s with delivered := before }, true) : Service × Bool) = ({ s with delivered := after }, true) := by
      rw [same]
    cases listener with
    | none => exact delivers (List.append_nil _).symm
    | some listener =>
      cases events with
      | nil => exact delivers (List.append_nil _).symm
      | cons event events => exact delivers (List.append_assoc _ _ _)

/-- Turns of one thread in a row, by what they decide and tell. -/
def proceedings (thread : Thread) (turns : List (Option Request × Option Delivery)) : List Move :=
  turns.map fun turn => .proceeds thread turn.1 turn.2

/-- The world once the call of a thread has come to its end. -/
def World.done (world : World) (thread : Thread) (outcome : Service × Bool) : World :=
  { world with service := outcome.1, guard := none }.doing thread (.calling (.ended outcome.2))

theorem World.done_threads {outcome : Service × Bool} :
    (v.done thread outcome).threads thread = .calling (.ended outcome.2) := doing_same

theorem World.done_doing {outcome : Service × Bool} {activity : Activity} :
    (v.done thread outcome).doing thread activity =
      { v with service := outcome.1, guard := none }.doing thread activity := by
  rw [done, doing_doing]

theorem World.doing_done {outcome : Service × Bool} {activity : Activity} :
    (v.doing thread activity).done thread outcome = v.done thread outcome := by
  show ({ v with service := outcome.1, guard := none }.doing thread activity).doing thread _ = _
  rw [doing_doing, done]

/-- If nobody comes between, the call runs to its end. -/
def Stage.Finishes (stage : Stage) : Prop :=
  ∀ (v : World) (thread : Thread), v.threads thread = .calling stage →
    v.guard = (if stage.holds then some thread else none) →
    ∃ turns, Execution v (proceedings thread turns) (v.done thread (stage.outcome v.service)) ∧
      turns.filterMap Prod.fst = stage.undecided

namespace Stage

theorem finishes_ended {succeeded : Bool} : (ended succeeded).Finishes := by
  intro v thread calling free
  refine ⟨[], ?_, rfl⟩
  have free : v.guard = none := free
  have same : v.done thread ((ended succeeded).outcome v.service) = { v with guard := none } :=
    World.doing_self calling
  rw [same, ← free]
  exact .nil

/-- It is enough that the next turn leads to a call that does. -/
theorem Finishes.of_turn (goes : stage.isEnded = false) (next : ∀ service, (stage.turn service).stage.Finishes) :
    stage.Finishes := by
  intro v thread calling guard
  have free : stage.waits = true → v.guard = none := by
    intro waits
    rw [guard, holds_of_waits waits]
    rfl
  have step : Step v (.proceeds thread (stage.turn v.service).decided (stage.turn v.service).told)
      (v.proceed thread stage) := .proceeds calling goes free rfl rfl
  have kept : (v.proceed thread stage).guard =
      if (stage.turn v.service).stage.holds then some thread else none := by
    rw [guard_proceed, guard]
    cases stage.holds <;> simp
  obtain ⟨turns, execution, decides⟩ := next v.service (v.proceed thread stage) thread (if_pos rfl) kept
  refine ⟨((stage.turn v.service).decided, (stage.turn v.service).told) :: turns, ?_, ?_⟩
  · have left : (stage.turn v.service).stage.outcome (v.proceed thread stage).service = stage.outcome v.service :=
      outcome_turn
    have same (outcome : Service × Bool) : (v.proceed thread stage).done thread outcome = v.done thread outcome :=
      @World.doing_done thread v outcome (.calling (stage.turn v.service).stage)
    rw [left, same] at execution
    exact .cons step execution
  · rw [← undecided_turn (v := v.service), ← decides, filterMap_cons_toList]

theorem Finishes.of_deciding {α : Type} {call : Call α} {next : α → Stage} (after : ∀ a, (next a).Finishes) :
    (Turn.deciding request call next s).stage.Finishes := by
  unfold Turn.deciding
  cases call s with
  | ok a s' => exact after a
  | error e s' => exact finishes_ended

theorem finishes_telling {listener : Option Nat} {events : List Event} : (telling listener events).Finishes := by
  cases listener with
  | none => exact .of_turn rfl fun _ => finishes_ended
  | some listener =>
    induction events with
    | nil => exact .of_turn rfl fun _ => finishes_ended
    | cons event events ih => exact .of_turn rfl fun _ => ih

/-- Every call comes to its end that is left alone. -/
theorem finishes : stage.Finishes := by
  -- No stage is reached twice but that of telling, so each stage can be shown after those it leads to.
  have noted (d : EntityId) (monitor : Monitor) : (noted d monitor).Finishes :=
    .of_turn rfl fun _ => .of_deciding fun _ => finishes_telling
  have cleared (d : EntityId) (monitor : Monitor) (events : List Event) : (cleared d monitor events).Finishes :=
    .of_turn rfl fun _ => finishes_telling
  have clearing (d : EntityId) (monitor : Monitor) : (clearing d monitor).Finishes :=
    .of_turn rfl fun _ => .of_deciding fun _ => cleared d monitor _
  have seeking (d : EntityId) (events : List Event) : (seeking d events).Finishes :=
    .of_turn rfl fun _ => finishes_telling
  have opened (d : EntityId) (monitor : Monitor) : (opened d monitor).Finishes :=
    .of_turn rfl fun _ => finishes_ended
  have opening (number : UInt32) (listener : Option Nat) : (opening number listener).Finishes :=
    .of_turn rfl fun _ => .of_deciding fun _ => opened _ _
  cases stage with
  | called request =>
    refine .of_turn rfl fun service => ?_
    cases request with
    | start number listener => exact opening number listener
    | apply n => exact .of_deciding fun _ => seeking n.domain _
    | stop d =>
      rw [turn]
      cases service.monitors[d]? with
      | none => exact finishes_ended
      | some monitor => exact noted d monitor
    | clear d =>
      rw [turn]
      cases service.monitors[d]? with
      | none => exact finishes_ended
      | some monitor => exact clearing d monitor
  | opening number listener => exact opening number listener
  | opened d monitor => exact opened d monitor
  | noted d monitor => exact noted d monitor
  | clearing d monitor => exact clearing d monitor
  | cleared d monitor events => exact cleared d monitor events
  | seeking d events => exact seeking d events
  | telling => exact finishes_telling
  | ended => exact finishes_ended

end Stage

section Proceedings
variable {turns : List (Option Request × Option Delivery)}

theorem posted_proceedings : posted (proceedings thread turns) = [] := by
  simp [posted, proceedings, List.filterMap_map, Function.comp_def, Move.posted?]

theorem served_proceedings : served (proceedings thread turns) = [] := by
  simp [served, proceedings, List.filterMap_map, Function.comp_def, Move.served?]

theorem decided_proceedings : decided (proceedings thread turns) = (turns.filterMap Prod.fst).map (thread, ·) := by
  rw [decided, proceedings, List.filterMap_map, List.map_filterMap]
  congr 1
  ext ⟨decided, told⟩
  cases decided <;> simp [Move.decided?]

theorem tellings_proceedings : tellings (proceedings thread turns) = (turns.filterMap Prod.snd).map (thread, ·) := by
  rw [tellings, proceedings, List.filterMap_map, List.map_filterMap]
  congr 1
  ext ⟨decided, told⟩
  cases told <;> simp [Move.told?]

end Proceedings

/-- A thread that was idle and is so again has left nothing behind but the service. -/
theorem World.done_idle {outcome : Service × Bool} (free : v.guard = none) (idle : v.threads thread = .idle) :
    (v.done thread outcome).doing thread .idle = { v with service := outcome.1 } := by
  have same : (v.done thread outcome).doing thread .idle = { v with service := outcome.1, guard := none } :=
    done_doing.trans (doing_self idle)
  rw [same, ← free]

/-- Whoever carries out a request while nobody else does anything has it done in one piece. -/
theorem executes_request (free : v.guard = none) (idle : v.threads (.caller p) = .idle) :
    ∃ turns, Execution v (.requests p request :: (proceedings (.caller p) turns ++ [.returns p]))
      { v with service := request.act v.service } ∧ turns.filterMap Prod.fst = [request] := by
  obtain ⟨turns, execution, decides⟩ := @Stage.finishes (.called request)
    (v.doing (.caller p) (.calling (.called request))) (.caller p) World.doing_same free
  rw [World.doing_done] at execution
  refine ⟨turns, .cons (.requests idle) (execution.append ?_), decides⟩
  have returned : Step (v.done (.caller p) ((Stage.called request).outcome v.service)) (.returns p) _ :=
    .returns World.done_threads
  rw [World.done_idle free idle] at returned
  exact .cons returned .nil

/-! ### The worker on its own -/

/-- No request is carried out on the way but those of notifications that are served. -/
structure Indirect (moves : List Move) : Prop where
  requests : decided moves = ((served moves).filterMap Message.notification?).map fun n => (.worker, .apply n)
  tells : ∀ entry ∈ tellings moves, entry.1 = .worker

theorem Indirect.append (first : Indirect moves) (second : Indirect moves') : Indirect (moves ++ moves') := by
  constructor
  · rw [served_append, List.filterMap_append, List.map_append, ← first.requests, ← second.requests]
    exact List.filterMap_append
  · intro entry mem
    rw [tellings, List.filterMap_append, List.mem_append] at mem
    exact mem.elim (first.tells entry) (second.tells entry)

/-- The world after so many turns of the worker on its own. -/
def World.worked (k : Nat) (world : World) : World :=
  { world with
    service := Service.worked k world.service
    replies := world.replies ++ (world.service.queue.pending.take k).filterMap Message.ticket? }

theorem serve_frame : (service.serve message).queue = service.queue ∧
    (service.serve message).issued = service.issued := by
  cases message with
  | barrier ticket => exact ⟨rfl, rfl⟩
  | notify n =>
    rw [serve, apply_eq_record]
    cases run : record n service with
    | ok events s' =>
      rw [carries_record.self_ok run]
      exact ⟨rfl, rfl⟩
    | error e s' =>
      rw [carries_record.self_error run]
      exact ⟨rfl, rfl⟩

theorem serve_notify : service.serve (.notify n) =
    if (!(Request.apply n).fails service) = true then (Request.apply n).act service
    else ((Request.apply n).act service).reject := by
  rw [serve, Request.fails, Request.act, Call.fails, Call.after]
  cases apply n service <;> rfl

theorem work_nil (none : service.queue.pending = []) : service.work = service := by
  simp [work, Queue.pop?, none]

theorem work_cons (waits : service.queue.pending = message :: messages) :
    service.work = { service with queue := { service.queue with pending := messages } }.serve message := by
  simp [work, Queue.pop?, waits]

theorem work_queue : service.work.queue = { service.queue with pending := service.queue.pending.tail } := by
  cases waits : service.queue.pending with
  | nil => rw [work_nil waits, List.tail_nil, ← waits]
  | cons message messages => rw [work_cons waits, serve_frame.1, List.tail_cons]

theorem worked_queue : (worked k service).queue = { service.queue with pending := service.queue.pending.drop k } := by
  induction k generalizing service with
  | zero => rfl
  | succ k ih => rw [worked, ih, work_queue, List.drop_tail]

theorem take_succ : messages.take (k + 1) = messages.take 1 ++ messages.tail.take k := by
  cases messages <;> simp

theorem World.worked_succ : v.worked (k + 1) = (v.worked 1).worked k := by
  rw [World.worked, take_succ, List.filterMap_append]
  simp [World.worked, Service.worked, work_queue]

/-- The worker has nothing to do but what waits, and nobody keeps it from doing so. -/
structure World.Ready (world : World) : Prop where
  hand : world.hand = none
  guard : world.guard = none
  worker : world.threads .worker = .idle

/-- The worker is done with a notification before anything else happens. -/
theorem executes_apply (free : v.guard = none) (idle : v.threads .worker = .idle)
    (holds : v.hand = some (.notify n)) :
    ∃ turns, Execution (v.doing .worker (.calling (.called (.apply n))))
      (proceedings .worker turns ++ [.serves (.notify n)])
      { v with service := v.service.serve (.notify n), hand := none } ∧ turns.filterMap Prod.fst = [.apply n] := by
  obtain ⟨turns, execution, decides⟩ := @Stage.finishes (.called (.apply n))
    (v.doing .worker (.calling (.called (.apply n)))) .worker World.doing_same free
  rw [World.doing_done] at execution
  refine ⟨turns, execution.append ?_, decides⟩
  have finished : Step (v.done .worker ((Stage.called (.apply n)).outcome v.service)) (.serves (.notify n)) _ :=
    .finishes holds World.done_threads
  rw [World.finish, World.done_idle free idle] at finished
  rw [serve_notify]
  exact .cons finished .nil

theorem World.worked_one (waits : v.service.queue.pending = message :: messages) : v.worked 1 = { v with
    service := { v.service with queue := { v.service.queue with pending := messages } }.serve message
    replies := v.replies ++ message.ticket?.toList } := by
  rw [World.worked, Service.worked, Service.worked, work_cons waits, waits]
  cases message <;> rfl

/-- The worker takes a message, if there is one, and serves it before anything else happens. -/
theorem executes_work (ready : v.Ready) :
    ∃ moves, Execution v moves (v.worked 1) ∧ posted moves = [] ∧ Indirect moves := by
  cases waits : v.service.queue.pending with
  | nil =>
    have same : v.worked 1 = v := by simp [World.worked, worked, work_nil waits, waits]
    rw [same]
    exact ⟨[], .nil, rfl, rfl, by simp [tellings]⟩
  | cons message messages =>
    have step : Step v (.takes message) (v.take message { v.service.queue with pending := messages }) :=
      .takes ready.hand ready.worker (by rw [Queue.pop?, waits])
    rw [World.worked_one waits]
    cases message with
    | barrier ticket =>
      refine ⟨[.takes (.barrier ticket), .serves (.barrier ticket)], .cons step (.cons ?_ .nil), rfl, rfl, ?_⟩
      · have served : Step (v.take (.barrier ticket) { v.service.queue with pending := messages })
            (.serves (.barrier ticket)) _ := .answers rfl
        rwa [World.answer, ← ready.hand] at served
      · simp [tellings, Move.told?]
    | notify n =>
      obtain ⟨turns, execution, decides⟩ := executes_apply (n := n) (v := { v with
        service := { v.service with queue := { v.service.queue with pending := messages } }
        hand := some (.notify n) }) ready.guard ready.worker rfl
      have quiet : v.replies ++ (Message.notify n).ticket?.toList = v.replies := List.append_nil _
      rw [← ready.hand] at execution
      rw [quiet]
      refine ⟨_, .cons step execution, ?_, ?_, ?_⟩
      · show posted (proceedings .worker turns ++ [.serves (.notify n)]) = []
        rw [posted_append, posted_proceedings]
        rfl
      · show decided (proceedings .worker turns ++ [.serves (.notify n)]) =
          ((served (proceedings .worker turns ++ [.serves (.notify n)])).filterMap Message.notification?).map _
        rw [decided_append, decided_proceedings, decides, served_append, served_proceedings]
        rfl
      · show ∀ entry ∈ tellings (proceedings .worker turns ++ [.serves (.notify n)]), entry.1 = .worker
        intro entry mem
        rw [tellings_append, tellings_proceedings, List.mem_append, List.mem_map] at mem
        obtain ⟨delivery, -, rfl⟩ | none := mem
        · rfl
        · cases none

theorem executes_worked (ready : v.Ready) :
    ∃ moves, Execution v moves (v.worked k) ∧ posted moves = [] ∧ Indirect moves := by
  induction k generalizing v with
  | zero =>
    have same : v.worked 0 = v := by simp [World.worked, worked]
    rw [same]
    exact ⟨[], .nil, rfl, rfl, by simp [tellings]⟩
  | succ k ih =>
    obtain ⟨first, execution, quiet, indirect⟩ := executes_work ready
    obtain ⟨rest, execution', quiet', indirect'⟩ := ih (v := v.worked 1) ⟨ready.hand, ready.guard, ready.worker⟩
    rw [World.worked_succ]
    refine ⟨first ++ rest, execution.append execution', ?_, indirect.append indirect'⟩
    rw [posted_append, quiet, quiet']
    rfl

/-- The world once the worker has served whatever waits. -/
def World.settled (world : World) : World := world.worked world.service.queue.pending.length

theorem mem_replies_settled {ticket : Nat} (waits : .barrier ticket ∈ v.service.queue.pending) :
    ticket ∈ v.settled.replies := by
  rw [World.settled, World.worked, List.take_length]
  exact List.mem_append_right _ (List.mem_filterMap.mpr ⟨_, waits, rfl⟩)

/-! ### Calls one after another -/

/-- Nobody is in the middle of anything, and the queue can hold a message. -/
structure World.Resting (world : World) : Prop extends World.Ready world where
  idle : ∀ p, world.threads (.caller p) = .idle
  sized : world.service.queue.capacity.toNat ≠ 0
  bounded : world.service.queue.pending.length ≤ world.service.queue.capacity.toNat

/-- Without direct requests, turns get these messages into the queue and lead to this service, and nobody is
in the middle of anything that was not so before. -/
def Hands (v : World) (messages : List Message) (service : Service) : Prop :=
  ∃ moves replies, Execution v moves { v with service, replies } ∧ posted moves = messages ∧ Indirect moves

theorem Hands.trans (resting : v.Resting) (first : Hands v messages s)
    (second : ∀ replies, { v with service := s, replies }.Resting →
      Hands { v with service := s, replies } messages' t) : Hands v (messages ++ messages') t := by
  obtain ⟨moves, replies, execution, handed, indirect⟩ := first
  have rests : { v with service := s, replies }.Resting :=
    ⟨⟨resting.hand, resting.guard, resting.worker⟩, resting.idle, execution.capacity ▸ resting.sized,
      execution.bounded resting.bounded⟩
  obtain ⟨moves', replies', execution', handed', indirect'⟩ := second replies rests
  refine ⟨moves ++ moves', replies', execution.append execution', ?_, indirect.append indirect'⟩
  rw [posted_append, handed, handed']

theorem hands_work (ready : v.Ready) : Hands v [] v.service.work := by
  obtain ⟨moves, execution, quiet, indirect⟩ := executes_work ready
  exact ⟨moves, _, execution, quiet, indirect⟩

/-- The worker makes room where a call waits for it. -/
theorem World.Resting.makes_room (resting : v.Resting) : ∃ s, Hands v [] s ∧ s.queue.isFull = false ∧
    s.issued = v.service.issued ∧ ∀ message, v.service.hand message = { s with queue := s.queue.push message } := by
  cases full : v.service.queue.isFull with
  | false =>
    refine ⟨v.service, ⟨[], _, .nil, rfl, rfl, by simp [tellings]⟩, full, rfl, fun message => ?_⟩
    simp [Service.hand, full]
  | true =>
    refine ⟨v.service.work, hands_work resting.toReady, ?_, ?_, fun message => ?_⟩
    · have sized := resting.sized
      have bounded := resting.bounded
      rw [Queue.isFull_eq_false, work_queue]
      dsimp only
      rw [List.length_tail]
      omega
    · cases waits : v.service.queue.pending with
      | nil => rw [work_nil waits]
      | cons message messages => rw [work_cons waits, serve_frame.2]
    · simp [Service.hand, full]

/-- A submission that finds room at once. -/
theorem executes_submission (idle : v.threads (.caller p) = .idle) (room : v.service.queue.isFull = false) :
    Execution v [.submits p n, .enqueues p n, .submitted p n] (v.post (.notify n)) := by
  have submission : Execution v [.submits p n, .enqueues p n, .submitted p n] _ :=
    .cons (.submits idle) (.cons (.enqueues World.doing_same room) (.cons (.submitted World.doing_same) .nil))
  rw [World.doing_post, World.doing_doing, World.doing_doing, World.doing_self] at submission
  · exact submission
  · exact idle

/-- A flush that finds room at once, while nobody else calls. -/
theorem executes_flush (idle : v.threads (.caller p) = .idle) (ready : v.Ready)
    (room : v.service.queue.isFull = false) :
    ∃ moves, Execution v ([.flushes p, .marks p v.service.issued] ++ (moves ++ [.flushed p])) v.mark.settled ∧
      posted moves = [] ∧ Indirect moves := by
  have called : Execution v [.flushes p, .marks p v.service.issued]
      (v.mark.doing (.caller p) (.awaiting v.service.issued)) := by
    have called : Execution v [.flushes p, .marks p v.service.issued] _ :=
      .cons (.flushes idle) (.cons (.marks World.doing_same room rfl) .nil)
    rwa [World.doing_mark, World.doing_doing] at called
  have other : Thread.worker ≠ .caller p := by simp
  obtain ⟨moves, served, quiet, indirect⟩ := executes_worked
    (v := v.mark.doing (.caller p) (.awaiting v.service.issued)) (k := v.mark.service.queue.pending.length)
    ⟨ready.hand, ready.guard, (World.doing_other other).trans ready.worker⟩
  have answered : v.service.issued ∈ v.mark.settled.replies :=
    mem_replies_settled (List.mem_append_right _ List.mem_cons_self)
  have returned : Step (v.mark.settled.doing (.caller p) (.awaiting v.service.issued)) (.flushed p) _ :=
    .flushed World.doing_same answered
  have rests : v.mark.settled.threads (.caller p) = .idle := idle
  rw [World.doing_doing, World.doing_self rests] at returned
  exact ⟨moves, called.append (served.append (.cons returned .nil)), quiet, indirect⟩

theorem hands_submit (resting : v.Resting) : Hands v [.notify n] (v.service.submit n) := by
  obtain ⟨s, makes, room, -, hands⟩ := resting.makes_room
  refine Hands.trans resting makes fun replies rests => ?_
  refine ⟨[.submits 0 n, .enqueues 0 n, .submitted 0 n], replies, ?_, rfl, rfl, ?_⟩
  · rw [submit, hands]
    exact executes_submission (rests.idle 0) room
  · simp [tellings, Move.told?]

theorem hands_submits (resting : v.Resting) : Hands v (ns.map .notify) (ns.foldl submit v.service) := by
  induction ns generalizing v with
  | nil => exact ⟨[], _, .nil, rfl, rfl, by simp [tellings]⟩
  | cons n ns ih => exact Hands.trans resting (hands_submit resting) fun _ rests => ih rests

theorem hands_flush (resting : v.Resting) : Hands v [.barrier v.service.issued] v.service.flush := by
  obtain ⟨s, makes, room, issued, hands⟩ := resting.makes_room
  refine Hands.trans resting makes fun replies rests => ?_
  rw [flush, hands, ← issued]
  obtain ⟨moves, execution, quiet, indirect⟩ := executes_flush (rests.idle 0) rests.toReady room
  refine ⟨_, _, execution, ?_, ?_⟩
  · rw [posted_append, posted_append, quiet]
    rfl
  · have calls : Indirect [.flushes 0, .marks 0 s.issued] := ⟨rfl, by simp [tellings, Move.told?]⟩
    have returns : Indirect [.flushed 0] := ⟨rfl, by simp [tellings, Move.told?]⟩
    exact calls.append (indirect.append returns)

theorem hands_submitAll (resting : v.Resting) :
    ∃ ticket, Hands v (ns.map .notify ++ [Message.barrier ticket]) (v.service.submitAll ns) :=
  ⟨(ns.foldl submit v.service).issued, Hands.trans resting (hands_submits resting) fun _ rests => hands_flush rests⟩

/-- The messages of the offered notifications for which there was room. -/
def accepted (offered : List (Notification × Except ExecutionError Unit)) : List Message :=
  offered.filterMap fun offer => offer.2.toOption.map fun _ => .notify offer.1

theorem hands_offer (resting : v.Resting) :
    Hands v (accepted (ns.zip (v.service.offer ns).1)) (v.service.offer ns).2 := by
  induction ns generalizing v with
  | nil => exact ⟨[], _, .nil, rfl, rfl, by simp [tellings]⟩
  | cons n ns ih =>
    cases full : v.service.queue.isFull with
    | false =>
      let pushed : Service := { v.service with queue := v.service.queue.push (.notify n) }
      have once : Hands v [.notify n] pushed :=
        ⟨[.tries 0 n (.ok ())], v.replies, .cons (.accepts (resting.idle 0) full) .nil, rfl, rfl,
          by simp [tellings, Move.told?]⟩
      rw [offer, trySubmit, Queue.tryPush, full]
      show Hands v ([Message.notify n] ++ accepted (ns.zip (pushed.offer ns).1)) (pushed.offer ns).2
      exact Hands.trans resting once fun _ rests => ih rests
    | true =>
      have refused : Hands v [] v.service :=
        ⟨[.tries 0 n (.error _)], v.replies, .cons (.refuses (resting.idle 0) full rfl) .nil, rfl, rfl,
          by simp [tellings, Move.told?]⟩
      rw [offer, trySubmit, Queue.tryPush, full]
      show Hands v ([] ++ accepted (ns.zip (v.service.offer ns).1)) (v.service.offer ns).2
      exact Hands.trans resting refused fun _ rests => ih rests

theorem flush_pending : service.flush.queue.pending = [] := by
  rw [flush, worked_queue]
  exact List.drop_length

/-- What waited and what got into the queue has been served, is in the hand of the worker, or waits. -/
theorem Execution.order (execution : Execution v moves w) :
    v.hand.toList ++ v.service.queue.pending ++ posted moves =
      served moves ++ w.hand.toList ++ w.service.queue.pending := by
  rw [List.append_assoc, execution.queue, ← List.append_assoc, execution.hand]

theorem Indirect.alone (indirect : Indirect moves) : ∀ entry ∈ decided moves, entry.1 = .worker := by
  rw [indirect.requests]
  intro entry mem
  obtain ⟨n, -, rfl⟩ := List.mem_map.mp mem
  rfl

theorem Indirect.timely (indirect : Indirect moves) : Timely v moves := by
  refine timely_of_no_clear fun thread d clears => ?_
  rw [indirect.requests] at clears
  obtain ⟨n, -, same⟩ := List.mem_map.mp clears
  cases same

/-- While only the worker calls, listeners are told what they are told in the sequential run. -/
theorem Indirect.delivered (indirect : Indirect moves) (sound : v.service.Sound) (free : v.guard = none)
    (before : ∀ thread, (v.stage thread).isPlain = true) (after : (w.stage .worker).isPlain = true)
    (execution : Execution v moves w) : w.service.delivered = (v.service.sequential moves).delivered := by
  have start : Tracks v.service v := .refl free before
  have whole : ofThread .worker (tellings moves) ++ (w.stage .worker).owes (v.service.sequential moves) =
      (v.stage .worker).owes v.service ++ ofThread .worker (v.service.dues (decided moves)) :=
    execution.owes_eq start sound indirect.timely
  rw [Stage.owes_of_plain after, Stage.owes_of_plain (before .worker), List.append_nil, List.nil_append,
    ofThread_of_alone indirect.tells, ofThread_of_alone (dues_alone indirect.alone)] at whole
  rw [execution.delivered, whole, sequential, dues_map_snd sound]

/-- Once notifications have been submitted and a flush has returned, they have been applied one after another,
behind those that waited already, and nothing waits any more. -/
theorem submitAll_applies (sound : service.Sound) (sized : service.queue.capacity.toNat ≠ 0)
    (bounded : service.queue.pending.length ≤ service.queue.capacity.toNat) :
    let applied := service.run ((service.queue.pending.filterMap Message.notification? ++ ns).map .apply)
    (service.submitAll ns).graph = applied.graph ∧ (service.submitAll ns).counter = applied.counter ∧
      (service.submitAll ns).monitors = applied.monitors ∧ (service.submitAll ns).delivered = applied.delivered ∧
      (service.submitAll ns).queue.pending = [] := by
  obtain ⟨ticket, moves, replies, execution, handed, indirect⟩ :
      ∃ ticket, Hands { service } (ns.map .notify ++ [Message.barrier ticket]) (service.submitAll ns) :=
    hands_submitAll ⟨⟨rfl, rfl, rfl⟩, fun _ => rfl, sized, bounded⟩
  have empty : (service.submitAll ns).queue.pending = [] := flush_pending
  have order : service.queue.pending ++ posted moves = served moves ++ [] ++ (service.submitAll ns).queue.pending :=
    execution.order
  rw [empty, List.append_nil, List.append_nil, handed] at order
  have handled : (served moves).filterMap Message.notification? =
      service.queue.pending.filterMap Message.notification? ++ ns := by
    rw [← order]
    simp [Message.notification?, List.filterMap_map, Function.comp_def]
  have applied : service.sequential moves =
      service.run ((service.queue.pending.filterMap Message.notification? ++ ns).map .apply) := by
    rw [sequential, indirect.requests, handled, List.map_map]
    rfl
  have start : Tracks service { service } := Tracks.refl (v := { service }) rfl fun _ => rfl
  have tracks := start.execution sound execution
  have delivered := indirect.delivered sound rfl (fun _ => rfl) rfl execution
  rw [applied] at tracks delivered
  exact ⟨tracks.agrees.graph, tracks.agrees.counter, tracks.registry, delivered, empty⟩

end Service
end DiscoveryGraph
