import DiscoveryGraph.Proofs.Monitor.Stage

/-! Producers, the worker and direct callers side by side. Each of them takes its turns when it likes: a
producer calls, waits for room or for an answer, and returns; the worker takes a message and serves it; and
whoever has a notification applied or a monitor started, stopped or cleared carries that out itself, turn by
turn. -/
namespace DiscoveryGraph

namespace Message

def notification? : Message → Option Notification
  | notify notification => some notification
  | barrier _ => none

def ticket? : Message → Option Nat
  | notify _ => none
  | barrier ticket => some ticket

end Message

namespace Service
open DiscoveryGraph.Graph

/-- Whoever uses the service: its worker, and producers and direct callers by number. -/
inductive Thread where
  | worker
  | caller (number : Nat)
  deriving DecidableEq

/-- What a thread is about. A submission that has found room and a flush that holds a ticket have yet to
return, and so has a call that has ended. -/
inductive Activity where
  | idle
  | submitting (notification : Notification)
  | submitted (notification : Notification)
  | flushing
  | awaiting (ticket : Nat)
  | calling (stage : Stage)
  deriving DecidableEq

/-- How far the call of a thread has come. Who has made none has nothing to do. -/
def Activity.stage : Activity → Stage
  | calling stage => stage
  | _ => .ended true

/-- A service among those who use it: the thread that has the monitors to itself, the message that the worker
has taken and not served yet, the tickets of the barriers that it has answered, and what each thread is
about. -/
structure World where
  service : Service
  guard : Option Thread := none
  hand : Option Message := none
  replies : List Nat := []
  threads : Thread → Activity := fun _ => .idle

/-- A turn of a caller or of the worker. What a turn of a call decides and tells a listener is part of the
move. -/
inductive Move where
  | submits (caller : Nat) (notification : Notification)
  | enqueues (caller : Nat) (notification : Notification)
  | submitted (caller : Nat) (notification : Notification)
  | tries (caller : Nat) (notification : Notification) (outcome : Except ExecutionError Unit)
  | flushes (caller : Nat)
  | marks (caller : Nat) (ticket : Nat)
  | flushed (caller : Nat)
  | requests (caller : Nat) (request : Request)
  | returns (caller : Nat)
  | takes (message : Message)
  | serves (message : Message)
  | proceeds (thread : Thread) (decided : Option Request) (told : Option Delivery)

namespace World

/-- One thread turns to something else. -/
def doing (world : World) (thread : Thread) (activity : Activity) : World :=
  { world with threads := fun other => if other = thread then activity else world.threads other }

/-- A message gets into the queue. -/
def post (world : World) (message : Message) : World :=
  { world with service := { world.service with queue := world.service.queue.push message } }

/-- The barrier of a flush gets into the queue, with a ticket of its own. -/
def mark (world : World) : World :=
  { world with service := { world.service with
      queue := world.service.queue.push (.barrier world.service.issued)
      issued := world.service.issued + 1 } }

/-- The worker takes a message, and turns to it if it is a notification. -/
def take (world : World) (message : Message) (queue : Queue) : World :=
  let world := { world with service := { world.service with queue }, hand := some message }
  match message with
  | .notify n => world.doing .worker (.calling (.called (.apply n)))
  | .barrier _ => world

/-- The worker answers the barrier in its hand. -/
def answer (world : World) (ticket : Nat) : World :=
  { world with service := world.service.answer, hand := none, replies := world.replies ++ [ticket] }

/-- The worker is done with the notification in its hand. -/
def finish (world : World) (succeeded : Bool) : World :=
  { world.doing .worker .idle with
    service := if succeeded then world.service else world.service.reject
    hand := none }

/-- A call takes its next turn, with which it may take the monitors or give them back. -/
def proceed (world : World) (thread : Thread) (stage : Stage) : World :=
  let turn := stage.turn world.service
  { world.doing thread (.calling turn.stage) with
    service := turn.service
    guard := if turn.stage.holds then some thread else if stage.holds then none else world.guard }

def stage (world : World) (thread : Thread) : Stage := (world.threads thread).stage

variable {world : World} {thread other : Thread} {activity activity' : Activity} {message : Message} {queue : Queue}

@[simp] theorem doing_threads : (world.doing thread activity).threads other =
    if other = thread then activity else world.threads other := rfl

theorem doing_same : (world.doing thread activity).threads thread = activity := if_pos rfl

theorem doing_other (apart : other ≠ thread) : (world.doing thread activity).threads other = world.threads other :=
  if_neg apart

@[simp] theorem post_threads : (world.post message).threads = world.threads := rfl

@[simp] theorem take_service : (world.take message queue).service = { world.service with queue } := by
  cases message <;> rfl

@[simp] theorem take_hand : (world.take message queue).hand = some message := by
  cases message <;> rfl

@[simp] theorem take_replies : (world.take message queue).replies = world.replies := by
  cases message <;> rfl

theorem take_threads {p : Nat} : (world.take message queue).threads (.caller p) = world.threads (.caller p) := by
  cases message <;> rfl

theorem finish_threads {p : Nat} {succeeded : Bool} :
    (world.finish succeeded).threads (.caller p) = world.threads (.caller p) := rfl

theorem finish_service {succeeded : Bool} : (world.finish succeeded).service.queue = world.service.queue ∧
    (world.finish succeeded).service.issued = world.service.issued := by
  cases succeeded <;> exact ⟨rfl, rfl⟩

theorem stage_of_threads (about : world.threads thread = activity) : world.stage thread = activity.stage := by
  rw [stage, about]

theorem doing_doing : (world.doing thread activity).doing thread activity' = world.doing thread activity' := by
  simp only [doing]
  congr 1
  ext other
  split <;> rfl

theorem doing_post : (world.doing thread activity).post message = (world.post message).doing thread activity := rfl

theorem doing_mark : (world.doing thread activity).mark = world.mark.doing thread activity := rfl

theorem doing_self (same : world.threads thread = activity) : world.doing thread activity = world := by
  have threads : (fun other => if other = thread then activity else world.threads other) = world.threads := by
    ext other
    split
    · next here => rw [here, same]
    · rfl
  rw [doing, threads]

end World

/-- What a turn comes to. A submission and a flush wait while the queue is full, and a call that needs the
monitors waits while another one has them. A flush returns once its ticket is among the answered ones. -/
inductive Step (world : World) : Move → World → Prop
  | submits {p : Nat} {n : Notification} : world.threads (.caller p) = .idle →
      Step world (.submits p n) (world.doing (.caller p) (.submitting n))
  | enqueues {p : Nat} {n : Notification} : world.threads (.caller p) = .submitting n →
      world.service.queue.isFull = false →
      Step world (.enqueues p n) ((world.post (.notify n)).doing (.caller p) (.submitted n))
  | submitted {p : Nat} {n : Notification} : world.threads (.caller p) = .submitted n →
      Step world (.submitted p n) (world.doing (.caller p) .idle)
  | tries {p : Nat} {n : Notification} {outcome : Except ExecutionError Unit} {service : Service} :
      world.threads (.caller p) = .idle → world.service.offer [n] = ([outcome], service) →
      Step world (.tries p n outcome) { world with service }
  | flushes {p : Nat} : world.threads (.caller p) = .idle →
      Step world (.flushes p) (world.doing (.caller p) .flushing)
  | marks {p ticket : Nat} : world.threads (.caller p) = .flushing → world.service.queue.isFull = false →
      world.service.issued = ticket → Step world (.marks p ticket) (world.mark.doing (.caller p) (.awaiting ticket))
  | flushed {p ticket : Nat} : world.threads (.caller p) = .awaiting ticket → ticket ∈ world.replies →
      Step world (.flushed p) (world.doing (.caller p) .idle)
  | requests {p : Nat} {request : Request} : world.threads (.caller p) = .idle →
      Step world (.requests p request) (world.doing (.caller p) (.calling (.called request)))
  | returns {p : Nat} {succeeded : Bool} : world.threads (.caller p) = .calling (.ended succeeded) →
      Step world (.returns p) (world.doing (.caller p) .idle)
  | takes {message : Message} {queue : Queue} : world.hand = none → world.threads .worker = .idle →
      world.service.queue.pop? = some (message, queue) → Step world (.takes message) (world.take message queue)
  | answers {ticket : Nat} : world.hand = some (.barrier ticket) →
      Step world (.serves (.barrier ticket)) (world.answer ticket)
  | finishes {n : Notification} {succeeded : Bool} : world.hand = some (.notify n) →
      world.threads .worker = .calling (.ended succeeded) → Step world (.serves (.notify n)) (world.finish succeeded)
  | proceeds {thread : Thread} {stage : Stage} {decided : Option Request} {told : Option Delivery} :
      world.threads thread = .calling stage → stage.isEnded = false → (stage.waits = true → world.guard = none) →
      (stage.turn world.service).decided = decided → (stage.turn world.service).told = told →
      Step world (.proceeds thread decided told) (world.proceed thread stage)

theorem offer_single {service : Service} {n : Notification} : service.offer [n] =
    if service.queue.isFull then ([.error (.queueFull Queue.label service.queue.capacity)], service)
    else ([.ok ()], { service with queue := service.queue.push (.notify n) }) := by
  simp only [offer, trySubmit, Queue.tryPush]
  cases service.queue.isFull <;> rfl

section Tries
variable {v w : World} {p : Nat} {n : Notification}

/-- An attempt to submit finds room or leaves everything as it is. -/
theorem Step.of_tries {outcome : Except ExecutionError Unit} (step : Step v (.tries p n outcome) w) :
    (outcome = .ok () ∧ v.service.queue.isFull = false ∧ w = v.post (.notify n)) ∨
      (outcome = .error (.queueFull Queue.label v.service.queue.capacity) ∧ v.service.queue.isFull = true ∧ w = v) := by
  cases step with
  | tries idle offers =>
    rw [offer_single] at offers
    cases full : v.service.queue.isFull with
    | true =>
      rw [full] at offers
      cases offers
      exact .inr ⟨rfl, rfl, rfl⟩
    | false =>
      rw [full] at offers
      cases offers
      exact .inl ⟨rfl, rfl, rfl⟩

theorem Step.accepts (idle : v.threads (.caller p) = .idle) (room : v.service.queue.isFull = false) :
    Step v (.tries p n (.ok ())) (v.post (.notify n)) :=
  .tries idle (by rw [offer_single, room]; rfl)

theorem Step.refuses {e : ExecutionError} (idle : v.threads (.caller p) = .idle)
    (full : v.service.queue.isFull = true) (cause : e = .queueFull Queue.label v.service.queue.capacity) :
    Step v (.tries p n (.error e)) v :=
  .tries idle (by rw [offer_single, full, cause]; rfl)

end Tries

/-- Turns in sequence. -/
inductive Execution : World → List Move → World → Prop
  | nil {world : World} : Execution world [] world
  | cons {world world' world'' : World} {move : Move} {moves : List Move} : Step world move world' →
      Execution world' moves world'' → Execution world (move :: moves) world''

namespace Execution
variable {u v w : World} {moves moves' : List Move}

theorem split (execution : Execution u (moves ++ moves') w) :
    ∃ v, Execution u moves v ∧ Execution v moves' w := by
  induction moves generalizing u with
  | nil => exact ⟨u, .nil, execution⟩
  | cons move moves ih =>
    cases execution with
    | cons step execution =>
      obtain ⟨v, first, second⟩ := ih execution
      exact ⟨v, .cons step first, second⟩

theorem append (first : Execution u moves v) (second : Execution v moves' w) :
    Execution u (moves ++ moves') w := by
  induction first with
  | nil => exact second
  | cons step _ ih => exact .cons step (ih second)

/-- What every turn keeps true of the turns so far and the world they lead to, an execution keeps. -/
theorem invariant (inv : List Move → World → Prop) (execution : Execution u moves w)
    (keeps : ∀ {past : List Move} {v v' : World} {move : Move}, inv past v → Step v move v' →
      inv (past ++ [move]) v') (start : inv [] u) : inv moves w := by
  have kept : ∀ past, inv past u → inv (past ++ moves) w := by
    clear start
    induction execution with
    | nil =>
      intro past held
      rwa [List.append_nil]
    | @cons _ _ _ move moves step _ ih =>
      intro past held
      rw [List.append_cons]
      exact ih (past ++ [move]) (keeps held step)
  exact kept [] start

end Execution

/-! ### What turns amount to -/

namespace Move

/-- The message that gets into the queue. -/
def posted? : Move → Option Message
  | enqueues _ n | tries _ n (.ok _) => some (.notify n)
  | marks _ ticket => some (.barrier ticket)
  | _ => none

/-- The message that the worker takes from the queue. -/
def taken? : Move → Option Message
  | takes message => some message
  | _ => none

/-- The message that the worker has served. -/
def served? : Move → Option Message
  | serves message => some message
  | _ => none

/-- The request that a thread sets out to carry out: a direct one, or that of a notification which the worker
takes. -/
def called? : Move → Option (Thread × Request)
  | requests p request => some (.caller p, request)
  | takes (.notify n) => some (.worker, .apply n)
  | _ => none

/-- The request that is decided, and the thread that carries it out. -/
def decided? : Move → Option (Thread × Request)
  | proceeds thread (some request) _ => some (thread, request)
  | _ => none

/-- What a listener is told, and the thread that tells it. -/
def told? : Move → Option (Thread × Delivery)
  | proceeds thread _ (some delivery) => some (thread, delivery)
  | _ => none

/-- The notification that gets into the queue, and its producer. -/
def contributed? : Move → Option (Nat × Notification)
  | enqueues p n | tries p n (.ok _) => some (p, n)
  | _ => none

/-- The notification whose submission returns, and its producer. -/
def returned? : Move → Option (Nat × Notification)
  | submitted p n | tries p n (.ok _) => some (p, n)
  | _ => none

end Move

/-! ### Turns replayed -/

end Service
end DiscoveryGraph
