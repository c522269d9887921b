import Mathlib.Data.List.Perm.Subperm
import DiscoveryGraph.Proofs.Monitor.Interleaving

/-! What goes through the queue. Messages are served in the order in which they got into it, calls leave it
alone, and whatever got into it before a flush was called has been served when it returns. -/
namespace DiscoveryGraph

namespace Queue
variable {queue rest : Queue} {message : Message}

theorem isFull_eq_false : queue.isFull = false ↔ queue.pending.length < queue.capacity.toNat := by
  simp [isFull]

theorem pop?_eq_some (found : queue.pop? = some (message, rest)) :
    queue = ⟨rest.capacity, message :: rest.pending⟩ := by
  obtain ⟨capacity, _ | ⟨first, pending⟩⟩ := queue
  · cases found
  · cases found
    rfl

end Queue

namespace Service
open DiscoveryGraph.Graph
variable {config : Config} {service : Service} {n : Notification} {request : Request} {message : Message} {move : Move}
  {past moves : List Move} {u v w : World}

/-! ### First in, first out -/

/-- The messages that got into the queue, the ones that the worker took from it, and the ones that it
has served. -/
def posted (moves : List Move) : List Message := moves.filterMap Move.posted?

def taken (moves : List Move) : List Message := moves.filterMap Move.taken?

def served (moves : List Move) : List Message := moves.filterMap Move.served?

theorem posted_append : posted (moves ++ moves') = posted moves ++ posted moves' := List.filterMap_append

theorem served_append : served (moves ++ moves') = served moves ++ served moves' := List.filterMap_append

theorem filterMap_concat {α β : Type} {f : α → Option β} {xs : List α} {x : α} :
    (xs ++ [x]).filterMap f = xs.filterMap f ++ (f x).toList := by
  cases found : f x <;> simp [found]

/-- The queue after a turn. -/
theorem Step.queue (step : Step v move w) : w.service.queue.capacity = v.service.queue.capacity ∧
    v.service.queue.pending ++ move.posted?.toList = move.taken?.toList ++ w.service.queue.pending ∧
    (v.service.queue.isFull = true → move.posted? = none) := by
  have idle {move : Move} (posted : move.posted? = none) (taken : move.taken? = none)
      (same : w.service.queue = v.service.queue) : w.service.queue.capacity = v.service.queue.capacity ∧
      v.service.queue.pending ++ move.posted?.toList = move.taken?.toList ++ w.service.queue.pending ∧
      (v.service.queue.isFull = true → move.posted? = none) := by
    rw [posted, taken, same]
    exact ⟨rfl, List.append_nil _, fun _ => rfl⟩
  cases step with
  | submits | submitted | flushes | flushed | requests | returns | answers => exact idle rfl rfl rfl
  | enqueues waiting room => exact ⟨rfl, rfl, fun full => absurd full (by simp [room])⟩
  | marks waiting room next =>
    subst next
    exact ⟨rfl, rfl, fun full => absurd full (by simp [room])⟩
  | @tries p n outcome service free offers =>
    obtain ⟨rfl, room, posted⟩ | ⟨rfl, -, same⟩ := (Step.tries free offers).of_tries
    · rw [posted]
      exact ⟨rfl, rfl, fun full => absurd full (by simp [room])⟩
    · rw [same]
      exact ⟨rfl, List.append_nil _, fun _ => rfl⟩
  | takes free _ found =>
    rw [World.take_service, Queue.pop?_eq_some found]
    exact ⟨rfl, by simp [Move.posted?, Move.taken?], fun _ => rfl⟩
  | finishes => exact idle rfl rfl (World.finish_service).1
  | proceeds => exact idle rfl rfl aside_turn.queue

/-- The hand of the worker after a turn. -/
theorem Step.hand (step : Step v move w) :
    v.hand.toList ++ move.taken?.toList = move.served?.toList ++ w.hand.toList := by
  cases step with
  | submits | submitted | flushes | flushed | enqueues | marks | tries | requests | returns | proceeds =>
    exact List.append_nil _
  | takes free =>
    rw [free, World.take_hand]
    rfl
  | answers held | finishes held =>
    rw [held]
    rfl

/-- The queue never holds more than it has room for. -/
theorem Step.bounded (step : Step v move w)
    (bounded : v.service.queue.pending.length ≤ v.service.queue.capacity.toNat) :
    w.service.queue.pending.length ≤ w.service.queue.capacity.toNat := by
  obtain ⟨capacity, order, full⟩ := step.queue
  have lengths := congrArg List.length order
  simp only [List.length_append] at lengths
  rw [capacity]
  cases room : v.service.queue.isFull with
  | true =>
    rw [full room] at lengths
    simp only [Option.toList_none, List.length_nil] at lengths
    omega
  | false =>
    have least := Queue.isFull_eq_false.mp room
    have one : move.posted?.toList.length ≤ 1 := by cases move.posted? <;> simp
    omega

theorem Execution.bounded (execution : Execution v moves w)
    (bounded : v.service.queue.pending.length ≤ v.service.queue.capacity.toNat) :
    w.service.queue.pending.length ≤ w.service.queue.capacity.toNat := by
  induction execution with
  | nil => exact bounded
  | cons step _ ih => exact ih (step.bounded bounded)

theorem Execution.capacity (execution : Execution v moves w) :
    w.service.queue.capacity = v.service.queue.capacity := by
  induction execution with
  | nil => rfl
  | cons step _ ih => rw [ih, step.queue.1]

theorem filterMap_cons_toList {α β : Type} {f : α → Option β} {xs : List α} {x : α} :
    (x :: xs).filterMap f = (f x).toList ++ xs.filterMap f := by
  cases found : f x <;> simp [found]

/-- What waited and what gets into the queue is taken from it in this order, or still waits. -/
theorem Execution.queue (execution : Execution v moves w) :
    v.service.queue.pending ++ posted moves = taken moves ++ w.service.queue.pending := by
  induction execution with
  | nil => exact List.append_nil _
  | cons step _ ih =>
    rw [posted, taken, filterMap_cons_toList, filterMap_cons_toList, ← List.append_assoc,
      step.queue.2.1, List.append_assoc, List.append_assoc]
    exact congrArg (_ ++ ·) ih

/-- What was in the hand of the worker and what it takes is served in this order, or still in its hand. -/
theorem Execution.hand (execution : Execution v moves w) :
    v.hand.toList ++ taken moves = served moves ++ w.hand.toList := by
  induction execution with
  | nil => exact List.append_nil _
  | cons step _ ih =>
    rw [taken, served, filterMap_cons_toList, filterMap_cons_toList, ← List.append_assoc,
      step.hand, List.append_assoc, List.append_assoc]
    exact congrArg (_ ++ ·) ih

/-! ### Flushes -/

/-- Tickets are handed out once: the barrier of a turn has the next ticket. -/
theorem Step.issued (step : Step v move w) : v.service.issued ≤ w.service.issued ∧
    ∀ ticket, move.posted? = some (.barrier ticket) → ticket < w.service.issued := by
  cases step with
  | submits | submitted | flushes | flushed | enqueues | requests | returns | answers =>
    exact ⟨Nat.le_refl _, fun ticket found => by cases found⟩
  | @tries p n outcome service free offers =>
    obtain ⟨rfl, -, posted⟩ | ⟨rfl, -, same⟩ := (Step.tries free offers).of_tries
    · rw [posted]
      exact ⟨Nat.le_refl _, fun ticket found => by cases found⟩
    · rw [same]
      exact ⟨Nat.le_refl _, fun ticket found => by cases found⟩
  | marks waiting room next =>
    subst next
    refine ⟨Nat.le_succ _, fun ticket found => ?_⟩
    cases found
    exact Nat.lt_succ_self _
  | takes =>
    rw [World.take_service]
    exact ⟨Nat.le_refl _, fun ticket found => by cases found⟩
  | finishes => exact ⟨Nat.le_of_eq (World.finish_service).2.symm, fun ticket found => by cases found⟩
  | proceeds => exact ⟨Nat.le_of_eq aside_turn.issued.symm, fun ticket found => by cases found⟩

theorem Step.replies (step : Step v move w) : w.replies =
    v.replies ++ (move.served?.bind Message.ticket?).toList := by
  cases step with
  | submits | submitted | flushes | flushed | enqueues | marks | tries | requests | returns | finishes | proceeds =>
    exact (List.append_nil _).symm
  | takes =>
    rw [World.take_replies]
    exact (List.append_nil _).symm
  | answers held => rfl

/-- The barriers that got into the queue have tickets that are out, and a ticket is answered when its
barrier is served. -/
structure Answers (past : List Move) (w : World) : Prop where
  issued : ∀ ticket, .barrier ticket ∈ posted past → ticket < w.service.issued
  replied : ∀ ticket ∈ w.replies, .barrier ticket ∈ served past

theorem Answers.step (answers : Answers past v) (step : Step v move w) : Answers (past ++ [move]) w := by
  constructor
  · intro ticket mem
    obtain ⟨le, next⟩ := step.issued
    rw [posted, filterMap_concat, List.mem_append, Option.mem_toList] at mem
    cases mem with
    | inl before => exact Nat.lt_of_lt_of_le (answers.issued ticket before) le
    | inr now => exact next ticket now
  · intro ticket mem
    rw [step.replies, List.mem_append, Option.mem_toList] at mem
    rw [served, filterMap_concat, List.mem_append, Option.mem_toList]
    cases mem with
    | inl before => exact .inl (answers.replied ticket before)
    | inr now =>
      obtain ⟨message, served, holds⟩ := Option.bind_eq_some_iff.mp now
      cases message with
      | notify n => cases holds
      | barrier other =>
        cases holds
        exact .inr served

theorem Execution.answers (execution : Execution { service := { config } } moves w) : Answers moves w :=
  execution.invariant Answers Answers.step ⟨by simp [posted], by simp⟩

/-- A flush that was called when `issued` tickets were out holds none of those. -/
def Waits (issued : Nat) (p : Nat) (w : World) : Prop :=
  w.threads (.caller p) = .flushing ∨ ∃ ticket, issued ≤ ticket ∧ w.threads (.caller p) = .awaiting ticket

theorem Waits.congr {issued p : Nat} (waits : Waits issued p v)
    (same : w.threads (.caller p) = v.threads (.caller p)) : Waits issued p w := by
  rwa [Waits, same]

/-- A thread that is about something else is another one. -/
theorem Waits.doing {issued p : Nat} {thread : Thread} {activity activity' : Activity} (waits : Waits issued p v)
    (about : v.threads thread = activity) (flushing : activity ≠ .flushing)
    (awaiting : ∀ ticket, activity ≠ .awaiting ticket) : Waits issued p (v.doing thread activity') := by
  refine waits.congr (if_neg fun same => ?_)
  subst same
  obtain here | ⟨ticket, -, here⟩ := waits
  · exact flushing (about.symm.trans here)
  · exact awaiting ticket (about.symm.trans here)

theorem Waits.step {issued p : Nat} (waits : Waits issued p v) (le : issued ≤ v.service.issued)
    (step : Step v move w) (stays : move ≠ .flushed p) : Waits issued p w := by
  cases step with
  | submits idle | flushes idle | requests idle | submitted idle | returns idle =>
    exact waits.doing idle (by simp) (by simp)
  | @enqueues q n waiting room => exact Waits.doing (v := v.post (.notify n)) waits waiting (by simp) (by simp)
  | @marks q ticket waiting room next =>
    by_cases same : p = q
    · exact .inr ⟨ticket, next ▸ le, if_pos (by rw [same])⟩
    · exact Waits.congr (v := v.mark) waits (if_neg (by simpa using same))
  | @flushed q ticket waiting answered =>
    refine waits.congr (if_neg fun same => stays ?_)
    cases same
    rfl
  | takes => exact waits.congr World.take_threads
  | finishes => exact waits.congr World.finish_threads
  | proceeds calling => exact Waits.doing waits calling (by simp) (by simp)
  | tries | answers => exact waits

/-- A flush that has not returned holds a ticket of its own. -/
theorem Execution.waits {p issued : Nat} (execution : Execution v moves w)
    (flushing : v.threads (.caller p) = .flushing) (le : issued ≤ v.service.issued) (returns : .flushed p ∉ moves) :
    Waits issued p w := by
  refine (execution.invariant (fun past world => issued ≤ world.service.issued ∧
    (.flushed p ∉ past → Waits issued p world)) ?_ ⟨le, fun _ => .inl flushing⟩).2 returns
  intro past v v' move held step
  refine ⟨Nat.le_trans held.1 step.issued.1, fun stays => ?_⟩
  simp only [List.mem_append, List.mem_singleton, not_or] at stays
  exact (held.2 stays.1).step held.1 step (Ne.symm stays.2)

/-- One if a producer has handed over a notification and not returned, zero otherwise. -/
def World.overdue (world : World) (p : Nat) (n : Notification) : Nat :=
  if world.threads (.caller p) = .submitted n then 1 else 0

theorem World.overdue_congr {p : Nat} (same : w.threads (.caller p) = v.threads (.caller p)) :
    w.overdue p n = v.overdue p n := by
  rw [overdue, same, overdue]

/-- A thread that is not about a submission before and after has handed over nothing. -/
theorem World.overdue_doing {p : Nat} {thread : Thread} {activity activity' : Activity}
    (about : v.threads thread = activity) (before : activity ≠ .submitted n) (after : activity' ≠ .submitted n) :
    (v.doing thread activity').overdue p n = v.overdue p n := by
  by_cases same : .caller p = thread
  · subst same
    rw [overdue, overdue, World.doing_threads, if_pos rfl, about, if_neg before, if_neg after]
  · exact overdue_congr (if_neg same)

/-- What a producer has handed over has been returned from, but for the last submission perhaps. -/
theorem Step.tally {p : Nat} (step : Step v move w) :
    move.contributed?.toList.count (p, n) + v.overdue p n = move.returned?.toList.count (p, n) + w.overdue p n := by
  have idle (same : w.overdue p n = v.overdue p n) : ([] : List (Nat × Notification)).count (p, n) + v.overdue p n =
      ([] : List (Nat × Notification)).count (p, n) + w.overdue p n := by rw [same]
  cases step with
  | submits free | flushes free | requests free | returns free | marks free | flushed free =>
    exact idle (World.overdue_doing free (by simp) (by simp))
  | proceeds free => exact idle (World.overdue_doing free (by simp) (by simp))
  | finishes => exact idle (World.overdue_congr World.finish_threads)
  | @enqueues q m waiting room =>
    by_cases same : p = q
    · subst same
      simp [Move.contributed?, Move.returned?, World.overdue, waiting, List.count_singleton]
    · simp [Move.contributed?, Move.returned?, World.overdue, same, Ne.symm same]
  | @submitted q m done =>
    by_cases same : p = q
    · subst same
      simp [Move.contributed?, Move.returned?, World.overdue, done, List.count_singleton]
    · simp [Move.contributed?, Move.returned?, World.overdue, same, Ne.symm same]
  | @tries q m outcome =>
    cases outcome <;> simp [Move.contributed?, Move.returned?, World.overdue]
  | takes => exact idle (World.overdue_congr World.take_threads)
  | answers => rfl

/-- The notifications that got into the queue and those whose submissions returned, with their producers. -/
def contributed (moves : List Move) : List (Nat × Notification) := moves.filterMap Move.contributed?

def returned (moves : List Move) : List (Nat × Notification) := moves.filterMap Move.returned?

/-- Of every producer and notification, as much was handed over as has been returned from and is owed. -/
def Tallies (past : List Move) (w : World) : Prop :=
  ∀ p n, (contributed past).count (p, n) = (returned past).count (p, n) + w.overdue p n

theorem Tallies.step (tallies : Tallies past v) (step : Step v move w) : Tallies (past ++ [move]) w := by
  intro p n
  have turn := step.tally (p := p) (n := n)
  have before := tallies p n
  rw [contributed, returned, filterMap_concat, filterMap_concat, List.count_append, List.count_append]
  rw [contributed, returned] at before
  omega

theorem Execution.tallies (execution : Execution { service := { config } } moves w) : Tallies moves w :=
  execution.invariant Tallies Tallies.step fun _ _ => rfl

end Service
end DiscoveryGraph
