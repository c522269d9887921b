import Mathlib.Data.List.Permutation
import Mathlib.Data.List.Sublists
import DiscoveryGraph.Proofs.Monitor.Ledger

/-! Calls stand for requests one after another. However threads take their turns, the graph and the count are
at any moment those of one run of requests in sequence, which takes the notifications in the order in which
they got into the queue. What listeners are told comes after, thread by thread. -/
namespace DiscoveryGraph
namespace Service
open DiscoveryGraph.Graph
variable {config : Config} {service s : Service} {thread : Thread} {request : Request} {move : Move}
  {moves : List Move} {v w : World}

/-! ### What the worker is about -/

/-- While the worker has no notification in its hand it is not about any call. -/
def World.Occupied (world : World) : Prop :=
  world.hand.bind Message.notification? = none → world.threads .worker = .idle

theorem World.Occupied.step (occupied : v.Occupied) (step : Step v move w) : w.Occupied := by
  cases step with
  | submits | enqueues | submitted | tries | flushes | marks | flushed | requests | returns => exact occupied
  | @takes message queue _ idle =>
    cases message with
    | notify n => exact fun none => by cases none
    | barrier ticket => exact fun _ => idle
  | answers held => exact fun _ => occupied (by rw [held]; rfl)
  | finishes => exact fun _ => rfl
  | @proceeds mover stage decided told calling =>
    intro none
    have idle := occupied none
    rw [World.proceed]
    dsimp only [World.doing]
    split
    · next same =>
      rw [← same, idle] at calling
      cases calling
    · exact idle

theorem Execution.occupied (execution : Execution { service := { config } } moves w) : w.Occupied :=
  execution.invariant (fun _ world => world.Occupied) World.Occupied.step fun _ => rfl

end Service
end DiscoveryGraph
