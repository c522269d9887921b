import DiscoveryGraph.Discovery.Notification
import DiscoveryGraph.Error

/-! The discovery queue: bounded, first in first out. Besides notifications it holds barriers,
which let a producer learn that everything before them has been served. -/
namespace DiscoveryGraph

/-- What a producer hands to the worker. -/
inductive Message where
  | notify (notification : Notification)
  | barrier (ticket : Nat)
  deriving DecidableEq, Repr

/-- Messages waiting for the worker, oldest first. -/
structure Queue where
  capacity : UInt64
  pending : List Message := []
  deriving DecidableEq, Repr

namespace Queue

/-- The name of the queue in messages. -/
def label : String := "discovery"

def isFull (queue : Queue) : Bool := decide (queue.capacity.toNat ≤ queue.pending.length)

def push (queue : Queue) (message : Message) : Queue :=
  { queue with pending := queue.pending ++ [message] }

/-- Adds a message if there is room for it. -/
def tryPush (queue : Queue) (message : Message) : Except ExecutionError Queue :=
  if queue.isFull then .error (.queueFull label queue.capacity) else .ok (queue.push message)

/-- Takes the oldest message. -/
def pop? (queue : Queue) : Option (Message × Queue) :=
  match queue.pending with
  | [] => none
  | message :: pending => some (message, { queue with pending })

end Queue
end DiscoveryGraph
