import DiscoveryGraph.Error

/-! The discovery count and waits on it. The count is behind a lock, which is lost for good if
a holder gives up midway; a wait checks the lock, then its cancellation, then its condition. -/
namespace DiscoveryGraph

/-- The discovery count and its lock. What the service counts are the participants, topics and endpoints
that are active, and `2 ^ 63` of them would have to be stored at once before the signed word that holds
the count overflows. -/
structure Counter where
  value : Int := 0
  poisoned : Bool := false
  deriving DecidableEq, Repr

/-- How a wait compares the count with its bound. -/
inductive Comparison where
  | eq
  | ge
  | le
  | ne
  deriving DecidableEq, Repr

/-- What a wait waits for. -/
structure Condition where
  comparison : Comparison
  bound : Int
  deriving DecidableEq, Repr

def Condition.holds (condition : Condition) (count : Int) : Bool :=
  match condition.comparison with
  | .eq => count == condition.bound
  | .ge => decide (condition.bound ≤ count)
  | .le => decide (count ≤ condition.bound)
  | .ne => count != condition.bound

namespace Counter

/-- Takes the lock. -/
def lock (counter : Counter) : Except GraphError Int :=
  if counter.poisoned then .error (.internal (poisonedLock "counter.value")) else .ok counter.value

def add (counter : Counter) (delta : Int) : Except GraphError Counter := do
  let value ← counter.lock
  return { counter with value := value + delta }

/-- One look of a wait at the count: the count if the condition holds, nothing if the wait has
to go on. -/
def poll (counter : Counter) (condition : Condition) (cancelled : Bool) :
    Except GraphError (Option Int) := do
  let value ← counter.lock
  if cancelled then throw (.execution .cancelled)
  else return if condition.holds value then some value else none

/-- A wait during which nothing happens until its time is up. -/
def await (counter : Counter) (condition : Condition) (cancelled : Bool) (milliseconds : UInt64) :
    Except GraphError Int := do
  match ← counter.poll condition cancelled with
  | some count => return count
  | none => throw (.execution (.timeout milliseconds))

/-- Adds several deltas in turn, as long as the lock lets it. -/
def addAll (counter : Counter) : List Int → Counter
  | [] => counter
  | delta :: deltas =>
    match counter.add delta with
    | .ok counter => counter.addAll deltas
    | .error _ => counter

/-- A wait that looks at the count once other work is done, and is cancelled unless it has come
through by then. Tells how it ends, and whether its token is raised then. -/
def awaitOrCancel (counter : Counter) (condition : Condition) (cancelled : Bool) :
    Except GraphError Int × Bool :=
  match counter.poll condition cancelled with
  | .ok (some count) => (.ok count, cancelled)
  | .ok none => (.error (.execution .cancelled), true)
  | .error e => (.error e, true)

/-- A wait whose condition gives up at its first look, which takes the lock with it. -/
def abandon (counter : Counter) (cancelled : Bool) : Except GraphError Counter := do
  let _ ← counter.lock
  if cancelled then throw (.execution .cancelled) else return { counter with poisoned := true }

end Counter
end DiscoveryGraph
