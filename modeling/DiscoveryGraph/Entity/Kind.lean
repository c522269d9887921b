import Std.Data.ExtTreeSet

/-! Kinds of monitored entities. Nine kinds describe things that exist; `invalid` is a
placeholder that requests may carry and every operation refuses. -/
namespace DiscoveryGraph

/-- What a monitored entity is. -/
inductive EntityKind where
  | host
  | user
  | process
  | domain
  | participant
  | topic
  | dataWriter
  | dataReader
  | locator
  | invalid
  deriving DecidableEq, Repr

namespace EntityKind

/-- Every kind an entity can have, in the order listings use. -/
def valid : List EntityKind :=
  [host, user, process, domain, participant, topic, dataWriter, dataReader, locator]

def isValid (kind : EntityKind) : Bool := kind != invalid

/-- Writers and readers. -/
def isEndpoint : EntityKind → Bool
  | dataWriter | dataReader => true
  | _ => false

/-- The physical context of a participant. -/
def isPhysical : EntityKind → Bool
  | host | user | process => true
  | _ => false

/-- Kinds whose changes of state reach listeners and the discovery count. -/
def isDiscoverable : EntityKind → Bool
  | participant | topic | dataWriter | dataReader => true
  | _ => false

/-- The two kinds of endpoint, writers first. -/
def endpoints : List EntityKind := [dataWriter, dataReader]

/-- The name used in messages and as a key of summaries. -/
def name : EntityKind → String
  | host => "host"
  | user => "user"
  | process => "process"
  | domain => "domain"
  | participant => "participant"
  | topic => "topic"
  | dataWriter => "datawriter"
  | dataReader => "datareader"
  | locator => "locator"
  | invalid => "invalid"

/-- Position among the kinds, used only to order them in maps. -/
def rank : EntityKind → Nat
  | host => 0
  | user => 1
  | process => 2
  | domain => 3
  | participant => 4
  | topic => 5
  | dataWriter => 6
  | dataReader => 7
  | locator => 8
  | invalid => 9

theorem rank_injective {a b : EntityKind} (h : a.rank = b.rank) : a = b := by
  cases a <;> cases b <;> first | rfl | cases h

instance : Ord EntityKind := ⟨compareOn rank⟩

instance : Std.TransOrd EntityKind := inferInstanceAs (Std.TransCmp (compareOn rank))

instance : Std.LawfulEqOrd EntityKind where
  eq_of_compare h := rank_injective (Std.LawfulEqOrd.eq_of_compare (α := Nat) h)

@[simp] theorem mem_valid (kind : EntityKind) : kind ∈ valid ↔ kind ≠ invalid := by
  cases kind <;> simp [valid]

@[simp] theorem isValid_iff (kind : EntityKind) : kind.isValid = true ↔ kind ≠ invalid := by
  simp [isValid]

@[simp] theorem mem_endpoints (kind : EntityKind) :
    kind ∈ endpoints ↔ kind.isEndpoint = true := by
  cases kind <;> simp [endpoints, isEndpoint]

end EntityKind
end DiscoveryGraph
