import Std.Data.ExtTreeSet

/-! Identifiers of entities. Two words are reserved: zero asks for every entity of a kind,
and the largest word never names an entity. -/
namespace DiscoveryGraph

/-- A number naming one entity for the lifetime of a graph. -/
structure EntityId where
  value : UInt64
  deriving DecidableEq, Repr

namespace EntityId

/-- The universal root: no restriction to an origin. -/
def all : EntityId := ⟨0⟩

/-- The identifier that never names an entity. -/
def invalid : EntityId := ⟨0xFFFFFFFFFFFFFFFF⟩

def isAll (id : EntityId) : Bool := id == all

def isValid (id : EntityId) : Bool := id != invalid

/-- The identifier handed out after this one, or `none` once only the reserved word is left. -/
def next? (id : EntityId) : Option EntityId :=
  if id.value.toNat + 1 < invalid.value.toNat then some ⟨id.value + 1⟩ else none

/-- Reserved identifiers are shown by name and all others by number. -/
def display (id : EntityId) : String :=
  if id.isAll then "all" else if id.isValid then toString id.value.toNat else "invalid"

instance : Ord EntityId := ⟨compareOn value⟩

instance : Std.TransOrd EntityId := inferInstanceAs (Std.TransCmp (compareOn value))

instance : Std.LawfulEqOrd EntityId where
  eq_of_compare {a b} h := by
    have h : a.value = b.value := Std.LawfulEqOrd.eq_of_compare (α := UInt64) h
    cases a; cases b; simp_all

theorem value_next {id next : EntityId} (h : id.next? = some next) :
    next.value.toNat = id.value.toNat + 1 := by
  unfold next? at h
  split at h
  · rename_i bound
    cases h
    have : invalid.value.toNat = 18446744073709551615 := rfl
    simp only [UInt64.toNat_add, UInt64.reduceToNat]
    omega
  · cases h

end EntityId

/-- A set of identifiers, listed in ascending order. -/
abbrev IdSet := Std.ExtTreeSet EntityId

/-- The smallest of some identifiers. -/
def IdSet.first? (ids : IdSet) : Option EntityId := ids.toList.head?

end DiscoveryGraph
