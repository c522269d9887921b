/-! Shared cells. A cell is reached through handles; several handles may share one cell, and a
handle that is dropped reaches nothing any more. -/
namespace DiscoveryGraph

/-- Cells, and for each handle ever given out the cell it reaches. -/
structure Handles (α : Type) where
  cells : List α := []
  handles : List (Option Nat) := []
  deriving Repr

namespace Handles
variable {α : Type}

/-- The cell behind a handle. -/
def cell? (shared : Handles α) (handle : Nat) : Option Nat := shared.handles[handle]?.join

/-- What the cell behind a handle holds. -/
def get? (shared : Handles α) (handle : Nat) : Option α := shared.cell? handle >>= (shared.cells[·]?)

/-- The next handle to be given out. -/
def next (shared : Handles α) : Nat := shared.handles.length

/-- A new cell with a handle of its own. -/
def new (shared : Handles α) (a : α) : Handles α where
  cells := shared.cells ++ [a]
  handles := shared.handles ++ [some shared.cells.length]

/-- Another handle for the cell behind a handle. -/
def clone (shared : Handles α) (handle : Nat) : Handles α :=
  { shared with handles := shared.handles ++ [shared.cell? handle] }

def drop (shared : Handles α) (handle : Nat) : Handles α :=
  { shared with handles := shared.handles.set handle none }

/-- Replaces what the cell behind a handle holds. -/
def put (shared : Handles α) (handle : Nat) (a : α) : Handles α :=
  match shared.cell? handle with
  | some cell => { shared with cells := shared.cells.set cell a }
  | none => shared

end Handles
end DiscoveryGraph
