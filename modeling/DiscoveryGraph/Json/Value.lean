/-! JSON values. Objects keep their fields in the order written, repeated names included, and
only numbers without fraction and exponent are numbers here; others keep their spelling. What is
well formed but cannot be held has a place too, since a record may carry it in a field that
nobody reads. -/
namespace DiscoveryGraph

/-- A JSON value. -/
inductive Json where
  | null
  | bool (value : Bool)
  | int (value : Int)
  /-- A number with a fraction or an exponent, or a negative zero, as it is spelled. -/
  | decimal (spelling : String)
  | string (text : String)
  | array (items : List Json)
  | object (fields : List (String × Json))
  /-- Half of a surrogate pair in a string or in a name of an object, a number past the range of
  binary64, or an array or object in too many others. -/
  | unreadable
  deriving Repr, Inhabited

namespace Json

def nat (n : Nat) : Json := .int n

/-- An optional value, absent as `null`. -/
def ofOption {α : Type} (toJson : α → Json) : Option α → Json
  | some a => toJson a
  | none => .null

mutual

/-- Everything in the value can be held. -/
def isReadable : Json → Bool
  | unreadable => false
  | array items => itemsReadable items
  | object fields => fieldsReadable fields
  | _ => true

def itemsReadable : List Json → Bool
  | [] => true
  | item :: items => item.isReadable && itemsReadable items

def fieldsReadable : List (String × Json) → Bool
  | [] => true
  | (_, value) :: fields => value.isReadable && fieldsReadable fields

end

end Json
end DiscoveryGraph
