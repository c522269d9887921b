import DiscoveryGraph.Json.Value

/-! How records are laid out in documents. A record is an object, or an array of its fields in
declared order whose last ones may be left out; an undeclared field is ignored and a declared
one may not be repeated. -/
namespace DiscoveryGraph.Json

def string? : Json → Option String
  | .string text => some text
  | _ => none

def bool? : Json → Option Bool
  | .bool value => some value
  | _ => none

/-- A number from zero up to, and without, the bound. -/
def natBelow? (bound : Nat) : Json → Option Nat
  | .int n => if 0 ≤ n ∧ n.toNat < bound then some n.toNat else none
  | _ => none

def uint64? (value : Json) : Option UInt64 := (value.natBelow? UInt64.size).map UInt64.ofNat

def uint32? (value : Json) : Option UInt32 := (value.natBelow? UInt32.size).map UInt32.ofNat

def uint8? (value : Json) : Option UInt8 := (value.natBelow? UInt8.size).map UInt8.ofNat

def int64? : Json → Option Int64
  | .int n =>
    if Int64.minValue.toInt ≤ n ∧ n ≤ Int64.maxValue.toInt then some (Int64.ofInt n) else none
  | _ => none

/-- An array whose items can all be read. -/
def list? {α : Type} (item? : Json → Option α) : Json → Option (List α)
  | .array items => items.mapM item?
  | _ => none

/-- A value or `null`. -/
def nullable? {α : Type} (value? : Json → Option α) : Json → Option (Option α)
  | .null => some none
  | value => (value? value).map some

/-- A bare symbol: its name, or an object with the name as its only field, which is `null`. -/
def symbol? : Json → Option String
  | .string name => some name
  | .object [(name, .null)] => some name
  | _ => none

/-- The declared fields of a record under their names. -/
def fields? (declared : List String) : Json → Option (List (String × Json))
  | .array items => if items.length ≤ declared.length then some (declared.zip items) else none
  | .object fields =>
    let known := fields.filter (·.1 ∈ declared)
    if (known.map (·.1)).Nodup then some known else none
  | _ => none

/-- Like `fields?`, refusing undeclared fields. -/
def onlyFields? (declared : List String) (value : Json) : Option (List (String × Json)) :=
  match value with
  | .object fields =>
    if fields.all (·.1 ∈ declared) then (Json.object fields).fields? declared else none
  | value => value.fields? declared

/-- A field that has to be there. -/
def required? {α : Type} (fields : List (String × Json)) (name : String) (value? : Json → Option α) :
    Option α :=
  fields.lookup name >>= value?

/-- A field that may be left out. -/
def optional? {α : Type} (fields : List (String × Json)) (name : String) (value? : Json → Option α)
    (absent : α) : Option α :=
  match fields.lookup name with
  | some value => value? value
  | none => some absent

/-- The field of a record that declares no other. -/
def field? {α : Type} (name : String) (value? : Json → Option α) (record : Json) : Option α := do
  required? (← record.fields? [name]) name value?

/-- The tag of a record that carries it among its fields, or before them, and the record
without it. The fields wait for the tag, so they have to be readable to the last. -/
def untag? (tag : String) : Json → Option (Json × Json)
  | .array (first :: rest) => some (first, .array rest)
  | .object fields =>
    match fields.filter (·.1 = tag) with
    | [(_, value)] =>
      let rest := Json.object (fields.filter (·.1 ≠ tag))
      if rest.isReadable then some (value, rest) else none
    | _ => none
  | _ => none

/-- The tag and the content of a record that has just these. Content that comes first waits for
the tag, so it has to be readable to the last. -/
def tagged? (tag content : String) : Json → Option (String × Json)
  | .array [.string name, value] => some (name, value)
  | .object fields =>
    match fields.filter fun (name, _) => name = tag || name = content with
    | [(name, first), (name', second)] =>
      if name = tag ∧ name' = content then first.symbol?.map (·, second)
      else if name = content ∧ name' = tag ∧ first.isReadable then second.symbol?.map (·, first)
      else none
    | _ => none
  | _ => none

end DiscoveryGraph.Json
