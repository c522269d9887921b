import DiscoveryGraph.Text.Hex
import Std.Data.ExtTreeSet

/-! Sixteen-byte identifiers announced by the discovery protocol, and their two written forms:
four dotted groups in messages, five hyphenated groups in documents. -/
namespace DiscoveryGraph

/-- The globally unique identifier of a participant or endpoint. -/
structure Guid where
  bytes : Vector UInt8 16
  deriving DecidableEq, Repr

namespace Guid

instance : Ord Guid := ⟨compareOn bytes⟩

instance : Std.TransOrd Guid := inferInstanceAs (Std.TransCmp (compareOn bytes))

instance : Std.LawfulEqOrd Guid where
  eq_of_compare {a b} h := by
    have h : a.bytes = b.bytes := Std.LawfulEqOrd.eq_of_compare (α := Vector UInt8 16) h
    cases a; cases b; simp_all

/-- Exactly sixteen bytes make a GUID. -/
def ofBytes? (bytes : List UInt8) : Option Guid :=
  if h : bytes.length = 16 then some ⟨⟨bytes.toArray, by simpa using h⟩⟩ else none

@[simp] theorem ofBytes?_toList (guid : Guid) : ofBytes? guid.bytes.toList = some guid := by
  obtain ⟨⟨bytes, size⟩⟩ := guid
  simp [ofBytes?, Vector.toList, size]

/-- Cuts a list into groups of the given sizes and puts the separator between them. -/
def group (separator : Char) : List Nat → List Char → List Char
  | [], _ => []
  | [_], cs => cs
  | size :: size' :: sizes, cs =>
    cs.take size ++ separator :: group separator (size' :: sizes) (cs.drop size)

/-- Undoes `group`: every group but the last has its size and is followed by the separator,
and nothing is left over. -/
def ungroup? (separator : Char) : List Nat → List Char → Option (List Char)
  | [], cs => if cs.isEmpty then some [] else none
  | [size], cs => if cs.length = size then some cs else none
  | size :: size' :: sizes, cs =>
    match cs.drop size with
    | c :: rest =>
      if c = separator then (ungroup? separator (size' :: sizes) rest).map (cs.take size ++ ·) else none
    | [] => none

/-- The thirty-two digits. -/
def digits (guid : Guid) : List Char := guid.bytes.toList.flatMap Text.Hex.ofByte

/-- The form used in messages. -/
def display (guid : Guid) : String := String.ofList (group '.' [8, 8, 8, 8] guid.digits)

/-- The group sizes of the hyphenated form. -/
def hyphenSizes : List Nat := [8, 4, 4, 4, 12]

/-- The form used in documents. -/
def hyphenated (guid : Guid) : String := String.ofList (group '-' hyphenSizes guid.digits)

def ofDigits? (cs : List Char) : Option Guid := Text.Hex.bytes? cs >>= ofBytes?

def ofHyphenated? (cs : List Char) : Option Guid := ungroup? '-' hyphenSizes cs >>= ofDigits?

/-- The mark that may stand before the hyphenated form, in any letter case. -/
def urnMark : List Char := "urn:uuid:".toList

/-- Reads thirty-two digits, or the hyphenated form alone, in braces or after the mark. -/
def ofText? (text : String) : Option Guid :=
  let cs := text.toList
  if cs.length = 32 then ofDigits? cs
  else if cs.length = 36 then ofHyphenated? cs
  else if cs.length = 38 then
    if cs.head? = some '\x7b' ∧ cs.getLast? = some '\x7d' then ofHyphenated? cs.tail.dropLast else none
  else if (cs.take 9).map Char.toLower = urnMark then ofHyphenated? (cs.drop 9)
  else none

end Guid
end DiscoveryGraph
