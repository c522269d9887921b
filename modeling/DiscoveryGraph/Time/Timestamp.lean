import DiscoveryGraph.Text.Blank
import DiscoveryGraph.Text.Decimal
import DiscoveryGraph.Time.Date

/-! Instants in universal time and their written form: date, time of day to the second or as
many more digits as are needed in groups of three, and the zone, which is converted away when
an instant is read. The second of a minute may be a leap second. Reading is lenient: leading
zeros may be left out and blanks may stand between the parts. -/
namespace DiscoveryGraph

/-- An instant in universal time. -/
structure Timestamp where
  date : Date
  minuteOfDay : Fin 1440
  second : Fin 61
  nanosecond : Fin 1000000000
  deriving DecidableEq, Repr

namespace Timestamp
open Text.Decimal

/-- Years of four digits stand alone, other years carry a sign. -/
def yearText (year : Int) : List Char :=
  if 0 ≤ year ∧ year ≤ 9999 then padded 4 year.toNat
  else (if year < 0 then '-' else '+') :: padded (max 4 (toString year.natAbs).length) year.natAbs

/-- Nothing for a full second, else three, six or nine digits, the fewest that lose nothing. -/
def fractionText (nanosecond : Nat) : List Char :=
  if nanosecond = 0 then []
  else if nanosecond % 1000000 = 0 then '.' :: padded 3 (nanosecond / 1000000)
  else if nanosecond % 1000 = 0 then '.' :: padded 6 (nanosecond / 1000)
  else '.' :: padded 9 nanosecond

def text (t : Timestamp) : String :=
  String.ofList <|
    yearText t.date.year ++ '-' :: padded 2 t.date.month ++ '-' :: padded 2 t.date.day ++
    'T' :: padded 2 (t.minuteOfDay.val / 60) ++ ':' :: padded 2 (t.minuteOfDay.val % 60) ++
    ':' :: padded 2 t.second.val ++ fractionText t.nanosecond.val ++ ['Z']

/-- Drops blanks. -/
def skip (cs : List Char) : List Char := cs.dropWhile Text.isWhiteSpace

/-- Drops one of the given characters. -/
def expect? (allowed : List Char) : List Char → Option (List Char)
  | c :: rest => if c ∈ allowed then some rest else none
  | [] => none

/-- Reads a part of at most two digits. -/
def part? (cs : List Char) : Option (Nat × List Char) := upTo? 2 (skip cs)

/-- Reads a part after a mark. -/
def partAfter? (mark : Char) (cs : List Char) : Option (Nat × List Char) :=
  expect? [mark] (skip cs) >>= part?

/-- Reads a year: up to four digits, or any number of them after a sign. -/
def year? (cs : List Char) : Option (Int × List Char) :=
  match skip cs with
  | '+' :: rest => (upTo? rest.length rest).map fun (year, rest) => (year, rest)
  | '-' :: rest => (upTo? rest.length rest).map fun (year, rest) => (-year, rest)
  | rest => (upTo? 4 rest).map fun (year, rest) => (year, rest)

/-- Reads an optional fraction of a second; digits beyond the ninth are dropped. -/
def fraction? : List Char → Option (Nat × List Char)
  | '.' :: rest => do
    let kept := leading 9 rest
    let (n, rest) ← upTo? 9 rest
    return (n * capacity (9 - kept.length), rest.dropWhile fun c => (value? c).isSome)
  | rest => some (0, rest)

/-- The direction of a zone, which a hyphen or a minus sign turns round. -/
def direction? (c : Char) : Option Int :=
  if c = '+' then some 1 else if c = '-' ∨ c = '\u2212' then some (-1) else none

/-- Reads a zone: universal time by letter or name, or the hours and minutes ahead of it. -/
def zone? (cs : List Char) : Option (Int × List Char) :=
  if (cs.take 3).map Char.toLower = ['u', 't', 'c'] then some (0, cs.drop 3)
  else
    match cs with
    | [] => none
    | 'Z' :: rest | 'z' :: rest => some (0, rest)
    | c :: rest => do
      let direction ← direction? c
      let (hours, rest) ← take? 2 rest
      let (minutes, rest) ← take? 2 (rest.dropWhile fun c => c = ':' || Text.isWhiteSpace c)
      if hours < 24 ∧ minutes < 60 then return (direction * (60 * hours + minutes), rest) else none

/-- The years that an instant may lie in. -/
def covers (year : Int) : Bool := -262143 ≤ year && year ≤ 262142

/-- Moves a minute of a day to another day if a zone puts it there. -/
def shift (date : Date) (minute : Int) : Date × Nat :=
  if minute < 0 then (date.previous, (minute + 1440).toNat)
  else if 1440 ≤ minute then (date.next, (minute - 1440).toNat)
  else (date, minute.toNat)

def ofText? (text : String) : Option Timestamp := do
  let (year, rest) ← year? text.toList
  let (month, rest) ← partAfter? '-' rest
  let (day, rest) ← partAfter? '-' rest
  let (hour, rest) ← expect? ['T', 't', ' '] rest >>= part?
  let (minute, rest) ← partAfter? ':' rest
  let (second, rest) ← partAfter? ':' rest
  let (nanosecond, rest) ← fraction? rest
  let (ahead, rest) ← zone? (skip rest)
  let date ← Date.ofCivil? year month day
  let (date, minuteOfDay) := shift date (60 * hour + minute - ahead)
  if (skip rest).isEmpty ∧ covers year ∧ covers date.year ∧ hour < 24 ∧ minute < 60 then
    if h : minuteOfDay < 1440 ∧ second < 61 ∧ nanosecond < 1000000000 then
      return ⟨date, ⟨minuteOfDay, h.1⟩, ⟨second, h.2.1⟩, ⟨nanosecond, h.2.2⟩⟩
    else none
  else none

end Timestamp
end DiscoveryGraph
