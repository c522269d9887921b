/-! Calendar dates of the Gregorian calendar, extended to all years. -/
namespace DiscoveryGraph

/-- Every fourth year is a leap year, but of the full centuries only every fourth. -/
def isLeapYear (year : Int) : Bool := year % 4 = 0 && (year % 100 ≠ 0 || year % 400 = 0)

/-- The days of a month; there are none outside the twelve months. -/
def daysInMonth (year : Int) : Nat → Nat
  | 1 | 3 | 5 | 7 | 8 | 10 | 12 => 31
  | 4 | 6 | 9 | 11 => 30
  | 2 => if isLeapYear year then 29 else 28
  | _ => 0

/-- A day that the calendar has. -/
structure Date where
  year : Int
  month : Nat
  day : Nat
  exists_day : 1 ≤ day ∧ day ≤ daysInMonth year month
  deriving DecidableEq, Repr

namespace Date

def ofCivil? (year : Int) (month day : Nat) : Option Date :=
  if h : 1 ≤ day ∧ day ≤ daysInMonth year month then some ⟨year, month, day, h⟩ else none

def next (date : Date) : Date :=
  ((ofCivil? date.year date.month (date.day + 1)).or (ofCivil? date.year (date.month + 1) 1)).getD
    ⟨date.year + 1, 1, 1, by simp [daysInMonth]⟩

def previous (date : Date) : Date :=
  let before := date.month - 1
  ((ofCivil? date.year date.month (date.day - 1)).or
    (ofCivil? date.year before (daysInMonth date.year before))).getD
    ⟨date.year - 1, 12, 31, by simp [daysInMonth]⟩

@[simp] theorem ofCivil?_self (date : Date) :
    ofCivil? date.year date.month date.day = some date := by
  simp [ofCivil?, date.exists_day]

end Date
end DiscoveryGraph
