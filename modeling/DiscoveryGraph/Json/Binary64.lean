import DiscoveryGraph.Text.Decimal

/-! The range of numbers. A numeral stands for a binary64 number: its leading digits, as many
as a word of 64 bits holds, times a power of ten, each rounded and the product rounded again.
It is out of range if that ends up past the largest finite number. -/
namespace DiscoveryGraph.Json

/-- The leading digits of a numeral and the exponent of the power of ten that goes with them. -/
structure Scaled where
  significand : Nat
  exponent : Int
  deriving DecidableEq, Repr

namespace Scaled
open Text.Decimal

/-- One more digit, if the word still holds it. -/
def push? (significand : Nat) (c : Char) : Option Nat :=
  let next := 10 * significand + (value? c).getD 0
  if next < UInt64.size then some next else none

/-- Takes digits before the point. From the first one that does not fit they only count. -/
def whole (s : Scaled) : List Char → Scaled
  | [] => s
  | c :: cs =>
    match push? s.significand c with
    | some significand => whole { s with significand } cs
    | none => { s with exponent := s.exponent + (c :: cs).length }

/-- Takes digits after the point, up to the first one that does not fit. -/
def fraction (s : Scaled) : List Char → Scaled
  | [] => s
  | c :: cs =>
    match push? s.significand c with
    | some significand => fraction ⟨significand, s.exponent - 1⟩ cs
    | none => s

/-- A numeral in its parts. -/
def ofParts (whole fraction : List Char) (exponent : Int) : Scaled :=
  let s := ((⟨0, 0⟩ : Scaled).whole whole).fraction fraction
  { s with exponent := s.exponent + exponent }

/-- The nearest number of 53 significant bits, the even one if two are as near. -/
def round (n : Nat) : Nat :=
  let unit := 1 <<< (n.log2 + 1 - 53)
  let steps := n / unit
  let rest := n % unit
  if unit < 2 * rest ∨ (unit = 2 * rest ∧ steps % 2 = 1) then (steps + 1) * unit else steps * unit

/-- The middle between the largest finite number and the next power of two. -/
def bound : Nat := (1 <<< 1024) - (1 <<< 970)

/-- The largest power of ten that a binary64 number comes near to. -/
def maxExponent : Int := 308

def isFinite (s : Scaled) : Bool :=
  s.significand = 0 || s.exponent < 0 ||
    (s.exponent ≤ maxExponent &&
      round s.significand * round (capacity s.exponent.toNat) < bound)

end Scaled
end DiscoveryGraph.Json
