/-! Decimal numerals of a fixed or bounded width, as dates are written and read. -/
namespace DiscoveryGraph.Text.Decimal

def digit (n : Nat) : Char := Char.ofNat (48 + n)

def value? (c : Char) : Option Nat := if '0' ≤ c ∧ c ≤ '9' then some (c.toNat - 48) else none

/-- The last `width` digits of a number, with leading zeros. -/
def padded : (width : Nat) → Nat → List Char
  | 0, _ => []
  | width + 1, n => padded width (n / 10) ++ [digit (n % 10)]

/-- How many numbers `width` digits can write. -/
def capacity : (width : Nat) → Nat
  | 0 => 1
  | width + 1 => 10 * capacity width

/-- The value of a run of digits, most significant first. -/
def number? (digits : List Char) : Option Nat :=
  digits.foldlM (fun n c => (value? c).map (10 * n + ·)) 0

/-- Reads exactly `width` digits and returns what follows them. -/
def take? (width : Nat) (cs : List Char) : Option (Nat × List Char) :=
  if width ≤ cs.length then (number? (cs.take width)).map (·, cs.drop width) else none

/-- The digits at the front, at most `width` of them. -/
def leading (width : Nat) (cs : List Char) : List Char :=
  (cs.take width).takeWhile fun c => (value? c).isSome

/-- Reads at least one and at most `width` digits and returns what follows them. -/
def upTo? (width : Nat) (cs : List Char) : Option (Nat × List Char) :=
  let digits := leading width cs
  if digits.isEmpty then none else (number? digits).map (·, cs.drop digits.length)

theorem value?_digit (n : Nat) (h : n < 10) : value? (digit n) = some n := by
  revert h; revert n; decide

theorem range_of_value? {c : Char} (digit : (value? c).isSome) : 48 ≤ c.toNat ∧ c.toNat ≤ 57 := by
  unfold value? at digit
  split at digit
  · rename_i range
    exact range
  · cases digit

@[simp] theorem length_padded (width n : Nat) : (padded width n).length = width := by
  induction width generalizing n with
  | zero => rfl
  | succ width ih => simp [padded, ih]

/-- A number that fits the width is read back. -/
theorem number?_padded (width n : Nat) (h : n < capacity width) :
    number? (padded width n) = some n := by
  induction width generalizing n with
  | zero =>
    have : n = 0 := by simpa [capacity] using h
    subst this; rfl
  | succ width ih =>
    have small : n / 10 < capacity width := by simp only [capacity] at h; omega
    have last := value?_digit (n % 10) (by omega)
    have front := ih (n / 10) small
    simp only [number?] at front ⊢
    simp only [padded, List.foldlM_append, front, List.foldlM_cons, List.foldlM_nil, last,
      Option.map_some, Option.bind_eq_bind, Option.bind_some]
    simp only [pure, Option.some.injEq]
    omega

theorem value?_of_mem_padded {width n : Nat} {c : Char} (h : c ∈ padded width n) :
    (value? c).isSome = true := by
  induction width generalizing n with
  | zero => cases h
  | succ width ih =>
    rcases List.mem_append.mp h with h | h
    · exact ih h
    · rw [List.mem_singleton.mp h, value?_digit _ (by omega)]
      rfl

theorem leading_padded (width n : Nat) (rest : List Char) :
    leading width (padded width n ++ rest) = padded width n := by
  have front : (padded width n ++ rest).take width = padded width n := List.take_left' (by simp)
  rw [leading, front, ← List.append_nil (padded width n),
    List.takeWhile_append_of_pos fun _ h => value?_of_mem_padded h]
  rfl

theorem upTo?_padded (width n : Nat) (rest : List Char) (some_width : width ≠ 0)
    (h : n < capacity width) : upTo? width (padded width n ++ rest) = some (n, rest) := by
  have back : (padded width n ++ rest).drop width = rest := List.drop_left' (by simp)
  have filled : padded width n ≠ [] := by
    intro e
    have := length_padded width n
    simp [e] at this
    omega
  simp [upTo?, leading_padded, back, number?_padded width n h, filled]

theorem take?_padded (width n : Nat) (rest : List Char) (h : n < capacity width) :
    take? width (padded width n ++ rest) = some (n, rest) := by
  have front : (padded width n ++ rest).take width = padded width n := List.take_left' (by simp)
  have back : (padded width n ++ rest).drop width = rest := List.drop_left' (by simp)
  simp [take?, front, back, number?_padded width n h]

end DiscoveryGraph.Text.Decimal
