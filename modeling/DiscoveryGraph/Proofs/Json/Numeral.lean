import Mathlib.Algebra.Ring.Nat
import DiscoveryGraph.Json.Reader

/-! Numerals. A numeral is read up to its end whatever value or bracket comes after it, and the numeral of a
word of 64 bits, with a sign or without, is read as the number it was written for. -/
namespace DiscoveryGraph

namespace Text.Decimal
variable {c : Char} {m n : Nat} {digits : List Char}

theorem value?_digitChar (small : n < 10) : value? n.digitChar = some n := by
  revert small
  revert n
  decide

/-- The digits of a number are read back. -/
theorem number?_toDigits : number? (Nat.toDigits 10 n) = some n := by
  induction n using Nat.strongRecOn with
  | ind n ih =>
    rw [Nat.toDigits_eq_if (by decide)]
    split
    · rename_i small
      simp [number?, value?_digitChar small]
    · have front := ih (n / 10) (by omega)
      have last := value?_digitChar (n := n % 10) (by omega)
      simp only [number?] at front ⊢
      simp only [List.foldlM_append, front, List.foldlM_cons, List.foldlM_nil, last, Option.map_some,
        Option.bind_eq_bind, Option.bind_some, pure, Option.some.injEq]
      omega

/-- Only the number zero starts with a zero. -/
theorem head?_toDigits (zero : (Nat.toDigits 10 n).head? = some '0') : n = 0 := by
  induction n using Nat.strongRecOn with
  | ind n ih =>
    rw [Nat.toDigits_eq_if (by decide)] at zero
    split at zero
    · rename_i small
      clear ih
      revert zero small
      revert n
      decide
    · rename_i large
      rw [List.head?_append, List.head?_eq_some_head Nat.toDigits_ne_nil, Option.some_or,
        ← List.head?_eq_some_head] at zero
      have front := ih (n / 10) (by omega) zero
      omega

theorem value?_of_mem_toDigits (mem : c ∈ Nat.toDigits 10 n) : (value? c).isSome := by
  have digit := Nat.isDigit_of_mem_toDigits (by decide) (by decide) mem
  simp only [Char.isDigit, Bool.and_eq_true, decide_eq_true_eq] at digit
  have range : '0' ≤ c ∧ c ≤ '9' := digit
  rw [value?, if_pos range]
  rfl

end Text.Decimal

namespace Json.Reader
variable {p : Char → Bool} {cs rest : List Char}

/-- What may come behind a value inside of others, if anything does. -/
def Closes (rest : List Char) : Prop := ∀ c ∈ rest.head?, c ∈ [',', ']', '\x7d']

theorem takeWhile_append_of_head? (cs : List Char) (stop : ∀ c ∈ rest.head?, p c = false) :
    (cs ++ rest).takeWhile p = cs.takeWhile p ∧ (cs ++ rest).dropWhile p = cs.dropWhile p ++ rest := by
  induction cs with
  | nil =>
    cases rest with
    | nil => exact ⟨rfl, rfl⟩
    | cons c rest =>
      have no := stop c rfl
      simp [no]
  | cons c cs ih =>
    rw [List.cons_append, List.takeWhile_cons, List.takeWhile_cons, List.dropWhile_cons, List.dropWhile_cons]
    split
    · exact ⟨congrArg (c :: ·) ih.1, ih.2⟩
    · exact ⟨rfl, rfl⟩

theorem Closes.stops (closes : Closes rest) (comma : p ',' = false) (bracket : p ']' = false)
    (brace : p '\x7d' = false) : ∀ c ∈ rest.head?, p c = false := by
  intro c mem
  have ends := closes c mem
  simp only [List.mem_cons, List.not_mem_nil, or_false] at ends
  rcases ends with rfl | rfl | rfl
  · exact comma
  · exact bracket
  · exact brace

/-- What has been read, with more text behind what is left. -/
def before {α : Type} (rest : List Char) (read : α × List Char) : α × List Char := (read.1, read.2 ++ rest)

theorem digits?_append (closes : Closes rest) : digits? (cs ++ rest) = (digits? cs).map (before rest) := by
  obtain ⟨taken, left⟩ := takeWhile_append_of_head? cs (closes.stops (p := isDigit) rfl rfl rfl)
  rw [digits?, digits?, taken, left]
  cases (cs.takeWhile isDigit).isEmpty <;> rfl

theorem whole?_append (closes : Closes rest) : whole? (cs ++ rest) = (whole? cs).map (before rest) := by
  rw [whole?, whole?, digits?_append closes]
  cases digits? cs with
  | none => rfl
  | some read =>
    obtain ⟨digits, left⟩ := read
    simp only [Option.map_some, before, Option.bind_eq_bind, Option.bind_some]
    split <;> rfl

/-- Nothing that closes a value belongs to a numeral. -/
theorem Closes.ne {c d : Char} (closes : Closes (c :: rest)) (other : d ∉ [',', ']', '\x7d']) : c ≠ d := by
  rintro rfl
  exact other (closes c rfl)

theorem fraction?_append (closes : Closes rest) : fraction? (cs ++ rest) = (fraction? cs).map (before rest) := by
  cases cs with
  | nil =>
    cases rest with
    | nil => rfl
    | cons c rest =>
      have noPoint : c ≠ '.' := closes.ne (by decide)
      simp [fraction?, noPoint, before]
  | cons c cs =>
    by_cases point : c = '.'
    · subst point
      rw [List.cons_append, fraction?, fraction?, digits?_append closes]
      cases digits? cs <;> rfl
    · simp [fraction?, point, before]

theorem take_filter_append (closes : Closes rest) : ((cs ++ rest).take 1).filter (fun c => c = '+' || c = '-') =
    (cs.take 1).filter (fun c => c = '+' || c = '-') := by
  cases cs with
  | nil =>
    cases rest with
    | nil => rfl
    | cons c rest =>
      have noPlus : c ≠ '+' := closes.ne (by decide)
      have noMinus : c ≠ '-' := closes.ne (by decide)
      simp [noPlus, noMinus]
  | cons c cs => rfl

theorem exponent?_append (closes : Closes rest) : exponent? (cs ++ rest) = (exponent? cs).map (before rest) := by
  cases cs with
  | nil =>
    cases rest with
    | nil => rfl
    | cons c rest =>
      have small : c ≠ 'e' := closes.ne (by decide)
      have large : c ≠ 'E' := closes.ne (by decide)
      simp [exponent?, small, large, before]
  | cons e cs =>
    rw [List.cons_append, exponent?, exponent?]
    split
    · dsimp only
      rw [take_filter_append closes]
      have short : ((cs.take 1).filter fun c => c = '+' || c = '-').length ≤ cs.length :=
        Nat.le_trans (List.length_filter_le _ _) (List.length_take_le' _ _)
      rw [List.drop_append_of_le_length short, digits?_append closes]
      cases digits? (cs.drop ((cs.take 1).filter fun c => c = '+' || c = '-').length) with
      | none => rfl
      | some read =>
        obtain ⟨digits, left⟩ := read
        simp only [Option.map_some, before, Option.bind_eq_bind, Option.bind_some]
        cases Text.Decimal.number? digits <;> rfl
    · rfl

/-- A numeral ends where something comes that closes a value. -/
theorem number?_append (closes : Closes rest) : number? (cs ++ rest) = (number? cs).map (before rest) := by
  have noSign : ∀ c ∈ rest.head?, decide (c = '-') = false := closes.stops rfl rfl rfl
  have short : (cs.takeWhile (· = '-')).length ≤ cs.length := (List.takeWhile_prefix _).length_le
  rw [number?, number?, (takeWhile_append_of_head? cs noSign).1]
  dsimp only
  split
  · rfl
  · rw [List.drop_append_of_le_length short, whole?_append closes]
    cases whole? (cs.drop (cs.takeWhile (· = '-')).length) with
    | none => rfl
    | some read =>
      obtain ⟨whole, left⟩ := read
      simp only [Option.map_some, before, Option.bind_eq_bind, Option.bind_some, fraction?_append closes]
      cases fraction? left with
      | none => rfl
      | some read =>
        obtain ⟨fraction, left⟩ := read
        simp only [Option.map_some, before, Option.bind_some, exponent?_append closes]
        cases exponent? left with
        | none => rfl
        | some read =>
          obtain ⟨⟨exponent, power⟩, left⟩ := read
          simp only [Option.map_some, before, Option.bind_some]
          cases Text.Decimal.number? whole with
          | none => rfl
          | some n =>
            simp only [Option.bind_some]
            split
            · rfl
            · split <;> rfl

end Json.Reader

namespace Json.Scaled
open Text.Decimal
variable {m n : Nat} {digits : List Char}

/-- Digits do not make a number smaller. -/
theorem le_of_foldlM (read : digits.foldlM (fun n c => (value? c).map (10 * n + ·)) m = some n) : m ≤ n := by
  induction digits generalizing m with
  | nil =>
    cases read
    exact Nat.le_refl _
  | cons c digits ih =>
    obtain ⟨next, first, others⟩ := Option.bind_eq_some_iff.mp read
    obtain ⟨value, -, rfl⟩ := Option.map_eq_some_iff.mp first
    have le := ih others
    omega

/-- A number that a word of 64 bits holds is taken as it is. -/
theorem whole_eq {exponent : Int} (read : digits.foldlM (fun n c => (value? c).map (10 * n + ·)) m = some n)
    (fits : n < UInt64.size) : whole ⟨m, exponent⟩ digits = ⟨n, exponent⟩ := by
  induction digits generalizing m with
  | nil =>
    cases read
    rfl
  | cons c digits ih =>
    obtain ⟨next, first, others⟩ := Option.bind_eq_some_iff.mp read
    obtain ⟨value, digit, rfl⟩ := Option.map_eq_some_iff.mp first
    have le := le_of_foldlM others
    have small : 10 * m + value < UInt64.size := by omega
    rw [whole, push?, digit]
    simp only [Option.getD_some, small, if_true]
    exact ih others

/-- Rounding a word to 53 bits moves it by no more than the 11 bits that are lost. -/
theorem round_le (fits : n < UInt64.size) : round n ≤ n + 2 ^ 11 := by
  have log : n.log2 < 64 := by
    by_cases zero : n = 0
    · subst zero
      decide
    · exact (Nat.log2_lt zero).mpr fits
  have unit : 1 <<< (n.log2 + 1 - 53) ≤ 2 ^ 11 := by
    rw [Nat.one_shiftLeft]
    exact Nat.pow_le_pow_right (by decide) (by omega)
  have least := Nat.div_mul_le_self n (1 <<< (n.log2 + 1 - 53))
  simp only [round]
  split
  · rw [Nat.add_mul]
    omega
  · omega

theorem isFinite_of_lt (fits : n < UInt64.size) : isFinite ⟨n, 0⟩ := by
  have size : UInt64.size = 2 ^ 64 := rfl
  have one : round (capacity 0) = 1 := by decide
  have large : 2 ^ 65 < bound := by decide
  have small := round_le fits
  have less : round n * round (capacity 0) < bound := by
    rw [one]
    omega
  simp [isFinite, maxExponent, less]

end Json.Scaled

namespace Json.Reader
open Text.Decimal

variable {n : Nat}

theorem takeWhile_toDigits : (Nat.toDigits 10 n).takeWhile isDigit = Nat.toDigits 10 n ∧
    (Nat.toDigits 10 n).dropWhile isDigit = [] := by
  have digits : ∀ c ∈ Nat.toDigits 10 n, isDigit c = true := fun c mem => value?_of_mem_toDigits mem
  have taken : (Nat.toDigits 10 n ++ []).takeWhile isDigit = Nat.toDigits 10 n ++ [] :=
    List.takeWhile_append_of_pos digits
  have left : (Nat.toDigits 10 n ++ []).dropWhile isDigit = [] := List.dropWhile_append_of_pos digits
  rw [List.append_nil] at taken left
  exact ⟨taken, left⟩

theorem whole?_toDigits : whole? (Nat.toDigits 10 n) = some (Nat.toDigits 10 n, []) := by
  have some_digit : (Nat.toDigits 10 n).isEmpty = false := List.isEmpty_eq_false_iff.mpr Nat.toDigits_ne_nil
  have noLeading : ¬ ((Nat.toDigits 10 n).head? = some '0' ∧ (Nat.toDigits 10 n).length ≠ 1) := by
    rintro ⟨zero, long⟩
    obtain rfl := head?_toDigits zero
    exact long rfl
  simp [whole?, digits?, takeWhile_toDigits, some_digit, noLeading]

theorem takeWhile_minus_toDigits : (Nat.toDigits 10 n).takeWhile (· = '-') = [] := by
  cases shown : Nat.toDigits 10 n with
  | nil => rfl
  | cons c digits =>
    have mem : c ∈ Nat.toDigits 10 n := by simp [shown]
    have digit := value?_of_mem_toDigits mem
    have noMinus : c ≠ '-' := by
      rintro rfl
      cases digit
    simp [noMinus]

theorem isFinite_toDigits (fits : n < UInt64.size) : (Scaled.ofParts (Nat.toDigits 10 n) [] 0).isFinite = true := by
  have whole : Scaled.whole ⟨0, 0⟩ (Nat.toDigits 10 n) = ⟨n, 0⟩ := Scaled.whole_eq Text.Decimal.number?_toDigits fits
  rw [Scaled.ofParts, whole]
  exact Scaled.isFinite_of_lt fits

theorem number?_toDigits (fits : n < UInt64.size) : number? (Nat.toDigits 10 n) = some (.int n, []) := by
  simp [number?, takeWhile_minus_toDigits, whole?_toDigits, fraction?, exponent?, Text.Decimal.number?_toDigits,
    isFinite_toDigits fits]

theorem number?_minus (fits : n < UInt64.size) (nonzero : n ≠ 0) :
    number? ('-' :: Nat.toDigits 10 n) = some (.int (-n), []) := by
  simp [number?, takeWhile_minus_toDigits, whole?_toDigits, fraction?, exponent?, Text.Decimal.number?_toDigits,
    isFinite_toDigits fits, nonzero]

/-- A number that a word of 64 bits holds, with a sign or without, is read back. -/
theorem number?_toString {value : Int} (fits : value.natAbs < UInt64.size) :
    number? (toString value).toList = some (.int value, []) := by
  show number? value.repr.toList = _
  rw [Int.repr_eq_if]
  split
  · rename_i least
    rw [Nat.repr_eq_ofList_toDigits, String.toList_ofList, number?_toDigits (by omega), Int.toNat_of_nonneg least]
  · rename_i negative
    have sum : -((-value).toNat : Int) = value := by omega
    have shown : ("-" ++ (-value).toNat.repr).toList = '-' :: Nat.toDigits 10 (-value).toNat := by
      simp [Nat.repr_eq_ofList_toDigits]
    rw [shown, number?_minus (by omega) (by omega), sum]

end Json.Reader
end DiscoveryGraph
