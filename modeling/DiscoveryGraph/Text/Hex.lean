/-! Hexadecimal text of bytes. Bytes are written as two lowercase digits; both letter cases
are read. -/
namespace DiscoveryGraph.Text.Hex

/-- The lowercase digit of a value below sixteen. -/
def digit (n : Nat) : Char := if n < 10 then Char.ofNat (48 + n) else Char.ofNat (87 + n)

/-- The value of a digit of either case. -/
def value? (c : Char) : Option Nat :=
  if '0' ≤ c ∧ c ≤ '9' then some (c.toNat - 48)
  else if 'a' ≤ c ∧ c ≤ 'f' then some (c.toNat - 87)
  else if 'A' ≤ c ∧ c ≤ 'F' then some (c.toNat - 55)
  else none

def ofByte (byte : UInt8) : List Char := [digit (byte.toNat / 16), digit (byte.toNat % 16)]

/-- Reads digits two by two; an odd one out is refused. -/
def bytes? : List Char → Option (List UInt8)
  | [] => some []
  | [_] => none
  | high :: low :: rest => do
    let high ← value? high
    let low ← value? low
    let bytes ← bytes? rest
    return UInt8.ofNat (16 * high + low) :: bytes

/-- The value of a run of digits, most significant first. -/
def number? (digits : List Char) : Option Nat :=
  digits.foldlM (fun n c => (value? c).map (16 * n + ·)) 0

theorem value?_digit (n : Nat) (h : n < 16) : value? (digit n) = some n := by
  revert h; revert n; decide

theorem byte_split (byte : UInt8) :
    UInt8.ofNat (16 * (byte.toNat / 16) + byte.toNat % 16) = byte := by
  rw [Nat.div_add_mod]; simp

/-- What is written is read back. -/
theorem bytes?_flatMap (bytes : List UInt8) : bytes? (bytes.flatMap ofByte) = some bytes := by
  induction bytes with
  | nil => rfl
  | cons byte bytes ih =>
    have high := value?_digit (byte.toNat / 16) (by have := byte.toNat_lt; omega)
    have low := value?_digit (byte.toNat % 16) (by omega)
    simp only [List.flatMap_cons, ofByte, List.cons_append, List.nil_append, bytes?, high, low, ih,
      Option.bind_eq_bind, Option.bind_some, byte_split]
    rfl

end DiscoveryGraph.Text.Hex
