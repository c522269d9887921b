import DiscoveryGraph.Json.Reader
import DiscoveryGraph.Json.Writer

/-! Quoted strings. Whatever text is put in quotes, the characters that may not stand there escaped, is
read from there again. -/
namespace DiscoveryGraph.Json.Reader
variable {c : Char} {n : Nat} {pieces : List Piece} {rest cs : List Char}

/-- The part of a string that a character is written as. -/
def pieceOf (c : Char) : Piece := if c.toNat < 0x20 then .unit c.toNat else .char c

theorem number?_control (control : c.toNat < 0x20) :
    Text.Hex.number? ['0', '0', Text.Hex.digit (c.toNat / 16), Text.Hex.digit (c.toNat % 16)] = some c.toNat := by
  have zero : Text.Hex.value? '0' = some 0 := by decide
  have high := Text.Hex.value?_digit (c.toNat / 16) (by omega)
  have low := Text.Hex.value?_digit (c.toNat % 16) (by omega)
  simp only [Text.Hex.number?, List.foldlM_cons, List.foldlM_nil, zero, high, low, Option.map_some,
    Option.bind_eq_bind, Option.bind_some, pure, Option.some.injEq]
  omega

/-- An escaped character is one part of a string. -/
theorem pieces?_escape : pieces? (escape c ++ rest) =
    (pieces? rest).map fun (pieces, rest) => (pieceOf c :: pieces, rest) := by
  by_cases quote : c = '"'
  · subst quote
    cases read : pieces? rest <;> simp [escape, pieces?, shortEscape?, pieceOf, read]
  by_cases backslash : c = '\\'
  · subst backslash
    cases read : pieces? rest <;> simp [escape, pieces?, shortEscape?, pieceOf, read]
  by_cases control : c.toNat < 0x20
  · have number := number?_control control
    cases read : pieces? rest <;> simp [escape, quote, backslash, control, pieces?, number, pieceOf, read]
  · cases read : pieces? rest <;> simp [escape, quote, backslash, control, pieces?, pieceOf, read]

theorem joinPieces?_unit (single : n < 0xD800) :
    joinPieces? (.unit n :: pieces) = (joinPieces? pieces).map (Char.ofNat n :: ·) := by
  have notHigh : isHighUnit n = false := by
    simp only [isHighUnit, Bool.and_eq_false_iff, decide_eq_false_iff_not]
    omega
  have notLow : isLowUnit n = false := by
    simp only [isLowUnit, Bool.and_eq_false_iff, decide_eq_false_iff_not]
    omega
  cases pieces with
  | nil => simp [joinPieces?, notHigh, notLow]
  | cons piece pieces =>
    cases piece with
    | char c =>
      simp only [joinPieces?, notHigh, notLow, Option.map_map]
      rfl
    | unit m => simp [joinPieces?, notHigh, notLow]

theorem joinPieces?_pieceOf : joinPieces? (cs.map pieceOf) = some cs := by
  induction cs with
  | nil => rfl
  | cons c cs ih =>
    rw [List.map_cons, pieceOf]
    split
    · rename_i control
      rw [joinPieces?_unit (by omega), ih, Char.ofNat_toNat]
      rfl
    · rw [joinPieces?, ih]
      rfl

theorem pieces?_escaped : pieces? (cs.flatMap escape ++ '"' :: rest) = some (cs.map pieceOf, rest) := by
  induction cs with
  | nil => rw [List.flatMap_nil, List.nil_append, pieces?, List.map_nil]
  | cons c cs ih =>
    rw [List.flatMap_cons, List.append_assoc, pieces?_escape, ih]
    rfl

/-- Quoted text is read back, up to its closing quote. -/
theorem string?_quote (text : String) (rest : List Char) :
    string? (text.toList.flatMap escape ++ '"' :: rest) = some (some text, rest) := by
  rw [string?, pieces?_escaped]
  simp [joinPieces?_pieceOf]

end DiscoveryGraph.Json.Reader
