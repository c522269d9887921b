import DiscoveryGraph.Json.Binary64
import DiscoveryGraph.Json.Value
import DiscoveryGraph.Text.Decimal
import DiscoveryGraph.Text.Hex

/-! Reading JSON text. The grammar is taken strictly: no comments, no comma before a closing
bracket, no leading zero, no bare control character in a string, and nothing but blanks around
the one value. What is spelled well but cannot be held is read as unreadable. -/
namespace DiscoveryGraph.Json
namespace Reader

/-- The characters that may stand between tokens. -/
def isBlank (c : Char) : Bool := c = ' ' || c = '\t' || c = '\r' || c = '\n'

def skipBlanks (cs : List Char) : List Char := cs.dropWhile isBlank

/-- A part of a string: a character, or the sixteen-bit unit of a numeric escape. -/
inductive Piece where
  | char (c : Char)
  | unit (n : Nat)

/-- The character behind a backslash, numeric escapes apart. -/
def shortEscape? : Char → Option Char
  | '"' => some '"'
  | '\\' => some '\\'
  | '/' => some '/'
  | 'b' => some '\x08'
  | 'f' => some '\x0c'
  | 'n' => some '\n'
  | 'r' => some '\r'
  | 't' => some '\t'
  | _ => none

/-- The parts of a string up to its closing quote, and what follows the quote. -/
def pieces? : List Char → Option (List Piece × List Char)
  | [] => none
  | '"' :: rest => some ([], rest)
  | '\\' :: 'u' :: a :: b :: c :: d :: rest => do
    let n ← Text.Hex.number? [a, b, c, d]
    let (pieces, rest) ← pieces? rest
    return (.unit n :: pieces, rest)
  | '\\' :: c :: rest => do
    let c ← shortEscape? c
    let (pieces, rest) ← pieces? rest
    return (.char c :: pieces, rest)
  | c :: rest =>
    if c.toNat < 0x20 then none
    else do
      let (pieces, rest) ← pieces? rest
      return (.char c :: pieces, rest)

def isHighUnit (n : Nat) : Bool := 0xD800 ≤ n && n < 0xDC00

def isLowUnit (n : Nat) : Bool := 0xDC00 ≤ n && n < 0xE000

/-- The character of a pair of units. -/
def pairUnits (high low : Nat) : Char :=
  Char.ofNat (0x10000 + 0x400 * (high - 0xD800) + (low - 0xDC00))

/-- Joins pairs of units; a half without the other is refused. -/
def joinPieces? : List Piece → Option (List Char)
  | [] => some []
  | .char c :: pieces => (joinPieces? pieces).map (c :: ·)
  | [.unit n] => if isHighUnit n || isLowUnit n then none else some [Char.ofNat n]
  | .unit n :: .char c :: pieces =>
    if isHighUnit n || isLowUnit n then none
    else (joinPieces? pieces).map (Char.ofNat n :: c :: ·)
  | .unit n :: .unit m :: pieces =>
    if isHighUnit n then
      if isLowUnit m then (joinPieces? pieces).map (pairUnits n m :: ·) else none
    else if isLowUnit n then none
    else (joinPieces? (.unit m :: pieces)).map (Char.ofNat n :: ·)

/-- Reads a string whose opening quote has been read; `none` stands for one that cannot be
held. -/
def string? (cs : List Char) : Option (Option String × List Char) := do
  let (pieces, rest) ← pieces? cs
  return ((joinPieces? pieces).map String.ofList, rest)

/-- The value that a string is. -/
def ofText : Option String → Json
  | some text => .string text
  | none => .unreadable

def isDigit (c : Char) : Bool := (Text.Decimal.value? c).isSome

/-- Reads at least one digit. -/
def digits? (cs : List Char) : Option (List Char × List Char) :=
  let digits := cs.takeWhile isDigit
  if digits.isEmpty then none else some (digits, cs.dropWhile isDigit)

/-- The digits before the point: a zero stands alone. -/
def whole? (cs : List Char) : Option (List Char × List Char) := do
  let (digits, rest) ← digits? cs
  if digits.head? = some '0' ∧ digits.length ≠ 1 then none else return (digits, rest)

/-- An optional fraction, as spelled. -/
def fraction? : List Char → Option (List Char × List Char)
  | '.' :: rest => do
    let (digits, rest) ← digits? rest
    return ('.' :: digits, rest)
  | rest => some ([], rest)

/-- An optional exponent, as spelled and as a number. -/
def exponent? : List Char → Option ((List Char × Int) × List Char)
  | e :: rest =>
    if e = 'e' ∨ e = 'E' then do
      let sign := (rest.take 1).filter fun c => c = '+' || c = '-'
      let (digits, rest) ← digits? (rest.drop sign.length)
      let n ← Text.Decimal.number? digits
      return ((e :: (sign ++ digits), if sign = ['-'] then -n else n), rest)
    else some (([], 0), e :: rest)
  | [] => some (([], 0), [])

/-- Reads a number. -/
def number? (cs : List Char) : Option (Json × List Char) := do
  let sign := cs.takeWhile (· = '-')
  if 1 < sign.length then none
  else
    let (whole, rest) ← whole? (cs.drop sign.length)
    let (fraction, rest) ← fraction? rest
    let ((exponent, power), rest) ← exponent? rest
    let n ← Text.Decimal.number? whole
    if !(Scaled.ofParts whole (fraction.drop 1) power).isFinite then
      return (.unreadable, rest)
    else if fraction.isEmpty && exponent.isEmpty && (sign.isEmpty || n != 0) then
      return (.int (if sign.isEmpty then n else -n), rest)
    else
      return (.decimal (String.ofList (sign ++ whole ++ fraction ++ exponent)), rest)

/-- Reads the given word. -/
def word? (word : String) (value : Json) (cs : List Char) : Option (Json × List Char) :=
  if word.toList.isPrefixOf cs then some (value, cs.drop word.length) else none

/-- How many arrays and objects may stand in one another. -/
def nesting : Nat := 127

/-- An array or object, if there was room for it. -/
def nested (room : Nat) (value : Json) : Json := if room = 0 then .unreadable else value

/-- The object that fields make up, if all their names can be held. -/
def ofFields (fields : List (Option String × Json)) : Json :=
  match fields.mapM fun (name?, value) => name?.map (·, value) with
  | some fields => .object fields
  | none => .unreadable

mutual

/-- Reads a value with room for `room` arrays and objects in one another, going at most `n`
calls deep. -/
def value? (room : Nat) : Nat → List Char → Option (Json × List Char)
  | 0, _ => none
  | n + 1, cs =>
    match skipBlanks cs with
    | [] => none
    | '"' :: rest => (string? rest).map fun (text?, rest) => (ofText text?, rest)
    | '[' :: rest =>
      match skipBlanks rest with
      | ']' :: rest => some (nested room (.array []), rest)
      | rest =>
        (items? (room - 1) n rest).map fun (items, rest) => (nested room (.array items), rest)
    | '\x7b' :: rest =>
      match skipBlanks rest with
      | '\x7d' :: rest => some (nested room (.object []), rest)
      | rest =>
        (fields? (room - 1) n rest).map fun (fields, rest) => (nested room (ofFields fields), rest)
    | 'n' :: rest => word? "null" .null ('n' :: rest)
    | 't' :: rest => word? "true" (.bool true) ('t' :: rest)
    | 'f' :: rest => word? "false" (.bool false) ('f' :: rest)
    | c :: rest => number? (c :: rest)

/-- Reads the items of an array, at least one, and its closing bracket. -/
def items? (room : Nat) : Nat → List Char → Option (List Json × List Char)
  | 0, _ => none
  | n + 1, cs => do
    let (item, rest) ← value? room n cs
    match skipBlanks rest with
    | ',' :: rest => (items? room n rest).map fun (items, rest) => (item :: items, rest)
    | ']' :: rest => some ([item], rest)
    | _ => none

/-- Reads the fields of an object, at least one, and its closing brace. -/
def fields? (room : Nat) : Nat → List Char → Option (List (Option String × Json) × List Char)
  | 0, _ => none
  | n + 1, cs =>
    match skipBlanks cs with
    | '"' :: rest => do
      let (name?, rest) ← string? rest
      match skipBlanks rest with
      | ':' :: rest =>
        let (value, rest) ← value? room n rest
        match skipBlanks rest with
        | ',' :: rest =>
          (fields? room n rest).map fun (fields, rest) => ((name?, value) :: fields, rest)
        | '\x7d' :: rest => some ([(name?, value)], rest)
        | _ => none
      | _ => none
    | _ => none

end

end Reader

/-- Reads a text that holds one value. A call descends only past a character it has read, so
twice the length of the text is deep enough. -/
def parse? (text : String) : Option Json := do
  let cs := text.toList
  let (value, rest) ← Reader.value? Reader.nesting (2 * cs.length + 2) cs
  if (Reader.skipBlanks rest).isEmpty then return value else none

end DiscoveryGraph.Json
