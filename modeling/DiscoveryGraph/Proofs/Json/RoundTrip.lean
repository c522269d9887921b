import DiscoveryGraph.Proofs.Json.Numeral
import DiscoveryGraph.Proofs.Json.Quoting

/-! Written JSON is read back: the text of a value is read as that value, if its numbers are in range and
spelled as numbers are, and if there is room for the arrays and objects in it. -/
namespace DiscoveryGraph.Json
open Reader

mutual

/-- The reader has room for the value and takes every number in it as it is spelled. -/
def Fits (room : Nat) : Json → Prop
  | .null | .bool _ | .string _ => True
  | .int value => number? (toString value).toList = some (.int value, [])
  | .decimal spelling => number? spelling.toList = some (.decimal spelling, [])
  | .array items => room ≠ 0 ∧ ItemsFit (room - 1) items
  | .object fields => room ≠ 0 ∧ FieldsFit (room - 1) fields
  | .unreadable => False

def ItemsFit (room : Nat) : List Json → Prop
  | [] => True
  | item :: items => item.Fits room ∧ ItemsFit room items

def FieldsFit (room : Nat) : List (String × Json) → Prop
  | [] => True
  | (_, value) :: fields => value.Fits room ∧ FieldsFit room fields

end

mutual

/-- What fits can be held. -/
theorem Fits.isReadable {room : Nat} : ∀ {j : Json}, j.Fits room → j.isReadable
  | .null, _ | .bool _, _ | .int _, _ | .decimal _, _ | .string _, _ => rfl
  | .array _, fits => itemsReadable_of_fit fits.2
  | .object _, fits => fieldsReadable_of_fit fits.2

theorem itemsReadable_of_fit {room : Nat} : ∀ {items : List Json}, ItemsFit room items → itemsReadable items
  | [], _ => rfl
  | _ :: _, ⟨fits, others⟩ => by
    rw [itemsReadable, fits.isReadable, itemsReadable_of_fit others]
    rfl

theorem fieldsReadable_of_fit {room : Nat} : ∀ {fields : List (String × Json)}, FieldsFit room fields →
    fieldsReadable fields
  | [], _ => rfl
  | (_, _) :: _, ⟨fits, others⟩ => by
    rw [fieldsReadable, fits.isReadable, fieldsReadable_of_fit others]
    rfl

end

variable {room n : Nat} {c : Char} {cs rest : List Char} {j item : Json} {items : List Json} {name : String}
  {fields : List (String × Json)}

namespace Reader

theorem skipBlanks_cons (dark : isBlank c = false) : skipBlanks (c :: cs) = c :: cs := by
  simp [skipBlanks, dark]

/-- A numeral starts with a digit or a minus sign. -/
theorem exists_of_number? {read : Json × List Char} (numeral : number? cs = some read) :
    ∃ c tail, cs = c :: tail ∧ (c = '-' ∨ isDigit c = true) := by
  cases cs with
  | nil => cases numeral
  | cons c tail =>
    refine ⟨c, tail, rfl, ?_⟩
    by_cases minus : c = '-'
    · exact .inl minus
    · cases digit : isDigit c with
      | true => exact .inr rfl
      | false => simp [number?, minus, whole?, digits?, digit] at numeral

/-- Characters that a numeral can start with have no other meaning. -/
theorem not_mem_of_numeral (head : c = '-' ∨ isDigit c = true) :
    c ∉ [' ', '\t', '\r', '\n', '"', '[', ']', '\x7b', '\x7d', 'n', 't', 'f'] := by
  rcases head with rfl | digit
  · decide
  · obtain ⟨least, most⟩ := Text.Decimal.range_of_value? digit
    intro mem
    simp only [List.mem_cons, List.not_mem_nil, or_false] at mem
    rcases mem with rfl | rfl | rfl | rfl | rfl | rfl | rfl | rfl | rfl | rfl | rfl | rfl <;> revert least most <;> decide

theorem dark_of_numeral (head : c = '-' ∨ isDigit c = true) : isBlank c = false ∧ c ≠ ']' := by
  have other := not_mem_of_numeral head
  simp only [List.mem_cons, List.not_mem_nil, or_false, not_or] at other
  simp [isBlank, other]

theorem value?_numeral (head : c = '-' ∨ isDigit c = true) : value? room (n + 1) (c :: cs) = number? (c :: cs) := by
  have other := not_mem_of_numeral head
  simp only [List.mem_cons, List.not_mem_nil, or_false, not_or] at other
  obtain ⟨-, -, -, -, quote, bracket, -, brace, -, null, yes, no⟩ := other
  simp [value?, skipBlanks_cons (dark_of_numeral head).1]

end Reader

/-- The text of a value starts with a character that is neither blank nor a closing bracket. -/
theorem exists_write (fits : j.Fits room) : ∃ c cs, write j = c :: cs ∧ isBlank c = false ∧ c ≠ ']' := by
  cases j with
  | null => exact ⟨_, _, rfl, by decide, by decide⟩
  | bool value => cases value <;> exact ⟨_, _, rfl, by decide, by decide⟩
  | string text => exact ⟨_, _, rfl, by decide, by decide⟩
  | array items => exact ⟨_, _, rfl, by decide, by decide⟩
  | object fields => exact ⟨_, _, rfl, by decide, by decide⟩
  | unreadable => exact fits.elim
  | int value =>
    rw [Fits] at fits
    obtain ⟨c, cs, shown, head⟩ := exists_of_number? fits
    exact ⟨c, cs, by rw [write, shown], dark_of_numeral head⟩
  | decimal spelling =>
    rw [Fits] at fits
    obtain ⟨c, cs, shown, head⟩ := exists_of_number? fits
    exact ⟨c, cs, by rw [write, shown], dark_of_numeral head⟩

theorem exists_writeItems (fits : item.Fits room) (items : List Json) :
    ∃ c cs, writeItems (item :: items) = c :: cs ∧ isBlank c = false ∧ c ≠ ']' := by
  obtain ⟨c, cs, shown, dark, noBracket⟩ := exists_write fits
  cases items with
  | nil => exact ⟨c, cs ++ [']'], by rw [writeItems, shown, List.cons_append], dark, noBracket⟩
  | cons next items =>
    refine ⟨c, cs ++ ',' :: writeItems (next :: items), ?_, dark, noBracket⟩
    rw [writeItems, shown, List.cons_append]
    simp

theorem exists_writeFields (field : String × Json) (fields : List (String × Json)) :
    ∃ cs, writeFields (field :: fields) = '"' :: cs := by
  cases fields with
  | nil => exact ⟨_, rfl⟩
  | cons next fields => exact ⟨_, rfl⟩

/-- With `n` calls values are read that are written with no more than half as many characters. -/
def ReadsValues (n : Nat) : Prop := ∀ room j rest, Fits room j → Closes rest → 2 * (write j).length ≤ n →
  Reader.value? room n (write j ++ rest) = some (j, rest)

def ReadsItems (n : Nat) : Prop := ∀ room items rest, items ≠ [] → ItemsFit room items →
  2 * (writeItems items).length + 1 ≤ n → Reader.items? room n (writeItems items ++ rest) = some (items, rest)

def ReadsFields (n : Nat) : Prop := ∀ room fields rest, fields ≠ [] → FieldsFit room fields →
  2 * (writeFields fields).length + 1 ≤ n →
  Reader.fields? room n (writeFields fields ++ rest) = some (fields.map fun field => (some field.1, field.2), rest)

theorem closes_cons (ends : c ∈ [',', ']', '\x7d']) : Closes (c :: rest) := by
  intro d head
  cases head
  exact ends

theorem readsItems_succ (values : ReadsValues n) (readsItems : ReadsItems n) : ReadsItems (n + 1) := by
  intro room items rest some_item fit enough
  cases items with
  | nil => exact absurd rfl some_item
  | cons item items =>
    obtain ⟨fitItem, fitItems⟩ := fit
    cases items with
    | nil =>
      rw [writeItems, List.length_append] at enough
      have first := values room item (']' :: rest) fitItem (closes_cons (by decide)) (by omega)
      have bracket : skipBlanks (']' :: rest) = ']' :: rest := skipBlanks_cons (by decide)
      rw [writeItems, List.append_assoc, List.singleton_append, items?, first]
      simp [bracket]
    | cons next items =>
      rw [writeItems, List.length_append, List.length_cons] at enough
      · have first := values room item (',' :: (writeItems (next :: items) ++ rest)) fitItem
          (closes_cons (by decide)) (by omega)
        have others := readsItems room (next :: items) rest (by simp) fitItems (by omega)
        have comma : skipBlanks (',' :: (writeItems (next :: items) ++ rest)) =
          ',' :: (writeItems (next :: items) ++ rest) := skipBlanks_cons (by decide)
        rw [writeItems, List.append_assoc, List.cons_append, items?, first]
        · simp [comma, others]
        · simp
      · simp

theorem readsFields_succ (values : ReadsValues n) (readsFields : ReadsFields n) : ReadsFields (n + 1) := by
  intro room fields rest some_field fit enough
  cases fields with
  | nil => exact absurd rfl some_field
  | cons field fields =>
    obtain ⟨name, value⟩ := field
    obtain ⟨fitValue, fitFields⟩ := fit
    have opening {rest : List Char} : skipBlanks ('"' :: rest) = '"' :: rest := skipBlanks_cons (by decide)
    have colon {rest : List Char} : skipBlanks (':' :: rest) = ':' :: rest := skipBlanks_cons (by decide)
    cases fields with
    | nil =>
      simp only [writeFields, quote, List.cons_append, List.length_append, List.length_cons, List.length_nil] at enough
      have first := values room value ('\x7d' :: rest) fitValue (closes_cons (by decide)) (by omega)
      have brace : skipBlanks ('\x7d' :: rest) = '\x7d' :: rest := skipBlanks_cons (by decide)
      simp [writeFields, quote, Reader.fields?, opening, string?_quote, colon, first, brace]
    | cons next fields =>
      have shown : writeFields ((name, value) :: next :: fields) =
          quote name ++ ':' :: (write value ++ ',' :: writeFields (next :: fields)) := by
        rw [writeFields]
        simp
      simp only [shown, quote, List.cons_append, List.length_append, List.length_cons] at enough
      have first := values room value (',' :: (writeFields (next :: fields) ++ rest)) fitValue
        (closes_cons (by decide)) (by omega)
      have others := readsFields room (next :: fields) rest (by simp) fitFields (by omega)
      have comma : skipBlanks (',' :: (writeFields (next :: fields) ++ rest)) =
        ',' :: (writeFields (next :: fields) ++ rest) := skipBlanks_cons (by decide)
      rw [shown]
      simp [quote, Reader.fields?, opening, string?_quote, colon, first, comma, others]

theorem ofFields_some (fields : List (String × Json)) :
    ofFields (fields.map fun field => (some field.1, field.2)) = .object fields := by
  have held : (fields.map fun field => (some field.1, field.2)).mapM
      (fun field => field.1.map (·, field.2)) = some fields := by
    induction fields with
    | nil => rfl
    | cons field fields ih => simp [ih]
  unfold ofFields
  split
  · rename_i fields' found
    rw [Option.some.inj (found.symm.trans held)]
  · rename_i unfound
    cases unfound.symm.trans held

theorem readsValues_succ (readsItems : ReadsItems n) (readsFields : ReadsFields n) : ReadsValues (n + 1) := by
  intro room j rest fits closes enough
  -- Numerals of either sort are read up to what closes them.
  have numeral {cs : List Char} (read : number? cs = some (j, [])) :
      value? room (n + 1) (cs ++ rest) = some (j, rest) := by
    obtain ⟨c, tail, rfl, head⟩ := exists_of_number? read
    rw [List.cons_append, value?_numeral head, ← List.cons_append, number?_append closes, read]
    rfl
  cases j with
  | null => rfl
  | bool value => cases value <;> rfl
  | int value => exact numeral fits
  | decimal spelling => exact numeral fits
  | string text =>
    have opening {rest : List Char} : skipBlanks ('"' :: rest) = '"' :: rest := skipBlanks_cons (by decide)
    simp [write, quote, value?, opening, string?_quote, ofText]
  | unreadable => exact fits.elim
  | array items =>
    obtain ⟨space, fit⟩ := fits
    have opening {rest : List Char} : skipBlanks ('[' :: rest) = '[' :: rest := skipBlanks_cons (by decide)
    cases items with
    | nil =>
      have closing : skipBlanks (']' :: rest) = ']' :: rest := skipBlanks_cons (by decide)
      simp [write, writeItems, value?, opening, closing, nested, space]
    | cons item items =>
      rw [write, List.length_cons] at enough
      have read := readsItems (room - 1) (item :: items) rest (by simp) fit (by omega)
      obtain ⟨c, tail, shown, dark, noBracket⟩ := exists_writeItems fit.1 items
      rw [shown, List.cons_append] at read
      simp [write, shown, value?, opening, skipBlanks_cons dark, noBracket, read, nested, space]
  | object fields =>
    obtain ⟨space, fit⟩ := fits
    have opening {rest : List Char} : skipBlanks ('\x7b' :: rest) = '\x7b' :: rest := skipBlanks_cons (by decide)
    cases fields with
    | nil =>
      have closing : skipBlanks ('\x7d' :: rest) = '\x7d' :: rest := skipBlanks_cons (by decide)
      simp [write, writeFields, value?, opening, closing, nested, space]
    | cons field fields =>
      rw [write, List.length_cons] at enough
      have read := readsFields (room - 1) (field :: fields) rest (by simp) fit (by omega)
      obtain ⟨tail, shown⟩ := exists_writeFields field fields
      have quoted : skipBlanks ('"' :: (tail ++ rest)) = '"' :: (tail ++ rest) := skipBlanks_cons (by decide)
      have whole : ofFields ((some field.1, field.2) :: fields.map fun field => (some field.1, field.2)) =
        .object (field :: fields) := ofFields_some (field :: fields)
      rw [shown, List.cons_append] at read
      simp [write, shown, value?, opening, quoted, read, whole, nested, space]

theorem reads (n : Nat) : ReadsValues n ∧ ReadsItems n ∧ ReadsFields n := by
  induction n with
  | zero =>
    refine ⟨?_, ?_, ?_⟩
    · intro room j rest fits _ enough
      obtain ⟨c, cs, shown, -⟩ := exists_write fits
      simp [shown] at enough
    · intro room items rest _ _ enough
      omega
    · intro room fields rest _ _ enough
      omega
  | succ n ih =>
    obtain ⟨values, items, fields⟩ := ih
    exact ⟨readsValues_succ items fields, readsItems_succ values items, readsFields_succ values fields⟩

/-- The text of a value is read as that value. -/
theorem parse?_render (fits : j.Fits nesting) : parse? j.render = some j := by
  have read := (reads (2 * (write j).length + 2)).1 nesting j [] fits (by simp [Closes]) (by omega)
  rw [List.append_nil] at read
  rw [parse?, render, String.toList_ofList]
  simp only [read]
  rfl

end DiscoveryGraph.Json
