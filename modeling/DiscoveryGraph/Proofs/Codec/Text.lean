import Mathlib.Algebra.Ring.Nat
import DiscoveryGraph.Entity.Guid
import DiscoveryGraph.Time.Timestamp

/-! Written forms that are read back: the hyphenated form of a GUID, and the text of an instant in a year
of four digits. -/
namespace DiscoveryGraph

namespace Guid
variable {separator : Char} {size : Nat} {sizes : List Nat} {cs : List Char}

theorem length_group (total : cs.length = (size :: sizes).sum) :
    (group separator (size :: sizes) cs).length = cs.length + sizes.length := by
  induction sizes generalizing size cs with
  | nil => rfl
  | cons next sizes ih =>
    rw [List.sum_cons] at total
    have rest : (cs.drop size).length = (next :: sizes).sum := by
      rw [List.length_drop]
      omega
    rw [group, List.length_append, List.length_cons, ih rest, List.length_take, List.length_drop,
      List.length_cons]
    omega

/-- Groups that are all filled are put together again. -/
theorem ungroup?_group (total : cs.length = (size :: sizes).sum) :
    ungroup? separator (size :: sizes) (group separator (size :: sizes) cs) = some cs := by
  induction sizes generalizing size cs with
  | nil =>
    rw [List.sum_singleton] at total
    rw [group, ungroup?, if_pos total]
  | cons next sizes ih =>
    rw [List.sum_cons] at total
    have first : (cs.take size).length = size := by
      rw [List.length_take]
      omega
    have rest : (cs.drop size).length = (next :: sizes).sum := by
      rw [List.length_drop]
      omega
    rw [group, ungroup?, List.drop_left' first, List.take_left' first]
    simp [ih rest]

theorem length_flatMap_ofByte (bytes : List UInt8) :
    (bytes.flatMap Text.Hex.ofByte).length = 2 * bytes.length := by
  induction bytes with
  | nil => rfl
  | cons byte bytes ih =>
    rw [List.flatMap_cons, List.length_append, ih, List.length_cons]
    simp only [Text.Hex.ofByte, List.length_cons, List.length_nil]
    omega

theorem length_digits (guid : Guid) : guid.digits.length = 32 := by
  rw [digits, length_flatMap_ofByte, Vector.length_toList]

theorem ofDigits?_digits (guid : Guid) : ofDigits? guid.digits = some guid := by
  rw [ofDigits?, digits, Text.Hex.bytes?_flatMap]
  exact ofBytes?_toList guid

/-- The hyphenated form is read back. -/
theorem ofText?_hyphenated (guid : Guid) : ofText? guid.hyphenated = some guid := by
  have total : guid.digits.length = hyphenSizes.sum := guid.length_digits
  have length : (group '-' hyphenSizes guid.digits).length = 36 := by
    rw [hyphenSizes, length_group total, length_digits]
    rfl
  have joined : ungroup? '-' hyphenSizes (group '-' hyphenSizes guid.digits) = some guid.digits :=
    ungroup?_group total
  simp [ofText?, hyphenated, length, ofHyphenated?, joined, ofDigits?_digits]

end Guid

namespace Text.Decimal
variable {c : Char} {width n : Nat} {rest : List Char}

theorem exists_padded (width n : Nat) : ∃ c cs, padded (width + 1) n = c :: cs ∧ (value? c).isSome := by
  cases shown : padded (width + 1) n with
  | nil => simpa [shown] using length_padded (width + 1) n
  | cons c cs =>
    have mem : c ∈ padded (width + 1) n := by simp [shown]
    exact ⟨c, cs, rfl, value?_of_mem_padded mem⟩

/-- Digits end where something else comes, even if more might have come. -/
theorem leading_padded_of_le {limit : Nat} (le : width ≤ limit) (stop : value? c = none) :
    leading limit (padded width n ++ c :: rest) = padded width n := by
  rw [leading, List.take_append, List.take_of_length_le (by simpa using le), length_padded,
    List.takeWhile_append_of_pos fun _ mem => value?_of_mem_padded mem]
  cases limit - width <;> simp [stop]

theorem upTo?_padded_of_le {limit : Nat} (some_width : width ≠ 0) (le : width ≤ limit) (stop : value? c = none)
    (fits : n < capacity width) : upTo? limit (padded width n ++ c :: rest) = some (n, c :: rest) := by
  have filled : padded width n ≠ [] := by
    intro empty
    have length := length_padded width n
    rw [empty] at length
    exact some_width length.symm
  simp [upTo?, leading_padded_of_le le stop, filled, number?_padded width n fits]

end Text.Decimal

namespace Timestamp
open Text.Decimal
variable {mark : Char} {width n : Nat} {rest : List Char}

theorem skip_cons {c : Char} (dark : Text.isWhiteSpace c = false) : skip (c :: rest) = c :: rest := by
  simp [skip, dark]

theorem isWhiteSpace_of_value? {c : Char} (digit : (value? c).isSome) : Text.isWhiteSpace c = false := by
  obtain ⟨least, most⟩ := range_of_value? digit
  simp only [Text.isWhiteSpace, Bool.or_eq_false_iff, Bool.and_eq_false_iff, decide_eq_false_iff_not, beq_eq_false_iff_ne]
  omega

theorem skip_padded : skip (padded (width + 1) n ++ rest) = padded (width + 1) n ++ rest := by
  obtain ⟨c, cs, shown, digit⟩ := exists_padded width n
  rw [shown, List.cons_append, skip_cons (isWhiteSpace_of_value? digit)]

theorem part?_padded (fits : n < 100) : part? (padded 2 n ++ rest) = some (n, rest) := by
  rw [part?, skip_padded, upTo?_padded 2 n rest (by decide) fits]

theorem partAfter?_padded (dark : Text.isWhiteSpace mark = false) (fits : n < 100) :
    partAfter? mark (mark :: (padded 2 n ++ rest)) = some (n, rest) := by
  simp [partAfter?, skip_cons dark, expect?, part?_padded fits]

theorem year?_padded (fits : n < 10000) : year? (padded 4 n ++ rest) = some ((n : Int), rest) := by
  have read := upTo?_padded 4 n rest (by decide) fits
  obtain ⟨c, cs, shown, digit⟩ := exists_padded 3 n
  rw [year?, skip_padded]
  rw [shown] at read ⊢
  obtain ⟨least, most⟩ := range_of_value? digit
  split
  · rename_i sign
    cases sign
    exact absurd least (by decide)
  · rename_i sign
    cases sign
    exact absurd least (by decide)
  · rw [read]
    rfl

/-- What is left out at the end of a fraction is zero. -/
theorem fraction?_fractionText (small : n < 1000000000) : fraction? (fractionText n ++ ['Z']) = some (n, ['Z']) := by
  have digits {width k : Nat} (some_width : width ≠ 0) (le : width ≤ 9) (fits : k < capacity width) :
      fraction? ('.' :: padded width k ++ ['Z']) = some (k * capacity (9 - width), ['Z']) := by
    have stop : value? 'Z' = none := by decide
    simp [fraction?, leading_padded_of_le le stop, upTo?_padded_of_le some_width le stop fits, stop]
  unfold fractionText
  split
  · subst n
    rfl
  · split
    · rw [digits (by decide) (by decide) (by simp only [capacity]; omega)]
      simp only [capacity, Option.some.injEq, Prod.mk.injEq, and_true]
      omega
    · split
      · rw [digits (by decide) (by decide) (by simp only [capacity]; omega)]
        simp only [capacity, Option.some.injEq, Prod.mk.injEq, and_true]
        omega
      · rw [digits (by decide) (by decide) (by simpa only [capacity] using small)]
        simp [capacity]

theorem month_day_small (date : Date) : date.month < 100 ∧ date.day < 100 := by
  obtain ⟨year, month, day, first, last⟩ := date
  have most : daysInMonth year month ≤ 31 ∧ (12 < month → daysInMonth year month = 0) := by
    unfold daysInMonth
    split <;> (try split) <;> simp_all
  dsimp only
  omega

theorem bind_of_eq_some {α β : Type} {found : Option α} {rest : α → Option β} {a : α} {b : β}
    (here : found = some a) (there : rest a = some b) : (found >>= rest) = some b := by
  rw [here]
  exact there

/-- The text of an instant in a year of four digits is read back. -/
theorem ofText?_text (t : Timestamp) (early : 0 ≤ t.date.year) (late : t.date.year ≤ 9999) :
    ofText? t.text = some t := by
  obtain ⟨date, ⟨minute, inDay⟩, ⟨second, inMinute⟩, ⟨nanosecond, inSecond⟩⟩ := t
  dsimp only at early late
  obtain ⟨month, day⟩ := month_day_small date
  have year : (date.year.toNat : Int) = date.year := Int.toNat_of_nonneg early
  have hours : minute / 60 < 100 := by omega
  have minutes : minute % 60 < 100 := by omega
  have seconds : second < 100 := by omega
  have shifted : shift date (60 * (minute / 60 : Nat) + (minute % 60 : Nat) - 0) = (date, minute) := by
    have same : (60 * (minute / 60 : Nat) + (minute % 60 : Nat) - 0 : Int) = minute := by omega
    rw [same, shift, if_neg (by omega), if_neg (by omega), Int.toNat_natCast]
  have covered : covers date.year := by
    simp only [covers, Bool.and_eq_true, decide_eq_true_eq]
    omega
  have hour : minute / 60 < 24 := by omega
  have minuteOfHour : minute % 60 < 60 := by omega
  have zone : zone? (skip ['Z']) = some (0, []) := by decide
  have hyphen : Text.isWhiteSpace '-' = false := by decide
  have colon : Text.isWhiteSpace ':' = false := by decide
  have divider {rest : List Char} : expect? ['T', 't', ' '] ('T' :: rest) = some rest := by
    rw [expect?, if_pos List.mem_cons_self]
  have four : date.year.toNat < 10000 := by omega
  have shown : (text ⟨date, ⟨minute, inDay⟩, ⟨second, inMinute⟩, ⟨nanosecond, inSecond⟩⟩).toList =
      padded 4 date.year.toNat ++ '-' :: (padded 2 date.month ++ '-' :: (padded 2 date.day ++ 'T' ::
        (padded 2 (minute / 60) ++ ':' :: (padded 2 (minute % 60) ++ ':' :: (padded 2 second ++
          (fractionText nanosecond ++ ['Z'])))))) := by
    simp only [text, yearText, early, late, and_self, if_true, String.toList_ofList, List.append_assoc,
      List.cons_append]
  rw [ofText?, shown]
  -- Every part is read, and the text is left from which the next is read.
  refine bind_of_eq_some (year?_padded four) ?_
  refine bind_of_eq_some (partAfter?_padded hyphen month) ?_
  refine bind_of_eq_some (partAfter?_padded hyphen day) ?_
  refine bind_of_eq_some (bind_of_eq_some divider (part?_padded hours)) ?_
  refine bind_of_eq_some (partAfter?_padded colon minutes) ?_
  refine bind_of_eq_some (partAfter?_padded colon seconds) ?_
  refine bind_of_eq_some (fraction?_fractionText inSecond) ?_
  refine bind_of_eq_some zone ?_
  rw [year]
  refine bind_of_eq_some date.ofCivil?_self ?_
  dsimp only
  rw [shifted, if_pos ⟨rfl, covered, covered, hour, minuteOfHour⟩, dif_pos ⟨inDay, inMinute, inSecond⟩]
  rfl

end Timestamp
end DiscoveryGraph
