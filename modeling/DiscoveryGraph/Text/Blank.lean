/-! Blank text. A name has to hold a character that is not white space in the sense of the
Unicode property of that name, which also covers separators beyond the control characters. -/
namespace DiscoveryGraph.Text

/-- The Unicode property White_Space. -/
def isWhiteSpace (c : Char) : Bool :=
  let n := c.toNat
  (9 ≤ n && n ≤ 13) || n == 0x20 || n == 0x85 || n == 0xA0 || n == 0x1680 ||
    (0x2000 ≤ n && n ≤ 0x200A) || n == 0x2028 || n == 0x2029 || n == 0x202F || n == 0x205F ||
    n == 0x3000

/-- Nothing but white space, or nothing at all. -/
def isBlank (text : String) : Bool := text.toList.all isWhiteSpace

/-- Every character that the core library takes for white space is one. -/
theorem isWhiteSpace_of_isWhitespace (c : Char) (h : c.isWhitespace = true) :
    isWhiteSpace c = true := by
  simp only [Char.isWhitespace, Bool.or_eq_true, decide_eq_true_eq] at h
  rcases h with ((h | h) | h) | h <;> subst h <;> rfl

end DiscoveryGraph.Text
