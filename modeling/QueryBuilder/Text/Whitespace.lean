/-!
# White space

The characters with the Unicode property White_Space. Every character that core counts as
white space is one of them (`isSpace_of_isWhitespace`).
-/

namespace QueryBuilder.Text
set_option autoImplicit false

/-- Characters with the property White_Space. -/
def isSpace (c : Char) : Bool :=
  ('\t' ≤ c && c ≤ '\r') || c == ' ' || c == '\x85' || c == '\xa0' || c == '\u1680' ||
    ('\u2000' ≤ c && c ≤ '\u200a') || c == '\u2028' || c == '\u2029' || c == '\u202f' ||
    c == '\u205f' || c == '\u3000'

theorem isSpace_of_isWhitespace {c : Char} (h : c.isWhitespace = true) : isSpace c = true := by
  simp only [Char.isWhitespace, Bool.or_eq_true, decide_eq_true_eq] at h
  rcases h with ((h | h) | h) | h <;> subst h <;> decide

/-- The text without white space at its front. -/
def dropSpace (cs : List Char) : List Char := cs.dropWhile isSpace

/-- The text without white space at its end. -/
def dropSpaceEnd (cs : List Char) : List Char := (dropSpace cs.reverse).reverse

end QueryBuilder.Text
