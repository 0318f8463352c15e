/-!
# Blank characters

`Blank.isBlank` is the Unicode White_Space property: the control characters tab to carriage
return (`U+0009`–`U+000D`), the space, next line (`U+0085`), the no-break space (`U+00A0`), the
Ogham space mark (`U+1680`), the typographic spaces `U+2000`–`U+200A`, the line and paragraph
separators (`U+2028`, `U+2029`), the narrow no-break space (`U+202F`), the medium mathematical
space (`U+205F`) and the ideographic space (`U+3000`).

Every character that core counts as whitespace is blank (`isBlank_of_isWhitespace`).
-/

namespace Stimulator.Blank

/-- Whether a character has the Unicode White_Space property. -/
def isBlank (c : Char) : Bool :=
  let n := c.toNat
  (0x09 ≤ n && n ≤ 0x0D) || n = 0x20 || n = 0x85 || n = 0xA0 || n = 0x1680 ||
    (0x2000 ≤ n && n ≤ 0x200A) || n = 0x2028 || n = 0x2029 || n = 0x202F || n = 0x205F ||
    n = 0x3000

theorem isBlank_of_isWhitespace (c : Char) (h : c.isWhitespace = true) : isBlank c = true := by
  unfold Char.isWhitespace at h
  unfold isBlank
  simp only [Bool.or_eq_true, decide_eq_true_eq] at h
  rcases h with ((space | tab) | cr) | lf
  · rw [space]
    decide
  · rw [tab]
    decide
  · rw [cr]
    decide
  · rw [lf]
    decide

end Stimulator.Blank
