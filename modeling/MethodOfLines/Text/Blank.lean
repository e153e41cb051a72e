import MethodOfLines.Text.Ranges

/-!
# Text/Blank — white space, and what is left of a name without it

Names and tags are read without the blanks around them. A blank is a character with the Unicode
property `White_Space`; the control characters U+001C to U+001F and the zero-width characters do not
have it.
-/

namespace MethodOfLines.Text

/-- The ranges of `White_Space`, in increasing order. -/
def blankRanges : Ranges :=
  [(0x0009, 0x000D), (0x0020, 0x0020), (0x0085, 0x0085), (0x00A0, 0x00A0), (0x1680, 0x1680),
    (0x2000, 0x200A), (0x2028, 0x2029), (0x202F, 0x202F), (0x205F, 0x205F), (0x3000, 0x3000)]

/-- Whether a character is `White_Space`. -/
def isBlank (c : Char) : Bool :=
  inRanges blankRanges c

/-- The characters without the blanks in front. -/
def trimStart (cs : List Char) : List Char :=
  cs.dropWhile isBlank

/-- The characters without the blanks at the end. -/
def trimEnd (cs : List Char) : List Char :=
  (cs.reverse.dropWhile isBlank).reverse

/-- **The characters without the blanks around them.** -/
def trim (cs : List Char) : List Char :=
  trimEnd (trimStart cs)

end MethodOfLines.Text
