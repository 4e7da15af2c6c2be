import Conform.Text.Ranges

/-!
# White space

The white space of Unicode: the ASCII controls that move the carriage, the four separator controls, and the
spaces and line separators beyond ASCII.  Where only the first of these count, and the space, there is
`isAsciiBlank`.
-/

namespace Conform.Text

/-- The white-space characters. -/
def blankRanges : Ranges :=
  [(0x9, 0xD), (0x1C, 0x20), (0x85, 0x85), (0xA0, 0xA0), (0x1680, 0x1680), (0x2000, 0x200A), (0x2028, 0x2029),
  (0x202F, 0x202F), (0x205F, 0x205F), (0x3000, 0x3000)]

/-- A white-space character. -/
def isBlank (c : Char) : Bool := blankRanges.has c

/-- The text without the white space at either end. -/
def trim (cs : List Char) : List Char :=
  ((cs.dropWhile isBlank).reverse.dropWhile isBlank).reverse

/-- A space or an ASCII control that moves the carriage. -/
def isAsciiBlank (c : Char) : Bool := c == ' ' || ('\t' ≤ c && c ≤ '\r')

/-- The text without the ASCII white space at either end. -/
def trimAscii (cs : List Char) : List Char :=
  ((cs.dropWhile isAsciiBlank).reverse.dropWhile isAsciiBlank).reverse

end Conform.Text
