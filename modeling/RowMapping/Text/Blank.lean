import RowMapping.Text.Ranges

/-!
# Blanks

`isBlank` is white space of any script; `isAsciiBlank` is the part that surrounds a written
number.
-/

namespace RowMapping.Text

/-- white space and the separators that count as such -/
def blankRanges : Ranges :=
  [(0x9, 0xD), (0x1C, 0x20), (0x85, 0x85), (0xA0, 0xA0), (0x1680, 0x1680), (0x2000, 0x200A),
   (0x2028, 0x2029), (0x202F, 0x202F), (0x205F, 0x205F), (0x3000, 0x3000)]

def isBlank (c : Char) : Bool := blankRanges.has c

/-- space, tab, line feed, vertical tab, form feed and carriage return -/
def isAsciiBlank (c : Char) : Bool := c == ' ' || decide (9 ≤ c.toNat) && decide (c.toNat ≤ 13)

/-- a text without the blanks of the class `blank` at its two ends -/
def trim (blank : Char → Bool) (s : List Char) : List Char :=
  ((s.dropWhile blank).reverse.dropWhile blank).reverse

end RowMapping.Text
