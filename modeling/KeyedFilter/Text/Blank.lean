/-!
# Blank characters

The white space of Unicode (property `White_Space`), which may surround a number in text. It holds
more than the four blanks of ASCII and does not hold the zero-width characters.
-/

namespace KeyedFilter.Text

/-- Is the character white space? -/
def isBlank (c : Char) : Bool :=
  let code := c.toNat
  (0x9 ≤ code && code ≤ 0xd) || code == 0x20 || code == 0x85 || code == 0xa0 || code == 0x1680 ||
    (0x2000 ≤ code && code ≤ 0x200a) || code == 0x2028 || code == 0x2029 || code == 0x202f ||
    code == 0x205f || code == 0x3000

/-- The text without the blanks at its two ends. -/
def trim (text : List Char) : List Char :=
  ((text.dropWhile isBlank).reverse.dropWhile isBlank).reverse

end KeyedFilter.Text
