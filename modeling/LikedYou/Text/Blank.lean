/-!
# White space

The characters with the property White_Space, and texts without them at either end. The blanks of
ASCII are among them, but not all of its control characters.
-/

namespace LikedYou.Text

/-- Whether `c` has the property White_Space. -/
def isBlank (c : Char) : Bool :=
  let n := c.toNat
  (0x09 ≤ n && n ≤ 0x0D) || n = 0x20 || n = 0x85 || n = 0xA0 || n = 0x1680 ||
    (0x2000 ≤ n && n ≤ 0x200A) || n = 0x2028 || n = 0x2029 || n = 0x202F || n = 0x205F ||
    n = 0x3000

/-- What is left of a text after the blanks it begins with. -/
def trimStart (cs : List Char) : List Char := cs.dropWhile isBlank

/-- A text without the blanks at its two ends. -/
def trim (cs : List Char) : List Char := (trimStart (trimStart cs).reverse).reverse

end LikedYou.Text
