/-!
# White space

The characters with the property White_Space, and cutting them from the ends
of a text. The set is wider than the ASCII blanks: it has the no-break and the
ideographic space, and it lacks the zero-width ones.
-/

namespace SqlChain.Text

/-- Whether the character has the property White_Space. -/
def isBlank (c : Char) : Bool :=
  let n := c.toNat
  (9 ≤ n && n ≤ 13) || n == 0x20 || n == 0x85 || n == 0xA0 || n == 0x1680 ||
    (0x2000 ≤ n && n ≤ 0x200A) || n == 0x2028 || n == 0x2029 || n == 0x202F ||
    n == 0x205F || n == 0x3000

/-- Drop the white space at the front. -/
def skipBlanks (cs : List Char) : List Char := cs.dropWhile isBlank

/-- Drop the white space at both ends. -/
def trimList (cs : List Char) : List Char :=
  (skipBlanks (skipBlanks cs).reverse).reverse

/-- Drop the white space at both ends of a text. -/
def trim (s : String) : String := String.ofList (trimList s.toList)

end SqlChain.Text
