/-!
# White space

The characters with the Unicode White_Space property: the controls tab, line feed, line
tabulation, form feed and carriage return, the space, next line, no-break space, the Ogham
space mark, the fifteen spaces of the general punctuation block, the line and paragraph
separators, the narrow no-break space, the medium mathematical space and the ideographic
space. Zero-width characters (U+200B, U+FEFF) and the information separators U+001C–U+001F
are not white space.
-/

namespace Breadbox.Text

/-- Whether a character has the Unicode White_Space property. -/
def isWhiteSpace (c : Char) : Bool :=
  let n := c.toNat
  (0x09 ≤ n && n ≤ 0x0D) || n == 0x20 || n == 0x85 || n == 0xA0 || n == 0x1680 ||
    (0x2000 ≤ n && n ≤ 0x200A) || n == 0x2028 || n == 0x2029 || n == 0x202F ||
    n == 0x205F || n == 0x3000

example : isWhiteSpace (Char.ofNat 0x3000) = true := by decide
example : isWhiteSpace (Char.ofNat 0x200B) = false := by decide
example : isWhiteSpace (Char.ofNat 0x1C) = false := by decide

end Breadbox.Text
