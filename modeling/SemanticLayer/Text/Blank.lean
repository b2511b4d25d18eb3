import SemanticLayer.Text.Interval

/-!
# Blank characters

The characters of the Unicode property `White_Space`, which surround timestamps and stand between
their parts. The blanks of structured documents are fewer (space, tab, line feed, carriage return)
and are said where those documents are read.
-/

namespace SemanticLayer.Text

/-- The characters of the property `White_Space`. -/
def blanks : Intervals :=
  [(0x9, 0xD), (0x20, 0x20), (0x85, 0x85), (0xA0, 0xA0), (0x1680, 0x1680), (0x2000, 0x200A),
   (0x2028, 0x2029), (0x202F, 0x202F), (0x205F, 0x205F), (0x3000, 0x3000)]

/-- Whether a character is blank. -/
def isBlank (c : Char) : Bool :=
  blanks.contains c

/-- The text from its first character that is not blank. -/
def trimStart (text : List Char) : List Char :=
  text.dropWhile isBlank

/-- The text without the blanks at its two ends. -/
def trim (text : List Char) : List Char :=
  (trimStart (trimStart text).reverse).reverse

end SemanticLayer.Text
