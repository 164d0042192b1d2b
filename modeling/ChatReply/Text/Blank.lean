import ChatReply.Text.Range

/-!
# Blank characters

The white space of Unicode together with the four information separators U+001C to U+001F. The
zero-width space U+200B and the byte order mark U+FEFF are not blank.
-/

namespace ChatReply

/-- Blank characters, in ascending order. -/
def blankRanges : List (Nat × Nat) :=
  [(0x9, 0xD), (0x1C, 0x20), (0x85, 0x85), (0xA0, 0xA0), (0x1680, 0x1680), (0x2000, 0x200A),
   (0x2028, 0x2029), (0x202F, 0x202F), (0x205F, 0x205F), (0x3000, 0x3000)]

/-- The character is blank. -/
def isBlank (c : Char) : Bool :=
  covers blankRanges c.toNat

/-- The text holds nothing but blanks. -/
def isBlankText (text : Text) : Bool :=
  text.all isBlank

/-- The text without the characters of a class at its start. -/
def stripStart (class? : Char → Bool) (text : Text) : Text :=
  text.dropWhile class?

/-- The text without the characters of a class at its end. -/
def stripEnd (class? : Char → Bool) (text : Text) : Text :=
  (text.reverse.dropWhile class?).reverse

/-- The text without blanks at its start. -/
def trimStart (text : Text) : Text :=
  stripStart isBlank text

/-- The text without blanks at either end. -/
def trim (text : Text) : Text :=
  stripEnd isBlank (stripStart isBlank text)

end ChatReply
