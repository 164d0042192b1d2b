import ChatReply.Text.Letter
import ChatReply.Text.Digit
import ChatReply.Text.Numeric

/-!
# Word characters

Letters, decimal digits, other numeric characters and the low line. Combining marks are not word
characters.
-/

namespace ChatReply

/-- The character may stand inside a word. -/
def isWord (c : Char) : Bool :=
  isLetter c || isDigit c || isNumeric c || c == '_'

/-- Every decimal digit is a word character. -/
theorem isWord_of_isDigit {c : Char} (digit : isDigit c = true) : isWord c = true := by
  simp [isWord, digit]

/-- No word goes on at the head of the text. -/
def atWordEnd (text : Text) : Bool :=
  !text.head?.any isWord

end ChatReply
