import ChatReply.Document
import ChatReply.Text.Numeral

/-!
# The forms of a line

Outside a fence, a line is told apart by what it starts with once the blanks around it are gone: a
code fence, an item of an ordered or unordered list, a header, a separator, or plain text.
-/

namespace ChatReply
namespace Reply

/-- The three backticks that fence code in. -/
def fenceMarks : Text :=
  List.replicate 3 '\x60'

/-- The text is a fence: three backticks and a language tag of word characters, which may be empty.
One line feed at the end does no harm. -/
def isFence (text : Text) : Bool :=
  fenceMarks.isPrefixOf text &&
    (let afterTag := (text.drop 3).dropWhile isWord
     afterTag == [] || afterTag == ['\n'])

/-- The rest of a text after at least one blank, if it is not empty and holds no line feed. -/
def spacedRest? (text : Text) : Option Text :=
  let rest := trimStart text
  if rest.length < text.length ∧ rest ≠ [] ∧ '\n' ∉ rest then some rest else none

/-- The digits and the text of an item of an ordered list: digits, a point, blanks and some text. -/
def orderedItem? (line : Text) : Option (Text × Text) :=
  let digits := (trim line).takeWhile isDigit
  match (trim line).dropWhile isDigit with
  | '.' :: rest => if digits = [] then none else (spacedRest? rest).map (digits, ·)
  | _ => none

/-- The text holds the part as a row of neighbouring characters. -/
def holds (part : Text) : Text → Bool
  | [] => part.isPrefixOf []
  | c :: rest => part.isPrefixOf (c :: rest) || holds part rest

/-- The line is an item of an unordered list: after leading blanks, an asterisk, a minus sign or a
plus sign, and a space. A line that starts with an asterisk and holds two asterisks in a row is text
in bold and no item. -/
def isBulletItem (line : Text) : Bool :=
  match trimStart line with
  | '*' :: ' ' :: _ => !holds Delimiter.bold.side line
  | '-' :: ' ' :: _ => true
  | '+' :: ' ' :: _ => true
  | _ => false

/-- The text of an item of an unordered list. -/
def bulletText (line : Text) : Text :=
  trim ((trim line).drop 2)

/-- The two kinds of list. -/
inductive ListKind where
  | ordered | bullet
deriving DecidableEq, Repr

/-- The line is an item of a list of the given kind. -/
def ListKind.starts : ListKind → Text → Bool
  | ordered, line => (orderedItem? line).isSome
  | bullet, line => isBulletItem line

/-- The kind of list of which a line is an item. -/
def itemKind? (line : Text) : Option ListKind :=
  if ListKind.ordered.starts line then some .ordered
  else if ListKind.bullet.starts line then some .bullet
  else none

/-- A line of some kind of list is an item of that list. -/
theorem starts_of_itemKind? {line : Text} {kind : ListKind} (found : itemKind? line = some kind) :
    kind.starts line = true := by
  simp only [itemKind?] at found
  split at found
  · cases found
    assumption
  · split at found
    · cases found
      assumption
    · cases found

/-- The line is a list item. -/
def startsItem (line : Text) : Bool :=
  ListKind.ordered.starts line || ListKind.bullet.starts line

/-- The text of a header: three number signs, blanks and some text. -/
def header? (line : Text) : Option Text :=
  match trim line with
  | '#' :: '#' :: '#' :: rest => spacedRest? rest
  | _ => none

/-- The line is a separator of three minus signs. -/
def isSeparator (line : Text) : Bool :=
  trim line == ['-', '-', '-']

end Reply
end ChatReply
