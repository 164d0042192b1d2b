import ChatReply.Text.Pattern

/-!
# Styled runs

A line of a reply is a row of runs: inline code between single backticks, bold text between double
asterisks, and plain text. Code spans are found first, so an asterisk inside one means nothing.
A delimiter without a partner stays plain text.
-/

namespace ChatReply

/-- The style of a run. -/
inductive Style where
  | plain | bold | inlineCode
deriving DecidableEq, Repr

/-- A stretch of text in one style. -/
structure Run where
  /-- The characters, without delimiters. -/
  text : Text
  /-- The style. -/
  style : Style
deriving DecidableEq, Repr

/-- A delimiter is a character that is repeated on either side of what it encloses. -/
structure Delimiter where
  /-- The repeated character, which cannot stand between the two sides. -/
  mark : Char
  /-- How often it is repeated on each side. -/
  width : Nat

namespace Delimiter

/-- Inline code stands between single backticks. -/
def code : Delimiter := ⟨'\x60', 1⟩

/-- Bold text stands between double asterisks. -/
def bold : Delimiter := ⟨'*', 2⟩

/-- One side of the delimiter. -/
def side (delimiter : Delimiter) : Text :=
  List.replicate delimiter.width delimiter.mark

/-- A text between the two sides of the delimiter. -/
def enclose (delimiter : Delimiter) (text : Text) : Text :=
  delimiter.side ++ text ++ delimiter.side

/-- What an enclosed text holds between its two sides. -/
def content (delimiter : Delimiter) (span : Text) : Text :=
  (span.drop delimiter.width).take (span.length - 2 * delimiter.width)

/-- A span is one side of the delimiter, some characters other than its mark, and the other side. -/
def span (delimiter : Delimiter) : Pattern := fun _ text =>
  if delimiter.side.isPrefixOf text then
    let opened := text.drop delimiter.width
    let inner := opened.takeWhile (· ≠ delimiter.mark)
    if inner ≠ [] ∧ delimiter.side.isPrefixOf (opened.drop inner.length) then
      inner.length + 2 * delimiter.width
    else 0
  else 0

/-- An enclosed text holds what was enclosed. -/
theorem content_enclose (delimiter : Delimiter) (text : Text) :
    delimiter.content (delimiter.enclose text) = text := by
  simp only [content, enclose, side, List.append_assoc, List.length_append, List.length_replicate]
  rw [List.drop_left' (by simp), List.take_left' (by omega)]

end Delimiter

namespace Run

/-- The runs of a text without inline code. -/
def ofProse (text : Text) : List Run :=
  (Delimiter.bold.span.segments none text).map fun
    | .found span => ⟨Delimiter.bold.content span, .bold⟩
    | .gap text => ⟨text, .plain⟩

/-- The runs of a line. -/
def ofLine (line : Text) : List Run :=
  (Delimiter.code.span.segments none line).flatMap fun
    | .found span => [⟨Delimiter.code.content span, .inlineCode⟩]
    | .gap text => ofProse text

/-- A run with the delimiters of its style around it. -/
def write (run : Run) : Text :=
  match run.style with
  | .plain => run.text
  | .bold => Delimiter.bold.enclose run.text
  | .inlineCode => Delimiter.code.enclose run.text

/-- The characters of runs, with the styles forgotten. -/
def plainText (runs : List Run) : Text :=
  runs.flatMap Run.text

end Run
end ChatReply
