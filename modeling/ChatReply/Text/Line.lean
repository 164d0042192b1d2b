import ChatReply.Text.Range

/-!
# Physical lines

A line ends at `\r\n`, at `\n` or at `\r`, and a pair `\r\n` is one break. The last line has no
break, so a text that ends in a break has an empty last line.
-/

namespace ChatReply

/-- A physical line and the break that ends it, which is empty for the last line. -/
structure Line where
  /-- The characters of the line, without its break. -/
  content : Text
  /-- The break as it is written. -/
  ending : Text
deriving DecidableEq, Repr

/-- Puts a character in front of the first line of a text. -/
def Line.extend (c : Char) : List Line → List Line
  | [] => [⟨[c], []⟩]
  | line :: lines => { line with content := c :: line.content } :: lines

/-- The physical lines of a text with their breaks. -/
def brokenLines : Text → List Line
  | [] => [⟨[], []⟩]
  | '\r' :: '\n' :: text => ⟨[], ['\r', '\n']⟩ :: brokenLines text
  | '\r' :: text => ⟨[], ['\r']⟩ :: brokenLines text
  | '\n' :: text => ⟨[], ['\n']⟩ :: brokenLines text
  | c :: text => Line.extend c (brokenLines text)

/-- The length of the line break at the head of a text, zero where there is none. -/
def breakLength : Text → Nat
  | '\r' :: '\n' :: _ => 2
  | '\r' :: _ => 1
  | '\n' :: _ => 1
  | _ => 0

/-- The character belongs to a line break. -/
def isBreak (c : Char) : Bool :=
  c == '\n' || c == '\r'

/-- The pieces of a text between its line breaks. -/
def lines (text : Text) : List Text :=
  match h : text.dropWhile (fun c => !isBreak c) with
  | [] => [text]
  | c :: rest =>
    text.takeWhile (fun c => !isBreak c) :: lines (rest.drop (breakLength (c :: rest) - 1))
termination_by text.length
decreasing_by
  have shorter := (List.dropWhile_suffix (fun c => !isBreak c) (l := text)).length_le
  simp only [h, List.length_cons, List.length_drop] at shorter ⊢
  omega

/-- Puts a separator between texts. -/
def joinWith (separator : Text) : List Text → Text
  | [] => []
  | [text] => text
  | text :: texts => text ++ separator ++ joinWith separator texts

/-- Puts a line feed between texts. -/
def joinLines (texts : List Text) : Text :=
  joinWith ['\n'] texts

/-- Turns every line break into a line feed. -/
def unifyBreaks : Text → Text
  | [] => []
  | '\r' :: '\n' :: text => '\n' :: unifyBreaks text
  | '\r' :: text => '\n' :: unifyBreaks text
  | c :: text => c :: unifyBreaks text

end ChatReply
