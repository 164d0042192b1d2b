import ChatReply.Render.Role
import ChatReply.Text.Line
import ChatReply.Text.Width

/-!
# Rendering code

The tokens of a code block are divided into the physical lines of the code. A framed block is drawn
in a box: tabs are expanded to columns of four, and every line is filled up to the widest one.
-/

namespace ChatReply
namespace Render

/-- The pieces of a token on the lines that it spans. An empty piece leaves its line empty. -/
def tokenRows (token : Token) : List (List Token) :=
  (lines token.text).map fun piece => if piece = [] then [] else [⟨piece, token.kind⟩]

/-- Puts rows after rows: the first row of the second part continues the last one of the first. -/
def continueRows : List (List Token) → List (List Token) → List (List Token)
  | [], rows => rows
  | [last], [] => [last]
  | [last], first :: rows => (last ++ first) :: rows
  | row :: more, rows => row :: continueRows more rows

/-- The tokens of each physical line. -/
def codeLines (tokens : List Token) : List (List Token) :=
  tokens.foldr (fun token rows => continueRows (tokenRows token) rows) [[]]

/-- Tabs reach to the next column that is a multiple of this. -/
def tabWidth : Nat := 4

/-- A character at a column, with a tab written as the spaces up to the next tab stop. -/
def expandChar (column : Nat) (c : Char) : Text :=
  if c = '\t' then List.replicate (tabWidth - column % tabWidth) ' ' else [c]

/-- A text at a column, with its tabs expanded. -/
def expandText (column : Nat) : Text → Text
  | [] => []
  | c :: rest =>
    let expanded := expandChar column c
    expanded ++ expandText (column + displayWidth expanded) rest

/-- The tokens of a line that starts at a column, with their tabs expanded. -/
def expandFrom (column : Nat) : List Token → List Token
  | [] => []
  | token :: tokens =>
    let expanded := expandText column token.text
    ⟨expanded, token.kind⟩ :: expandFrom (column + displayWidth expanded) tokens

/-- The tokens of a line, with their tabs expanded. -/
def expandTabs (tokens : List Token) : List Token :=
  expandFrom 0 tokens

/-- A character as often as a count says, and not at all for a negative count. -/
def repeated (count : Int) (c : Char) : Text :=
  List.replicate count.toNat c

/-- The columns of a line of tokens. -/
def lineWidth (tokens : List Token) : Nat :=
  displayWidth (Token.plainText tokens)

/-- The columns of the widest line. -/
def widest (rows : List (List Token)) : Nat :=
  rows.foldr (fun row width => max (lineWidth row) width) 0

/-- The upper or lower side of a box. -/
def boxSide (paint : Painter) (inner : Int) (left right : Char) : Text :=
  paint (.element .codeFrame) (left :: repeated inner '─' ++ [right])

/-- A line inside a box whose inner width is given. -/
def boxLine (paint : Painter) (padding inner : Int) (row : List Token) : Text :=
  let edge := paint (.element .codeFrame) ['│']
  let margin := repeated padding ' '
  edge ++ margin ++ paint.tokens row ++ repeated (inner - 2 * padding - lineWidth row) ' ' ++
    margin ++ edge

/-- The lines of a box around lines of code whose tabs are expanded. -/
def box (paint : Painter) (padding : Int) (rows : List (List Token)) : List Text :=
  let inner := widest rows + 2 * padding
  boxSide paint inner '┌' '┐' :: rows.map (boxLine paint padding inner) ++
    [boxSide paint inner '└' '┘']

/-- The rendered lines of a code block, in a box if both the block and the output are framed. -/
def code (paint : Painter) (framed : Bool) (padding : Int) (block : CodeBlock) : List Text :=
  let rows := codeLines block.tokens
  if framed && block.framed then box paint padding (rows.map expandTabs)
  else rows.map paint.tokens

end Render
end ChatReply
