import ChatReply.Code.Lexer
import ChatReply.Run

/-!
# Documents

A parsed reply is a list of blocks in the order in which they are shown.
-/

namespace ChatReply

/-- What stands in front of a list item. -/
inductive Marker where
  /-- The number of an item of an ordered list. -/
  | number (value : Int)
  /-- An item of an unordered list. -/
  | bullet
deriving DecidableEq, Repr

/-- An item of a list. -/
structure Item where
  /-- What stands in front of the item. -/
  marker : Marker
  /-- The runs of its first line. -/
  runs : List Run
  /-- The runs of each further line. -/
  continuation : List (List Run)
deriving DecidableEq, Repr

/-- Code with its tokens. -/
structure CodeBlock where
  /-- The tokens, which together are the code. -/
  tokens : List Token
  /-- Whether the code is to be drawn inside a frame. -/
  framed : Bool
deriving DecidableEq, Repr

namespace CodeBlock

/-- The block of some code. -/
def ofCode (code : Text) (framed : Bool) : CodeBlock :=
  ⟨Code.tokenize code, framed⟩

/-- The code of a block. -/
def text (block : CodeBlock) : Text :=
  Token.plainText block.tokens

end CodeBlock

/-- A block of a document. -/
inductive Block where
  /-- Lines of text, joined into one. -/
  | paragraph (runs : List Run)
  /-- A header line. -/
  | header (text : Text)
  /-- A horizontal rule. -/
  | separator
  /-- A fenced block of code. -/
  | code (block : CodeBlock)
  /-- A list item. -/
  | item (item : Item)
deriving DecidableEq, Repr

/-- The block is a list item. -/
def Block.isItem : Block → Bool
  | item _ => true
  | _ => false

/-- A document is the list of its blocks. -/
abbrev Document := List Block

end ChatReply
