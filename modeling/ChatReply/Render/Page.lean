import ChatReply.Json.Print
import ChatReply.Render.Code

/-!
# Rendering a document

Each block becomes lines of text. An empty line stands between two blocks unless both are list
items. The styled form has colours, rules and boxes; the plain form is for the clipboard.
-/

namespace ChatReply

/-- The settings that bear on rendering. -/
structure Layout where
  /-- What stands in front of an item of an unordered list. -/
  bulletMarker : Text := ['•']
  /-- The spaces between the edge of a box and the code in it. -/
  codePadding : Int := 1
deriving DecidableEq, Repr

namespace Render

/-- The columns of a rule. -/
def ruleWidth : Nat := 40

/-- The marker of a list item as it is printed. -/
def markerText (layout : Layout) : Marker → Text
  | .number value => Json.printInteger value ++ ['.', ' ']
  | .bullet => layout.bulletMarker ++ [' ']

/-- The rendered lines of a list item. Its further lines are indented by the length of its
marker. -/
def item (paint : Painter) (layout : Layout) (item : Item) : List Text :=
  let marker := markerText layout item.marker
  (paint (.element .listMarker) marker ++ paint.runs item.runs) ::
    item.continuation.map fun runs => List.replicate marker.length ' ' ++ paint.runs runs

/-- The rendered lines of a block. -/
def block (paint : Painter) (framed : Bool) (layout : Layout) : Block → List Text
  | .paragraph runs => [paint.runs runs]
  | .header text => [paint (.element .header) text]
  | .separator =>
    [if framed then paint (.element .separator) (List.replicate ruleWidth '─') else []]
  | .code block => code paint framed layout.codePadding block
  | .item listItem => item paint layout listItem

/-- The empty line between two blocks, unless both are list items. -/
def spacing (previous next : Block) : List Text :=
  if previous.isItem && next.isItem then [] else [[]]

/-- The rendered lines of a document. -/
def documentLines (paint : Painter) (framed : Bool) (layout : Layout) : Document → List Text
  | [] => []
  | [last] => block paint framed layout last
  | previous :: next :: rest =>
    block paint framed layout previous ++ spacing previous next ++
      documentLines paint framed layout (next :: rest)

/-- A rendered document. -/
def document (paint : Painter) (framed : Bool) (layout : Layout) (document : Document) : Text :=
  joinLines (documentLines paint framed layout document)

end Render

namespace Document

/-- A document for a terminal, with colours, rules and boxes. -/
def styled (layout : Layout) (document : Document) : Text :=
  Render.document Painter.styled true layout document

/-- The text of a document, without colours and boxes. -/
def plain (layout : Layout) (document : Document) : Text :=
  Render.document Painter.plain false layout document

end Document
end ChatReply
