import ChatReply.Document
import ChatReply.Json.Print

/-!
# Documents as JSON

Every block is an object whose field `_type` names its kind. The fields of an object stand in
ascending order of their names. A document can be read back from its JSON value.
-/

namespace ChatReply

namespace Style

/-- The name of a style. -/
def name : Style → String
  | plain => "plain"
  | bold => "bold"
  | inlineCode => "inline_code"

/-- The style of a name. -/
def ofName? : String → Option Style
  | "plain" => some plain
  | "bold" => some bold
  | "inline_code" => some inlineCode
  | _ => none

/-- A style is found by its name. -/
theorem ofName?_name (style : Style) : ofName? style.name = some style := by
  cases style <;> rfl

end Style

namespace TokenKind

/-- The name of a kind of token. -/
def name : TokenKind → String
  | keyword => "keyword"
  | typeName => "type_name"
  | stringLiteral => "string_literal"
  | numberLiteral => "number_literal"
  | comment => "comment"
  | preprocessor => "preprocessor"
  | operator => "operator"
  | plainText => "plain_text"

/-- The kind of token of a name. -/
def ofName? : String → Option TokenKind
  | "keyword" => some keyword
  | "type_name" => some typeName
  | "string_literal" => some stringLiteral
  | "number_literal" => some numberLiteral
  | "comment" => some comment
  | "preprocessor" => some preprocessor
  | "operator" => some operator
  | "plain_text" => some plainText
  | _ => none

/-- A kind of token is found by its name. -/
theorem ofName?_name (kind : TokenKind) : ofName? kind.name = some kind := by
  cases kind <;> rfl

end TokenKind

namespace Run

/-- A run as JSON. -/
def toJson (run : Run) : Json :=
  .object [("style", .ofString run.style.name), ("text", .string run.text)]

/-- The run of a JSON value. -/
def ofJson? (json : Json) : Option Run := do
  let style ← Style.ofName? (String.ofList (← (← json.field? "style").text?))
  some ⟨← (← json.field? "text").text?, style⟩

/-- Runs as JSON. -/
def listToJson (runs : List Run) : Json :=
  .array (runs.map toJson)

/-- The runs of a JSON value. -/
def listOfJson? (json : Json) : Option (List Run) := do
  (← json.items?).mapM ofJson?

end Run

namespace Token

/-- A token as JSON. -/
def toJson (token : Token) : Json :=
  .object [("kind", .ofString token.kind.name), ("text", .string token.text)]

/-- The token of a JSON value. -/
def ofJson? (json : Json) : Option Token := do
  let kind ← TokenKind.ofName? (String.ofList (← (← json.field? "kind").text?))
  some ⟨← (← json.field? "text").text?, kind⟩

end Token

namespace Block

/-- A block as JSON. -/
def toJson : Block → Json
  | paragraph runs =>
    .object [("_type", .ofString "Paragraph"), ("runs", Run.listToJson runs)]
  | header text => .object [("_type", .ofString "Header"), ("text", .string text)]
  | separator => .object [("_type", .ofString "Separator")]
  | code block =>
    .object [("_type", .ofString "CodeBlock"), ("tokens", .array (block.tokens.map Token.toJson)),
      ("with_background", .bool block.framed)]
  | item ⟨.number value, runs, continuation⟩ =>
    .object [("_type", .ofString "OrderedListItem"),
      ("continuation_lines", .array (continuation.map Run.listToJson)),
      ("number", .integer value), ("runs", Run.listToJson runs)]
  | item ⟨.bullet, runs, continuation⟩ =>
    .object [("_type", .ofString "UnorderedListItem"),
      ("continuation_lines", .array (continuation.map Run.listToJson)),
      ("runs", Run.listToJson runs)]

/-- The block of a JSON value. -/
def ofJson? (json : Json) : Option Block := do
  match String.ofList (← (← json.field? "_type").text?) with
  | "Paragraph" => some (paragraph (← Run.listOfJson? (← json.field? "runs")))
  | "Header" => some (header (← (← json.field? "text").text?))
  | "Separator" => some separator
  | "CodeBlock" =>
    let tokens ← (← (← json.field? "tokens").items?).mapM Token.ofJson?
    some (code ⟨tokens, ← (← json.field? "with_background").bool?⟩)
  | "OrderedListItem" =>
    let number ← (← json.field? "number").integer?
    let continuation ← (← (← json.field? "continuation_lines").items?).mapM Run.listOfJson?
    some (item ⟨.number number, ← Run.listOfJson? (← json.field? "runs"), continuation⟩)
  | "UnorderedListItem" =>
    let continuation ← (← (← json.field? "continuation_lines").items?).mapM Run.listOfJson?
    some (item ⟨.bullet, ← Run.listOfJson? (← json.field? "runs"), continuation⟩)
  | _ => none

end Block

namespace Document

/-- A document as JSON. -/
def toJson (document : Document) : Json :=
  .object [("_type", .ofString "Document"), ("blocks", .array (document.map Block.toJson))]

/-- The document of a JSON value. -/
def ofJson? (json : Json) : Option Document := do
  if String.ofList (← (← json.field? "_type").text?) = "Document" then
    (← (← json.field? "blocks").items?).mapM Block.ofJson?
  else none

/-- A document printed as JSON. -/
def print (indent : Option Nat) (document : Document) : Text :=
  (toJson document).print indent

end Document
end ChatReply
