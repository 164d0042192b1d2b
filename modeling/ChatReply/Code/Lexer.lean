import ChatReply.Code.Literal
import ChatReply.Code.Vocabulary
import ChatReply.Text.Blank
import ChatReply.Text.Line

/-!
# From code to tokens

Each reader takes the matches of one pattern and hands the gaps between them to the next one: block
comments of the whole code, then line by line directives, line comments, string literals, number
literals and identifiers. What is left over are operators. Of a line comment only the first match
counts, and it ends the line.
-/

namespace ChatReply
namespace Code

/-- Tokens of code without comments and literals: identifiers and the operators between them. -/
def wordTokens (text : Text) : List Token :=
  (identifier.segments none text).map fun
    | .found name => ⟨name, classify name⟩
    | .gap text => ⟨text, .operator⟩

/-- Tokens of code without comments and string literals. -/
def numberTokens (text : Text) : List Token :=
  (numberLiteral.segments none text).flatMap fun
    | .found literal => [⟨literal, .numberLiteral⟩]
    | .gap text => wordTokens text

/-- Tokens of code without comments. -/
def stringTokens (text : Text) : List Token :=
  (stringLiteral.segments none text).flatMap fun
    | .found literal => [⟨literal, .stringLiteral⟩]
    | .gap text => numberTokens text

/-- A directive is a line whose first character that is not blank is a number sign. -/
def isDirective (line : Text) : Bool :=
  match trimStart line with
  | '#' :: rest => (restOfLine? rest).isSome
  | _ => false

/-- Tokens of one line without block comments. -/
def lineTokens (line : Text) : List Token :=
  if isDirective line then [⟨line, .preprocessor⟩]
  else
    match lineComment.search? none line with
    | some (text, comment) => stringTokens text ++ [⟨comment, .comment⟩]
    | none => stringTokens line

/-- The token of a line break, if there is one. -/
def breakTokens (ending : Text) : List Token :=
  if ending = [] then [] else [⟨ending, .plainText⟩]

/-- Tokens of code without block comments, line by line. -/
def linesTokens (text : Text) : List Token :=
  (brokenLines text).flatMap fun line => lineTokens line.content ++ breakTokens line.ending

/-- The tokens of code. -/
def tokenize (code : Text) : List Token :=
  (blockComment.segments none code).flatMap fun
    | .found comment => [⟨comment, .comment⟩]
    | .gap text => linesTokens text

end Code
end ChatReply
