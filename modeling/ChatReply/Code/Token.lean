import ChatReply.Text.Range

/-!
# Tokens of code
-/

namespace ChatReply

/-- The lexical categories of code. -/
inductive TokenKind where
  | keyword | typeName | stringLiteral | numberLiteral | comment | preprocessor | operator
  | plainText
deriving DecidableEq, Repr

/-- A stretch of code of one lexical category. -/
structure Token where
  /-- The characters. -/
  text : Text
  /-- The category. -/
  kind : TokenKind
deriving DecidableEq, Repr

namespace Token

/-- The characters of tokens, with the kinds forgotten. -/
def plainText (tokens : List Token) : Text :=
  tokens.flatMap Token.text

end Token
end ChatReply
