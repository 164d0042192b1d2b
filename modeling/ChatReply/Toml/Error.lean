import ChatReply.Text.Numeral
import ChatReply.Text.Quoted

/-!
# Errors in configuration files

What may be wrong with a file, and where. A place in a file is given by the text that follows it.
-/

namespace ChatReply
namespace Toml

/-- What is wrong at a place. -/
inductive Cause where
  /-- No statement starts here. -/
  | invalidStatement
  /-- A statement is not followed by the end of its line. -/
  | expectedNewline
  /-- A table is declared that may not be declared again. -/
  | declaredTwice (key : List String)
  /-- A key goes through a value that is no table, or has a value already. -/
  | overwrite
  /-- The declaration of a table is not closed. -/
  | unclosedTable
  /-- The declaration of an element of an array of tables is not closed. -/
  | unclosedTableArray
  /-- A key goes through an inline table or an array. -/
  | immutable (key : List String)
  /-- A dotted key goes through a table that is declared elsewhere. -/
  | redefined (key : List String)
  /-- A key is not followed by an equals sign. -/
  | expectedEquals
  /-- No part of a key starts here. -/
  | invalidKey
  /-- An array is neither continued nor closed. -/
  | unclosedArray
  /-- A key of an inline table has a value already. -/
  | duplicateKey (name : String)
  /-- An inline table is neither continued nor closed. -/
  | unclosedInlineTable
  /-- A backslash starts no escape. -/
  | unknownEscape
  /-- An escape has too few hexadecimal digits. -/
  | invalidHex
  /-- An escape denotes no character. -/
  | notScalar
  /-- A string with escapes is not closed. -/
  | unterminated
  /-- A string with escapes holds a control character. -/
  | illegalCharacter (c : Char)
  /-- A literal string lacks its closing quotes. -/
  | expectedQuotes (quotes : Text)
  /-- A comment or a literal string holds a control character. -/
  | invalidCharacter (c : Char)
  /-- A date does not exist. -/
  | invalidDate
  /-- No value starts here. -/
  | invalidValue
deriving DecidableEq, Repr

/-- A key in a message: its parts in quotes, as a tuple. -/
def keyText (key : List String) : String :=
  match key with
  | [part] => "(" ++ quotedString part ++ ",)"
  | parts => "(" ++ String.intercalate ", " (parts.map quotedString) ++ ")"

/-- The wording of a cause. -/
def Cause.message : Cause → String
  | invalidStatement => "Invalid statement"
  | expectedNewline => "Expected newline or end of document after a statement"
  | declaredTwice key => "Cannot declare " ++ keyText key ++ " twice"
  | overwrite => "Cannot overwrite a value"
  | unclosedTable => "Expected ']' at the end of a table declaration"
  | unclosedTableArray => "Expected ']]' at the end of an array declaration"
  | immutable key => "Cannot mutate immutable namespace " ++ keyText key
  | redefined key => "Cannot redefine namespace " ++ keyText key
  | expectedEquals => "Expected '=' after a key in a key/value pair"
  | invalidKey => "Invalid initial character for a key part"
  | unclosedArray => "Unclosed array"
  | duplicateKey name => "Duplicate inline table key " ++ quotedString name
  | unclosedInlineTable => "Unclosed inline table"
  | unknownEscape => "Unescaped '\\' in a string"
  | invalidHex => "Invalid hex value"
  | notScalar => "Escaped character is not a Unicode scalar value"
  | unterminated => "Unterminated string"
  | illegalCharacter c => "Illegal character " ++ String.ofList (quoted [c])
  | expectedQuotes quotes => "Expected " ++ String.ofList (quoted quotes)
  | invalidCharacter c => "Found invalid character " ++ String.ofList (quoted [c])
  | invalidDate => "Invalid date or datetime"
  | invalidValue => "Invalid value"

/-- Why a file cannot be read. -/
inductive Error where
  /-- Something is wrong at a place, which is given by the text that follows it. -/
  | fault (cause : Cause) (rest : Text)
  /-- A decimal integer has too many digits. -/
  | numeral (error : Numeral.TooLong)
  /-- Values are nested too deep. -/
  | nesting
deriving DecidableEq, Repr

/-- The wording of the refusal of values that are nested too deep. -/
def nestingMessage : String := "maximum recursion depth exceeded"

/-- The place of the end of a text, as line and column. -/
def placeText (before : Text) : String :=
  let line := before.count '\n' + 1
  let column := (before.reverse.takeWhile (· ≠ '\n')).length + 1
  s!"line {line}, column {column}"

/-- The wording of a fault in a file, with its place. -/
def faultText (source : Text) (cause : Cause) (rest : Text) : String :=
  let place :=
    if rest = [] then "end of document"
    else placeText (source.take (source.length - rest.length))
  cause.message ++ " (at " ++ place ++ ")"

end Toml
end ChatReply
