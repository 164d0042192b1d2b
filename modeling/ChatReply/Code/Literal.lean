import ChatReply.Text.Pattern
import ChatReply.Text.Word

/-!
# Lexical patterns of code

Comments, string literals, number literals and identifiers as patterns. A number literal and an
identifier start and end where a word does; the others do not look at their surroundings.
-/

namespace ChatReply
namespace Code

/-- The number of characters up to and including the first end of a block comment. -/
def closingLength? : Text → Option Nat
  | '*' :: '/' :: _ => some 2
  | _ :: rest => (closingLength? rest).map (· + 1)
  | [] => none

/-- A block comment runs from its opening to the first closing after it, across lines. -/
def blockComment : Pattern := fun _ text =>
  match text with
  | '/' :: '*' :: rest => (closingLength? rest).elim 0 (· + 2)
  | _ => 0

/-- The number of characters up to the first line feed, if nothing follows that line feed. -/
def restOfLine? (text : Text) : Option Nat :=
  let size := (text.takeWhile (· ≠ '\n')).length
  if text.drop size = [] ∨ text.drop size = ['\n'] then some size else none

/-- A line comment runs from two slashes to the end of the line. -/
def lineComment : Pattern := fun _ text =>
  match text with
  | '/' :: '/' :: rest => (restOfLine? rest).elim 0 (· + 2)
  | _ => 0

/-- The character opens and closes string literals. -/
def isQuote (c : Char) : Bool :=
  c == '\x22' || c == '\x27'

/-- A string literal runs from a quote to the next quote of the same kind. -/
def stringLiteral : Pattern := fun _ text =>
  match text with
  | quote :: rest =>
    let inner := (rest.takeWhile (· ≠ quote)).length
    if isQuote quote && decide (inner < rest.length) then inner + 2 else 0
  | [] => 0

/-- The number of decimal digits at the head of a text. -/
def digitCount (text : Text) : Nat :=
  (text.takeWhile isDigit).length

/-- The length of a decimal point with digits after it, zero where there is none. -/
def fractionLength : Text → Nat
  | '.' :: rest => if digitCount rest = 0 then 0 else digitCount rest + 1
  | _ => 0

/-- The length of a sign, zero where there is none. -/
def signLength : Text → Nat
  | '+' :: _ => 1
  | '-' :: _ => 1
  | _ => 0

/-- The length of an exponent, zero where there is none. -/
def exponentLength : Text → Nat
  | mark :: rest =>
    let sign := signLength rest
    let digits := digitCount (rest.drop sign)
    if (mark == 'e' || mark == 'E') && decide (0 < digits) then digits + sign + 1 else 0
  | [] => 0

/-- The letter marks the type of a number literal. -/
def isNumberSuffix (c : Char) : Bool :=
  c == 'f' || c == 'F' || c == 'm' || c == 'M' || c == 'd' || c == 'D'

/-- The length of a type letter, zero where there is none. -/
def suffixLength : Text → Nat
  | c :: _ => if isNumberSuffix c then 1 else 0
  | [] => 0

/-- The length of exponent and type letter, if a word ends after them. -/
def numberTail? (text : Text) : Option Nat :=
  let exponent := exponentLength text
  let tail := exponent + suffixLength (text.drop exponent)
  if atWordEnd (text.drop tail) then some tail else none

/-- A number literal: digits, then optionally a fraction, an exponent and a type letter. Where the
word goes on after a fraction, the digits before the point are a literal of their own. -/
def numberLiteral : Pattern := fun before text =>
  let whole := digitCount text
  let fraction := fractionLength (text.drop whole)
  if before.any isWord || whole == 0 then 0
  else
    match numberTail? (text.drop (whole + fraction)) with
    | some tail => whole + fraction + tail
    | none => if fraction = 0 then 0 else whole

/-- The character may start an identifier. -/
def isNameStart (c : Char) : Bool :=
  c.isAlpha || c == '_'

/-- The character may stand in an identifier. -/
def isNameChar (c : Char) : Bool :=
  c.isAlphanum || c == '_'

/-- An identifier is a whole word of ASCII letters, ASCII digits and low lines that starts with no
digit. -/
def identifier : Pattern := fun before text =>
  let size := (text.takeWhile isNameChar).length
  if text.head?.any isNameStart && !before.any isWord && atWordEnd (text.drop size) then size
  else 0

end Code
end ChatReply
