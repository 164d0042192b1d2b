import ChatReply.Number.Shortest
import ChatReply.Toml.Table

/-!
# Strings, numbers and moments

Readers for the values that hold no other values. A reader takes a lexeme from the head of a text
and leaves the rest.
-/

namespace ChatReply
namespace Toml

/-- The character is a space or a tab. -/
def isSpace (c : Char) : Bool :=
  c == ' ' || c == '\t'

/-- The text after the spaces at its head. -/
def skipSpaces (text : Text) : Text :=
  text.dropWhile isSpace

/-- The character may not stand in a comment or in a string on one line. -/
def isControl (c : Char) : Bool :=
  (c.toNat < 0x20 && c != '\t') || c.toNat == 0x7F

/-- The text after a comment that is being read. -/
def skipCommentBody : Text → Except Error Text
  | [] => .ok []
  | c :: rest =>
    if c = '\n' then .ok (c :: rest)
    else if isControl c then .error (.fault (.invalidCharacter c) (c :: rest))
    else skipCommentBody rest

/-- The text after the comment at its head, if there is one. -/
def skipComment (text : Text) : Except Error Text :=
  match text with
  | '#' :: rest => skipCommentBody rest
  | _ => .ok text

/-- The text after the spaces, line feeds and comments at its head. -/
def skipBlankLines (comment : Bool) : Text → Except Error Text
  | [] => .ok []
  | c :: rest =>
    if c = '\n' then skipBlankLines false rest
    else if comment then
      if isControl c then .error (.fault (.invalidCharacter c) (c :: rest))
      else skipBlankLines true rest
    else if isSpace c then skipBlankLines false rest
    else if c = '#' then skipBlankLines true rest
    else .ok (c :: rest)

/-! ## Strings -/

/-- The single quote. -/
def quote : Char := '\x27'

/-- The double quote. -/
def doubleQuote : Char := '\x22'

/-- The value of hexadecimal digits. -/
def hexNumber? (digits : Text) : Option Nat :=
  digits.foldl (fun value c => value.bind fun value => (hexValue? c).map (16 * value + ·)) (some 0)

/-- Reads a character that is given by hexadecimal digits. -/
def readHex (width : Nat) (text : Text) : Except Error (Text × Text) :=
  match hexNumber? (text.take width) with
  | none => .error (.fault .invalidHex text)
  | some point =>
    if text.length < width then .error (.fault .invalidHex text)
    else if point.isValidChar then .ok ([Char.ofNat point], text.drop width)
    else .error (.fault .notScalar (text.drop width))

/-- The character of a one-letter escape. -/
def simpleEscape? (c : Char) : Option Char :=
  if c = 'b' then some '\x08'
  else if c = 't' then some '\t'
  else if c = 'n' then some '\n'
  else if c = 'f' then some '\x0c'
  else if c = 'r' then some '\r'
  else if c = doubleQuote ∨ c = '\\' then some c
  else none

/-- The text after a backslash at the end of a line, the spaces after it and blank lines. -/
def skipLineEnd (text : Text) : Except Error Text :=
  match skipSpaces text with
  | [] => .ok []
  | c :: rest =>
    if c = '\n' then .ok (rest.dropWhile fun c => isSpace c || c == '\n')
    else .error (.fault .unknownEscape (c :: rest))

/-- Reads an escape, the backslash of which has been read. -/
def readEscape (multiline : Bool) (text : Text) : Except Error (Text × Text) :=
  match text with
  | [] => .error (.fault .unknownEscape [])
  | c :: rest =>
    if multiline && (isSpace c || c == '\n') then
      (skipLineEnd (c :: rest)).map ([], ·)
    else if c = 'u' then readHex 4 rest
    else if c = 'U' then readHex 8 rest
    else
      match simpleEscape? c with
      | some c => .ok ([c], rest)
      | none => .error (.fault .unknownEscape rest)

/-- Reads the rest of a string with escapes. -/
def readBasic (multiline : Bool) : Nat → Text → Except Error (Text × Text)
  | 0, text => .error (.fault .unterminated text)
  | _ + 1, [] => .error (.fault .unterminated [])
  | fuel + 1, c :: rest =>
    if c = doubleQuote ∧ (!multiline || rest.take 2 == [doubleQuote, doubleQuote]) then
      .ok ([], if multiline then rest.drop 2 else rest)
    else if c = '\\' then do
      let (escaped, rest) ← readEscape multiline rest
      let (text, rest) ← readBasic multiline fuel rest
      .ok (escaped ++ text, rest)
    else if isControl c && !(multiline && c == '\n') then
      .error (.fault (.illegalCharacter c) (c :: rest))
    else do
      let (text, rest) ← readBasic multiline fuel rest
      .ok (c :: text, rest)

/-- The text before the first occurrence of quotes, and the text after it. -/
def splitQuotes? (quotes : Text) : Text → Option (Text × Text)
  | [] => none
  | c :: rest =>
    if quotes.isPrefixOf (c :: rest) then some ([], (c :: rest).drop quotes.length)
    else (splitQuotes? quotes rest).map fun (text, rest) => (c :: text, rest)

/-- Reads the rest of a literal string, up to its closing quotes. -/
def readLiteral (quotes : Text) (allowed : Char → Bool) (text : Text) :
    Except Error (Text × Text) :=
  match splitQuotes? quotes text with
  | none => .error (.fault (.expectedQuotes quotes) [])
  | some (content, rest) =>
    match content.dropWhile fun c => allowed c || !isControl c with
    | [] => .ok (content, rest)
    | c :: _ =>
      .error (.fault (.invalidCharacter c)
        (text.drop (content.takeWhile fun c => allowed c || !isControl c).length))

/-- Adds to a string of several lines the quotes, at most two, that stand before its closing
quotes. -/
def closingQuotes (mark : Char) (content rest : Text) : Text × Text :=
  let extra := min 2 (rest.takeWhile (· == mark)).length
  (content ++ List.replicate extra mark, rest.drop extra)

/-- The text after the line feed at its head, if there is one. -/
def dropLineFeed : Text → Text
  | '\n' :: rest => rest
  | text => text

/-- Reads a string on one line that starts with a double quote. -/
def readBasicLine (text : Text) : Except Error (Text × Text) :=
  readBasic false (text.length + 1) (text.drop 1)

/-- Reads a string on one line that starts with a single quote. -/
def readLiteralLine (text : Text) : Except Error (Text × Text) :=
  readLiteral [quote] (fun _ => false) (text.drop 1)

/-- Reads a string of several lines that starts with three double quotes. -/
def readBasicLines (text : Text) : Except Error (Text × Text) :=
  (readBasic true (text.length + 1) (dropLineFeed (text.drop 3))).map fun (content, rest) =>
    closingQuotes doubleQuote content rest

/-- Reads a string of several lines that starts with three single quotes. -/
def readLiteralLines (text : Text) : Except Error (Text × Text) :=
  (readLiteral [quote, quote, quote] (· == '\n') (dropLineFeed (text.drop 3))).map
    fun (content, rest) => closingQuotes quote content rest

/-! ## Numbers -/

/-- The length of a row of digits in which single low lines may stand between two digits. -/
def groupedLength (digit : Char → Bool) : Text → Nat
  | [] => 0
  | [c] => if digit c then 1 else 0
  | c :: '_' :: rest =>
    let size := groupedLength digit rest
    if digit c then (if size = 0 then 1 else size + 2) else 0
  | c :: rest => if digit c then groupedLength digit rest + 1 else 0

/-- The digits of a lexeme, without low lines. -/
def ungrouped (text : Text) : Text :=
  text.filter (· ≠ '_')

/-- The value of digits in a base. -/
def baseValue (base : Nat) (digits : Text) : Nat :=
  digits.foldl (fun value c => base * value + (hexValue? c).getD 0) 0

/-- The base that a letter after a zero stands for. -/
def baseOf? (c : Char) : Option (Nat × (Char → Bool)) :=
  if c = 'x' then some (16, fun c => (hexValue? c).isSome)
  else if c = 'o' then some (8, fun c => '0' ≤ c && c ≤ '7')
  else if c = 'b' then some (2, fun c => c == '0' || c == '1')
  else none

/-- Reads an integer in another base than ten. -/
def basedInteger? (text : Text) : Option (Value × Text) :=
  match text with
  | '0' :: letter :: rest => do
    let (base, digit) ← baseOf? letter
    let size := groupedLength digit rest
    if size = 0 then none
    else
      let value := baseValue base (ungrouped (rest.take size))
      some (.integer (value : Int), rest.drop size)
  | _ => none

/-- The length of the integer part of a decimal number: a zero, or digits that start with none. -/
def wholeLength : Text → Nat
  | '0' :: _ => 1
  | text => groupedLength Char.isDigit text

/-- The length of a fraction with its point, zero where there is none. -/
def decimalsLength : Text → Nat
  | '.' :: rest =>
    let size := groupedLength Char.isDigit rest
    if size = 0 then 0 else size + 1
  | _ => 0

/-- The text after a sign, and whether it is a minus sign. -/
def splitSign : Text → Bool × Text
  | '-' :: rest => (true, rest)
  | '+' :: rest => (false, rest)
  | text => (false, text)

/-- The value and the length of an exponent with its letter, if there is one. -/
def exponent? : Text → Option (Int × Nat)
  | mark :: rest =>
    let (negative, digits) := splitSign rest
    let size := groupedLength Char.isDigit digits
    if (mark == 'e' || mark == 'E') && decide (0 < size) then
      let value : Int := baseValue 10 (ungrouped (digits.take size))
      some (if negative then -value else value, rest.length - digits.length + size + 1)
    else none
  | [] => none

/-- The value of a decimal number with a fraction or an exponent. -/
def floatValue (negative : Bool) (whole decimals : Text) (exponent : Int) : Value :=
  let coefficient := baseValue 10 (whole ++ decimals)
  .float (Shortest.text negative (Binary64.ofDecimal coefficient (exponent - decimals.length)))

/-- Reads a decimal number, if one starts here. -/
def decimalNumber? (text : Text) : Option (Except Numeral.TooLong Value × Text) :=
  let (negative, digits) := splitSign text
  let whole := digits.take (wholeLength digits)
  if whole = [] then none
  else
    let afterWhole := digits.drop whole.length
    let decimals := afterWhole.take (decimalsLength afterWhole)
    let afterDecimals := afterWhole.drop decimals.length
    match exponent? afterDecimals with
    | some (exponent, size) =>
      some (.ok (floatValue negative (ungrouped whole) (ungrouped (decimals.drop 1)) exponent),
        afterDecimals.drop size)
    | none =>
      if decimals = [] then
        let value := (Numeral.read (ungrouped whole)).map fun value =>
          Value.integer (if negative then -(value : Int) else value)
        some (value, afterDecimals)
      else
        some (.ok (floatValue negative (ungrouped whole) (ungrouped (decimals.drop 1)) 0),
          afterDecimals)

/-- Reads a number that is no row of digits, if one starts here. -/
def specialFloat? (text : Text) : Option (Value × Text) :=
  let (negative, name) := splitSign text
  if name.take 3 = ['i', 'n', 'f'] then
    some (.float (if negative then "-inf" else "inf"), name.drop 3)
  else if name.take 3 = ['n', 'a', 'n'] then some (.float "nan", name.drop 3)
  else none

/-! ## Moments -/

/-- Reads a number of exactly so many ASCII digits that is within bounds. -/
def fixedDigits? (width low high : Nat) (text : Text) : Option (Nat × Text) :=
  let digits := text.take width
  let value := baseValue 10 digits
  if digits.length = width ∧ digits.all Char.isDigit ∧ low ≤ value ∧ value ≤ high then
    some (value, text.drop width)
  else none

/-- The text after a character, if it starts with that character. -/
def afterChar? (c : Char) : Text → Option Text
  | head :: rest => if head = c then some rest else none
  | [] => none

/-- The microseconds of the fractions of a second at the head of a text, and the text after them.
Digits behind the sixth are read and dropped. -/
def secondFraction (text : Text) : Nat × Text :=
  match text with
  | '.' :: rest =>
    let digits := rest.takeWhile Char.isDigit
    if digits = [] then (0, text)
    else
      (baseValue 10 ((digits ++ List.replicate 6 '0').take 6), rest.drop digits.length)
  | _ => (0, text)

/-- Reads a time of day, if one starts here. -/
def dayTime? (text : Text) : Option (DayTime × Text) := do
  let (hour, rest) ← fixedDigits? 2 0 23 text
  let (minute, rest) ← fixedDigits? 2 0 59 (← afterChar? ':' rest)
  let (second, rest) ← fixedDigits? 2 0 59 (← afterChar? ':' rest)
  let (microsecond, rest) := secondFraction rest
  some (⟨hour, minute, second, microsecond⟩, rest)

/-- Reads an offset from universal time in hours and minutes, if one starts here. -/
def offset? (text : Text) : Option (Int × Text) :=
  match text with
  | c :: rest =>
    if c = 'Z' ∨ c = 'z' then some (0, rest)
    else if c = '+' ∨ c = '-' then do
      let (hours, rest) ← fixedDigits? 2 0 23 rest
      let (minutes, rest) ← fixedDigits? 2 0 59 (← afterChar? ':' rest)
      let offset : Int := 60 * hours + minutes
      some (if c = '-' then -offset else offset, rest)
    else none
  | [] => none

/-- Reads the time of day that follows a date, with or without an offset, if there is one. -/
def followingTime? (text : Text) : Option ((DayTime × Option Int) × Text) :=
  match text with
  | c :: rest =>
    if c = 'T' ∨ c = 't' ∨ c = ' ' then
      (dayTime? rest).map fun (time, rest) =>
        match offset? rest with
        | some (offset, rest) => ((time, some offset), rest)
        | none => ((time, none), rest)
    else none
  | [] => none

/-- Reads a date, if one starts here; the date need not exist. -/
def date? (text : Text) : Option (Date × Text) := do
  let (year, rest) ← fixedDigits? 4 0 9999 text
  let (month, rest) ← fixedDigits? 2 1 12 (← afterChar? '-' rest)
  let (day, rest) ← fixedDigits? 2 1 31 (← afterChar? '-' rest)
  some (⟨year, month, day⟩, rest)

/-- Reads a moment, if one starts here. -/
def moment? (text : Text) : Option (Except Error (Moment × Text)) :=
  match date? text with
  | some (date, rest) =>
    if !date.isReal then some (.error (.fault .invalidDate text))
    else
      match followingTime? rest with
      | some ((time, offset), rest) => some (.ok (.datetime date time offset, rest))
      | none => some (.ok (.date date, rest))
  | none => (dayTime? text).map fun (time, rest) => .ok (.time time, rest)

end Toml
end ChatReply
