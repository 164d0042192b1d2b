import ChatReply.Json.Value
import ChatReply.Text.Hex

/-!
# Reading JSON

A reader takes a value from the head of a text and leaves the rest. It accepts blanks wherever JSON
allows them and every escape of a string; a pair of surrogate escapes is one character. Numbers are
integers.
-/

namespace ChatReply
namespace Json

/-- The character may stand between two tokens. -/
def isSpace (c : Char) : Bool :=
  c == ' ' || c == '\n' || c == '\r' || c == '\t'

/-- The text after the blanks at its head. -/
def skipSpace (text : Text) : Text :=
  text.dropWhile isSpace

/-- The value of four hexadecimal digits. -/
def fourHex? : Text → Option (Nat × Text)
  | a :: b :: c :: d :: rest => do
    let value := (← hexValue? a) * 0x1000 + (← hexValue? b) * 0x100
    some (value + (← hexValue? c) * 0x10 + (← hexValue? d), rest)
  | _ => none

/-- The character of a code point that stands for itself. -/
def scalar? (point : Nat) : Option Char :=
  if h : point.isValidChar then some (Char.ofNatAux point h) else none

/-- The character of an escape, the backslash of which has been read. -/
def unescape? : Text → Option (Char × Text)
  | 'n' :: rest => some ('\n', rest)
  | 'r' :: rest => some ('\r', rest)
  | 't' :: rest => some ('\t', rest)
  | 'b' :: rest => some ('\x08', rest)
  | 'f' :: rest => some ('\x0c', rest)
  | 'u' :: digits => do
    let (point, rest) ← fourHex? digits
    match scalar? point, rest with
    | some c, _ => some (c, rest)
    | none, '\\' :: 'u' :: lowDigits =>
      let (low, rest) ← fourHex? lowDigits
      if point < 0xDC00 ∧ 0xDC00 ≤ low ∧ low < 0xE000 then
        (scalar? (0x10000 + (point - 0xD800) * 0x400 + (low - 0xDC00))).map (·, rest)
      else none
    | none, _ => none
  | c :: rest => if c = '\x22' ∨ c = '\\' ∨ c = '/' then some (c, rest) else none
  | [] => none

/-- Reads the rest of a string, the opening quote of which has been read. -/
def readString? : Nat → Text → Option (Text × Text)
  | 0, _ => none
  | _ + 1, [] => none
  | fuel + 1, c :: rest =>
    if c = '\x22' then some ([], rest)
    else if c = '\\' then do
      let (c, rest) ← unescape? rest
      let (text, rest) ← readString? fuel rest
      some (c :: text, rest)
    else if c.toNat < 0x20 then none
    else do
      let (text, rest) ← readString? fuel rest
      some (c :: text, rest)

/-- The value of a row of ASCII digits without superfluous zeros. -/
def natural? (digits : Text) : Option Nat :=
  match digits with
  | [] => none
  | '0' :: _ :: _ => none
  | _ => some (digits.foldl (fun value digit => 10 * value + (digit.toNat - '0'.toNat)) 0)

/-- Reads an integer. -/
def readInteger? (text : Text) : Option (Int × Text) :=
  match text with
  | '-' :: rest =>
    (natural? (rest.takeWhile Char.isDigit)).map fun value =>
      (-(value : Int), rest.dropWhile Char.isDigit)
  | _ =>
    (natural? (text.takeWhile Char.isDigit)).map fun value =>
      ((value : Int), text.dropWhile Char.isDigit)

mutual

/-- Reads a value at the head of a text. -/
def readValue? : Nat → Text → Option (Json × Text)
  | 0, _ => none
  | fuel + 1, text =>
    match skipSpace text with
    | 'n' :: 'u' :: 'l' :: 'l' :: rest => some (null, rest)
    | 't' :: 'r' :: 'u' :: 'e' :: rest => some (bool true, rest)
    | 'f' :: 'a' :: 'l' :: 's' :: 'e' :: rest => some (bool false, rest)
    | '\x22' :: rest => (readString? fuel rest).map fun (text, rest) => (string text, rest)
    | '[' :: rest =>
      match skipSpace rest with
      | ']' :: rest => some (array [], rest)
      | _ => (readItems? fuel rest).map fun (items, rest) => (array items, rest)
    | '\x7b' :: rest =>
      match skipSpace rest with
      | '\x7d' :: rest => some (object [], rest)
      | _ => (readFields? fuel rest).map fun (fields, rest) => (object fields, rest)
    | text => (readInteger? text).map fun (value, rest) => (integer value, rest)

/-- Reads the items of an array up to its closing bracket. -/
def readItems? : Nat → Text → Option (List Json × Text)
  | 0, _ => none
  | fuel + 1, text => do
    let (item, rest) ← readValue? fuel text
    match skipSpace rest with
    | ']' :: rest => some ([item], rest)
    | ',' :: rest =>
      let (items, rest) ← readItems? fuel rest
      some (item :: items, rest)
    | _ => none

/-- Reads the fields of an object up to its closing bracket. -/
def readFields? : Nat → Text → Option (List (String × Json) × Text)
  | 0, _ => none
  | fuel + 1, text =>
    match skipSpace text with
    | '\x22' :: rest => do
      let (name, rest) ← readString? fuel rest
      match skipSpace rest with
      | ':' :: rest =>
        let (value, rest) ← readValue? fuel rest
        match skipSpace rest with
        | '\x7d' :: rest => some ([(String.ofList name, value)], rest)
        | ',' :: rest =>
          let (fields, rest) ← readFields? fuel rest
          some ((String.ofList name, value) :: fields, rest)
        | _ => none
      | _ => none
    | _ => none

end

/-- Reads a text that holds one value and nothing else. -/
def read? (text : Text) : Option Json :=
  match readValue? (text.length + 1) text with
  | some (value, rest) => if skipSpace rest = [] then some value else none
  | none => none

end Json
end ChatReply
