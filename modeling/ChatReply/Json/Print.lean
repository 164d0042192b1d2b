import ChatReply.Json.Value
import ChatReply.Text.Hex
import ChatReply.Text.Line

/-!
# Printing JSON

A value is printed on one line, or over several lines with each nesting level indented. Only quotes,
backslashes and control characters below the space are escaped in strings.
-/

namespace ChatReply
namespace Json

/-- A character as it stands in a string. -/
def escape (c : Char) : Text :=
  if c = '\x22' then ['\\', '\x22']
  else if c = '\\' then ['\\', '\\']
  else if c = '\n' then ['\\', 'n']
  else if c = '\r' then ['\\', 'r']
  else if c = '\t' then ['\\', 't']
  else if c = '\x08' then ['\\', 'b']
  else if c = '\x0c' then ['\\', 'f']
  else if c.toNat < 0x20 then '\\' :: 'u' :: hexDigits 4 c.toNat
  else [c]

/-- A string between quotes. -/
def printString (text : Text) : Text :=
  '\x22' :: text.flatMap escape ++ ['\x22']

/-- An integer in decimal digits. -/
def printInteger (value : Int) : Text :=
  match value with
  | .ofNat magnitude => (Nat.repr magnitude).toList
  | .negSucc predecessor => '-' :: (Nat.repr (predecessor + 1)).toList

/-- The start of a new line at a nesting level, if the printing is indented. -/
def newLine (indent : Option Nat) (level : Nat) : Text :=
  match indent with
  | none => []
  | some width => '\n' :: List.replicate (width * level) ' '

/-- What stands between two items at a nesting level. -/
def comma (indent : Option Nat) (level : Nat) : Text :=
  match indent with
  | none => [',', ' ']
  | some _ => ',' :: newLine indent level

/-- Puts brackets around the printed items of a nesting level. -/
def bracket (indent : Option Nat) (level : Nat) (left right : Char) (items : List Text) : Text :=
  if items = [] then [left, right]
  else
    left :: newLine indent (level + 1) ++ joinWith (comma indent (level + 1)) items ++
      newLine indent level ++ [right]

mutual

/-- Prints a value at a nesting level. -/
def printAt (indent : Option Nat) (level : Nat) : Json → Text
  | null => ['n', 'u', 'l', 'l']
  | bool true => ['t', 'r', 'u', 'e']
  | bool false => ['f', 'a', 'l', 's', 'e']
  | integer value => printInteger value
  | string text => printString text
  | array items => bracket indent level '[' ']' (printItems indent (level + 1) items)
  | object fields => bracket indent level '\x7b' '\x7d' (printFields indent (level + 1) fields)

/-- Prints each of the items of an array. -/
def printItems (indent : Option Nat) (level : Nat) : List Json → List Text
  | [] => []
  | item :: items => printAt indent level item :: printItems indent level items

/-- Prints each of the fields of an object. -/
def printFields (indent : Option Nat) (level : Nat) : List (String × Json) → List Text
  | [] => []
  | (name, value) :: fields =>
    (printString name.toList ++ [':', ' '] ++ printAt indent level value) ::
      printFields indent level fields

end

/-- Prints a value, indented by a number of spaces for each level or on one line. -/
def print (indent : Option Nat) (value : Json) : Text :=
  printAt indent 0 value

end Json
end ChatReply
