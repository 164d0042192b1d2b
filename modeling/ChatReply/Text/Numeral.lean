import ChatReply.Text.Blank
import ChatReply.Text.Digit

/-!
# Reading decimal numerals

A numeral may use the decimal digits of any script. Numerals of more than 4300 digits are refused,
leading zeros included, so that reading one takes bounded time.
-/

namespace ChatReply
namespace Numeral

/-- The greatest number of digits that a numeral may have. -/
def digitLimit : Nat := 4300

/-- A numeral has more digits than the limit allows. -/
structure TooLong where
  /-- The number of digits of the numeral. -/
  digits : Nat
deriving DecidableEq, Repr

/-- The wording of the refusal. -/
def TooLong.message (error : TooLong) : String :=
  s!"Exceeds the limit ({digitLimit} digits) for integer string conversion: value has " ++
    s!"{error.digits} digits; use sys.set_int_max_str_digits() to increase the limit"

/-- The number that a row of decimal digits denotes. -/
def ofDigits (digits : Text) : Nat :=
  digits.foldl (fun value digit => 10 * value + digitValue digit) 0

/-- Reads a row of decimal digits. -/
def read (digits : Text) : Except TooLong Nat :=
  if digits.length ≤ digitLimit then .ok (ofDigits digits) else .error ⟨digits.length⟩

/-- The blanks that may surround a signed numeral: the information separators are not among them. -/
def isMargin (c : Char) : Bool :=
  isBlank c && !(0x1C ≤ c.toNat && c.toNat ≤ 0x1F)

/-- The digits of a row in which single low lines may stand between two digits. -/
def ungroup? : Text → Option Text
  | [] => none
  | [digit] => if isDigit digit then some [digit] else none
  | digit :: '_' :: rest => if isDigit digit then (ungroup? rest).map (digit :: ·) else none
  | digit :: rest => if isDigit digit then (ungroup? rest).map (digit :: ·) else none

/-- Reads a row of digits, possibly grouped by low lines, within the digit limit. -/
def unsigned? (text : Text) : Option Nat :=
  (ungroup? text).bind fun digits => (read digits).toOption

/-- Reads an integer with an optional sign and blanks around it. -/
def integer? (text : Text) : Option Int :=
  match stripEnd isMargin (stripStart isMargin text) with
  | '+' :: digits => (unsigned? digits).map Int.ofNat
  | '-' :: digits => (unsigned? digits).map fun value => -(value : Int)
  | digits => (unsigned? digits).map Int.ofNat

end Numeral
end ChatReply
