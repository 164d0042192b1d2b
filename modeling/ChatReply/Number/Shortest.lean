import ChatReply.Number.Binary64

/-!
# The shortest decimal of a floating-point number

Of the decimals that are nearer to a number than to any other floating-point number, the one with
the fewest digits is taken, and of several of those the nearest. It is written positionally unless
its exponent is below -4 or above 15.
-/

namespace ChatReply
namespace Shortest

/-- The power of ten of the leading digit of a positive fraction. -/
def leadingExponent (numerator denominator : Nat) : Int :=
  if denominator ≤ numerator then ((Nat.repr (numerator / denominator)).length : Int) - 1
  else
    let places := (Nat.repr (denominator / numerator)).length
    if denominator ≤ numerator * Nat.pow 10 (places - 1) then -((places - 1 : Nat) : Int)
    else -(places : Int)

/-- The decimals of `digits` digits next to a fraction on either side, with the exponent of their
last digit. -/
def neighbours (numerator denominator digits : Nat) : Nat × Int :=
  let last := leadingExponent numerator denominator - digits + 1
  let (scaled, unit) := scaleTen numerator denominator (-last)
  (scaled / unit, last)

/-- The decimal denotes the number: it lies no further away than half the gap to the next number on
its side, ends included for an even significand. All quantities are scaled to one denominator. -/
def denotes (significand : Nat) (exponent : Int) (candidate : Nat) (last : Int) : Bool :=
  let (value, valueUnit) := scaleTwo (4 * significand) 1 exponent
  let (decimal, decimalUnit) := scaleTen (4 * candidate) 1 last
  let (gap, _) := scaleTwo 1 1 exponent
  let value := value * decimalUnit
  let decimal := decimal * valueUnit
  let gap := gap * decimalUnit
  let narrow := significand == Binary64.leastNormal && decide (Binary64.leastExponent < exponent)
  let reach := if decimal < value then (if narrow then gap else 2 * gap) else 2 * gap
  let distance := if decimal < value then value - decimal else decimal - value
  distance < reach || (distance == reach && significand % 2 == 0)

/-- The nearer of the two neighbours that denotes the number, if one does. -/
def candidate? (significand : Nat) (exponent : Int) (digits : Nat) : Option (Nat × Int) :=
  let (numerator, denominator) := scaleTwo significand 1 exponent
  let (low, last) := neighbours numerator denominator digits
  let (scaled, unit) := scaleTen numerator denominator (-last)
  let twice := 2 * (scaled % unit)
  let upperFirst := unit < twice || (twice == unit && low % 2 == 1)
  let order := if upperFirst then [low + 1, low] else [low, low + 1]
  (order.find? fun candidate => denotes significand exponent candidate last).map (·, last)

/-- The shortest decimal of a finite number: its digits and the exponent of the last one. Seventeen
digits always suffice. -/
def decimal (significand : Nat) (exponent : Int) : Nat × Int :=
  ((List.range 17).findSome? fun extra => candidate? significand exponent (extra + 1)).getD (0, 0)

/-- Writes digits with a point after a given number of them, zeros filled in as needed. -/
def positional (digits : List Char) (whole : Int) : List Char :=
  if whole ≤ 0 then
    ['0', '.'] ++ List.replicate (-whole).toNat '0' ++ digits
  else
    let padded := digits ++ List.replicate (whole.toNat - digits.length) '0'
    let fraction := padded.drop whole.toNat
    padded.take whole.toNat ++ ['.'] ++ (if fraction = [] then ['0'] else fraction)

/-- Writes digits in scientific notation, with an exponent of at least two digits. -/
def scientific (digits : List Char) (exponent : Int) : List Char :=
  let magnitude := (Nat.repr exponent.natAbs).toList
  let fraction := digits.drop 1
  digits.take 1 ++ (if fraction = [] then [] else '.' :: fraction) ++
    ['e', if exponent < 0 then '-' else '+'] ++
    List.replicate (2 - magnitude.length) '0' ++ magnitude

/-- The digits of a number without the zeros at their end. -/
def significantDigits (value : Nat) : List Char :=
  (((Nat.repr value).toList.reverse).dropWhile (· == '0')).reverse

/-- The text of a finite number. -/
def finiteText (significand : Nat) (exponent : Int) : List Char :=
  let (value, last) := decimal significand exponent
  let leading : Int := (Nat.repr value).length - 1 + last
  let digits := significantDigits value
  if -4 ≤ leading ∧ leading < 16 then positional digits (leading + 1)
  else scientific digits leading

/-- The text of a number with its sign. -/
def text (negative : Bool) (number : Binary64) : String :=
  let sign := if negative then ['-'] else []
  String.ofList <| sign ++ match number with
    | .zero => ['0', '.', '0']
    | .infinite => ['i', 'n', 'f']
    | .finite significand exponent => finiteText significand exponent

end Shortest
end ChatReply
