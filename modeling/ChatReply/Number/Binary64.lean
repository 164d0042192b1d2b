/-!
# Binary floating-point numbers of 64 bits

The number nearest to a decimal. A tie goes to the even significand, and what is too large is
infinite.
-/

namespace ChatReply

/-- A number without its sign: zero, infinity, or a significand times a power of two. -/
inductive Binary64 where
  /-- The number zero. -/
  | zero
  /-- More than every finite number. -/
  | infinite
  /-- The significand, below 2^53, times two to the exponent, which is at least -1074. -/
  | finite (significand : Nat) (exponent : Int)
deriving DecidableEq, Repr

/-- A positive fraction times a power of ten, as numerator and denominator. -/
def scaleTen (numerator denominator : Nat) (exponent : Int) : Nat × Nat :=
  match exponent with
  | .ofNat power => (numerator * Nat.pow 10 power, denominator)
  | .negSucc power => (numerator, denominator * Nat.pow 10 (power + 1))

/-- A positive fraction times a power of two, as numerator and denominator. -/
def scaleTwo (numerator denominator : Nat) (exponent : Int) : Nat × Nat :=
  match exponent with
  | .ofNat power => (numerator * Nat.pow 2 power, denominator)
  | .negSucc power => (numerator, denominator * Nat.pow 2 (power + 1))

/-- The integer nearest to a fraction, with ties going to the even one. -/
def roundDiv (numerator denominator : Nat) : Nat :=
  let quotient := numerator / denominator
  let twice := 2 * (numerator % denominator)
  if twice < denominator ∨ (twice = denominator ∧ quotient % 2 = 0) then quotient
  else quotient + 1

namespace Binary64

/-- The least significand of 53 bits. -/
def leastNormal : Nat := Nat.pow 2 52

/-- The least exponent of a finite number. -/
def leastExponent : Int := -1074

/-- The greatest exponent of a finite number. -/
def greatestExponent : Int := 971

/-- The exponent at which the significand of a positive fraction has 53 bits, or the least one. -/
def exponentFor (numerator denominator : Nat) : Int :=
  let guess : Int := (numerator.log2 : Int) - denominator.log2 - 52
  let (scaled, unit) := scaleTwo numerator denominator (-guess)
  max leastExponent (if scaled < leastNormal * unit then guess - 1 else guess)

/-- The number nearest to a positive fraction. -/
def ofFraction (numerator denominator : Nat) : Binary64 :=
  let exponent := exponentFor numerator denominator
  let (scaled, unit) := scaleTwo numerator denominator (-exponent)
  let rounded := roundDiv scaled unit
  let (significand, exponent) :=
    if rounded = 2 * leastNormal then (leastNormal, exponent + 1) else (rounded, exponent)
  if significand = 0 then zero
  else if greatestExponent < exponent then infinite
  else finite significand exponent

/-- The number nearest to an integer times a power of ten. Powers beyond the reach of finite
numbers are told apart before any power is taken. -/
def ofDecimal (coefficient : Nat) (exponent : Int) : Binary64 :=
  let magnitude : Int := (Nat.repr coefficient).length + exponent
  if coefficient = 0 ∨ magnitude < -330 then zero
  else if 310 < magnitude then infinite
  else
    let (numerator, denominator) := scaleTen coefficient 1 exponent
    ofFraction numerator denominator

end Binary64
end ChatReply
