namespace ComponentCompiler
namespace Number

/-!
# Floating-point numbers

A number of 64 bits is held as its exact value: a sign, a whole significand
and a power of two.  Reading a decimal rounds to the nearest such value and
breaks a tie towards the even significand, by exact arithmetic on whole
numbers throughout.
-/

/-- A floating-point number of 64 bits.  A finite one is the significand times
two to the exponent, with the sign in front; zero has a sign too. -/
inductive Binary64 where
  | finite (negative : Bool) (significand : Nat) (exponent : Int)
  | infinite (negative : Bool)
  | undefined
deriving DecidableEq, Repr

/-- The quotient rounded to the nearest whole number, a half to the even one. -/
def roundQuotient (numerator denominator : Nat) : Nat :=
  let quotient := numerator / denominator
  let rest := numerator % denominator
  if 2 * rest < denominator then quotient
  else if denominator < 2 * rest then quotient + 1
  else if quotient % 2 = 0 then quotient else quotient + 1

/-- A power of two. -/
def powerOfTwo (exponent : Nat) : Nat :=
  Nat.pow 2 exponent

/-- A power of ten. -/
def powerOfTen (exponent : Nat) : Nat :=
  Nat.pow 10 exponent

/-- A quotient divided by a power of two, as numerator and denominator. -/
def dividePower (numerator denominator : Nat) (exponent : Int) : Nat × Nat :=
  if 0 ≤ exponent then (numerator, denominator * powerOfTwo exponent.toNat)
  else (numerator * powerOfTwo (-exponent).toNat, denominator)

namespace Binary64

/-- The least exponent of a finite number. -/
def leastExponent : Int := -1074

/-- The greatest exponent of a finite number. -/
def greatestExponent : Int := 971

/-- The number nearest to a quotient of whole numbers. -/
def ofQuotient (negative : Bool) (numerator denominator : Nat) : Binary64 :=
  if numerator = 0 then .finite negative 0 leastExponent
  else
    let estimate : Int := (numerator.log2 : Int) - (denominator.log2 : Int) - 52
    let atEstimate := dividePower numerator denominator estimate
    let full := if powerOfTwo 52 * atEstimate.2 ≤ atEstimate.1 then estimate else estimate - 1
    let exponent := max full leastExponent
    let scaled := dividePower numerator denominator exponent
    let rounded := roundQuotient scaled.1 scaled.2
    let significand := if rounded = powerOfTwo 53 then powerOfTwo 52 else rounded
    let settled := if rounded = powerOfTwo 53 then exponent + 1 else exponent
    if greatestExponent < settled then .infinite negative
    else .finite negative significand settled

/-- The number nearest to the digits times a power of ten.  Exponents far out
of range are decided without computing the power. -/
def ofDecimal (negative : Bool) (digits : Nat) (scale : Int) : Binary64 :=
  let magnitude : Int := (Nat.toDigits 10 digits).length + scale
  if digits = 0 || magnitude < -400 then .finite negative 0 leastExponent
  else if 400 < magnitude then .infinite negative
  else if 0 ≤ scale then ofQuotient negative (digits * powerOfTen scale.toNat) 1
  else ofQuotient negative digits (powerOfTen (-scale).toNat)

/-- Whether the number is zero, of either sign. -/
def isZero : Binary64 → Bool
  | .finite _ significand _ => significand == 0
  | _ => false

/-- Whether the number is neither infinite nor undefined. -/
def isFinite : Binary64 → Bool
  | .finite .. => true
  | _ => false

/-- The whole number that a finite number without a fraction stands for. -/
def toInt? : Binary64 → Option Int
  | .finite negative significand exponent =>
    let magnitude? : Option Nat :=
      if 0 ≤ exponent then some (significand * powerOfTwo exponent.toNat)
      else if significand % powerOfTwo (-exponent).toNat = 0 then
        some (significand / powerOfTwo (-exponent).toNat)
      else none
    magnitude?.map fun magnitude => if negative then -(magnitude : Int) else (magnitude : Int)
  | _ => none

end Binary64
end Number
end ComponentCompiler
