import ComponentCompiler.Number.Binary64

namespace ComponentCompiler
namespace Number

/-!
# Sums and products

A sum or a product of floating-point numbers is the exact one, rounded to the
nearest number with a tie towards the even significand.  The exact result is a
whole number times a power of two.
-/

/-- A whole number times a power of two. -/
structure Dyadic where
  significand : Int
  exponent : Int

namespace Dyadic

/-- The exact sum. -/
def add (first second : Dyadic) : Dyadic :=
  let exponent := min first.exponent second.exponent
  let aligned (value : Dyadic) : Int :=
    value.significand * powerOfTwo (value.exponent - exponent).toNat
  ⟨aligned first + aligned second, exponent⟩

/-- The exact product. -/
def multiply (first second : Dyadic) : Dyadic :=
  ⟨first.significand * second.significand, first.exponent + second.exponent⟩

/-- The nearest floating-point number.  The flag is the sign of a zero. -/
def round (value : Dyadic) (negativeZero : Bool) : Binary64 :=
  let size := value.significand.natAbs
  if size = 0 then .finite negativeZero 0 Binary64.leastExponent
  else if 0 ≤ value.exponent then
    .ofQuotient (value.significand < 0) (size * powerOfTwo value.exponent.toNat) 1
  else .ofQuotient (value.significand < 0) size (powerOfTwo (-value.exponent).toNat)

end Dyadic

namespace Binary64

/-- The exact value of a finite number. -/
def exact (negative : Bool) (significand : Nat) (exponent : Int) : Dyadic :=
  ⟨if negative then -(significand : Int) else significand, exponent⟩

/-- The number nearest to a whole number. -/
def ofInt (number : Int) : Binary64 :=
  Dyadic.round ⟨number, 0⟩ false

/-- The number with the other sign. -/
def negate : Binary64 → Binary64
  | .finite negative significand exponent => .finite (!negative) significand exponent
  | .infinite negative => .infinite (!negative)
  | .undefined => .undefined

/-- The sum.  Infinities of both signs have none. -/
def add : Binary64 → Binary64 → Binary64
  | .finite first firstSignificand firstExponent, .finite second secondSignificand secondExponent =>
    ((exact first firstSignificand firstExponent).add
      (exact second secondSignificand secondExponent)).round (first && second)
  | .infinite first, .infinite second => if first = second then .infinite first else .undefined
  | .infinite first, .finite .. => .infinite first
  | .finite .., .infinite second => .infinite second
  | .undefined, _ => .undefined
  | _, .undefined => .undefined

/-- The product.  Zero and an infinity have none. -/
def multiply : Binary64 → Binary64 → Binary64
  | .finite first firstSignificand firstExponent, .finite second secondSignificand secondExponent =>
    ((exact first firstSignificand firstExponent).multiply
      (exact second secondSignificand secondExponent)).round (first != second)
  | .infinite first, .infinite second => .infinite (first != second)
  | .infinite first, .finite second significand _ =>
    if significand = 0 then .undefined else .infinite (first != second)
  | .finite first significand _, .infinite second =>
    if significand = 0 then .undefined else .infinite (first != second)
  | .undefined, _ => .undefined
  | _, .undefined => .undefined

end Binary64
end Number
end ComponentCompiler
