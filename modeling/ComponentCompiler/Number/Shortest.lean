import ComponentCompiler.Number.Binary64

namespace ComponentCompiler
namespace Number

/-!
# The shortest decimal of a floating-point number

A finite number is written with the fewest decimal digits that read back as the
same number, and with the nearest of these.  The decimals that read back form
an interval around the number; its ends belong to it when the significand is
even.  For a growing count of digits the two neighbours of the number on the
decimal grid are tested against the interval.
-/

/-- A decimal: the digits stand behind a point that is then moved right by
`point` places. -/
structure Decimal where
  digits : List Char
  point : Int

/-- The decimal digits of a whole number. -/
def decimalDigits (number : Nat) : List Char :=
  Nat.toDigits 10 number

/-- The interval of a number, over one denominator. -/
structure Interval where
  low : Nat
  value : Nat
  high : Nat
  denominator : Nat
  closed : Bool

/-- The interval of the values that round to a significand and exponent.  Below
a power of two the neighbour is half as far away. -/
def intervalOf (significand : Nat) (exponent : Int) : Interval :=
  let below := if significand = powerOfTwo 52 && Binary64.leastExponent < exponent then 1 else 2
  let quarter := exponent - 2
  let factor := powerOfTwo quarter.toNat
  { low := (4 * significand - below) * factor
    value := 4 * significand * factor
    high := (4 * significand + 2) * factor
    denominator := powerOfTwo (-quarter).toNat
    closed := significand % 2 == 0 }

/-- Whether a multiple of the grid unit lies in the interval.  All arguments are
over one denominator. -/
def Interval.admits (interval : Interval) (low high candidate : Nat) : Bool :=
  if interval.closed then low ≤ candidate && candidate ≤ high
  else low < candidate && candidate < high

/-- The place of the point: the least power of ten above the value. -/
def pointOf (interval : Interval) : Int :=
  if interval.denominator ≤ interval.value then
    (decimalDigits (interval.value / interval.denominator)).length
  else
    let inverse := (interval.denominator + interval.value - 1) / interval.value
    1 - ((decimalDigits (inverse - 1)).length : Int)

/-- The nearest decimal with the given count of digits, when it lies in the
interval. -/
def decimalOf? (interval : Interval) (point : Int) (count : Nat) : Option Nat :=
  let unit := point - count
  let up := powerOfTen (-unit).toNat
  let denominator := interval.denominator * powerOfTen unit.toNat
  let value := interval.value * up
  let floor := value / denominator
  let admits candidate := interval.admits (interval.low * up) (interval.high * up)
    (candidate * denominator)
  let distanceBelow := value - floor * denominator
  let distanceAbove := (floor + 1) * denominator - value
  if admits floor then
    if admits (floor + 1) then
      if distanceBelow < distanceAbove then some floor
      else if distanceAbove < distanceBelow then some (floor + 1)
      else if floor % 2 = 0 then some floor else some (floor + 1)
    else some floor
  else if admits (floor + 1) then some (floor + 1)
  else none

/-- The digits without the zeros at their end. -/
def withoutTrailingZeros (digits : List Char) : List Char :=
  (digits.reverse.dropWhile (· = '0')).reverse

/-- Try the counts of digits from `count` on. -/
def shortestFrom (interval : Interval) (point : Int) : Nat → Nat → Decimal
  | 0, count => ⟨decimalDigits (interval.value * powerOfTen count / interval.denominator), point⟩
  | attempts + 1, count =>
    match decimalOf? interval point count with
    | some number =>
      let digits := decimalDigits number
      ⟨withoutTrailingZeros digits, point + (digits.length - count : Int)⟩
    | none => shortestFrom interval point attempts (count + 1)

/-- The shortest decimal that reads back as the significand times the power of
two.  Seventeen digits always suffice. -/
def shortest (significand : Nat) (exponent : Int) : Decimal :=
  let interval := intervalOf significand exponent
  shortestFrom interval (pointOf interval) 17 1

end Number
end ComponentCompiler
