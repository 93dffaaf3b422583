import ComponentCompiler.Number.Shortest

namespace ComponentCompiler
namespace Number

/-!
# The text of a number

The digits are the shortest ones that read back.  A layout says where
positional notation ends and how the values outside the number line are
written.
-/

/-- The decisions of a number's text. -/
structure Layout where
  leastPositional : Int
  pastPositional : Int
  exponentWidth : Nat
  infinity : String
  undefined : String

/-- Numbers in styles and messages. -/
def Layout.plain : Layout := ⟨-4, 16, 2, "inf", "nan"⟩

/-- Numbers in emitted script and in documents. -/
def Layout.script : Layout := ⟨-4, 16, 2, "Infinity", "NaN"⟩

/-- The digits with a point inside or beside them, and at least one digit on
either side. -/
def positional (decimal : Decimal) : List Char :=
  let count := decimal.digits.length
  if decimal.point ≤ 0 then
    '0' :: '.' :: (List.replicate (-decimal.point).toNat '0' ++ decimal.digits)
  else if decimal.point.toNat < count then
    decimal.digits.take decimal.point.toNat ++ '.' :: decimal.digits.drop decimal.point.toNat
  else
    decimal.digits ++ List.replicate (decimal.point.toNat - count) '0' ++ ['.', '0']

/-- The digits with the point after the first and a power of ten behind. -/
def scientific (layout : Layout) (decimal : Decimal) : List Char :=
  let exponent := decimal.point - 1
  let exponentDigits := decimalDigits exponent.natAbs
  let padded :=
    List.replicate (layout.exponentWidth - exponentDigits.length) '0' ++ exponentDigits
  let mantissa :=
    match decimal.digits with
    | first :: second :: rest => first :: '.' :: second :: rest
    | digits => digits
  mantissa ++ 'e' :: (if exponent < 0 then '-' else '+') :: padded

/-- The text of a number. -/
def Binary64.text (layout : Layout) : Binary64 → String
  | .undefined => layout.undefined
  | .infinite negative => if negative then "-" ++ layout.infinity else layout.infinity
  | .finite negative significand exponent =>
    let sign := if negative then "-" else ""
    if significand = 0 then sign ++ "0.0"
    else
      let decimal := shortest significand exponent
      let tenPower := decimal.point - 1
      if layout.leastPositional ≤ tenPower && tenPower < layout.pastPositional then
        sign ++ String.ofList (positional decimal)
      else sign ++ String.ofList (scientific layout decimal)

end Number
end ComponentCompiler
