import ComponentCompiler.Number.Binary64

namespace ComponentCompiler
namespace Number

/-!
# Decimal notation

How numbers are read from decimal digits, with a sign, a point and an exponent.
Only the digits of the basic Latin block count here.
-/

/-- The number that digits denote in a base. -/
def natOfDigits (base : Nat) (digits : List Nat) : Nat :=
  digits.foldl (fun number digit => number * base + digit) 0

/-- The value of a digit in base sixteen. -/
def hexDigit? (character : Char) : Option Nat :=
  if character.isDigit then some (character.toNat - '0'.toNat)
  else if 'a' ≤ character && character ≤ 'f' then some (character.toNat - 'a'.toNat + 10)
  else if 'A' ≤ character && character ≤ 'F' then some (character.toNat - 'A'.toNat + 10)
  else none

/-- The number that decimal digits denote. -/
def decimalOf (digits : List Char) : Nat :=
  natOfDigits 10 (digits.map fun digit => digit.toNat - '0'.toNat)

/-- A sign in front, and what follows it. -/
def takeSign : List Char → Bool × List Char
  | '-' :: rest => (true, rest)
  | '+' :: rest => (false, rest)
  | rest => (false, rest)

/-- A size with its sign. -/
def signed (negative : Bool) (size : Nat) : Int :=
  if negative then -(size : Int) else size

/-- The size that digits stand for. -/
def readSize? (digits : List Char) : Option Nat :=
  if digits.isEmpty || !digits.all Char.isDigit then none else some (decimalOf digits)

/-- The exponent at the end of a number. -/
def readExponent? : List Char → Option Int
  | [] => some 0
  | mark :: rest =>
    if mark = 'e' || mark = 'E' then
      let (negative, digits) := takeSign rest
      (readSize? digits).map (signed negative)
    else none

/-- The number that digits with a point and an exponent stand for. -/
def readDecimal? (negative : Bool) (characters : List Char) : Option Binary64 :=
  let (whole, behind) := characters.span Char.isDigit
  let (fraction, exponent) :=
    match behind with
    | '.' :: rest => rest.span Char.isDigit
    | rest => ([], rest)
  if whole.isEmpty && fraction.isEmpty then none
  else
    (readExponent? exponent).map fun power =>
      .ofDecimal negative (decimalOf (whole ++ fraction)) (power - fraction.length)

/-- The number that characters stand for: a decimal, or a word for one that is
not finite. -/
def readNumber? (characters : List Char) : Option Binary64 :=
  let (negative, rest) := takeSign characters
  let word := String.ofList (rest.map Char.toLower)
  if word = "inf" || word = "infinity" then some (.infinite negative)
  else if word = "nan" then some .undefined
  else readDecimal? negative rest

end Number
end ComponentCompiler
