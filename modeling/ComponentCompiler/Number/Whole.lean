import ComponentCompiler.Number.Decimal
import ComponentCompiler.Text.Blank
import ComponentCompiler.Text.Decimal

namespace ComponentCompiler
namespace Number

/-!
# Whole numbers to a base

A whole number may be written to a base up to sixteen, with padding around it, a
sign, and a mark of its base in front of the digits.  Decimal digits may be of
any script, and single underscores may stand between them.
-/

/-- The value of a digit to a base. -/
def digitOf? (base : Nat) (character : Char) : Option Nat :=
  ((hexDigit? character).orElse fun _ => Text.decimalDigit? character).filter fun value =>
    value < base

/-- The marks of a base. -/
def baseMarks (base : Nat) : List Char :=
  if base = 16 then ['x', 'X']
  else if base = 8 then ['o', 'O']
  else if base = 2 then ['b', 'B']
  else []

/-- The digits behind the mark of a base, when they are marked. -/
def afterBaseMark (base : Nat) : List Char → List Char
  | '0' :: mark :: rest => if (baseMarks base).contains mark then rest else '0' :: mark :: rest
  | characters => characters

/-- Whether each underscore is followed by another character. -/
def underscoresSeparate : List Char → Bool
  | [] => true
  | ['_'] => false
  | '_' :: '_' :: _ => false
  | _ :: rest => underscoresSeparate rest

/-- The characters without underscores, when these stand alone between other
characters. -/
def withoutUnderscores? (characters : List Char) : Option (List Char) :=
  if characters.head? = some '_' || !underscoresSeparate characters then none
  else some (characters.filter fun character => character ≠ '_')

/-- What stands at the head of a text: a sign and digits.  It is complete when
there are digits and nothing is behind them. -/
structure WholeText where
  negative : Bool
  digits : List Nat
  isComplete : Bool

/-- The sign and the digits at the head of a text. -/
def WholeText.ofChars (base : Nat) (characters : List Char) : WholeText :=
  let (negative, rest) := takeSign (Text.unpadded characters)
  let marked := afterBaseMark base rest
  let digits := ((marked.map (digitOf? base)).takeWhile Option.isSome).filterMap id
  ⟨negative, digits, !digits.isEmpty && digits.length = marked.length⟩

/-- The number of a text. -/
def WholeText.number (text : WholeText) (base : Nat) : Int :=
  signed text.negative (natOfDigits base text.digits)

end Number
end ComponentCompiler
