import ComponentCompiler.Number.Whole
import ComponentCompiler.Schema.Checked
import ComponentCompiler.Value.ReadFault

namespace ComponentCompiler
namespace Schema

open Number

/-!
# Numbers in text

A number may be given as text, with padding around it and single underscores
between its digits.  A whole number may also have zeros in front of it, and a
point with zeros behind it.
-/

/-- The characters behind one leading plus sign, which no minus sign follows. -/
def withoutPlus? : List Char → Option (List Char)
  | '+' :: '-' :: _ => none
  | '+' :: rest => some rest
  | characters => some characters

/-- What stays of a number behind a leading zero.  Zeros and underscores are
passed over, except for the last one before a point or the end. -/
def afterZeros? (last : Char) : List Char → Option (List Char)
  | [] => some [last]
  | character :: rest =>
    if character = '0' || character = '_' then afterZeros? character rest
    else if character = '.' then some (last :: character :: rest)
    else if character.isDigit then some (character :: rest)
    else none

/-- A number without the zeros in front.  It starts with a digit or a minus sign. -/
def withoutZeros? : List Char → Option (List Char)
  | '0' :: rest => afterZeros? '0' rest
  | character :: rest =>
    if character.isDigit || character = '-' then some (character :: rest) else none
  | [] => none

/-- The characters without a point that only zeros follow, of which there is one
at least. -/
def withoutZeroFraction (characters : List Char) : List Char :=
  match characters.span fun character => character ≠ '.' with
  | (whole, _ :: digit :: zeros) =>
    if (digit :: zeros).all fun character => character = '0' then whole else characters
  | _ => characters

/-- The digits of a whole number, with a minus sign in front or none. -/
def plainWhole? (characters : List Char) : Option (List Char) := do
  let unsigned ← withoutPlus? (Text.unpadded characters)
  let trimmed ← withoutZeros? unsigned
  withoutUnderscores? (withoutZeroFraction trimmed)

/-- The whole number of digits with a minus sign in front or none.  A zero in
front of other digits is refused. -/
def wholeOfDigits? (characters : List Char) : Option Int :=
  let negative := characters.head? = some '-'
  let digits := if negative then characters.tail else characters
  if digits.head? = some '0' && digits ≠ ['0'] then none
  else (readSize? digits).map (signed negative)

/-- The number of characters of a sign and the digits behind it. -/
def wholeLength : List Char → Nat
  | '-' :: rest => (rest.takeWhile Char.isDigit).length + 1
  | characters => (characters.takeWhile Char.isDigit).length

/-- A whole number in text.  The value is what an issue tells of. -/
def checkIntText (text : String) (value : Value) : Checked Int :=
  match plainWhole? text.toList with
  | none => reject .unreadableInt value
  | some characters =>
    if mostDigits < wholeLength characters then reject .hugeInt value
    else
      match wholeOfDigits? characters with
      | some number => .valid number
      | none => reject .unreadableInt value

/-- The number that a text stands for, with padding or with underscores. -/
def numberOfText? (text : String) : Option Binary64 :=
  (readNumber? (Text.unpadded text.toList)).or ((withoutUnderscores? text.toList).bind readNumber?)

/-- A number in text.  The value is what an issue tells of. -/
def checkNumberText (text : String) (value : Value) : Checked Binary64 :=
  match numberOfText? text with
  | some number => .valid number
  | none => reject .unreadableNumber value

end Schema
end ComponentCompiler
