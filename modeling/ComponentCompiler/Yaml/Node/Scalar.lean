import ComponentCompiler.Number.Arithmetic
import ComponentCompiler.Number.Whole
import ComponentCompiler.Text.Base64
import ComponentCompiler.Text.Casing
import ComponentCompiler.Yaml.Node.Basic
import ComponentCompiler.Yaml.Node.Timestamp

namespace ComponentCompiler
namespace Yaml

open Number

/-!
# The values of scalars

The tag of a scalar says how its text is read.  Whole numbers may be written to
the bases of two, eight and sixteen, and numbers in parts to the base of sixty;
underscores are passed over.  A text that its tag cannot be read from is a
fault of its own.
-/

/-- The words for truth values. -/
def truthWords : List (String × Bool) :=
  [("yes", true), ("no", false), ("true", true), ("false", false), ("on", true), ("off", false)]

/-- The truth value that a text is, in any spelling of its letters. -/
def readTruth (characters : List Char) : Except ReadFault Value :=
  let word := String.ofList (Text.lower characters)
  match truthWords.lookup word with
  | some truth => .ok (.bool truth)
  | none => .error (.notTruth word)

/-- The whole number that a text is to a base.  In base ten the number of digits
is bounded. -/
def wholeOf (base : Nat) (characters : List Char) : Except ReadFault Int :=
  let text := WholeText.ofChars base characters
  if base = 10 && mostDigits < text.digits.length then .error (.tooManyDigits text.digits.length)
  else if text.isComplete then .ok (text.number base)
  else .error (.notWhole base (String.ofList characters))

/-- The whole number whose parts to the base of sixty are divided by colons. -/
def wholeOfSixties (characters : List Char) : Except ReadFault Int := do
  let parts ← (Text.piecesAt ':' characters).mapM (wholeOf 10)
  return parts.foldl (fun number part => number * 60 + part) 0

/-- The characters without underscores. -/
def plainDigits (characters : List Char) : List Char :=
  characters.filter fun character => character ≠ '_'

/-- The size of a whole number, behind its sign. -/
def readSize (characters : List Char) : Except ReadFault Int :=
  match characters with
  | [] => .error .emptyNumber
  | ['0'] => .ok 0
  | '0' :: 'b' :: digits => wholeOf 2 digits
  | '0' :: 'x' :: digits => wholeOf 16 digits
  | '0' :: digits => wholeOf 8 ('0' :: digits)
  | other => if other.contains ':' then wholeOfSixties other else wholeOf 10 other

/-- The whole number that a text is. -/
def readWhole (characters : List Char) : Except ReadFault Value := do
  let plain := plainDigits characters
  if plain.isEmpty then .error .emptyNumber
  let (negative, rest) := takeSign plain
  let size ← readSize rest
  return .int (if negative then -size else size)

/-- The character for a decimal digit of any script; other characters stay. -/
def latinDigit (character : Char) : Char :=
  match Text.decimalDigit? character with
  | some value => Char.ofNat ('0'.toNat + value)
  | none => character

/-- The number that a text is, with padding around it. -/
def numberOf (characters : List Char) : Except ReadFault Binary64 :=
  match readNumber? ((Text.unpadded characters).map latinDigit) with
  | some number => .ok number
  | none => .error (.notNumber (String.ofList characters))

/-- The sum of parts, each times its power of sixty, the lowest first. -/
def sumOfSixties (power : Nat) (sum : Binary64) : List Binary64 → Except ReadFault Binary64
  | [] => .ok sum
  | part :: rest =>
    match Binary64.ofInt power with
    | .infinite _ => .error .hugePower
    | factor => sumOfSixties (power * 60) (sum.add (part.multiply factor)) rest

/-- The size of a number, behind its sign. -/
def readMagnitude (characters : List Char) : Except ReadFault Binary64 :=
  if characters = ".inf".toList then .ok (.infinite false)
  else if characters = ".nan".toList then .ok .undefined
  else if characters.contains ':' then do
    let parts ← (Text.piecesAt ':' characters).mapM numberOf
    sumOfSixties 1 (.ofInt 0) parts.reverse
  else numberOf characters

/-- The number that a text is. -/
def readReal (characters : List Char) : Except ReadFault Value := do
  let plain := Text.lower (plainDigits characters)
  if plain.isEmpty then .error .emptyNumber
  let (negative, rest) := takeSign plain
  let size ← readMagnitude rest
  return .real (if negative then size.negate else size)

/-- The bytes that a text stands for. -/
def readBytes (characters : List Char) : Except ReadFault Value :=
  if characters.all fun character => character.toNat < 0x80 then
    match Text.bytesOfLetters? characters with
    | some bytes => .ok (.bytes bytes)
    | none => .error .malformed
  else .error .malformed

/-- The value of a text with a tag. -/
def scalarValue (tag : Tag) (content : String) : Except ReadFault Value :=
  let characters := content.toList
  match tag with
  | .null => .ok .null
  | .text => .ok (.text content)
  | .bool => readTruth characters
  | .int => readWhole characters
  | .real => readReal characters
  | .moment => readMoment characters
  | .bytes => readBytes characters
  | _ => .error .malformed

end Yaml
end ComponentCompiler
