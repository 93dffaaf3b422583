namespace ComponentCompiler
namespace HostName

/-!
# Labels in basic Latin

A label with other characters is written in basic Latin: its basic characters come
first, then the places and the values of the others, in order of value, as numbers
in base 36.  A number ends at its first digit below a threshold.  The thresholds
depend on a bias that follows the size of the numbers written so far, which keeps
them short.
-/

/-- The threshold of the digit at a position of a number. -/
def threshold (bias position : Nat) : Nat :=
  max 1 (min 26 (36 * (position + 1) - bias))

/-- A threshold is positive, so that a digit can end a number. -/
theorem threshold_pos (bias position : Nat) : 0 < threshold bias position := by
  unfold threshold
  omega

/-- What is left of a number behind a digit is smaller than it. -/
theorem rest_lt {number least : Nat} (positive : 0 < least) (large : ¬number < least) :
    (number - least) / (36 - least) < number := by
  have := Nat.div_le_self (number - least) (36 - least)
  omega

/-- A large difference, scaled down, with what the scaling adds to the bias. -/
def scaled (difference added : Nat) : Nat × Nat :=
  if _large : 455 < difference then scaled (difference / 35) (added + 36) else (difference, added)
termination_by difference
decreasing_by exact Nat.div_lt_self (by omega) (by omega)

/-- The bias that follows a number. -/
def nextBias (number count : Nat) (isFirst : Bool) : Nat :=
  let damped := if isFirst then number / 700 else number / 2
  let (difference, added) := scaled (damped + damped / count) 0
  added + 36 * difference / (difference + 38)

/-- The bias of the first number. -/
def firstBias : Nat := 72

/-- The value below which characters are basic. -/
def firstValue : Nat := 0x80

/-- The character of a digit. -/
def digitChar (digit : Nat) : Char :=
  if digit < 26 then Char.ofNat ('a'.toNat + digit) else Char.ofNat ('0'.toNat + (digit - 26))

/-- The value of a digit. -/
def digitValue? (character : Char) : Option Nat :=
  if character.isUpper then some (character.toNat - 'A'.toNat)
  else if character.isLower then some (character.toNat - 'a'.toNat)
  else if character.isDigit then some (character.toNat - '0'.toNat + 26)
  else none

/-- The digits of a number from a position on, the lowest first. -/
def numberDigits (bias position number : Nat) : List Char :=
  if _small : number < threshold bias position then [digitChar number]
  else
    let least := threshold bias position
    digitChar (least + (number - least) % (36 - least)) ::
      numberDigits bias (position + 1) ((number - least) / (36 - least))
termination_by number
decreasing_by exact rest_lt (threshold_pos bias position) _small

/-- A label that is being written: the value that is looked for next, the number
that leads there, the bias, and the characters written so far. -/
structure Writing where
  value : Nat
  number : Nat
  bias : Nat
  count : Nat
  isFirst : Bool
  characters : List Char

namespace Writing

/-- Pass a character of the label on the way to the characters of a value. -/
def pass (value : Nat) (state : Writing) (code : Nat) : Writing :=
  if code < value then { state with number := state.number + 1 }
  else if code = value then
    { value := state.value
      number := 0
      bias := nextBias state.number (state.count + 1) state.isFirst
      count := state.count + 1
      isFirst := false
      characters := state.characters ++ numberDigits state.bias 0 state.number }
  else state

/-- Write all characters of a value. -/
def reach (codes : List Nat) (state : Writing) (value : Nat) : Writing :=
  let ahead := state.number + (value - state.value) * (state.count + 1)
  let passed := codes.foldl (pass value) { state with number := ahead }
  { passed with value := value + 1, number := passed.number + 1 }

end Writing

/-- A label in basic Latin. -/
def punycode (codes : List Nat) : List Char :=
  let basic := codes.filter fun code => code < firstValue
  let others := (codes.filter fun code => firstValue ≤ code).mergeSort.eraseDups
  let start := basic.map Char.ofNat ++ (if basic.isEmpty then [] else ['-'])
  (others.foldl (Writing.reach codes)
    ⟨firstValue, 0, firstBias, basic.length, true, start⟩).characters

/-- Read a number from a position on, with the characters behind it. -/
def readNumber? (bias : Nat) : Nat → Nat → List Char → Option (Nat × List Char)
  | _, _, [] => none
  | position, weight, character :: behind => do
    let digit ← digitValue? character
    let least := threshold bias position
    if digit < least then return (digit * weight, behind)
    else
      let (higher, behindNumber) ← readNumber? bias (position + 1) (weight * (36 - least)) behind
      return (digit * weight + higher, behindNumber)

/-- A label that is being read: the value of the last character, the place behind
it, the bias, and the characters found so far. -/
structure Reading where
  value : Nat
  place : Nat
  bias : Nat
  isFirst : Bool
  codes : List Nat

/-- Put the character in that a number stands for. -/
def Reading.insert (state : Reading) (number : Nat) : Reading :=
  let count := state.codes.length + 1
  let value := state.value + (state.place + number) / count
  let place := (state.place + number) % count
  { value := value
    place := place + 1
    bias := nextBias number count state.isFirst
    isFirst := false
    codes := state.codes.take place ++ value :: state.codes.drop place }

/-- Read the characters of a label from their numbers.  Each number has a digit, so
that there are no more numbers than characters. -/
def readOthers? : Nat → Reading → List Char → Option (List Nat)
  | _, state, [] => some state.codes
  | 0, _, _ :: _ => none
  | count + 1, state, characters => do
    let (number, behind) ← readNumber? state.bias 0 1 characters
    let next := state.insert number
    if next.value ≤ 0x10FFFF then readOthers? count next behind else none

/-- Read a label in basic Latin. -/
def ofPunycode? (characters : List Char) : Option (List Nat) :=
  let numbers := (characters.reverse.takeWhile fun character => character ≠ '-').reverse
  let basic := characters.take (characters.length - numbers.length - 1)
  readOthers? numbers.length ⟨firstValue, 0, firstBias, true, basic.map Char.toNat⟩ numbers

end HostName
end ComponentCompiler
