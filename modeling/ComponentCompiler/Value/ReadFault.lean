import ComponentCompiler.Value.Display

namespace ComponentCompiler

/-!
# Why a text cannot be read

A text that breaks the rules of its notation is malformed.  A text that follows
them can still name a value that does not exist: a day that is not in the
calendar, a number with too many digits, a character beyond the last one.

Some codes stand for one half of a character.  A text is a row of whole characters,
so a document that escapes a half alone has no value here.  Nothing is said about what
becomes of such a document elsewhere: the fault only tells that it is one.
-/

/-- What is wrong with a day, a time or an offset. -/
inductive CalendarFault where
  | year (number : Nat)
  | month
  | day
  | hour
  | minute
  | second
  | offset (minutes : Int)
deriving DecidableEq, Repr

/-- The message about a day, a time or an offset. -/
def CalendarFault.message : CalendarFault → String
  | .year number => "year " ++ toString number ++ " is out of range"
  | .month => "month must be in 1..12"
  | .day => "day is out of range for month"
  | .hour => "hour must be in 0..23"
  | .minute => "minute must be in 0..59"
  | .second => "second must be in 0..59"
  | .offset minutes =>
    "offset must be a timedelta strictly between -timedelta(hours=24) and timedelta(hours=24), not " ++
      displaySpan minutes ++ "."

/-- A collection of the stricter notation. -/
inductive Collection where
  | list
  | map
deriving DecidableEq, Repr

/-- The word for a collection in messages. -/
def Collection.word : Collection → String
  | .list => "array"
  | .map => "object"

/-- Why a text has no value. -/
inductive ReadFault where
  /-- It breaks the rules of its notation. -/
  | malformed
  /-- A number is empty. -/
  | emptyNumber
  /-- A text is no whole number to a base. -/
  | notWhole (base : Nat) (text : String)
  /-- A whole number has too many digits. -/
  | tooManyDigits (count : Nat)
  /-- A text is no number. -/
  | notNumber (text : String)
  /-- A power of sixty is out of the range of floating-point numbers. -/
  | hugePower
  /-- A text is no truth value. -/
  | notTruth (text : String)
  /-- A text is no moment. -/
  | notMoment
  /-- A map stands where a moment has to. -/
  | mapAsMoment
  /-- A day, a time or an offset does not exist. -/
  | calendar (fault : CalendarFault)
  /-- A code stands for half of a character. -/
  | halfCharacter
  /-- A code is beyond the last character. -/
  | noCharacter
  /-- A code is beyond the codes that are looked at. -/
  | hugeCode
  /-- Collections are nested too deep. -/
  | tooDeep (collection : Collection)
deriving DecidableEq, Repr

/-- The character of a code. -/
def charOfCode (code : Nat) : Except ReadFault Char :=
  if code.isValidChar then .ok (Char.ofNat code)
  else if code < 0x110000 then .error .halfCharacter
  else if code < 0x80000000 then .error .noCharacter
  else .error .hugeCode

/-- How many digits a whole number may have in base ten. -/
def mostDigits : Nat := 4300

/-- The message about a whole number with too many digits. -/
def tooManyDigitsMessage (count : Option Nat) : String :=
  "Exceeds the limit (" ++ toString mostDigits ++ " digits) for integer string conversion" ++
    ((count.map fun digits => ": value has " ++ toString digits ++ " digits").getD "") ++
    "; use sys.set_int_max_str_digits() to increase the limit"

/-- The message of a fault. -/
def ReadFault.message : ReadFault → String
  | .malformed => ""
  | .emptyNumber => "string index out of range"
  | .notWhole base text =>
    "invalid literal for int() with base " ++ toString base ++ ": " ++
      String.ofList ((displayQuoted text).toList.take 200)
  | .tooManyDigits count => tooManyDigitsMessage (some count)
  | .notNumber text => "could not convert string to float: " ++ displayQuoted text
  | .hugePower => "int too large to convert to float"
  | .notTruth text => displayQuoted text
  | .notMoment => "'NoneType' object has no attribute 'groupdict'"
  | .mapAsMoment => "expected string or bytes-like object, got 'list'"
  | .calendar fault => fault.message
  | .halfCharacter => "surrogates not allowed"
  | .noCharacter => "chr() arg not in range(0x110000)"
  | .hugeCode => "Python int too large to convert to C int"
  | .tooDeep collection =>
    "maximum recursion depth exceeded while decoding a JSON " ++ collection.word ++
      " from a unicode string"

end ComponentCompiler
