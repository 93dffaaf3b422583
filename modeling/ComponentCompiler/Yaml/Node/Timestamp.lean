import ComponentCompiler.Number.Decimal
import ComponentCompiler.Value.Calendar
import ComponentCompiler.Value.ReadFault

namespace ComponentCompiler
namespace Yaml

open Number

/-!
# Days and moments in text

A day is written year first.  A time may follow it, and behind the time its
offset from universal time.
-/

/-- The numbers of a time as they are written. -/
structure WrittenTime where
  hour : Nat
  minute : Nat
  second : Nat
  microsecond : Nat
  offset : Option Int

/-- The numbers of a day as they are written, and the time behind it. -/
structure WrittenMoment where
  date : Date
  time : Option WrittenTime

/-- The number of one to so many digits at the head. -/
def takeNumber? (least most : Nat) (characters : List Char) : Option (Nat × List Char) :=
  let digits := (characters.take most).takeWhile Char.isDigit
  if digits.length < least then none else some (decimalOf digits, characters.drop digits.length)

/-- What follows a character at the head. -/
def afterChar? (expected : Char) : List Char → Option (List Char)
  | character :: rest => if character = expected then some rest else none
  | [] => none

/-- Whether a character is a blank or a tab. -/
def isGap (character : Char) : Bool :=
  character = ' ' || character = '\t'

/-- The microseconds of a fraction of a second, of which six digits count. -/
def microseconds (digits : List Char) : Nat :=
  let counted := digits.take 6
  decimalOf counted * powerOfTen (6 - counted.length)

/-- The offset that ends a time. -/
def readOffset? (characters : List Char) : Option Int :=
  match characters with
  | ['Z'] => some 0
  | sign :: rest =>
    if sign = '+' || sign = '-' then do
      let (hours, behind) ← takeNumber? 1 2 rest
      let minutes ←
        match behind with
        | [] => some 0
        | ':' :: digits => do
          let (minutes, last) ← takeNumber? 2 2 digits
          if last.isEmpty then some minutes else none
        | _ => none
      return signed (sign = '-') (hours * 60 + minutes)
    else none
  | [] => none

/-- The time at the head, up to the end. -/
def readTime? (characters : List Char) : Option WrittenTime := do
  let (hour, afterHour) ← takeNumber? 1 2 characters
  let (minute, afterMinute) ← takeNumber? 2 2 (← afterChar? ':' afterHour)
  let (second, afterSecond) ← takeNumber? 2 2 (← afterChar? ':' afterMinute)
  let (fraction, rest) :=
    match afterSecond with
    | '.' :: digits => digits.span Char.isDigit
    | other => ([], other)
  if rest.isEmpty then return ⟨hour, minute, second, microseconds fraction, none⟩
  else return ⟨hour, minute, second, microseconds fraction, some (← readOffset? (rest.dropWhile isGap))⟩

/-- What is behind the mark or the gap between a day and a time. -/
def afterGap? (characters : List Char) : Option (List Char) :=
  match characters with
  | character :: rest =>
    if character = 'T' || character = 't' then some rest
    else if isGap character then some (rest.dropWhile isGap)
    else none
  | [] => none

/-- The numbers of a day or a moment. -/
def readParts? (characters : List Char) : Option WrittenMoment := do
  let (year, afterYear) ← takeNumber? 4 4 characters
  let (month, afterMonth) ← takeNumber? 1 2 (← afterChar? '-' afterYear)
  let (day, rest) ← takeNumber? 1 2 (← afterChar? '-' afterMonth)
  let date : Date := ⟨year, month, day⟩
  if rest.isEmpty then return ⟨date, none⟩
  else return ⟨date, some (← readTime? (← afterGap? rest))⟩

/-- The characters without one line feed at the end. -/
def withoutFinalFeed (characters : List Char) : List Char :=
  if characters.getLast? = some '\n' then characters.dropLast else characters

/-- Whether a text shows by its form that it is a day or a moment.  A day alone
has two digits for the month and two for the day. -/
def isMomentForm (characters : List Char) : Bool :=
  match readParts? characters with
  | some parts => parts.time.isSome || characters.length = 10
  | none => false

/-- The day, when it is in the calendar. -/
def checkDate (date : Date) : Except ReadFault Unit :=
  if date.year = 0 then .error (.calendar (.year 0))
  else if date.month = 0 || 12 < date.month then .error (.calendar .month)
  else if date.day = 0 || daysOfMonth date.year date.month < date.day then
    .error (.calendar .day)
  else .ok ()

/-- The time, when there is such a time on a day. -/
def checkTime (time : WrittenTime) : Except ReadFault Unit :=
  if 23 < time.hour then .error (.calendar .hour)
  else if 59 < time.minute then .error (.calendar .minute)
  else if 59 < time.second then .error (.calendar .second)
  else .ok ()

/-- The offset, which has to be less than a day. -/
def checkOffset (offset : Option Int) : Except ReadFault Unit :=
  match offset with
  | some minutes =>
    if 1440 ≤ minutes.natAbs then .error (.calendar (.offset minutes)) else .ok ()
  | none => .ok ()

/-- The day or the moment that a text is. -/
def readMoment (characters : List Char) : Except ReadFault Value :=
  match readParts? (withoutFinalFeed characters) with
  | none => .error .notMoment
  | some ⟨date, none⟩ => do
    checkDate date
    return .date date
  | some ⟨date, some time⟩ => do
    checkOffset time.offset
    checkDate date
    checkTime time
    return .moment ⟨date, time.hour, time.minute, time.second, time.microsecond, time.offset⟩

end Yaml
end ComponentCompiler
