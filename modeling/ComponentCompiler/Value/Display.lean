import ComponentCompiler.Number.Layout
import ComponentCompiler.Text.Join
import ComponentCompiler.Text.Printable
import ComponentCompiler.Value.Basic

namespace ComponentCompiler

open Number

/-!
# Values in running text

A style value that is no number, a detail of a message and the context of a log
line are shown as text.  Text is shown as it is at the top and in quotes inside
a list or a map.
-/

/-- A whole number in base sixteen with at least `width` digits. -/
def hexadecimal (width : Nat) (number : Nat) : List Char :=
  let digits := Nat.toDigits 16 number
  List.replicate (width - digits.length) '0' ++ digits

/-- How a character is shown between the given quotes. -/
def displayChar (quote : Char) (character : Char) : List Char :=
  if character = quote || character = '\\' then ['\\', character]
  else if character = '\n' then ['\\', 'n']
  else if character = '\r' then ['\\', 'r']
  else if character = '\t' then ['\\', 't']
  else if Text.isPrintable character then [character]
  else
    let code := character.toNat
    if code < 0x100 then '\\' :: 'x' :: hexadecimal 2 code
    else if code < 0x10000 then '\\' :: 'u' :: hexadecimal 4 code
    else '\\' :: 'U' :: hexadecimal 8 code

/-- A text in quotes.  Double quotes are taken only for a text that holds a
single quote and no double one. -/
def displayQuoted (text : String) : String :=
  let characters := text.toList
  let quote := if characters.contains '\'' && !characters.contains '"' then '"' else '\''
  String.ofList (quote :: (characters.flatMap (displayChar quote) ++ [quote]))

/-- A number with leading zeros up to `width` digits. -/
def zeroPadded (width : Nat) (number : Nat) : String :=
  let digits := decimalDigits number
  String.ofList (List.replicate (width - digits.length) '0' ++ digits)

/-- A day written year first. -/
def Date.text (date : Date) : String :=
  zeroPadded 4 date.year ++ "-" ++ zeroPadded 2 date.month ++ "-" ++ zeroPadded 2 date.day

/-- A day inside a list or map. -/
def Date.display (date : Date) : String :=
  "datetime.date(" ++ toString date.year ++ ", " ++ toString date.month ++ ", " ++
    toString date.day ++ ")"

/-- A distance from universal time in hours and minutes, with a sign. -/
def offsetText (minutes : Int) : String :=
  let size := minutes.natAbs
  (if minutes < 0 then "-" else "+") ++ zeroPadded 2 (size / 60) ++ ":" ++ zeroPadded 2 (size % 60)

/-- A span of minutes inside a list or map: whole days, and seconds beyond them. -/
def displaySpan (minutes : Int) : String :=
  let days := minutes.fdiv 1440
  let seconds := (minutes.fmod 1440) * 60
  let parts := (if days = 0 then [] else ["days=" ++ toString days]) ++
    (if seconds = 0 then [] else ["seconds=" ++ toString seconds])
  "datetime.timedelta(" ++ (if parts.isEmpty then "0" else Text.joinWith ", " parts) ++ ")"

/-- A distance from universal time inside a list or map. -/
def displayOffset (minutes : Int) : String :=
  if minutes = 0 then "datetime.timezone.utc"
  else "datetime.timezone(" ++ displaySpan minutes ++ ")"

namespace Moment

/-- A moment with the day in front.  Microseconds are told when there are some. -/
def text (moment : Moment) : String :=
  moment.date.text ++ " " ++ zeroPadded 2 moment.hour ++ ":" ++ zeroPadded 2 moment.minute ++ ":" ++
    zeroPadded 2 moment.second ++
    (if moment.microsecond = 0 then "" else "." ++ zeroPadded 6 moment.microsecond) ++
    (moment.offset.map offsetText).getD ""

/-- A moment inside a list or map.  Zeros at the end of the time are left out. -/
def display (moment : Moment) : String :=
  let date := moment.date
  let fine :=
    if moment.microsecond ≠ 0 then [moment.second, moment.microsecond]
    else if moment.second ≠ 0 then [moment.second]
    else []
  let numbers := [date.year, date.month, date.day, moment.hour, moment.minute] ++ fine
  let offset := (moment.offset.map fun minutes => ["tzinfo=" ++ displayOffset minutes]).getD []
  "datetime.datetime(" ++ Text.joinWith ", " (numbers.map toString ++ offset) ++ ")"

end Moment

/-- How a byte is shown between the given quotes. -/
def displayByte (quote : Char) (byte : UInt8) : List Char :=
  let code := byte.toNat
  if 0x20 ≤ code && code < 0x7F then
    let character := Char.ofNat code
    if character = quote || character = '\\' then ['\\', character] else [character]
  else if code = 0x09 then ['\\', 't']
  else if code = 0x0A then ['\\', 'n']
  else if code = 0x0D then ['\\', 'r']
  else '\\' :: 'x' :: hexadecimal 2 code

/-- Bytes in quotes, with a mark in front. -/
def displayBytes (bytes : List UInt8) : String :=
  let quote := if bytes.contains 0x27 && !bytes.contains 0x22 then '"' else '\''
  String.ofList ('b' :: quote :: (bytes.flatMap (displayByte quote) ++ [quote]))

/-- A truth value in running text. -/
def displayBool (value : Bool) : String :=
  if value then "True" else "False"

/-- A key inside a map. -/
def Key.display : Key → String
  | .text content => displayQuoted content
  | .null => "None"
  | .bool value => displayBool value
  | .int value => toString value
  | .real value => value.text .plain
  | .date value => value.display
  | .moment value => value.display
  | .bytes content => displayBytes content

/-- The parts of a tuple in brackets.  A single part is followed by a comma. -/
def displayTuple : List String → String
  | [part] => "(" ++ part ++ ",)"
  | parts => "(" ++ Text.joinWith ", " parts ++ ")"

/-- The parts of a set in braces.  The empty set has a form of its own. -/
def displaySet (parts : List String) : String :=
  if parts.isEmpty then "set()" else "\x7b" ++ Text.joinWith ", " parts ++ "\x7d"

namespace Value

mutual

/-- A value inside a list or map. -/
def displayInside : Value → String
  | .null => "None"
  | .bool value => displayBool value
  | .int value => toString value
  | .real value => value.text .plain
  | .text content => displayQuoted content
  | .date value => value.display
  | .moment value => value.display
  | .bytes content => displayBytes content
  | .list items => "[" ++ Text.joinWith ", " (displayItems items) ++ "]"
  | .tuple items => displayTuple (displayItems items)
  | .set items => displaySet (displayItems items)
  | .map entries => "\x7b" ++ Text.joinWith ", " (displayEntries entries) ++ "\x7d"
  | .enclosing _ (some (.list _)) => "[...]"
  | .enclosing _ _ => "\x7b...\x7d"
  | .code expression => "JSExpression(code=" ++ displayQuoted expression ++ ")"

/-- The items of a list. -/
def displayItems : List Value → List String
  | [] => []
  | item :: rest => displayInside item :: displayItems rest

/-- The entries of a map. -/
def displayEntries : List (Key × Value) → List String
  | [] => []
  | (key, value) :: rest => (key.display ++ ": " ++ displayInside value) :: displayEntries rest

end

/-- A value on its own: text, days and moments stand as they are written. -/
def display : Value → String
  | .text content => content
  | .date value => value.text
  | .moment value => value.text
  | value => displayInside value

end Value

/-- A key on its own. -/
def Key.label (key : Key) : String :=
  match key with
  | .text content => content
  | .date value => value.text
  | .moment value => value.text
  | other => other.display

end ComponentCompiler
