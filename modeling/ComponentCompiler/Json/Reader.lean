import ComponentCompiler.Number.Decimal
import ComponentCompiler.Value.ReadFault

namespace ComponentCompiler
namespace Json

open Number

/-!
# Reading documents

A document in the strict notation is one value with blanks around it.  Members
of an object keep their order; of two members with one name the last gives the
value and the first the place.  Besides the numbers of the notation the words
`NaN`, `Infinity` and `-Infinity` are read.  A literal with a point or an
exponent is a floating-point number, any other is whole and has no more than
`mostDigits` digits.  Two escapes for the halves of a character in a row are one
character.

Every step of the reader uses up one of as many attempts as the document has
characters, so the reader always ends.  Collections may be nested up to a depth.
-/

/-- A blank between tokens. -/
def isSpace (character : Char) : Bool :=
  character = ' ' || character = '\t' || character = '\n' || character = '\r'

/-- The characters behind leading blanks. -/
def skipSpace (characters : List Char) : List Char :=
  characters.dropWhile isSpace

/-- A number of four digits in base sixteen and the characters behind it. -/
def hexQuad? : List Char → Option (Nat × List Char)
  | a :: b :: c :: d :: rest => do
    let high := (← Number.hexDigit? a) * 16 + (← Number.hexDigit? b)
    let low := (← Number.hexDigit? c) * 16 + (← Number.hexDigit? d)
    some (high * 256 + low, rest)
  | _ => none

/-- The second half of a character that is escaped at the head, and the characters
behind it. -/
def secondHalf? : List Char → Option (Nat × List Char)
  | '\\' :: 'u' :: more => (hexQuad? more).filter fun half => 0xDC00 ≤ half.1 && half.1 < 0xE000
  | _ => none

/-- The character of an escape with four digits and the characters behind it.  The
first half of a character takes the second one along. -/
def escapedCode (code : Nat) (rest : List Char) : Except ReadFault (Char × List Char) :=
  match (secondHalf? rest).filter fun _ => 0xD800 ≤ code && code < 0xDC00 with
  | some (second, behind) => do
    return (← charOfCode (0x10000 + (code - 0xD800) * 0x400 + (second - 0xDC00)), behind)
  | none => do return (← charOfCode code, rest)

/-- The character of a short escape. -/
def shortEscape? : Char → Option Char
  | '"' => some '"'
  | '\\' => some '\\'
  | '/' => some '/'
  | 'b' => some (Char.ofNat 8)
  | 'f' => some (Char.ofNat 12)
  | 'n' => some '\n'
  | 'r' => some '\r'
  | 't' => some '\t'
  | _ => none

/-- The text up to the closing quote.  The characters read so far are held in
reverse. -/
def readText : Nat → List Char → List Char → Except ReadFault (String × List Char)
  | 0, _, _ => .error .malformed
  | attempts + 1, read, characters =>
    match characters with
    | '"' :: rest => .ok (String.ofList read.reverse, rest)
    | '\\' :: 'u' :: more =>
      match hexQuad? more with
      | none => .error .malformed
      | some (code, rest) => do
        let (character, behind) ← escapedCode code rest
        readText attempts (character :: read) behind
    | '\\' :: mark :: rest =>
      match shortEscape? mark with
      | none => .error .malformed
      | some character => readText attempts (character :: read) rest
    | character :: rest =>
      if character.toNat < 0x20 then .error .malformed
      else readText attempts (character :: read) rest
    | [] => .error .malformed

/-- The exponent at the head, when there is one. -/
def exponentAtHead? (characters : List Char) : Option (Int × List Char) :=
  match characters with
  | mark :: rest =>
    if mark = 'e' || mark = 'E' then
      let negative := rest.head? = some '-'
      let unsigned := if rest.head? = some '-' || rest.head? = some '+' then rest.tail else rest
      let digits := unsigned.takeWhile Char.isDigit
      if digits.isEmpty then none
      else
        let magnitude : Int := decimalOf digits
        some (if negative then -magnitude else magnitude, unsigned.dropWhile Char.isDigit)
    else none
  | [] => none

/-- A whole number at the head, which must not have too many digits. -/
def readWhole (negative : Bool) (digits rest : List Char) : Except ReadFault (Value × List Char) :=
  if mostDigits < digits.length then .error (.tooManyDigits digits.length)
  else
    let magnitude : Int := decimalOf digits
    .ok (.int (if negative then -magnitude else magnitude), rest)

/-- A number at the head. -/
def readNumber (characters : List Char) : Except ReadFault (Value × List Char) :=
  let negative := characters.head? = some '-'
  let unsigned := if negative then characters.tail else characters
  let run := unsigned.takeWhile Char.isDigit
  let whole := if run.head? = some '0' then ['0'] else run
  if whole.isEmpty then .error .malformed
  else
    let afterWhole := unsigned.drop whole.length
    let fraction :=
      match afterWhole with
      | '.' :: rest => rest.takeWhile Char.isDigit
      | _ => []
    let afterFraction :=
      if fraction.isEmpty then afterWhole else afterWhole.drop (fraction.length + 1)
    match exponentAtHead? afterFraction with
    | some (exponent, rest) =>
      .ok (.real (.ofDecimal negative (decimalOf (whole ++ fraction))
        (exponent - fraction.length)), rest)
    | none =>
      if fraction.isEmpty then readWhole negative whole afterFraction
      else
        .ok (.real (.ofDecimal negative (decimalOf (whole ++ fraction)) (-fraction.length)),
          afterFraction)

/-- The words that are values. -/
def wordValues : List (List Char × Value) :=
  [("null".toList, .null), ("true".toList, .bool true), ("false".toList, .bool false),
   ("NaN".toList, .real .undefined), ("Infinity".toList, .real (.infinite false)),
   ("-Infinity".toList, .real (.infinite true))]

/-- A word or a number at the head. -/
def readAtom (characters : List Char) : Except ReadFault (Value × List Char) :=
  match wordValues.find? (fun word => word.1.isPrefixOf characters) with
  | some (word, value) => .ok (value, characters.drop word.length)
  | none => readNumber characters

/-- How deep collections may be nested.  The reader works on a stack of a thousand
calls.  That about forty of them are in use when it starts is an estimate.  What comes after
the reader has bounds of its own on how deep a value may nest, those of the check of a
description among them, and these are not modelled. -/
def deepest : Nat := 960

mutual

/-- A value at the head.  The depth is how many collections may be opened. -/
def readValue : Nat → Nat → List Char → Except ReadFault (Value × List Char)
  | 0, _, _ => .error .malformed
  | attempts + 1, depth, characters =>
    match characters with
    | '"' :: rest =>
      match readText (rest.length + 1) [] rest with
      | .ok (text, more) => .ok (.text text, more)
      | .error fault => .error fault
    | '[' :: rest =>
      match depth with
      | 0 => .error (.tooDeep .list)
      | remaining + 1 =>
        match skipSpace rest with
        | ']' :: more => .ok (.list [], more)
        | inner => readItems attempts remaining [] inner
    | '\x7b' :: rest =>
      match depth with
      | 0 => .error (.tooDeep .map)
      | remaining + 1 =>
        match skipSpace rest with
        | '\x7d' :: more => .ok (.map [], more)
        | inner => readMembers attempts remaining [] inner
    | _ => readAtom characters

/-- The rest of a list, whose items so far are held in reverse. -/
def readItems : Nat → Nat → List Value → List Char → Except ReadFault (Value × List Char)
  | 0, _, _, _ => .error .malformed
  | attempts + 1, depth, items, characters => do
    let (item, rest) ← readValue attempts depth characters
    match skipSpace rest with
    | ',' :: more => readItems attempts depth (item :: items) (skipSpace more)
    | ']' :: more => .ok (.list (item :: items).reverse, more)
    | _ => .error .malformed

/-- The rest of an object, whose members so far are given. -/
def readMembers : Nat → Nat → Entries Key Value → List Char → Except ReadFault (Value × List Char)
  | 0, _, _, _ => .error .malformed
  | attempts + 1, depth, members, characters =>
    match characters with
    | '"' :: rest =>
      match readText (rest.length + 1) [] rest with
      | .error fault => .error fault
      | .ok (name, afterName) =>
        match skipSpace afterName with
        | ':' :: afterColon => do
          let (value, afterValue) ← readValue attempts depth (skipSpace afterColon)
          let written := Entries.put members (.text name) value
          match skipSpace afterValue with
          | ',' :: more => readMembers attempts depth written (skipSpace more)
          | '\x7d' :: more => .ok (.map written, more)
          | _ => .error .malformed
        | _ => .error .malformed
    | _ => .error .malformed

end

/-- The value of a document. -/
def read (text : String) : Except ReadFault Value := do
  let characters := text.toList
  let (value, rest) ← readValue (2 * characters.length + 2) deepest (skipSpace characters)
  if (skipSpace rest).isEmpty then return value else .error .malformed

end Json
end ComponentCompiler
