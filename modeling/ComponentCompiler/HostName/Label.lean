import ComponentCompiler.HostName.Alphabet
import ComponentCompiler.HostName.Composition
import ComponentCompiler.HostName.Direction
import ComponentCompiler.HostName.Joining
import ComponentCompiler.HostName.Permitted
import ComponentCompiler.HostName.Punycode
import ComponentCompiler.Text.Search

namespace ComponentCompiler
namespace HostName

/-!
# Labels

A label is a part of a name between dots.  It is composed, does not begin with a mark,
has hyphens only inside and not at its third and fourth place, holds only characters
that are permitted where they stand, and keeps to one direction.
-/

/-- Whether a character is one of the digits that Arabic is written with. -/
def isArabicDigit (code : Nat) : Bool :=
  0x660 ≤ code && code ≤ 0x669

/-- Whether a character is one of the digits that Persian is written with. -/
def isPersianDigit (code : Nat) : Bool :=
  0x6F0 ≤ code && code ≤ 0x6F9

/-- Whether a character is permitted between others.  Those in front of it stand in
reverse. -/
def isPermittedBetween (before behind : List Nat) (code : Nat) : Bool :=
  match code with
  -- joiners: behind a virama; the one that separates also where letters would join
  | 0x200C => before.head?.any isVirama || joinsBetween before behind
  | 0x200D => before.head?.any isVirama
  -- the middle dot of Catalan
  | 0xB7 => before.head? = some 'l'.toNat && behind.head? = some 'l'.toNat
  -- the number sign of Greek
  | 0x375 => behind.head?.any isGreek
  -- the marks behind Hebrew numbers
  | 0x5F3 | 0x5F4 => before.head?.any isHebrew
  -- the middle dot of Japanese
  | 0x30FB => (before ++ behind).any isJapanese
  | _ =>
    if isArabicDigit code then !(before ++ behind).any isPersianDigit
    else if isPersianDigit code then !(before ++ behind).any isArabicDigit
    else isPermitted code

/-- Whether all characters are permitted where they stand. -/
def arePermitted (before : List Nat) : List Nat → Bool
  | [] => true
  | code :: behind => isPermittedBetween before behind code && arePermitted (code :: before) behind

/-- Whether the hyphens of a label stand where they may. -/
def hasGoodHyphens (codes : List Nat) : Bool :=
  let hyphen := '-'.toNat
  codes.head? ≠ some hyphen && codes.getLast? ≠ some hyphen &&
    (codes.drop 2).take 2 ≠ [hyphen, hyphen]

/-- Whether characters are a label. -/
def isLabel (codes : List Nat) : Bool :=
  !codes.isEmpty && hasGoodHyphens codes && !codes.head?.any isMark && arePermitted [] codes &&
    isComposed codes && keepsDirection codes

/-- What stands in front of a label that was put into basic Latin. -/
def encodedMark : String := "xn--"

/-- Whether basic characters are a label or stand for one. -/
def isBasicLabel (characters : List Char) : Bool :=
  if Text.isStartOf encodedMark (String.ofList characters) then
    let encoded := characters.drop encodedMark.length
    encoded.getLast? ≠ some '-' && (ofPunycode? encoded).any isLabel
  else isLabel (characters.map Char.toNat)

/-- The most characters that a label may have. -/
def mostLabelCharacters : Nat := 63

/-- A label with small letters in basic Latin, if it is one. -/
def encodeLabel? (characters : List Char) : Option (List Char) :=
  let codes := characters.map Char.toNat
  let isBasic := codes.all fun code => code < firstValue
  let encoded := if isBasic then characters else encodedMark.toList ++ punycode codes
  let isGood := if isBasic then isBasicLabel characters else isLabel codes
  if isGood && encoded.length ≤ mostLabelCharacters then some encoded else none

end HostName
end ComponentCompiler
