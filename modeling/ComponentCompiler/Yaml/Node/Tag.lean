import ComponentCompiler.Text.Join
import ComponentCompiler.Text.Search
import ComponentCompiler.Yaml.Node.Timestamp
import ComponentCompiler.Yaml.Node.Basic

namespace ComponentCompiler
namespace Yaml

open Number

/-!
# Tags

A tag that is written has a full name.  A plain scalar without one shows its
kind by its text: nothing and a few words are null or truth values, some
spellings are numbers, days or moments, and all else is text.  A line feed at
the very end of the text makes no difference.
-/

/-- What the names of the known tags start with. -/
def knownTagStart : String := "tag:yaml.org,2002:"

/-- The tags with a name of their own. -/
def knownTags : List (String × Tag) :=
  [("null", .null), ("bool", .bool), ("int", .int), ("float", .real), ("str", .text),
   ("timestamp", .moment), ("binary", .bytes), ("seq", .list), ("map", .map), ("set", .set),
   ("omap", .orderedMap), ("pairs", .pairs), ("merge", .merge), ("value", .whole)]

/-- The tag of a full name. -/
def Tag.ofName (name : String) : Tag :=
  match (knownTags.find? fun known => knownTagStart ++ known.1 = name) with
  | some known => known.2
  | none => .unknown name

/-- The spellings of truth values. -/
def truthSpellings : List String :=
  ["yes", "Yes", "YES", "no", "No", "NO", "true", "True", "TRUE", "false", "False", "FALSE", "on",
   "On", "ON", "off", "Off", "OFF"]

/-- The spellings of null. -/
def nullSpellings : List String := ["", "~", "null", "Null", "NULL"]

/-- Whether a character is a decimal digit or an underscore. -/
def isGroupedDigit (character : Char) : Bool :=
  character.isDigit || character = '_'

/-- Whether the characters are digits and underscores, a digit first. -/
def isGroupedNumber : List Char → Bool
  | [] => false
  | first :: rest => first.isDigit && rest.all isGroupedDigit

/-- Whether a part of a number to the base of sixty has at most two digits and
stays below sixty. -/
def isSixtyPart : List Char → Bool
  | [digit] => digit.isDigit
  | [tens, digit] => '0' ≤ tens && tens ≤ '5' && digit.isDigit
  | _ => false

/-- Whether characters are a number whose parts to the base of sixty are divided
by colons. -/
def isSixtyForm (characters : List Char) : Bool :=
  match Text.piecesAt ':' characters with
  | first :: second :: others => isGroupedNumber first && (second :: others).all isSixtyPart
  | _ => false

/-- Whether there are characters and all are digits that pass a test, or
underscores. -/
def areDigits (isDigit : Char → Bool) (characters : List Char) : Bool :=
  !characters.isEmpty && characters.all fun character => isDigit character || character = '_'

/-- Whether a text shows by its form that it is a whole number. -/
def isWholeForm (characters : List Char) : Bool :=
  match (takeSign characters).2 with
  | ['0'] => true
  | '0' :: 'b' :: digits => areDigits (fun digit => digit = '0' || digit = '1') digits
  | '0' :: 'x' :: digits => areDigits (fun digit => (hexDigit? digit).isSome) digits
  | '0' :: digits => areDigits (fun digit => '0' ≤ digit && digit ≤ '7') digits
  | rest => isGroupedNumber rest || isSixtyForm rest

/-- Whether characters are an exponent, which has a sign, or nothing. -/
def isPowerForm : List Char → Bool
  | [] => true
  | mark :: sign :: digits =>
    (mark = 'e' || mark = 'E') && (sign = '+' || sign = '-') && !digits.isEmpty &&
      digits.all Char.isDigit
  | _ => false

/-- Whether a text shows by its form that it is a number with a point, or one that
is not finite. -/
def isRealForm (characters : List Char) : Bool :=
  let rest := (takeSign characters).2
  let hasSign := rest.length ≠ characters.length
  let word := String.ofList rest
  let (whole, behind) := rest.span fun character => character ≠ '.'
  let (fraction, power) := behind.tail.span isGroupedDigit
  if [".inf", ".Inf", ".INF"].contains word then true
  else if [".nan", ".NaN", ".NAN"].contains word then !hasSign
  else if behind.isEmpty then false
  else if whole.isEmpty then !hasSign && isGroupedNumber fraction && isPowerForm power
  else (isGroupedNumber whole && isPowerForm power) || (isSixtyForm whole && power.isEmpty)

/-- The tag that a text shows by its form. -/
def Tag.ofForm (content : String) : Tag :=
  if content = "\n" then .text
  else
    let characters := withoutFinalFeed content.toList
    let word := String.ofList characters
    if truthSpellings.contains word then .bool
    else if isRealForm characters then .real
    else if isWholeForm characters then .int
    else if word = "<<" then .merge
    else if nullSpellings.contains word then .null
    else if isMomentForm characters then .moment
    else if word = "=" then .whole
    else .text

/-- The tag of a scalar.  A lone mark stands for the kind that its text shows. -/
def Tag.ofScalar (name : Option String) (plain : Bool) (content : String) : Tag :=
  match name with
  | none => if plain then .ofForm content else .text
  | some "!" => .ofForm content
  | some name => .ofName name

/-- The tag of a collection. -/
def Tag.ofCollection (name : Option String) (usual : Tag) : Tag :=
  match name with
  | none | some "!" => usual
  | some name => .ofName name

end Yaml
end ComponentCompiler
