import ComponentCompiler.Text.Blank
import ComponentCompiler.Text.Casing

namespace ComponentCompiler
namespace Naming

/-!
# Names

A component and its parts carry one name in several spellings.  File names and
classes are dashed (`user-card`), variables are joined with inner capitals
(`userCard`), components start with a capital (`UserCard`), and the function
that changes a state variable has the word `set` in front.

The dashed spelling comes from two passes over the name.  The first puts a dash
in front of a capital that small letters follow.  It takes the letters of such
a word together, so a capital right after the word is left to the second pass,
which puts a dash between a small letter or digit and a capital.
-/

/-- Whether a dash belongs between the first two of three characters because a
capitalised word starts at the second. -/
def startsWord (before capital small : Char) : Bool :=
  before ≠ '\n' && capital.isUpper && small.isLower

/-- The first pass.  The flag says that the letters of a word are being taken. -/
def separateWords : Bool → List Char → List Char
  | inWord, before :: capital :: small :: rest =>
    if inWord && before.isLower then
      before :: separateWords true (capital :: small :: rest)
    else if startsWord before capital small then
      before :: '-' :: capital :: small :: separateWords true rest
    else
      before :: separateWords false (capital :: small :: rest)
  | _, rest => rest

/-- The second pass: a dash between a small letter or digit and a capital. -/
def separateHumps : List Char → List Char
  | before :: capital :: rest =>
    if (before.isLower || before.isDigit) && capital.isUpper then
      before :: '-' :: capital :: separateHumps rest
    else
      before :: separateHumps (capital :: rest)
  | rest => rest

/-- Underscores and blanks are written as dashes. -/
def dashFor (character : Char) : Char :=
  if character = '_' || character = ' ' then '-' else character

/-- The dashed spelling of a name, as characters. -/
def dashCaseChars (name : List Char) : List Char :=
  Text.lower ((separateHumps (separateWords false name)).map dashFor)

/-- The dashed spelling of a name: `userCard` becomes `user-card`. -/
def dashCase (name : String) : String :=
  String.ofList (dashCaseChars name.toList)

/-- Whether the character separates words in a name. -/
def isWordBreak (character : Char) : Bool :=
  character = '-' || character = '_' || Text.isBlank character

/-- The words of a name.  The given word is the one being collected, and empty
words are dropped. -/
def wordsFrom (word : List Char) : List Char → List (List Char)
  | [] => if word.isEmpty then [] else [word]
  | character :: rest =>
    if isWordBreak character then
      if word.isEmpty then wordsFrom [] rest else word :: wordsFrom [] rest
    else wordsFrom (word ++ [character]) rest

/-- The words of a name, in order. -/
def words (name : List Char) : List (List Char) :=
  wordsFrom [] name

/-- The spelling with inner capitals, as characters. -/
def camelCaseChars (name : List Char) : List Char :=
  match words name with
  | [] => []
  | first :: others => first ++ others.flatMap Text.capitalise

/-- The spelling with inner capitals: `main-title` becomes `mainTitle`. -/
def camelCase (name : String) : String :=
  String.ofList (camelCaseChars name.toList)

/-- The spelling of a component: inner capitals and a capital in front. -/
def componentName (name : String) : String :=
  String.ofList (Text.capitalise (camelCaseChars name.toList))

/-- The name of the function that changes a state variable. -/
def setterName (state : String) : String :=
  "set" ++ String.ofList (Text.capitalise state.toList)

end Naming
end ComponentCompiler
