namespace ComponentCompiler
namespace Script

/-!
# Identifiers of the emitted script

A property is written bare when its name is an identifier of basic Latin
letters, digits, the underscore and the dollar sign.  The test looks at the
first line only, so an identifier with one line feed behind it passes too.
-/

/-- Whether a character can start an identifier. -/
def isIdentifierStart (character : Char) : Bool :=
  character.isAlpha || character = '_' || character = '$'

/-- Whether a character can continue an identifier. -/
def isIdentifierPart (character : Char) : Bool :=
  character.isAlphanum || character = '_' || character = '$'

/-- Whether the characters are an identifier. -/
def isPlainIdentifier : List Char → Bool
  | [] => false
  | first :: rest => isIdentifierStart first && rest.all isIdentifierPart

/-- The characters without one line feed at their end. -/
def withoutFinalBreak (characters : List Char) : List Char :=
  if characters.getLast? = some '\n' then characters.dropLast else characters

/-- Whether a name is written bare. -/
def isIdentifier (name : String) : Bool :=
  isPlainIdentifier (withoutFinalBreak name.toList)

end Script
end ComponentCompiler
