namespace ComponentCompiler
namespace Yaml

/-!
# A place in a document

The looser document notation is read from left to right.  The cursor knows what
is still to be read and the line and the column it is at, because indentation
carries meaning.
-/

/-- A place in a document.  The bound is the size of the document, so there are
never more characters left. -/
structure Cursor where
  rest : List Char
  bound : Nat
  index : Nat
  line : Nat
  column : Nat

/-- Whether a character ends a line. -/
def isBreak (character : Char) : Bool :=
  character = '\n' || character = '\r' || character = '\u0085' || character = '\u2028' ||
    character = '\u2029'

/-- Whether a character is a blank or a tab. -/
def isSpace (character : Char) : Bool :=
  character = ' ' || character = '\t'

/-- Whether a line ends here. -/
def endsLine : Option Char → Bool
  | none => true
  | some character => isBreak character

/-- Whether a word ends here. -/
def endsWord : Option Char → Bool
  | none => true
  | some character => isSpace character || isBreak character

/-- Whether a character may stand in a document. -/
def isAllowed (character : Char) : Bool :=
  let code := character.toNat
  code == 0x9 || code == 0xA || code == 0xD || (0x20 ≤ code && code ≤ 0x7E) || code == 0x85 ||
    (0xA0 ≤ code && code ≤ 0xD7FF) || (0xE000 ≤ code && code ≤ 0xFFFD) || 0x10000 ≤ code

namespace Cursor

/-- The start of a document. -/
def start (characters : List Char) : Cursor :=
  ⟨characters, characters.length, 0, 0, 0⟩

/-- The next character. -/
def next (cursor : Cursor) : Option Char :=
  cursor.rest.head?

/-- The character behind the given number of others. -/
def ahead (cursor : Cursor) (distance : Nat) : Option Char :=
  cursor.rest[distance]?

/-- Go over one character. -/
def step (cursor : Cursor) : Cursor :=
  match cursor.rest with
  | [] => cursor
  | character :: rest =>
    let ends := isBreak character && !(character = '\r' && rest.head? = some '\n')
    { rest := rest
      bound := cursor.bound
      index := cursor.index + 1
      line := if ends then cursor.line + 1 else cursor.line
      column := if ends then 0 else if character = '\ufeff' then cursor.column
        else cursor.column + 1 }

/-- Go over the given number of characters. -/
def steps (cursor : Cursor) : Nat → Cursor
  | 0 => cursor
  | count + 1 => cursor.step.steps count

/-- The characters at the head that pass a test, and the place behind them. -/
def takeWhile (cursor : Cursor) (test : Char → Bool) : List Char × Cursor :=
  let taken := cursor.rest.takeWhile test
  (taken, cursor.steps taken.length)

/-- Go over the characters at the head that pass a test. -/
def skipWhile (cursor : Cursor) (test : Char → Bool) : Cursor :=
  (cursor.takeWhile test).2

/-- Go over blanks, at most up to a column. -/
def skipBlanksTo (cursor : Cursor) (column : Nat) : Cursor :=
  let blanks := (cursor.rest.takeWhile fun character => character = ' ').length
  cursor.steps (min blanks (column - cursor.column))

/-- Go over the end of a line.  Most of them count as a line feed; the two
separators of text stay what they are. -/
def takeBreak (cursor : Cursor) : List Char × Cursor :=
  match cursor.rest with
  | '\r' :: '\n' :: _ => (['\n'], cursor.steps 2)
  | character :: _ =>
    if character = '\u2028' || character = '\u2029' then ([character], cursor.step)
    else if isBreak character then (['\n'], cursor.step)
    else ([], cursor)
  | [] => ([], cursor)

/-- Whether a mark of three equal characters stands here alone. -/
def atMark (cursor : Cursor) (character : Char) : Bool :=
  cursor.rest.take 3 = [character, character, character] && endsWord (cursor.ahead 3)

/-- Whether a mark between documents stands here. -/
def atSeparator (cursor : Cursor) : Bool :=
  cursor.atMark '-' || cursor.atMark '.'

/-- Go over the rest of a line when it is a comment. -/
def skipComment (cursor : Cursor) : Cursor :=
  if cursor.next = some '#' then cursor.skipWhile fun character => !isBreak character else cursor

end Cursor
end Yaml
end ComponentCompiler
