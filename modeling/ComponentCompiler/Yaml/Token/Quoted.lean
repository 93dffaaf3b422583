import ComponentCompiler.Number.Decimal
import ComponentCompiler.Yaml.Token.Basic
import ComponentCompiler.Yaml.Token.Plain

namespace ComponentCompiler
namespace Yaml

/-!
# Quoted scalars

Between single quotes only a doubled quote is special.  Between double quotes a
backslash starts an escape.  Ends of lines are folded in both.  Escapes for the two
halves of a character stay two halves here, also in a row.
-/

/-- The characters that short escapes stand for. -/
def shortEscapes : List (Char × Char) :=
  [('0', '\x00'), ('a', '\x07'), ('b', '\x08'), ('t', '\t'), ('\t', '\t'), ('n', '\n'),
   ('v', '\x0b'), ('f', '\x0c'), ('r', '\r'), ('e', '\x1b'), (' ', ' '), ('"', '"'), ('\\', '\\'),
   ('/', '/'), ('N', '\u0085'), ('_', '\u00a0'), ('L', '\u2028'), ('P', '\u2029')]

/-- The number of digits that long escapes have. -/
def longEscapes : List (Char × Nat) :=
  [('x', 2), ('u', 4), ('U', 8)]

/-- The code that hexadecimal digits stand for. -/
def hexCode? (digits : List Char) : Option Nat := do
  let values ← digits.mapM Number.hexDigit?
  return Number.natOfDigits 16 values

/-- Go over ends of lines and the blanks in front of lines; the ends are kept.
A mark between documents must not stand here. -/
def quotedBreaks : Nat → Cursor → Option (List Char × Cursor)
  | 0, _ => none
  | fuel + 1, cursor =>
    if cursor.atSeparator then none
    else
      let behind := cursor.skipWhile isSpace
      match behind.next with
      | some character =>
        if isBreak character then
          let (ended, below) := behind.takeBreak
          (quotedBreaks fuel below).map fun (others, last) => (ended ++ others, last)
        else some ([], behind)
      | none => some ([], behind)

/-- Read an escape, from behind its backslash. -/
def readEscape (cursor : Cursor) : Except ReadFault (List Char × Cursor) := do
  let character ← orMalformed cursor.next
  match shortEscapes.lookup character with
  | some meant => return ([meant], cursor.step)
  | none =>
    match longEscapes.lookup character with
    | some count =>
      let digits := cursor.step.rest.take count
      if digits.length = count then
        let meant ← charOfCode (← orMalformed (hexCode? digits))
        return ([meant], cursor.step.steps count)
      else .error .malformed
    | none =>
      if isBreak character then
        orMalformed (quotedBreaks (cursor.bound + 1) cursor.takeBreak.2)
      else .error .malformed

/-- The space between two words of a quoted scalar. -/
def quotedSpace (cursor : Cursor) : Option (List Char × Cursor) := do
  let (blanks, behind) := cursor.takeWhile isSpace
  let character ← behind.next
  if isBreak character then
    let (first, below) := behind.takeBreak
    let (others, last) ← quotedBreaks (below.bound + 1) below
    return (foldBreaks first others, last)
  else return (blanks, behind)

/-- Read a quoted scalar, from behind its opening quote. -/
def readQuotedFrom (double : Bool) : Nat → Cursor → Except ReadFault (List Char × Cursor)
  | 0, _ => .error .malformed
  | fuel + 1, cursor => do
    let character ← orMalformed cursor.next
    let continued (found : List Char) (behind : Cursor) :
        Except ReadFault (List Char × Cursor) := do
      let (others, last) ← readQuotedFrom double fuel behind
      return (found ++ others, last)
    if isSpace character || isBreak character then
      let (space, behind) ← orMalformed (quotedSpace cursor)
      continued space behind
    else if double && character = '\\' then
      let (meant, behind) ← readEscape cursor.step
      continued meant behind
    else if !double && character = '\'' && cursor.ahead 1 = some '\'' then
      continued ['\''] (cursor.steps 2)
    else if character = (if double then '"' else '\'') then .ok ([], cursor.step)
    else continued [character] cursor.step

/-- Read a quoted scalar. -/
def readQuoted (double : Bool) (cursor : Cursor) : Except ReadFault (List Char × Cursor) :=
  readQuotedFrom double (cursor.bound + 1) cursor.step

end Yaml
end ComponentCompiler
