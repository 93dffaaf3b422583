import ComponentCompiler.Yaml.Cursor

namespace ComponentCompiler
namespace Yaml

/-!
# Plain scalars

A plain scalar ends where a colon or a comment follows, where a line is not
indented far enough, and in a flow collection at its punctuation.  Ends of
lines inside it are folded: a single one counts as a blank.
-/

/-- What a scalar is and where it ends.  Whether a key may follow depends on
whether a line has ended. -/
structure PlainScalar where
  content : List Char
  cursor : Cursor
  onNewLine : Bool

/-- Whether a plain scalar cannot go on with the next character. -/
def endsPlain (inFlow : Bool) : List Char → Bool
  | [] => true
  | ':' :: rest =>
    endsWord rest.head? ||
      (inFlow && (rest.head?.map fun follower => ",[]\x7b\x7d".contains follower).getD false)
  | character :: _ => endsWord (some character) || (inFlow && ",?[]\x7b\x7d".contains character)

/-- The length of a word of a plain scalar. -/
def plainLength (inFlow : Bool) : List Char → Nat
  | [] => 0
  | character :: rest =>
    if endsPlain inFlow (character :: rest) then 0 else plainLength inFlow rest + 1

/-- Go over blanks and ends of lines; the ends are kept.  Nothing follows when a
mark between documents does. -/
def takeBreaks : Nat → Cursor → Option (List Char × Cursor)
  | 0, cursor => some ([], cursor)
  | fuel + 1, cursor =>
    match cursor.next with
    | some ' ' => takeBreaks fuel cursor.step
    | some character =>
      if isBreak character then
        let (ended, behind) := cursor.takeBreak
        if behind.atSeparator then none
        else (takeBreaks fuel behind).map fun (others, last) => (ended ++ others, last)
      else some ([], cursor)
    | none => some ([], cursor)

/-- The text that folded ends of lines stand for. -/
def foldBreaks (first others : List Char) : List Char :=
  (if first ≠ ['\n'] then first else if others.isEmpty then [' '] else []) ++ others

/-- The space between two words of a plain scalar: its text, the place behind
it, and whether a line has ended.  There is no text when the scalar ends. -/
def plainSpace (cursor : Cursor) : List Char × Cursor × Bool :=
  let (blanks, behind) := cursor.takeWhile fun character => character = ' '
  match behind.next with
  | some character =>
    if isBreak character then
      let (first, below) := behind.takeBreak
      if below.atSeparator then ([], below, true)
      else
        match takeBreaks below.bound below with
        | some (others, last) => (foldBreaks first others, last, true)
        | none =>
          ([], below.skipWhile fun blank => blank = ' ' || isBreak blank, true)
    else (blanks, behind, false)
  | none => (blanks, behind, false)

/-- Read a plain scalar whose further lines are indented to a column at least. -/
def readPlainFrom (inFlow : Bool) (indent : Int) :
    Nat → List Char → Bool → Cursor → PlainScalar
  | 0, space, onNewLine, cursor => ⟨space, cursor, onNewLine⟩
  | fuel + 1, space, onNewLine, cursor =>
    let length := plainLength inFlow cursor.rest
    if cursor.next = some '#' || length = 0 then ⟨[], cursor, onNewLine⟩
    else
      let word := cursor.rest.take length
      let (followed, behind, broken) := plainSpace (cursor.steps length)
      if followed.isEmpty || behind.next = some '#' || (!inFlow && (behind.column : Int) < indent)
      then ⟨space ++ word, behind, broken⟩
      else
        let others := readPlainFrom inFlow indent fuel followed broken behind
        { others with content := space ++ word ++ others.content }

/-- Read a plain scalar. -/
def readPlain (inFlow : Bool) (indent : Int) (cursor : Cursor) : PlainScalar :=
  readPlainFrom inFlow indent (cursor.bound + 1) [] false cursor

end Yaml
end ComponentCompiler
