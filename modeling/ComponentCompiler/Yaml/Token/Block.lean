import ComponentCompiler.Yaml.Cursor

namespace ComponentCompiler
namespace Yaml

/-!
# Block scalars

A block scalar is the indented text below its mark.  It is kept line by line or
folded.  Indicators behind the mark fix its indentation and say what becomes of
the ends of lines at its end.
-/

/-- What becomes of the ends of lines at the end of a block scalar. -/
inductive Chomping where
  | clip
  | strip
  | keep
deriving DecidableEq, Repr

/-- The sign of a chomping. -/
def Chomping.ofSign? : Option Char → Option Chomping
  | some '+' => some .keep
  | some '-' => some .strip
  | _ => none

/-- The indentation that a digit fixes, when there is one.  Zero is refused. -/
def indentDigit? : Option Char → Option (Option Nat)
  | some character =>
    if character = '0' then none
    else if character.isDigit then some (some (character.toNat - '0'.toNat))
    else some none
  | none => some none

/-- Read the indicators of a block scalar, in either order. -/
def readIndicators (cursor : Cursor) : Option (Chomping × Option Nat × Cursor) := do
  let result ←
    match Chomping.ofSign? cursor.next with
    | some chomping => do
      let behind := cursor.step
      match ← indentDigit? behind.next with
      | some digit => some (chomping, some digit, behind.step)
      | none => some (chomping, none, behind)
    | none => do
      match ← indentDigit? cursor.next with
      | some digit =>
        let behind := cursor.step
        match Chomping.ofSign? behind.next with
        | some chomping => some (chomping, some digit, behind.step)
        | none => some (.clip, some digit, behind)
      | none => some (.clip, none, cursor)
  if result.2.2.next = some ' ' || endsLine result.2.2.next then some result else none

/-- Go over the rest of the line of indicators, which holds at most a comment. -/
def skipIndicatorLine (cursor : Cursor) : Option Cursor :=
  let behind := (cursor.skipWhile fun character => character = ' ').skipComment
  if endsLine behind.next then some behind.takeBreak.2 else none

/-- Go over the empty lines at the head of a block scalar, with the indentation
that the widest blank part of them has. -/
def leadingLines : Nat → Cursor → List Char × Nat × Cursor
  | 0, cursor => ([], 0, cursor)
  | fuel + 1, cursor =>
    match cursor.next with
    | some ' ' =>
      let (breaks, widest, last) := leadingLines fuel cursor.step
      (breaks, max cursor.step.column widest, last)
    | some character =>
      if isBreak character then
        let (ended, below) := cursor.takeBreak
        let (breaks, widest, last) := leadingLines fuel below
        (ended ++ breaks, widest, last)
      else ([], 0, cursor)
    | none => ([], 0, cursor)

/-- Go over empty lines and the indentation of the next one. -/
def emptyLines (indent : Nat) : Nat → Cursor → List Char × Cursor
  | 0, cursor => ([], cursor)
  | fuel + 1, cursor =>
    let behind := cursor.skipBlanksTo indent
    match behind.next with
    | some character =>
      if isBreak character then
        let (ended, below) := behind.takeBreak
        let (breaks, last) := emptyLines indent fuel below
        (ended ++ breaks, last)
      else ([], behind)
    | none => ([], behind)

/-- Whether a line of the block scalar starts here. -/
def atBlockLine (indent : Nat) (cursor : Cursor) : Bool :=
  cursor.column = indent && cursor.next.isSome

/-- Whether the line that starts here is not indented further. -/
def startsFlush (cursor : Cursor) : Bool :=
  match cursor.next with
  | some character => !isSpace character
  | none => true

/-- The ends of lines that close a block scalar. -/
def chomp (chomping : Chomping) (ended breaks : List Char) : List Char :=
  match chomping with
  | .clip => ended
  | .strip => []
  | .keep => ended ++ breaks

/-- Read the lines of a block scalar, with the empty lines in front. -/
def readBlockLines (folded : Bool) (chomping : Chomping) (indent : Nat) :
    Nat → List Char → List Char → Cursor → List Char × Cursor
  | 0, ended, breaks, cursor => (chomp chomping ended breaks, cursor)
  | fuel + 1, ended, breaks, cursor =>
    if atBlockLine indent cursor then
      let (line, behind) := cursor.takeWhile fun character => !isBreak character
      let (newEnd, below) := behind.takeBreak
      let (newBreaks, last) := emptyLines indent (below.bound + 1) below
      let between :=
        if atBlockLine indent last then
          if folded && newEnd = ['\n'] && startsFlush cursor && startsFlush last then
            if newBreaks.isEmpty then [' '] else []
          else newEnd
        else []
      let (others, final) := readBlockLines folded chomping indent fuel newEnd newBreaks last
      (breaks ++ line ++ between ++ others, final)
    else (chomp chomping ended breaks, cursor)

/-- Read a block scalar inside a block of an indentation, from its mark on. -/
def readBlock (folded : Bool) (outer : Int) (cursor : Cursor) : Option (List Char × Cursor) := do
  let (chomping, digit, behind) ← readIndicators cursor.step
  let below ← skipIndicatorLine behind
  let least := max 1 (outer + 1).toNat
  let (breaks, indent, first) :=
    match digit with
    | none =>
      let (breaks, widest, first) := leadingLines (below.bound + 1) below
      (breaks, max least widest, first)
    | some digit =>
      let indent := least + digit - 1
      let (breaks, first) := emptyLines indent (below.bound + 1) below
      (breaks, indent, first)
  return readBlockLines folded chomping indent (first.bound + 1) [] breaks first

end Yaml
end ComponentCompiler
