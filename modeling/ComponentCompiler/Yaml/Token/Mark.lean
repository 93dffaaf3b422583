import ComponentCompiler.Yaml.Token.Quoted

namespace ComponentCompiler
namespace Yaml

/-!
# Anchors, aliases and tags

An anchor names a node and an alias refers to it.  A tag says what kind of value
a node is.
-/

/-- Whether a character may stand in a name. -/
def isNamePart (character : Char) : Bool :=
  character.isAlphanum || character = '-' || character = '_'

/-- Read the name of an anchor or an alias, from its mark on. -/
def readName (cursor : Cursor) : Option (String × Cursor) :=
  let (name, behind) := cursor.step.takeWhile isNamePart
  let closed := endsWord behind.next ||
    (behind.next.map fun follower => "?:,]\x7d%@\x60".contains follower).getD false
  if name.isEmpty || !closed then none else some (String.ofList name, behind)

/-- Whether a character may stand in a tag. -/
def isTagPart (character : Char) : Bool :=
  character.isAlphanum || "-;/?:@&=+$,_.!~*'()[]".contains character

/-- The bytes that percent signs with two digits spell, and the place behind
them. -/
def escapedBytes? : Nat → Cursor → Option (List UInt8 × Cursor)
  | 0, cursor => some ([], cursor)
  | fuel + 1, cursor =>
    match cursor.rest with
    | '%' :: first :: second :: _ => do
      let high ← Number.hexDigit? first
      let low ← Number.hexDigit? second
      let (others, last) ← escapedBytes? fuel (cursor.steps 3)
      return ((high * 16 + low).toUInt8 :: others, last)
    | '%' :: _ => none
    | _ => some ([], cursor)

/-- Read the characters of a tag, of which some may be escaped. -/
def readTagText? : Nat → Cursor → Option (List Char × Cursor)
  | 0, cursor => some ([], cursor)
  | fuel + 1, cursor => do
    let (word, behind) := cursor.takeWhile isTagPart
    if behind.next = some '%' then
      let (bytes, below) ← escapedBytes? (behind.bound + 1) behind
      let escaped ← String.fromUTF8? ⟨bytes.toArray⟩
      let (others, last) ← readTagText? fuel below
      return (word ++ escaped.toList ++ others, last)
    else return (word, behind)

/-- Read what follows the handle of a tag, which must not be empty. -/
def readTagRest? (cursor : Cursor) : Option (String × Cursor) := do
  let (text, behind) ← readTagText? (cursor.bound + 1) cursor
  if behind.index = cursor.index then none else some (String.ofList text, behind)

/-- Read the handle of a tag, from its mark on: a lone mark in front of a blank,
or a name between two marks. -/
def readHandle? (cursor : Cursor) : Option (String × Cursor) :=
  if cursor.next = some '!' then
    if cursor.ahead 1 = some ' ' then some ("!", cursor.step)
    else
      let name := cursor.step.rest.takeWhile isNamePart
      if cursor.ahead (name.length + 1) = some '!' then
        some (String.ofList ('!' :: name ++ ['!']), cursor.steps (name.length + 2))
      else none
  else none

/-- Whether a word ends here without a tab. -/
def endsPart (cursor : Cursor) : Bool :=
  cursor.next = some ' ' || endsLine cursor.next

/-- Read a tag, from its mark on: a tag in angle brackets, a lone mark, or a
handle with what follows it. -/
def readTag (cursor : Cursor) : Option (Token × Cursor) := do
  let (token, behind) ←
    if cursor.ahead 1 = some '<' then do
      let (rest, behind) ← readTagRest? (cursor.steps 2)
      if behind.next = some '>' then some (.tag none rest, behind.step) else none
    else if endsWord (cursor.ahead 1) then some (.tag none "!", cursor.step)
    else
      let word := cursor.step.rest.takeWhile fun character =>
        character ≠ ' ' && !isBreak character
      if word.contains '!' then do
        let (handle, start) ← readHandle? cursor
        let (rest, behind) ← readTagRest? start
        some (.tag (some handle) rest, behind)
      else do
        let (rest, behind) ← readTagRest? cursor.step
        some (.tag (some "!") rest, behind)
  if endsPart behind then some (token, behind) else none

end Yaml
end ComponentCompiler
