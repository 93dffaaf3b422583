import ComponentCompiler.Entries
import ComponentCompiler.Yaml.Token.Block
import ComponentCompiler.Yaml.Token.Directive

namespace ComponentCompiler
namespace Yaml

/-!
# The tokens of a document

The reader goes from token to token and keeps the columns of the open blocks.
That something was a key is known only at the colon behind it.  So the place of
each node that may turn out to be a key is kept, and at the colon the place of
the key token is noted; the key tokens are put between the others in the end.
-/

/-- A node that may turn out to be a key: the number of tokens before it and
where it starts.  It has to be one when nothing else can start there. -/
structure KeyPlace where
  position : Nat
  isNeeded : Bool
  index : Nat
  line : Nat
  column : Nat

/-- Where a key token belongs, and whether it opens a mapping. -/
structure KeyMark where
  position : Nat
  opensMapping : Bool

/-- What is known between two tokens. -/
structure Reading where
  cursor : Cursor
  tokens : Array Token
  keys : List KeyMark
  flowLevel : Nat
  indent : Int
  outerIndents : List Int
  keyAllowed : Bool
  places : Entries Nat KeyPlace

namespace Reading

/-- The reading of a document before its first token. -/
def start (characters : List Char) : Reading :=
  ⟨Cursor.start characters, #[], [], 0, -1, [], true, []⟩

/-- Whether a flow collection is open. -/
def inFlow (reading : Reading) : Bool :=
  reading.flowLevel ≠ 0

/-- Add a token. -/
def emit (reading : Reading) (token : Token) : Reading :=
  { reading with tokens := reading.tokens.push token }

/-- Go on at another place. -/
def moveTo (reading : Reading) (cursor : Cursor) : Reading :=
  { reading with cursor := cursor }

/-- Say whether a key may come next. -/
def allowKey (reading : Reading) (allowed : Bool) : Reading :=
  { reading with keyAllowed := allowed }

/-- Go over blanks, comments and ends of lines.  A key may start on a new line. -/
def skipBlank (reading : Reading) : Nat → Reading
  | 0 => reading
  | fuel + 1 =>
    let behind := (reading.cursor.skipWhile fun character => character = ' ').skipComment
    match behind.next with
    | some character =>
      if isBreak character then
        let moved := reading.moveTo behind.takeBreak.2
        (if reading.inFlow then moved else moved.allowKey true).skipBlank fuel
      else reading.moveTo behind
    | none => reading.moveTo behind

/-- Go over a mark of the byte order at the very start. -/
def skipByteOrder (reading : Reading) : Reading :=
  if reading.cursor.index = 0 && reading.cursor.next = some '\ufeff' then
    reading.moveTo reading.cursor.step
  else reading

/-- Whether a possible key is out of reach. -/
def isStale (cursor : Cursor) (place : KeyPlace) : Bool :=
  place.line ≠ cursor.line || 1024 < cursor.index - place.index

/-- Forget the possible keys that are out of reach.  One that is needed must not
be among them. -/
def dropStale (reading : Reading) : Except ReadFault Reading :=
  if reading.places.any fun entry => isStale reading.cursor entry.2 && entry.2.isNeeded then
    .error .malformed
  else
    .ok { reading with
      places := reading.places.filter fun entry => !isStale reading.cursor entry.2 }

/-- Forget the possible key of the current level, which must not be needed. -/
def dropPlace (reading : Reading) : Except ReadFault Reading :=
  match Entries.lookUp? reading.places reading.flowLevel with
  | some place =>
    if place.isNeeded then .error .malformed
    else
      .ok { reading with
        places := reading.places.filter fun entry => entry.1 ≠ reading.flowLevel }
  | none => .ok reading

/-- Note that the node that starts here may turn out to be a key. -/
def savePlace (reading : Reading) : Except ReadFault Reading :=
  if reading.keyAllowed then do
    let dropped ← reading.dropPlace
    let cursor := reading.cursor
    let place : KeyPlace :=
      { position := reading.tokens.size
        isNeeded := !reading.inFlow && reading.indent = cursor.column
        index := cursor.index
        line := cursor.line
        column := cursor.column }
    return { dropped with places := Entries.put dropped.places reading.flowLevel place }
  else .ok reading

/-- Close the blocks that are indented further than a column. -/
def closeBlocks (column : Int) : List Int → Reading → Reading
  | [], reading => reading
  | outer :: others, reading =>
    if column < reading.indent then
      closeBlocks column others
        { reading.emit .blockEnd with indent := outer, outerIndents := others }
    else reading

/-- Close the blocks that are indented further than a column, unless a flow
collection is open. -/
def unwind (reading : Reading) (column : Int) : Reading :=
  if reading.inFlow then reading else closeBlocks column reading.outerIndents reading

/-- Open a block at a column, when it is further than the current one. -/
def openBlock? (reading : Reading) (column : Nat) : Option Reading :=
  if reading.indent < column then
    some { reading with
      indent := column, outerIndents := reading.indent :: reading.outerIndents }
  else none

/-- Open a block at the cursor with a token, when it is further than the current
one. -/
def openBlock (reading : Reading) (token : Token) : Reading :=
  match reading.openBlock? reading.cursor.column with
  | some opened => opened.emit token
  | none => reading

/-! ## Single tokens -/

/-- Read a mark between documents. -/
def readSeparator (reading : Reading) (token : Token) : Except ReadFault Reading := do
  let dropped ← (reading.unwind (-1)).dropPlace
  return ((dropped.allowKey false).moveTo (dropped.cursor.steps 3)).emit token

/-- Read a directive. -/
def readDirective (reading : Reading) : Except ReadFault Reading := do
  let dropped ← (reading.unwind (-1)).dropPlace
  let (token, behind) ← directiveAt dropped.cursor
  return ((dropped.allowKey false).moveTo behind).emit token

/-- Read the start of a flow collection. -/
def readFlowStart (reading : Reading) (token : Token) : Except ReadFault Reading := do
  let saved ← reading.savePlace
  return ({ saved with flowLevel := saved.flowLevel + 1, keyAllowed := true }.moveTo
    saved.cursor.step).emit token

/-- Read the end of a flow collection. -/
def readFlowEnd (reading : Reading) (token : Token) : Except ReadFault Reading := do
  let dropped ← reading.dropPlace
  if dropped.inFlow then
    return ({ dropped with flowLevel := dropped.flowLevel - 1, keyAllowed := false }.moveTo
      dropped.cursor.step).emit token
  else .error .malformed

/-- Read a comma of a flow collection. -/
def readFlowEntry (reading : Reading) : Except ReadFault Reading := do
  let dropped ← reading.dropPlace
  return ((dropped.allowKey true).moveTo dropped.cursor.step).emit .flowEntry

/-- Read the dash of a list entry. -/
def readBlockEntry (reading : Reading) : Except ReadFault Reading := do
  if !reading.inFlow && !reading.keyAllowed then .error .malformed
  let opened := if reading.inFlow then reading else reading.openBlock .blockSequenceStart
  let dropped ← opened.dropPlace
  return ((dropped.allowKey true).moveTo dropped.cursor.step).emit .blockEntry

/-- Read the mark of a key that is told as one. -/
def readKey (reading : Reading) : Except ReadFault Reading := do
  if !reading.inFlow && !reading.keyAllowed then .error .malformed
  let opened := if reading.inFlow then reading else reading.openBlock .blockMappingStart
  let dropped ← opened.dropPlace
  return ((dropped.allowKey !reading.inFlow).moveTo dropped.cursor.step).emit .key

/-- Read the colon in front of a value.  The node before it was a key, when there
is one that may be. -/
def readValue (reading : Reading) : Except ReadFault Reading :=
  match Entries.lookUp? reading.places reading.flowLevel with
  | some place =>
    let found := { reading with
      places := reading.places.filter fun entry => entry.1 ≠ reading.flowLevel }
    let opened := if reading.inFlow then none else found.openBlock? place.column
    let noted := { opened.getD found with
      keys := KeyMark.mk place.position opened.isSome :: found.keys }
    .ok (((noted.allowKey false).moveTo noted.cursor.step).emit .value)
  | none => do
    if !reading.inFlow && !reading.keyAllowed then .error .malformed
    let opened := if reading.inFlow then reading else reading.openBlock .blockMappingStart
    let dropped ← opened.dropPlace
    return ((dropped.allowKey !reading.inFlow).moveTo dropped.cursor.step).emit .value

/-- Read a token that may be a key or the start of one. -/
def readPart (reading : Reading) (part : Cursor → Except ReadFault (Token × Cursor)) :
    Except ReadFault Reading := do
  let saved ← reading.savePlace
  let (token, behind) ← part saved.cursor
  return ((saved.allowKey false).moveTo behind).emit token

/-- Read a block scalar. -/
def readBlockScalar (reading : Reading) (folded : Bool) : Except ReadFault Reading := do
  let dropped ← reading.dropPlace
  let (content, behind) ← orMalformed (readBlock folded dropped.indent dropped.cursor)
  return ((dropped.allowKey true).moveTo behind).emit (.scalar (String.ofList content) false)

/-- Read a plain scalar. -/
def readPlainScalar (reading : Reading) : Except ReadFault Reading := do
  let saved ← reading.savePlace
  let scalar := readPlain saved.inFlow (saved.indent + 1) saved.cursor
  return ((saved.allowKey scalar.onNewLine).moveTo scalar.cursor).emit
    (.scalar (String.ofList scalar.content) true)

/-- Read a quoted scalar. -/
def readQuotedScalar (reading : Reading) (double : Bool) : Except ReadFault Reading :=
  reading.readPart fun cursor => do
    let (content, behind) ← readQuoted double cursor
    return (.scalar (String.ofList content) false, behind)

/-- Whether a plain scalar can start here. -/
def startsPlain (reading : Reading) (character : Char) : Bool :=
  !(endsWord (some character) || "-?:,[]\x7b\x7d#&*!|>'\"%@\x60".contains character) ||
    (!endsWord (reading.cursor.ahead 1) &&
      (character = '-' || (!reading.inFlow && (character = '?' || character = ':'))))

/-- Read the token that starts with a character. -/
def readToken (reading : Reading) (character : Char) : Except ReadFault Reading :=
  let cursor := reading.cursor
  let alone := endsWord (cursor.ahead 1)
  if character = '%' && cursor.column = 0 then reading.readDirective
  else if cursor.column = 0 && cursor.atMark '-' then reading.readSeparator .documentStart
  else if cursor.column = 0 && cursor.atMark '.' then reading.readSeparator .documentEnd
  else if character = '[' then reading.readFlowStart .flowSequenceStart
  else if character = '\x7b' then reading.readFlowStart .flowMappingStart
  else if character = ']' then reading.readFlowEnd .flowSequenceEnd
  else if character = '\x7d' then reading.readFlowEnd .flowMappingEnd
  else if character = ',' then reading.readFlowEntry
  else if character = '-' && alone then reading.readBlockEntry
  else if character = '?' && (reading.inFlow || alone) then reading.readKey
  else if character = ':' && (reading.inFlow || alone) then reading.readValue
  else if character = '*' then
    reading.readPart fun place => do
      let (name, behind) ← orMalformed (readName place)
      return (.alias name, behind)
  else if character = '&' then
    reading.readPart fun place => do
      let (name, behind) ← orMalformed (readName place)
      return (.anchor name, behind)
  else if character = '!' then reading.readPart fun place => orMalformed (readTag place)
  else if character = '|' && !reading.inFlow then reading.readBlockScalar false
  else if character = '>' && !reading.inFlow then reading.readBlockScalar true
  else if character = '\'' then reading.readQuotedScalar false
  else if character = '"' then reading.readQuotedScalar true
  else if reading.startsPlain character then reading.readPlainScalar
  else .error .malformed

/-- Read all tokens.  A character that does not exist ends them early. -/
def readAll : Nat → Reading → Except ReadFault Reading
  | 0, _ => .error .malformed
  | fuel + 1, reading => do
    let blankless := reading.skipByteOrder.skipBlank (reading.cursor.bound + 1)
    let fresh ← blankless.dropStale
    let unwound := fresh.unwind fresh.cursor.column
    match unwound.cursor.next with
    | some character =>
      match unwound.readToken character with
      | .ok next => readAll fuel next
      | .error .malformed => .error .malformed
      | .error fault => .ok (unwound.emit (.unreadable fault))
    | none => (unwound.unwind (-1)).dropPlace

end Reading

/-- The tokens of a key. -/
def KeyMark.tokens (mark : KeyMark) : List Token :=
  if mark.opensMapping then [.blockMappingStart, .key] else [.key]

/-- The tokens with the key tokens at their places, from a position on.  The keys
are in the order of their places. -/
def withKeys : List KeyMark → Nat → List Token → List Token
  | [], _, tokens => tokens
  | _, _, [] => []
  | mark :: marks, position, token :: rest =>
    if mark.position = position then mark.tokens ++ token :: withKeys marks (position + 1) rest
    else token :: withKeys (mark :: marks) (position + 1) rest

/-- The tokens of a document. -/
def readTokens (characters : List Char) : Except ReadFault (List Token) := do
  if !characters.all isAllowed then .error .malformed
  let reading ← (Reading.start characters).readAll (characters.length + 2)
  let keys := reading.keys.mergeSort fun first second => first.position ≤ second.position
  return withKeys keys 0 reading.tokens.toList

end Yaml
end ComponentCompiler
