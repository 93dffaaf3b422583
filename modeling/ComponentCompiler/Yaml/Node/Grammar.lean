import ComponentCompiler.Entries
import ComponentCompiler.Yaml.Node.Tag
import ComponentCompiler.Yaml.Token.Basic

namespace ComponentCompiler
namespace Yaml

/-!
# From tokens to nodes

The grammar is read from left to right with one token ahead.  A name is known
from where its node starts, so an alias can stand inside its own node.  Each
step takes a token or goes one collection deeper, which bounds the depth by the
number of tokens.
-/

/-- What is left to read, the names that are given so far, and what the handles
of tags stand for. -/
structure Remaining where
  tokens : List Token
  names : List String
  handles : Entries String String

/-- A part of the grammar. -/
abbrev Grammar (α : Type) := StateT Remaining (Except ReadFault) α

namespace Grammar

/-- Refuse the document. -/
def refuse {α : Type} : Grammar α :=
  throw .malformed

/-- The next token, when something more can be read. -/
def next : Grammar (Option Token) := do
  match (← get).tokens.head? with
  | some (.unreadable fault) => throw fault
  | token => return token

/-- Go over the next token. -/
def skip : Grammar Unit :=
  modify fun remaining => { remaining with tokens := remaining.tokens.tail }

/-- Whether the next token is one of some. -/
def isNext (tokens : List Token) : Grammar Bool := do
  match ← next with
  | some token => return tokens.contains token
  | none => return false

/-- Go over the next token when it is the given one. -/
def skipIf (token : Token) : Grammar Bool := do
  if ← isNext [token] then
    skip
    return true
  else return false

/-- Go over the next token, which has to be the given one. -/
def expect (token : Token) : Grammar Unit := do
  if ← skipIf token then return () else refuse

/-- The full name of a tag with a handle and what follows it. -/
def tagName (handle : Option String) (rest : String) : Grammar String := do
  match handle with
  | none => return rest
  | some handle =>
    match Entries.lookUp? (← get).handles handle with
    | some meaning => return meaning ++ rest
    | none => refuse

/-- Read an anchor, when there is one. -/
def readAnchor : Grammar (Option String) := do
  match ← next with
  | some (.anchor name) => skip; return some name
  | _ => return none

/-- Read a tag, when there is one. -/
def readTagToken : Grammar (Option String) := do
  match ← next with
  | some (.tag handle rest) => skip; return some (← tagName handle rest)
  | _ => return none

/-- Read the anchor and the tag of a node, in either order. -/
def readProperties : Grammar (Option String × Option String) := do
  match ← readAnchor with
  | some anchor => return (some anchor, ← readTagToken)
  | none =>
    let tag ← readTagToken
    match tag with
    | some _ => return (← readAnchor, tag)
    | none => return (none, none)

/-- Note the name of a node.  A name is given once. -/
def noteName (anchor : Option String) : Grammar Unit := do
  match anchor with
  | none => return ()
  | some name =>
    if (← get).names.contains name then refuse
    else modify fun remaining => { remaining with names := name :: remaining.names }

mutual

/-- Read a node.  A list without indentation of its own can stand below a key. -/
def readNode (block bare : Bool) : Nat → Grammar Node
  | 0 => refuse
  | fuel + 1 => do
    match ← next with
    | some (.alias name) =>
      skip
      if (← get).names.contains name then return .alias name else refuse
    | _ =>
      let (anchor, name) ← readProperties
      let scalar (content : String) (plain : Bool) : Node :=
        .scalar anchor (.ofScalar name plain content) content
      let list (items : List Node) : Node := .sequence anchor (.ofCollection name .list) items
      let map (entries : List (Node × Node)) : Node :=
        .mapping anchor (.ofCollection name .map) entries
      let absent : Grammar Node := do
        if anchor.isSome || name.isSome then
          noteName anchor
          return scalar "" true
        else refuse
      match ← next with
      | some (.scalar content plain) => do
        skip
        noteName anchor
        return scalar content plain
      | some .flowSequenceStart => do
        skip
        noteName anchor
        return list (← readFlowItems true fuel)
      | some .flowMappingStart => do
        skip
        noteName anchor
        return map (← readFlowEntries true fuel)
      | some .blockSequenceStart =>
        if block then do
          skip
          noteName anchor
          return list (← readBlockItems fuel)
        else absent
      | some .blockMappingStart =>
        if block then do
          skip
          noteName anchor
          return map (← readBlockEntries fuel)
        else absent
      | some .blockEntry =>
        if bare then do
          noteName anchor
          return list (← readBareItems fuel)
        else absent
      | _ => absent

/-- Read the items of an indented list. -/
def readBlockItems : Nat → Grammar (List Node)
  | 0 => refuse
  | fuel + 1 => do
    if ← skipIf .blockEntry then
      let item ←
        if ← isNext [.blockEntry, .blockEnd] then pure Node.empty else readNode true false fuel
      return item :: (← readBlockItems fuel)
    else
      expect .blockEnd
      return []

/-- Read the items of a list without indentation of its own. -/
def readBareItems : Nat → Grammar (List Node)
  | 0 => refuse
  | fuel + 1 => do
    if ← skipIf .blockEntry then
      let item ←
        if ← isNext [.blockEntry, .key, .value, .blockEnd] then pure Node.empty
        else readNode true false fuel
      return item :: (← readBareItems fuel)
    else return []

/-- Read the entries of an indented map. -/
def readBlockEntries : Nat → Grammar (List (Node × Node))
  | 0 => refuse
  | fuel + 1 => do
    if ← skipIf .key then
      let key ←
        if ← isNext [.key, .value, .blockEnd] then pure Node.empty else readNode true true fuel
      let value ←
        if ← skipIf .value then
          if ← isNext [.key, .value, .blockEnd] then pure Node.empty else readNode true true fuel
        else pure Node.empty
      return (key, value) :: (← readBlockEntries fuel)
    else
      expect .blockEnd
      return []

/-- Read the items of a list in brackets.  A key makes an item a map. -/
def readFlowItems (first : Bool) : Nat → Grammar (List Node)
  | 0 => refuse
  | fuel + 1 => do
    if ← skipIf .flowSequenceEnd then return []
    if !first then expect .flowEntry
    if ← skipIf .key then
      let key ←
        if ← isNext [.value, .flowEntry, .flowSequenceEnd] then pure Node.empty
        else readNode false false fuel
      let value ← readFlowValue .flowSequenceEnd fuel
      return .mapping none .map [(key, value)] :: (← readFlowItems false fuel)
    else if ← skipIf .flowSequenceEnd then return []
    else
      let item ← readNode false false fuel
      return item :: (← readFlowItems false fuel)

/-- Read the entries of a map in braces.  A node alone is a key without value. -/
def readFlowEntries (first : Bool) : Nat → Grammar (List (Node × Node))
  | 0 => refuse
  | fuel + 1 => do
    if ← skipIf .flowMappingEnd then return []
    if !first then expect .flowEntry
    if ← skipIf .key then
      let key ←
        if ← isNext [.value, .flowEntry, .flowMappingEnd] then pure Node.empty
        else readNode false false fuel
      let value ← readFlowValue .flowMappingEnd fuel
      return (key, value) :: (← readFlowEntries false fuel)
    else if ← skipIf .flowMappingEnd then return []
    else
      let key ← readNode false false fuel
      return (key, Node.empty) :: (← readFlowEntries false fuel)

/-- Read the value of a key inside a flow collection. -/
def readFlowValue (close : Token) : Nat → Grammar Node
  | 0 => refuse
  | fuel + 1 => do
    if ← skipIf .value then
      if ← isNext [.flowEntry, close] then pure Node.empty else readNode false false fuel
    else pure Node.empty

end

/-- Go over the marks for the end of a document. -/
def skipEnds : Nat → Grammar Unit
  | 0 => return ()
  | fuel + 1 => do
    if ← skipIf .documentEnd then skipEnds fuel else return ()

/-- What the handles of tags stand for when nothing else is said. -/
def usualHandles : Entries String String :=
  [("!", "!"), ("!!", knownTagStart)]

/-- Read the directives in front of a document.  A version is told once and starts
with a one; a handle is explained once. -/
def readDirectives (versioned : Bool) (handles : Entries String String) :
    Nat → Grammar (Entries String String)
  | 0 => refuse
  | fuel + 1 => do
    match ← next with
    | some (.directive (.version major)) =>
      if versioned || major ≠ 1 then refuse
      else
        skip
        readDirectives true handles fuel
    | some (.directive (.handle name meaning)) =>
      if Entries.has handles name then refuse
      else
        skip
        readDirectives versioned (Entries.put handles name meaning) fuel
    | some (.directive .other) =>
      skip
      readDirectives versioned handles fuel
    | _ => return handles

/-- Read the content of a document behind its mark. -/
def readContent (fuel : Nat) : Grammar Node := do
  match ← next with
  | none | some .documentStart | some .documentEnd | some (.directive _) => pure Node.empty
  | _ => readNode true false fuel

/-- Read a single document.  There is no node when there is nothing to read. -/
def readDocument (fuel : Nat) : Grammar (Option Node) := do
  let node? ←
    match ← next with
    | none => pure none
    | some .documentStart | some (.directive _) =>
      let handles ← readDirectives false [] fuel
      modify fun remaining => { remaining with handles := handles ++ usualHandles }
      expect .documentStart
      some <$> readContent fuel
    | _ => some <$> readNode true false fuel
  if node?.isSome then skipEnds fuel
  match ← next with
  | none => return node?
  | some _ => refuse

end Grammar

/-- The tree of the single document that tokens make. -/
def readTree (tokens : List Token) : Except ReadFault (Option Node) :=
  (Grammar.readDocument (2 * tokens.length + 4)).run' ⟨tokens, [], Grammar.usualHandles⟩

end Yaml
end ComponentCompiler
