import ComponentCompiler.Script.Identifier
import ComponentCompiler.Text.Search
import ComponentCompiler.Value.ReadFault

namespace ComponentCompiler
namespace Script

open Number

/-!
# Values as script literals

A value is written as a literal of the emitted script, in one line or in a
block with one line per entry and a comma at the end of each.  Lists are always
written in one line.  Code stands as it is.  Only what comes from the looser
document notation has no literal: days and moments, bytes, sets, values inside
themselves, keys that are no text, and whole numbers of very many digits.
-/

/-- Why a value has no text in the emitted source. -/
inductive RenderFault where
  /-- A value of this kind has no literal. -/
  | noLiteral (kind : String)
  /-- A key of this kind is no property name. -/
  | keyNotText (kind : String)
  /-- Bytes are no property name. -/
  | bytesAsKey
  /-- A key of this kind cannot extend a selector. -/
  | selectorNotText (kind : String)
  /-- Bytes cannot extend a selector. -/
  | bytesAsSelector
  /-- A whole number has too many digits. -/
  | tooManyDigits
  /-- A value stands inside itself. -/
  | endless
deriving DecidableEq, Repr

/-- The message of a fault. -/
def RenderFault.message : RenderFault → String
  | .noLiteral kind => "Cannot render " ++ kind ++ " as a JavaScript value"
  | .keyNotText kind => "expected string or bytes-like object, got '" ++ kind ++ "'"
  | .bytesAsKey => "cannot use a string pattern on a bytes-like object"
  | .selectorNotText kind => "'" ++ kind ++ "' object has no attribute 'startswith'"
  | .bytesAsSelector => "startswith first arg must be bytes or a tuple of bytes, not str"
  | .tooManyDigits => tooManyDigitsMessage none
  | .endless => "maximum recursion depth exceeded"

/-- Why a key is no property name. -/
def RenderFault.ofKey : Key → RenderFault
  | .bytes _ => .bytesAsKey
  | key => .keyNotText key.fullKindName

/-- Why a key cannot extend a selector. -/
def RenderFault.ofSelector : Key → RenderFault
  | .bytes _ => .bytesAsSelector
  | key => .selectorNotText key.fullKindName

/-- A text in single quotes, as characters.  Backslashes are escaped first, then
quotes and ends of lines. -/
def quoteChars (characters : List Char) : List Char :=
  let backslashes := Text.replaceAll ['\\'] ['\\', '\\'] characters
  let quotes := Text.replaceAll ['\''] ['\\', '\''] backslashes
  '\'' :: (Text.replaceAll ['\n'] ['\\', 'n'] quotes ++ ['\''])

/-- How a character stands in a single-quoted literal. -/
def escapeChar (character : Char) : List Char :=
  if character = '\\' then ['\\', '\\']
  else if character = '\'' then ['\\', '\'']
  else if character = '\n' then ['\\', 'n']
  else [character]

/-- What one replacement writes is nothing that the next ones look for, so that the three
come to one pass. -/
theorem quoteChars_eq_flatMap (characters : List Char) :
    quoteChars characters = '\'' :: (characters.flatMap escapeChar ++ ['\'']) := by
  unfold quoteChars
  dsimp only
  rw [Text.replaceAll_singleton, Text.replaceAll_singleton, Text.replaceAll_singleton,
    List.flatMap_assoc, List.flatMap_assoc]
  have each (character : Char) :
      ((if character = '\\' then ['\\', '\\'] else [character]).flatMap fun first =>
        (if first = '\'' then ['\\', '\''] else [first]).flatMap fun second =>
          if second = '\n' then ['\\', 'n'] else [second]) = escapeChar character := by
    unfold escapeChar
    split
    · rfl
    · rw [List.flatMap_singleton]
      split
      · rfl
      · exact List.flatMap_singleton _ _
  simp only [each]

/-- A text as a single-quoted literal. -/
def quote (text : String) : String :=
  String.ofList (quoteChars text.toList)

/-- A key of an object literal: bare when it is an identifier. -/
def objectKey (key : String) : String :=
  if isIdentifier key then key else quote key

/-- A key of a map as a key of an object literal. -/
def propertyKey : Key → Except RenderFault String
  | .text content => .ok (objectKey content)
  | key => .error (.ofKey key)

/-- Whether a whole number has too many digits to be written. -/
def isTooLong (number : Int) : Bool :=
  mostDigits < (Nat.toDigits 10 number.natAbs).length

/-- A whole number. -/
def wholeLiteral (number : Int) : Except RenderFault String :=
  if isTooLong number then .error .tooManyDigits else .ok (toString number)

mutual

/-- A value in one line. -/
def inlineLiteral : Value → Except RenderFault String
  | .null => .ok "null"
  | .bool value => .ok (if value then "true" else "false")
  | .int value => wholeLiteral value
  | .real value => .ok (value.text .script)
  | .text content => .ok (quote content)
  | .date _ => .error (.noLiteral "date")
  | .moment _ => .error (.noLiteral "datetime")
  | .bytes _ => .error (.noLiteral "bytes")
  | .set _ => .error (.noLiteral "set")
  | .enclosing _ _ => .error .endless
  | .list items => do
    let texts ← inlineItems items
    return "[" ++ Text.joinWith ", " texts ++ "]"
  | .tuple items => do
    let texts ← inlineItems items
    return "[" ++ Text.joinWith ", " texts ++ "]"
  | .map entries => do
    let texts ← inlineEntries entries
    return if entries.isEmpty then "\x7b\x7d"
      else "\x7b " ++ Text.joinWith ", " texts ++ " \x7d"
  | .code expression => .ok expression

/-- The items of a list, in one line. -/
def inlineItems : List Value → Except RenderFault (List String)
  | [] => .ok []
  | item :: rest => do
    let text ← inlineLiteral item
    return text :: (← inlineItems rest)

/-- The entries of a map, in one line. -/
def inlineEntries : List (Key × Value) → Except RenderFault (List String)
  | [] => .ok []
  | (key, value) :: rest => do
    let property ← propertyKey key
    let text ← inlineLiteral value
    return (property ++ ": " ++ text) :: (← inlineEntries rest)

end

mutual

/-- A value whose maps are blocks, at a level of nesting. -/
def blockLiteral (level : Int) : Value → Except RenderFault String
  | .map entries => do
    let lines ← blockEntries (level + 1) entries
    return if entries.isEmpty then "\x7b\x7d"
      else "\x7b\n" ++ Text.joinWith "\n" lines ++ "\n" ++ Text.padding level ++ "\x7d"
  | value => inlineLiteral value

/-- The lines of the entries of a block. -/
def blockEntries (level : Int) : List (Key × Value) → Except RenderFault (List String)
  | [] => .ok []
  | (key, value) :: rest => do
    let property ← propertyKey key
    let text ← blockLiteral level value
    return (Text.padding level ++ property ++ ": " ++ text ++ ",") :: (← blockEntries level rest)

end

mutual

/-- Whether a value holds a whole number with too many digits. -/
def holdsTooLong : Value → Bool
  | .int value => isTooLong value
  | .list items => itemsHoldTooLong items
  | .tuple items => itemsHoldTooLong items
  | .set items => itemsHoldTooLong items
  | .map entries => entriesHoldTooLong entries
  | _ => false

/-- Whether one of the items holds such a number. -/
def itemsHoldTooLong : List Value → Bool
  | [] => false
  | item :: rest => holdsTooLong item || itemsHoldTooLong rest

/-- Whether one of the entries holds such a number. -/
def entriesHoldTooLong : List (Key × Value) → Bool
  | [] => false
  | (key, value) :: rest =>
    (match key with
      | .int number => isTooLong number
      | _ => false) || holdsTooLong value || entriesHoldTooLong rest

end

/-- A value as a script literal, in one line or with blocks that start at the
given level. -/
def literal (level : Int) (inline : Bool) (value : Value) : Except RenderFault String :=
  if inline then inlineLiteral value else blockLiteral level value

end Script
end ComponentCompiler
