import ComponentCompiler.Value.Display

namespace ComponentCompiler
namespace Json

open Number

/-!
# Writing documents

A value is written in the strict notation, in basic Latin characters only.
Keys that are no text are written with the word for their kind in front, and so
are days, moments, bytes and sets.  A tuple is written as a list, and a value that
stands inside itself as null.  Script code is written as an object with the single
member `$expr`.
-/

/-- How a character stands between quotes. -/
def writeChar (character : Char) : List Char :=
  if character = '"' || character = '\\' then ['\\', character]
  else
    let code := character.toNat
    if 0x20 ≤ code && code < 0x7F then [character]
    else if code < 0x10000 then '\\' :: 'u' :: hexadecimal 4 code
    else
      let offset := code - 0x10000
      ('\\' :: 'u' :: hexadecimal 4 (0xD800 + offset / 0x400)) ++
        ('\\' :: 'u' :: hexadecimal 4 (0xDC00 + offset % 0x400))

/-- A text in quotes. -/
def writeText (text : String) : String :=
  String.ofList ('"' :: (text.toList.flatMap writeChar ++ ['"']))

/-- The name of a member for a key. -/
def memberName : Key → String
  | .text content => content
  | key => key.kindName ++ ":" ++ key.label

mutual

/-- The text of a value. -/
def write : Value → String
  | .null => "null"
  | .bool value => if value then "true" else "false"
  | .int value => toString value
  | .real value => value.text .script
  | .text content => writeText content
  | .date value => writeText ("date:" ++ value.text)
  | .moment value => writeText ("datetime:" ++ value.text)
  | .bytes content => writeText ("bytes:" ++ displayBytes content)
  | .set items => writeText ("set:" ++ displaySet (Value.displayItems items))
  | .list items => "[" ++ Text.joinWith ", " (writeItems items) ++ "]"
  | .tuple items => "[" ++ Text.joinWith ", " (writeItems items) ++ "]"
  | .map entries => "\x7b" ++ Text.joinWith ", " (writeMembers entries) ++ "\x7d"
  | .enclosing _ _ => "null"
  | .code expression => "\x7b\"$expr\": " ++ writeText expression ++ "\x7d"

/-- The texts of the items of a list. -/
def writeItems : List Value → List String
  | [] => []
  | item :: rest => write item :: writeItems rest

/-- The texts of the members of an object. -/
def writeMembers : List (Key × Value) → List String
  | [] => []
  | (key, value) :: rest =>
    (writeText (memberName key) ++ ": " ++ write value) :: writeMembers rest

end
end Json
end ComponentCompiler
