import ComponentCompiler.Number.Decimal
import ComponentCompiler.Value.Display

namespace ComponentCompiler
namespace Address

/-!
# Escaped characters

A character that cannot stand in a part of an address is written as its bytes,
each as a percent sign with two digits.
-/

/-- Whether a character is visible and belongs to the basic Latin block. -/
def isVisible (character : Char) : Bool :=
  0x20 < character.toNat && character.toNat < 0x7F

/-- Whether a character can stand in a query. -/
def isQueryChar (character : Char) : Bool :=
  isVisible character && !"\"#<>".toList.contains character

/-- Whether a character can stand in a path. -/
def isPathChar (character : Char) : Bool :=
  isQueryChar character && !"?\x60\x7b\x7d".toList.contains character

/-- Whether a character can stand in a fragment. -/
def isFragmentChar (character : Char) : Bool :=
  isVisible character && !"\"<>\x60".toList.contains character

/-- Whether a character can stand in the name of a user. -/
def isUserChar (character : Char) : Bool :=
  isPathChar character && !"/;=@[\\]^|".toList.contains character

/-- Whether a character can stand in the name of a host. -/
def isHostChar (character : Char) : Bool :=
  character.isAlphanum || "-._~!$&'()*+,;=\"\x60\x7b\x7d%|\\".toList.contains character

/-- The bytes of a character, each as a percent sign with two digits. -/
def escapedChar (character : Char) : List Char :=
  (String.ofList [character]).toUTF8.toList.flatMap fun byte =>
    '%' :: (hexadecimal 2 byte.toNat).map Char.toUpper

/-- The characters with those escaped that do not pass a test. -/
def escaped (allowed : Char → Bool) (characters : List Char) : String :=
  String.ofList (characters.flatMap fun character =>
    if allowed character || character = '%' then [character] else escapedChar character)

/-- The bytes of a text whose percent signs with two digits are read. -/
def unescapedBytes : List Char → List UInt8
  | '%' :: first :: second :: rest =>
    match Number.hexDigit? first, Number.hexDigit? second with
    | some high, some low => (high * 16 + low).toUInt8 :: unescapedBytes rest
    | _, _ => '%'.toNat.toUInt8 :: unescapedBytes (first :: second :: rest)
  | character :: rest => (String.ofList [character]).toUTF8.toList ++ unescapedBytes rest
  | [] => []

/-- A text whose escapes are read.  When they spell no text it stays as it is. -/
def unescaped (text : String) : String :=
  (String.fromUTF8? ⟨(unescapedBytes text.toList).toArray⟩).getD text

end Address
end ComponentCompiler
