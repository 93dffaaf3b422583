import ComponentCompiler.Entries
import ComponentCompiler.Text.Join

namespace ComponentCompiler

/-!
# Encodings

A text travels as bytes, and whoever receives it takes the bytes for one of many
encodings.  When that is another one than it was written in, the text that is
read differs from the text that was sent.
-/

/-- In which order the bytes of a unit follow each other. -/
inductive ByteOrder where
  | small
  | big
deriving DecidableEq, Repr

/-- What the bytes of a text are taken for.  Where the order of bytes is not
given, a mark at the start of the bytes has to tell it. -/
inductive Encoding where
  | ascii
  | latinOne
  | latinNine
  | western
  | eight
  | markedEight
  | sixteen (order : Option ByteOrder)
  | thirtyTwo (order : Option ByteOrder)
deriving DecidableEq, Repr

/-- Why bytes are not in an encoding: the mark of the order of bytes is missing. -/
inductive EncodingFault where
  | unmarkedSixteen
  | unmarkedThirtyTwo
deriving DecidableEq, Repr

/-- The message of a fault. -/
def EncodingFault.message : EncodingFault → String
  | .unmarkedSixteen => "UTF-16 stream does not start with BOM"
  | .unmarkedThirtyTwo => "UTF-32 stream does not start with BOM"

namespace Encoding

/-- The names of an encoding, in their normal form. -/
def names : List (Encoding × List String) :=
  [(.ascii,
      ["ascii", "646", "ansi_x3.4_1968", "ansi_x3_4_1968", "ansi_x3.4_1986", "cp367", "csascii",
       "ibm367", "iso646_us", "iso_646.irv_1991", "iso_ir_6", "us", "us_ascii"]),
   (.latinOne,
      ["latin_1", "8859", "cp819", "csisolatin1", "ibm819", "iso8859", "iso8859_1", "iso_8859_1",
       "iso_8859_1_1987", "iso_ir_100", "l1", "latin", "latin1"]),
   (.latinNine, ["iso8859_15", "iso_8859_15", "l9", "latin9"]),
   (.western, ["cp1252", "1252", "windows_1252"]),
   (.eight, ["utf_8", "u8", "utf", "utf8", "utf8_ucs2", "utf8_ucs4", "cp65001"]),
   (.markedEight, ["utf_8_sig"]),
   (.sixteen none, ["utf_16", "u16", "utf16"]),
   (.sixteen (some .small), ["utf_16_le", "unicodelittleunmarked", "utf_16le"]),
   (.sixteen (some .big), ["utf_16_be", "unicodebigunmarked", "utf_16be"]),
   (.thirtyTwo none, ["utf_32", "u32", "utf32"]),
   (.thirtyTwo (some .small), ["utf_32_le", "utf_32le"]),
   (.thirtyTwo (some .big), ["utf_32_be", "utf_32be"])]

/-- Whether a character is part of a name; others only divide its words. -/
def isNameChar (character : Char) : Bool :=
  character.isAlphanum || character = '.'

/-- The normal form of a name: small letters, and one underscore between words. -/
def normalName (characters : List Char) : String :=
  let words := (characters.map fun character => if isNameChar character then character else ' ')
    |>.splitBy fun first second => first ≠ ' ' && second ≠ ' '
  Text.joinWith "_"
    ((words.filter fun word => word ≠ [' ']).map fun word => String.ofList (word.map Char.toLower))

/-- The encoding of a name. -/
def ofName? (name : String) : Option Encoding :=
  let normal := normalName name.toList
  (names.find? fun entry => entry.2.contains normal).map Prod.fst

/-- What stands for bytes that are no character. -/
def replacement : Char := Char.ofNat 0xFFFD

/-- The character of a code, when it is one. -/
def charOf (code : Nat) : Char :=
  if code.isValidChar then Char.ofNat code else replacement

/-- The characters between 0x80 and 0x9F in the encoding of Western Europe. -/
def westernChars : List Char :=
  [0x20AC, 0xFFFD, 0x201A, 0x0192, 0x201E, 0x2026, 0x2020, 0x2021, 0x02C6, 0x2030, 0x0160, 0x2039,
   0x0152, 0xFFFD, 0x017D, 0xFFFD, 0xFFFD, 0x2018, 0x2019, 0x201C, 0x201D, 0x2022, 0x2013, 0x2014,
   0x02DC, 0x2122, 0x0161, 0x203A, 0x0153, 0xFFFD, 0x017E, 0x0178].map Char.ofNat

/-- The bytes at which the ninth Latin encoding differs from the first. -/
def latinNineChars : List (Nat × Char) :=
  [(0xA4, Char.ofNat 0x20AC), (0xA6, Char.ofNat 0x0160), (0xA8, Char.ofNat 0x0161),
   (0xB4, Char.ofNat 0x017D), (0xB8, Char.ofNat 0x017E), (0xBC, Char.ofNat 0x0152),
   (0xBD, Char.ofNat 0x0153), (0xBE, Char.ofNat 0x0178)]

/-- The character of a byte in the encoding of Western Europe. -/
def westernChar (byte : Nat) : Char :=
  if 0x80 ≤ byte && byte < 0xA0 then westernChars.getD (byte - 0x80) replacement
  else charOf byte

/-- The number that two bytes make. -/
def pairOf (order : ByteOrder) (first second : Nat) : Nat :=
  match order with
  | .small => second * 0x100 + first
  | .big => first * 0x100 + second

/-- The units of two bytes.  A byte that is left over makes none. -/
def pairs (order : ByteOrder) : List Nat → List (Option Nat)
  | first :: second :: rest => some (pairOf order first second) :: pairs order rest
  | [_] => [none]
  | [] => []

/-- The units of four bytes.  Bytes that are left over make none. -/
def quads (order : ByteOrder) : List Nat → List (Option Nat)
  | first :: second :: third :: fourth :: rest =>
    let low := pairOf order first second
    let high := pairOf order third fourth
    some (match order with
      | .small => high * 0x10000 + low
      | .big => low * 0x10000 + high) :: quads order rest
  | [] => []
  | _ => [none]

/-- Whether a unit is the first half of a character. -/
def isHighHalf (unit : Nat) : Bool :=
  0xD800 ≤ unit && unit < 0xDC00

/-- Whether a unit is the second half of a character. -/
def isLowHalf (unit : Nat) : Bool :=
  0xDC00 ≤ unit && unit < 0xE000

/-- The characters of units of two bytes. -/
def charsOfPairs : List (Option Nat) → List Char
  | some high :: some low :: rest =>
    if isHighHalf high && isLowHalf low then
      Char.ofNat (0x10000 + (high - 0xD800) * 0x400 + (low - 0xDC00)) :: charsOfPairs rest
    else charOf high :: charsOfPairs (some low :: rest)
  | [some high, none] =>
    if isHighHalf high then [replacement] else [charOf high, replacement]
  | some unit :: rest => charOf unit :: charsOfPairs rest
  | none :: rest => replacement :: charsOfPairs rest
  | [] => []

/-- The characters of units of four bytes. -/
def charsOfQuads (units : List (Option Nat)) : List Char :=
  units.map fun unit => (unit.map charOf).getD replacement

/-- The characters without a mark at the start. -/
def withoutMark : List Char → List Char
  | [] => []
  | first :: rest => if first.toNat = 0xFEFF then rest else first :: rest

/-- What a text is read as when its bytes are taken for an encoding.  No text
starts with a mark of the order of bytes, so where one is needed only less than
a whole unit can be read. -/
def reading (encoding : Encoding) (text : String) : Except EncodingFault String :=
  let bytes := text.toUTF8.toList.map UInt8.toNat
  match encoding with
  | .ascii =>
    .ok (String.ofList (bytes.map fun byte => if byte < 0x80 then charOf byte else replacement))
  | .latinOne => .ok (String.ofList (bytes.map charOf))
  | .latinNine =>
    .ok (String.ofList
      (bytes.map fun byte => (Entries.lookUp? latinNineChars byte).getD (charOf byte)))
  | .western => .ok (String.ofList (bytes.map westernChar))
  | .eight => .ok text
  | .markedEight => .ok (String.ofList (withoutMark text.toList))
  | .sixteen (some order) => .ok (String.ofList (charsOfPairs (pairs order bytes)))
  | .sixteen none =>
    if 2 ≤ bytes.length then .error .unmarkedSixteen
    else .ok (String.ofList (charsOfPairs (pairs .small bytes)))
  | .thirtyTwo (some order) => .ok (String.ofList (charsOfQuads (quads order bytes)))
  | .thirtyTwo none =>
    if 4 ≤ bytes.length then .error .unmarkedThirtyTwo
    else .ok (String.ofList (charsOfQuads (quads .small bytes)))

end Encoding
end ComponentCompiler
