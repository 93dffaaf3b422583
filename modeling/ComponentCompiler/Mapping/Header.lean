import ComponentCompiler.Text.Blank
import ComponentCompiler.Text.Encoding

namespace ComponentCompiler

/-!
# Headers

An answer over the network comes with headers, which tell what kind of content
it has, in which encoding it is, and whether it is packed.
-/

/-- The values of a header, whose name is spelled in any letters. -/
def headerValues (headers : Entries String String) (name : String) : List String :=
  (headers.filter fun header => header.1.toList.map Char.toLower = name.toList).map Prod.snd

/-- All values of a header in one. -/
def headerText (headers : Entries String String) (name : String) : String :=
  Text.joinWith ", " (headerValues headers name)

/-- Characters in front of the first of some parts. -/
def inFront (start : List Char) : List (List Char) → List (List Char)
  | first :: others => (start ++ first) :: others
  | [] => [start]

/-- The parts of a header between semicolons, which divide nothing inside quotes. -/
def headerParts (quoted : Bool) : List Char → List (List Char)
  | [] => [[]]
  | '\\' :: '"' :: rest => inFront ['\\', '"'] (headerParts quoted rest)
  | '"' :: rest => inFront ['"'] (headerParts (!quoted) rest)
  | ';' :: rest =>
    if quoted then inFront [';'] (headerParts quoted rest) else [] :: headerParts quoted rest
  | character :: rest => inFront [character] (headerParts quoted rest)

/-- A value without the quotes or the angle brackets around it. -/
def withoutQuotes (characters : List Char) : List Char :=
  let inner := (characters.drop 1).dropLast
  if characters.length < 2 then characters
  else if characters.head? = some '"' && characters.getLast? = some '"' then inner
  else if characters.head? = some '<' && characters.getLast? = some '>' then inner
  else characters

/-- The encoding that a kind of content names. -/
def encodingOf? (contentType : String) : Option Encoding :=
  ((headerParts false contentType.toList).findSome? fun part =>
    match part.span fun character => character ≠ '=' with
    | (name, _ :: value) =>
      if (Text.trim name).map Char.toLower = "charset".toList then
        some (withoutQuotes (Text.trim value))
      else none
    | _ => none).bind fun name => Encoding.ofName? (String.ofList name)

/-- Whether a body is said to be packed.  Texts are not, so it cannot be unpacked. -/
def isPacked (headers : Entries String String) : Bool :=
  (Text.piecesAt ',' (headerText headers "content-encoding").toList).any fun coding =>
    ["gzip", "deflate"].contains (String.ofList ((Text.trim coding).map Char.toLower))

end ComponentCompiler
