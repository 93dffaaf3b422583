import ComponentCompiler.HostName.Label
import ComponentCompiler.Text.Join

namespace ComponentCompiler
namespace HostName

/-!
# Names in basic Latin

The network knows names in basic Latin only.  A name is a row of labels with dots
between them, and may end in a dot; the full stops of other scripts count as dots.
-/

/-- Whether a character divides labels. -/
def isDot (character : Char) : Bool :=
  character = '.' || [0x3002, 0xFF0E, 0xFF61].contains character.toNat

/-- The labels of a name. -/
def labelsOf (name : List Char) : List (List Char) :=
  Text.piecesAt '.' (name.map fun character => if isDot character then '.' else character)

/-- The most characters that a name may have, a dot at its end apart. -/
def mostCharacters : Nat := 253

/-- A name with small letters in basic Latin, if it is one.  A label never gets
shorter, so a name that is too long stays so. -/
def encode? (name : List Char) : Option String := do
  if mostCharacters + 1 < name.length then none
  let labels := labelsOf name
  let hasLastDot := labels.getLast? = some []
  let encoded ← (if hasLastDot then labels.dropLast else labels).mapM encodeLabel?
  let text := Text.joinWith "." (encoded.map String.ofList)
  if encoded.isEmpty || mostCharacters < text.length then none
  else some (if hasLastDot then text ++ "." else text)

end HostName
end ComponentCompiler
