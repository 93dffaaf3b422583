import ComponentCompiler.Text.CaseTable

namespace ComponentCompiler
namespace Text

/-!
# Capital and small letters

Letters are mapped by the full rules of the character standard: one letter can
become several, and the small form of a capital sigma depends on whether it
ends a word.  Basic Latin letters are mapped without a look at the tables.
-/

/-- Whether one of the stretches holds the character. -/
def inRanges (ranges : List CodeRange) (character : Char) : Bool :=
  ranges.any (·.contains character.toNat)

/-- The characters that a case table assigns to one character. -/
def mapCase (shifts : List CaseShift) (sequences : List (Nat × List Nat))
    (character : Char) : List Char :=
  let code := character.toNat
  match sequences.find? (·.1 == code) with
  | some (_, codes) => codes.map Char.ofNat
  | none =>
    match shifts.find? (·.applies code) with
    | some shift => [Char.ofNat (code + shift.distance).toNat]
    | none => [character]

/-- The small form of a character on its own. -/
def lowerChar (character : Char) : List Char :=
  if character.toNat < 0x80 then [character.toLower]
  else mapCase lowerShifts lowerSequences character

/-- The capital form of a character. -/
def upperChar (character : Char) : List Char :=
  if character.toNat < 0x80 then [character.toUpper]
  else mapCase upperShifts upperSequences character

/-- Whether the nearest character that counts for a word's edge is a letter with case. -/
def meetsLetter (characters : List Char) : Bool :=
  match characters.dropWhile (inRanges caseIgnorableRanges) with
  | [] => false
  | character :: _ => inRanges casedRanges character

/-- The capital sigma, whose small form depends on its place. -/
def capitalSigma : Char := Char.ofNat 0x3A3

/-- The small forms of a text.  The characters before it are given nearest
first; a sigma after a letter and not before one takes its final form. -/
def lowerAfter (before : List Char) : List Char → List Char
  | [] => []
  | character :: rest =>
    let small :=
      if character = capitalSigma then
        if meetsLetter before && !meetsLetter rest then [Char.ofNat 0x3C2] else [Char.ofNat 0x3C3]
      else lowerChar character
    small ++ lowerAfter (character :: before) rest

/-- The text in small letters. -/
def lower (characters : List Char) : List Char :=
  lowerAfter [] characters

/-- The text in capital letters. -/
def upper (characters : List Char) : List Char :=
  characters.flatMap upperChar

/-- The text with its first character in capital form. -/
def capitalise : List Char → List Char
  | [] => []
  | character :: rest => upperChar character ++ rest

end Text
end ComponentCompiler
