import ComponentCompiler.HostName.Mark

namespace ComponentCompiler
namespace HostName

open Text

/-!
# Directions of writing

Letters are written from the left or from the right.  A label that mixes
directions could be read in two ways, so a label with letters from the right
has only such letters, keeps to one kind of digits, and does not end in a
character without a direction.  The stretches of the tables run over marks,
which are looked at first, and over characters that no name holds.
-/

/-- The direction that a character is written in. -/
inductive Direction where
  | fromLeft
  | fromRight
  | arabicDigit
  | digit
  | mark
  | neutral
deriving DecidableEq, Repr

/-- Nonspacing marks that are written from the left like letters. -/
def directedMarks : List Nat :=
  [0x0CBF, 0x0CC6, 0x11A07, 0x11A08, 0x11C3F]

/-- Stretches of letters that are written from the right. -/
def fromRightRanges : List CodeRange :=
  [⟨0x05D0, 0x064A⟩, ⟨0x066E, 0x06EF⟩, ⟨0x06FA, 0x08C9⟩, 0xFE73, ⟨0x10800, 0x10D23⟩,
   ⟨0x10E80, 0x10FF6⟩, ⟨0x1E800, 0x1E959⟩]

/-- Stretches of digits that belong to letters from the right. -/
def arabicDigitRanges : List CodeRange :=
  [⟨0x0660, 0x0669⟩, ⟨0x10D30, 0x10D39⟩]

/-- Stretches of digits that go with either direction. -/
def digitRanges : List CodeRange :=
  [⟨0x0030, 0x0039⟩, ⟨0x06F0, 0x06F9⟩]

/-- Stretches of characters without a direction. -/
def neutralRanges : List CodeRange :=
  [0x002D, 0x00B7, ⟨0x02B9, 0x02BA⟩, ⟨0x02C6, 0x02CF⟩, 0x02EC, 0x0375, ⟨0x200C, 0x200D⟩, 0x2E2F,
   0x30FB, 0xA67F, ⟨0xA717, 0xA71F⟩, 0xA788]

/-- The direction of a character. -/
def Direction.of (code : Nat) : Direction :=
  let lies (ranges : List CodeRange) : Bool := ranges.any fun range => range.contains code
  if isNonspacing code && !directedMarks.contains code then .mark
  else if lies fromRightRanges then .fromRight
  else if lies arabicDigitRanges then .arabicDigit
  else if lies digitRanges then .digit
  else if lies neutralRanges then .neutral
  else .fromLeft

/-- Whether a label keeps to one direction. -/
def keepsDirection (codes : List Nat) : Bool :=
  let directions := codes.map Direction.of
  let ending := (directions.reverse.dropWhile fun direction => direction = .mark).head?
  let turns := directions.any fun direction => direction = .fromRight || direction = .arabicDigit
  !turns ||
    (directions.head? = some .fromRight && !directions.contains .fromLeft &&
      (ending = some .fromRight || ending = some .arabicDigit || ending = some .digit) &&
      !(directions.contains .arabicDigit && directions.contains .digit))

end HostName
end ComponentCompiler
