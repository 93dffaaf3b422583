import ComponentCompiler.Number.Decimal
import ComponentCompiler.Text.Join

namespace ComponentCompiler
namespace Address

open Number

/-!
# Hosts in numbers

A host may be given by the numbers of its address: four numbers with points
between them, or up to eight groups of digits with colons between them.
-/

/-- Whether a part is a number below 256 without zeros in front. -/
def isByteText (part : List Char) : Bool :=
  match readSize? part with
  | some number => number < 256 && (part = ['0'] || part.head? ≠ some '0') && part.length ≤ 3
  | none => false

/-- Whether characters are four numbers with points between them. -/
def isFourBytes (characters : List Char) : Bool :=
  let parts := Text.piecesAt '.' characters
  parts.length = 4 && parts.all isByteText

/-- The lengths of the runs of digits between the other characters. -/
def digitRuns : List Char → List Nat
  | [] => [0]
  | character :: rest =>
    match digitRuns rest with
    | run :: others => if character.isDigit then (run + 1) :: others else 0 :: run :: others
    | [] => []

/-- Whether a host looks as if it were four numbers: runs of digits with three
single characters between them, which may be digits too. -/
def looksLikeFour (characters : List Char) : Bool :=
  let runs := digitRuns characters
  let spare := runs.foldl (fun sum run => sum + (run - 1) / 2) 0
  runs.all (fun run => 0 < run) && runs.length ≤ 4 && 4 ≤ runs.length + spare

/-- Whether a group has one to four digits in base sixteen. -/
def isGroup (part : List Char) : Bool :=
  0 < part.length && part.length ≤ 4 && part.all fun digit => (hexDigit? digit).isSome

/-- The number of groups that parts make, of which the last may be four numbers. -/
def groupCount? : List (List Char) → Option Nat
  | [] => some 0
  | [part] =>
    if isGroup part then some 1 else if isFourBytes part then some 2 else none
  | part :: rest => if isGroup part then (groupCount? rest).map (· + 1) else none

/-- The characters before the first two colons, and those behind them. -/
def splitAtGap : List Char → Option (List Char × List Char)
  | ':' :: ':' :: rest => some ([], rest)
  | character :: rest => (splitAtGap rest).map fun (before, behind) => (character :: before, behind)
  | [] => none

/-- The parts between colons, none for nothing. -/
def groups (characters : List Char) : List (List Char) :=
  if characters.isEmpty then [] else Text.piecesAt ':' characters

/-- Whether characters are eight groups with colons between them.  Two colons
stand for groups of zeros that are left out, once. -/
def isSixteenBytes (characters : List Char) : Bool :=
  let (numbers, zone) := characters.span fun character => character ≠ '%'
  let zoneFits := match zone with
    | [] => true
    | _ :: name => !name.isEmpty && !name.contains '%'
  let countFits :=
    match splitAtGap numbers with
    | some (before, behind) =>
      match groupCount? (groups before ++ groups behind) with
      | some count => count < 8 && (groups before).all isGroup
      | none => false
    | none => groupCount? (groups numbers) = some 8
  zoneFits && countFits

end Address
end ComponentCompiler
