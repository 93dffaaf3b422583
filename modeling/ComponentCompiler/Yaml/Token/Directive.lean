import ComponentCompiler.Yaml.Token.Mark

namespace ComponentCompiler
namespace Yaml

/-!
# Directives

A line that starts with a percent sign says something about the document that
follows: the version of the notation, or what a handle of tags stands for.
Other such lines are passed over.
-/

/-- Go over blanks. -/
def skipBlanks (cursor : Cursor) : Cursor :=
  cursor.skipWhile fun character => character = ' '

/-- Read a whole number of digits. -/
def readDigits (cursor : Cursor) : Except ReadFault (Nat × Cursor) :=
  let (digits, behind) := cursor.takeWhile Char.isDigit
  if digits.isEmpty then .error .malformed
  else if mostDigits < digits.length then .error (.tooManyDigits digits.length)
  else .ok (Number.decimalOf digits, behind)

/-- Read the two numbers of a version. -/
def readVersion (cursor : Cursor) : Except ReadFault (Directive × Cursor) := do
  let (major, point) ← readDigits (skipBlanks cursor)
  if point.next = some '.' then
    let (_, behind) ← readDigits point.step
    if endsPart behind then return (.version major, behind) else .error .malformed
  else .error .malformed

/-- Read a handle of tags and what it stands for. -/
def readMeaning? (cursor : Cursor) : Option (Directive × Cursor) := do
  let (handle, behind) ← readHandle? (skipBlanks cursor)
  if behind.next = some ' ' then
    let (meaning, last) ← readTagRest? (skipBlanks behind)
    if endsPart last then some (.handle handle meaning, last) else none
  else none

/-- Read a directive, from its mark on, up to the end of its line. -/
def directiveAt (cursor : Cursor) : Except ReadFault (Token × Cursor) := do
  let (name, behind) := cursor.step.takeWhile isNamePart
  if name.isEmpty || !endsPart behind then .error .malformed
  let (directive, last) ←
    match String.ofList name with
    | "YAML" => readVersion behind
    | "TAG" => orMalformed (readMeaning? behind)
    | _ => .ok (.other, behind.skipWhile fun character => !isBreak character)
  let ending := (skipBlanks last).skipComment
  if endsLine ending.next then return (.directive directive, ending.takeBreak.2)
  else .error .malformed

end Yaml
end ComponentCompiler
