import ComponentCompiler.Proofs.Number.Text
import ComponentCompiler.Proofs.Script.Path
import ComponentCompiler.Proofs.Script.Spelling
import ComponentCompiler.Proofs.Text.Casing

namespace ComponentCompiler
namespace Script

open Number

/-!
# Operands of expressions

An operand is a number with or without a sign, a quoted text, or a name with
accesses behind it.  It is read character by character, and where it can end
depends on what was read last.  A line break ends a script's quoted text before its
quote does, so a carriage return must not stand in one; a line feed is written as
an escape.
-/

/-- Whether a character can continue a name. -/
def isNamePart (character : Char) : Bool :=
  !isWhiteSpace character && (isIdentifierPart character || 0x80 ≤ character.toNat)

/-- Whether a character can start a name. -/
def isNameStart (character : Char) : Bool :=
  isNamePart character && !character.isDigit

def isLineBreak (character : Char) : Bool :=
  character = '\n' || character = '\r'

/-- What was read last of an operand.  A quoted text is an operand of its own or the
name in a bracketed access. -/
inductive Spot where
  | start
  | sign
  | whole
  | point
  | fraction
  | power
  | powerSign
  | powerDigits
  | name
  | dot
  | bracket
  | quoted (inBrackets : Bool)
  | escaped (inBrackets : Bool)
  | quotedName
  | closed
deriving DecidableEq, Repr

namespace Spot

/-- The first character of a number or a name. -/
def begin? (character : Char) : Option Spot :=
  if character.isDigit then some .whole
  else if isNameStart character then some .name
  else none

/-- Take one character. -/
def next? : Spot → Char → Option Spot
  | .start, character =>
    if character = '-' then some .sign
    else if character = '\'' then some (.quoted false)
    else begin? character
  | .sign, character => begin? character
  | .whole, character =>
    if character.isDigit then some .whole
    else if character = '.' then some .point
    else if character = 'e' then some .power
    else none
  | .point, character => if character.isDigit then some .fraction else none
  | .fraction, character =>
    if character.isDigit then some .fraction
    else if character = 'e' then some .power
    else none
  | .power, character => if character = '+' || character = '-' then some .powerSign else none
  | .powerSign, character => if character.isDigit then some .powerDigits else none
  | .powerDigits, character => if character.isDigit then some .powerDigits else none
  | .name, character =>
    if isNamePart character then some .name
    else if character = '.' then some .dot
    else if character = '[' then some .bracket
    else none
  | .dot, character => if isNameStart character then some .name else none
  | .bracket, character => if character = '\'' then some (.quoted true) else none
  | .quoted inBrackets, character =>
    if character = '\'' then some (if inBrackets then .quotedName else .closed)
    else if character = '\\' then some (.escaped inBrackets)
    else if isLineBreak character then none
    else some (.quoted inBrackets)
  | .escaped inBrackets, character =>
    if isLineBreak character then none else some (.quoted inBrackets)
  | .quotedName, character => if character = ']' then some .closed else none
  | .closed, character =>
    if character = '.' then some .dot
    else if character = '[' then some .bracket
    else none

/-- Whether an operand can end here. -/
def isEnd : Spot → Bool
  | .whole | .fraction | .powerDigits | .name | .closed => true
  | _ => false

/-- Take characters one after another. -/
def run? (spot : Spot) (characters : List Char) : Option Spot :=
  characters.foldlM next? spot

theorem run?_cons (spot : Spot) (character : Char) (rest : List Char) :
    spot.run? (character :: rest) = (spot.next? character).bind (run? · rest) :=
  List.foldlM_cons

theorem run?_append {spot middle : Spot} {first : List Char} (early : spot.run? first = some middle)
    (second : List Char) : spot.run? (first ++ second) = middle.run? second := by
  unfold run? at early ⊢
  rw [List.foldlM_append, early]
  rfl

/-- Characters that change nothing. -/
theorem run?_of_stays {spot : Spot} {characters : List Char}
    (stays : ∀ character ∈ characters, spot.next? character = some spot) :
    spot.run? characters = some spot := by
  induction characters with
  | nil => rfl
  | cons character rest inductionHypothesis =>
      rw [List.forall_mem_cons] at stays
      rw [run?_cons, stays.1, Option.bind_some, inductionHypothesis stays.2]

end Spot

/-- Whether the characters are an operand. -/
def isOperand (characters : List Char) : Bool :=
  (Spot.start.run? characters).any Spot.isEnd

theorem isOperand_iff {characters : List Char} :
    isOperand characters = true ↔
      ∃ spot, Spot.start.run? characters = some spot ∧ spot.isEnd = true := by
  rw [isOperand, Option.any_eq_true]

/-! ## Numbers -/

open Spot

/-- The first digit leads on, and the others change nothing. -/
theorem run?_digits_from {spot reached : Spot}
    (enters : ∀ character : Char, character.isDigit = true → spot.next? character = some reached)
    (stays : ∀ character : Char, character.isDigit = true → reached.next? character = some reached)
    {digits : List Char} (row : AreDigits digits) : spot.run? digits = some reached := by
  rcases row with ⟨nonempty, allDigits⟩
  cases digits with
  | nil => exact absurd rfl nonempty
  | cons digit rest =>
      rw [List.forall_mem_cons] at allDigits
      rw [run?_cons, enters digit allDigits.1, Option.bind_some]
      exact run?_of_stays fun character member => stays character (allDigits.2 character member)

theorem ne_of_isDigit {character other : Char} (digit : character.isDigit = true)
    (noDigit : other.isDigit = false) : character ≠ other := by
  rintro rfl
  rw [digit] at noDigit
  cases noDigit

theorem whole_next? {character : Char} (digit : character.isDigit = true) :
    whole.next? character = some whole := by
  rw [next?, if_pos digit]

theorem fraction_next? {character : Char} (digit : character.isDigit = true) :
    fraction.next? character = some fraction := by
  rw [next?, if_pos digit]

theorem run?_fraction {characters : List Char} (isFraction : IsFraction characters) :
    ∃ spot, whole.run? characters = some spot ∧ (spot = whole ∨ spot = fraction) := by
  rcases isFraction with rfl | ⟨digits, rfl, row⟩
  · exact ⟨whole, rfl, Or.inl rfl⟩
  · refine ⟨fraction, ?_, Or.inr rfl⟩
    have opened : whole.next? '.' = some point := rfl
    rw [run?_cons, opened, Option.bind_some]
    refine run?_digits_from (fun character digit => ?_) (fun _ => fraction_next?) row
    rw [next?, if_pos digit]

theorem run?_power {spot : Spot} (before : spot = whole ∨ spot = fraction) {characters : List Char}
    (isPower : IsPower characters) :
    ∃ reached, spot.run? characters = some reached ∧ reached.isEnd = true := by
  rcases isPower with rfl | ⟨sign, digits, rfl, signed, row⟩
  · rcases before with rfl | rfl
    · exact ⟨whole, rfl, rfl⟩
    · exact ⟨fraction, rfl, rfl⟩
  · refine ⟨powerDigits, ?_, rfl⟩
    have opened : spot.next? 'e' = some power := by
      rcases before with rfl | rfl <;> rfl
    have behindSign : power.next? sign = some powerSign := by
      rcases signed with rfl | rfl <;> rfl
    rw [run?_cons, opened, Option.bind_some, run?_cons, behindSign, Option.bind_some]
    refine run?_digits_from (fun character digit => ?_) (fun character digit => ?_) row
    all_goals rw [next?, if_pos digit]

/-- A number is an operand, with a minus in front or without. -/
theorem isOperand_numeral {wholeDigits fractionDigits powerDigits : List Char}
    (numeral : IsNumeral wholeDigits fractionDigits powerDigits) (negative : Bool) :
    isOperand (signText negative ++ (wholeDigits ++ fractionDigits ++ powerDigits)) = true := by
  have begun {spot : Spot} (begins : ∀ character : Char, character.isDigit = true →
      spot.next? character = some whole) : ∃ reached,
      spot.run? (wholeDigits ++ fractionDigits ++ powerDigits) = some reached ∧
        reached.isEnd = true := by
    have early := run?_digits_from begins (fun _ => whole_next?) numeral.whole
    rcases run?_fraction numeral.fraction with ⟨middle, behindWhole, either⟩
    rcases run?_power either numeral.power with ⟨reached, behindFraction, ends⟩
    refine ⟨reached, ?_, ends⟩
    rw [List.append_assoc, run?_append early, run?_append behindWhole, behindFraction]
  have fromStart {character : Char} (digit : character.isDigit = true) :
      start.next? character = some whole := by
    rw [next?, if_neg (ne_of_isDigit digit rfl), if_neg (ne_of_isDigit digit rfl), begin?,
      if_pos digit]
  have fromSign {character : Char} (digit : character.isDigit = true) :
      Spot.sign.next? character = some whole := by
    rw [next?, begin?, if_pos digit]
  rw [isOperand_iff]
  cases negative with
  | false => exact begun fun _ => fromStart
  | true =>
      have signed : start.next? '-' = some .sign := rfl
      rw [signText, if_pos rfl, List.singleton_append, run?_cons, signed, Option.bind_some]
      exact begun fun _ => fromSign

theorem isOperand_int (number : Int) : isOperand (toString number).toList = true := by
  rcases toList_toString_int number with ⟨negative, digits, row, same⟩
  have numeral : IsNumeral digits [] [] := ⟨row, Or.inl rfl, Or.inl rfl⟩
  have operand := isOperand_numeral numeral negative
  rw [List.append_nil, List.append_nil, ← same] at operand
  exact operand

theorem isOperand_real (number : Binary64) : isOperand (number.text .script).toList = true := by
  cases number with
  | finite negative significand exponent =>
      rcases toList_text_finite .script negative significand exponent with
        ⟨whole, fraction, power, numeral, same⟩
      rw [same]
      exact isOperand_numeral numeral negative
  | infinite negative =>
      cases negative with
      | true => decide
      | false => decide
  | undefined => decide

/-! ## Quoted texts -/

/-- The escapes of a text without carriage returns leave the reader inside it. -/
theorem run?_escapeChar {character : Char} (noReturn : character ≠ '\r') (inBrackets : Bool) :
    (Spot.quoted inBrackets).run? (escapeChar character) = some (.quoted inBrackets) := by
  unfold escapeChar
  split
  · rfl
  split
  · rfl
  split
  · rfl
  · rename_i noBackslash noQuote noBreak
    have plain : isLineBreak character = false := by
      rw [isLineBreak, decide_eq_false noBreak, decide_eq_false noReturn, Bool.or_false]
    rw [run?_cons, next?, if_neg noQuote, if_neg noBackslash, plain, if_neg Bool.false_ne_true]
    rfl

theorem run?_escaped {characters : List Char} (noReturn : '\r' ∉ characters) (inBrackets : Bool) :
    (Spot.quoted inBrackets).run? (characters.flatMap escapeChar) = some (.quoted inBrackets) := by
  induction characters with
  | nil => rfl
  | cons character rest inductionHypothesis =>
      rw [List.mem_cons, not_or] at noReturn
      rw [List.flatMap_cons, run?_append (run?_escapeChar (Ne.symm noReturn.1) inBrackets),
        inductionHypothesis noReturn.2]

theorem run?_quoteChars {characters : List Char} (noReturn : '\r' ∉ characters) {spot : Spot}
    (inBrackets : Bool) (opens : spot.next? '\'' = some (.quoted inBrackets)) :
    spot.run? (quoteChars characters) = some (if inBrackets then .quotedName else .closed) := by
  rw [quoteChars_eq_flatMap, run?_cons, opens, Option.bind_some, run?_append (run?_escaped noReturn inBrackets)]
  rfl

theorem isOperand_quote {text : String} (noReturn : '\r' ∉ text.toList) :
    isOperand (quote text).toList = true := by
  rw [quote, String.toList_ofList, isOperand_iff]
  exact ⟨.closed, run?_quoteChars noReturn false rfl, rfl⟩

/-! ## Names and accesses -/

theorem basicLatin_of_isIdentifierPart {character : Char}
    (part : isIdentifierPart character = true) : character.toNat < 0x80 := by
  rw [isIdentifierPart, Bool.or_eq_true, Bool.or_eq_true, decide_eq_true_eq,
    decide_eq_true_eq] at part
  rcases part with (plain | rfl) | rfl
  · exact Text.basicLatin_of_isAlphanum plain
  · decide
  · decide

/-- The characters of identifiers are no white space, and a first one is no digit. -/
theorem isNamePart_of_isIdentifierPart {character : Char}
    (part : isIdentifierPart character = true) : isNamePart character = true := by
  have each : ∀ code < 0x80, isIdentifierPart (Char.ofNat code) = true →
      isNamePart (Char.ofNat code) = true := by
    decide
  exact Text.of_basicLatin (P := fun read => isIdentifierPart read = true →
    isNamePart read = true) each (basicLatin_of_isIdentifierPart part) part

theorem isNameStart_of_isIdentifierStart {character : Char}
    (first : isIdentifierStart character = true) : isNameStart character = true := by
  have each : ∀ code < 0x80, isIdentifierStart (Char.ofNat code) = true →
      isNameStart (Char.ofNat code) = true := by
    decide
  have part := isIdentifierPart_of_isIdentifierStart first
  exact Text.of_basicLatin (P := fun read => isIdentifierStart read = true →
    isNameStart read = true) each (basicLatin_of_isIdentifierPart part) first

/-- An operand to which an access can be added. -/
def IsAccessible (spot : Spot) : Prop :=
  spot = .name ∨ spot = .closed

theorem IsAccessible.isEnd {spot : Spot} (accessible : IsAccessible spot) :
    spot.isEnd = true := by
  rcases accessible with rfl | rfl <;> rfl

/-- A name without line breaks can be accessed behind an operand. -/
theorem run?_member {object property : String} {spot : Spot} (accessible : IsAccessible spot)
    (read : Spot.start.run? object.toList = some spot)
    (unbroken : ∀ character ∈ property.toList, isLineBreak character = false) :
    ∃ reached, Spot.start.run? (member object property).toList = some reached ∧
      IsAccessible reached := by
  unfold member
  split
  · rename_i bare
    have oneLine : isIdentifierLine property = false := by
      rw [isIdentifierLine, Bool.and_eq_false_iff]
      refine Or.inl (decide_eq_false fun broken => ?_)
      cases unbroken '\n' (List.mem_of_getLast? broken)
    have plain := isPlainIdentifier_of_isIdentifier bare oneLine
    have pointed : spot.next? '.' = some .dot := by
      rcases accessible with rfl | rfl <;> rfl
    have point : ".".toList = ['.'] := rfl
    refine ⟨.name, ?_, Or.inl rfl⟩
    rw [String.toList_append, String.toList_append, List.append_assoc, run?_append read,
      point, List.singleton_append, run?_cons, pointed, Option.bind_some]
    cases characters : property.toList with
    | nil =>
        rw [characters] at plain
        cases plain
    | cons first rest =>
        rw [characters, isPlainIdentifier, Bool.and_eq_true, List.all_eq_true] at plain
        have named : Spot.dot.next? first = some .name := by
          rw [next?, if_pos (isNameStart_of_isIdentifierStart plain.1)]
        rw [run?_cons, named, Option.bind_some]
        refine run?_of_stays fun character member => ?_
        rw [next?, if_pos (isNamePart_of_isIdentifierPart (plain.2 character member))]
  · have noReturn : '\r' ∉ property.toList := fun member => by cases unbroken '\r' member
    have bracketed : spot.next? '[' = some .bracket := by
      rcases accessible with rfl | rfl <;> rfl
    have bracket : "[".toList = ['['] := rfl
    refine ⟨.closed, ?_, Or.inr rfl⟩
    rw [String.toList_append, String.toList_append, String.toList_append, List.append_assoc,
      List.append_assoc, run?_append read, bracket, List.singleton_append, run?_cons, bracketed,
      Option.bind_some, quote, String.toList_ofList, run?_append (run?_quoteChars noReturn true rfl)]
    rfl

/-- The characters of a segment are characters of the path. -/
theorem mem_path_of_mem_segment {path segment : String} (listed : segment ∈ segments path)
    {character : Char} (member : character ∈ segment.toList) :
    character = '.' ∨ character ∈ path.toList := by
  rcases List.mem_map.mp listed with ⟨piece, isPiece, rfl⟩
  rw [String.toList_ofList] at member
  have inside : character ∈ (Text.piecesAt '.' path.toList).flatMap ('.' :: ·) :=
    List.mem_flatMap.mpr ⟨piece, isPiece, List.mem_cons_of_mem _ member⟩
  rw [flatMap_piecesAt] at inside
  exact List.mem_cons.mp inside

/-- An access along a path without line breaks is an operand. -/
theorem isOperand_memberPath {object path : String}
    (named : Spot.start.run? object.toList = some .name)
    (unbroken : ∀ character ∈ path.toList, isLineBreak character = false) :
    isOperand (memberPath object path).toList = true := by
  have properties : ∀ segment ∈ segments path, ∀ character ∈ segment.toList,
      isLineBreak character = false := by
    intro segment listed character member
    rcases mem_path_of_mem_segment listed member with rfl | inPath
    · rfl
    · exact unbroken character inPath
  suffices onward : ∀ (names : List String) (object : String) (spot : Spot), IsAccessible spot →
      Spot.start.run? object.toList = some spot →
      (∀ name ∈ names, ∀ character ∈ name.toList, isLineBreak character = false) →
      isOperand (names.foldl member object).toList = true from
    onward (segments path) object .name (Or.inl rfl) named properties
  intro names
  induction names with
  | nil =>
      intro object spot accessible read _
      exact isOperand_iff.mpr ⟨spot, read, accessible.isEnd⟩
  | cons name rest inductionHypothesis =>
      intro object spot accessible read unbroken
      rw [List.forall_mem_cons] at unbroken
      rcases run?_member accessible read unbroken.1 with ⟨reached, further, stillAccessible⟩
      exact inductionHypothesis _ reached stillAccessible further unbroken.2

end Script
end ComponentCompiler
