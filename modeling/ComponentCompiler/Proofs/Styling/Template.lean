import ComponentCompiler.Proofs.Entries
import ComponentCompiler.Styling.ClassName

namespace ComponentCompiler
namespace Styling

/-!
# Reading a template literal

A template literal is scanned from behind its opening mark.  A backslash takes the
next character as it is, the closing mark ends the literal, and a dollar sign before
a brace opens a substitution.  The escaped characters of a text are read as the text:
nothing in it ends the literal or opens a substitution.

The text is escaped by three replacements in a row.  The first two work on single
characters and bring nothing about that the next ones look for, since the backslash
that they write is neither a closing mark nor a part of what opens a substitution.
So the three come to one pass over the text.
-/

/-! ## Three replacements as one pass -/

section Replacements

variable {written : List Char}

theorem replaceAll_pair (first second : Char) (rest : List Char) :
    Text.replaceAll [first, second] written (first :: second :: rest) =
      written ++ Text.replaceAll [first, second] written rest := by
  simp [Text.replaceAll, Text.replaceFrom]

theorem replaceAll_pair_cons {first second character : Char} {rest : List Char}
    (absent : character = first → rest.head? ≠ some second) :
    Text.replaceAll [first, second] written (character :: rest) =
      character :: Text.replaceAll [first, second] written rest := by
  have noStart : ¬ [first, second].isPrefixOf (character :: rest) = true := by
    intro found
    rcases List.isPrefixOf_iff_prefix.mp found with ⟨behind, whole⟩
    cases whole
    exact absent rfl rfl
  rw [Text.replaceAll, Text.replaceFrom, if_neg noStart]
  rfl

end Replacements

/-- The characters of a text with those escaped that a template literal does not show. -/
def escapedChars : List Char → List Char
  | [] => []
  | '\\' :: rest => '\\' :: '\\' :: escapedChars rest
  | '\x60' :: rest => '\\' :: '\x60' :: escapedChars rest
  | '$' :: '\x7b' :: rest => '\\' :: '$' :: '\x7b' :: escapedChars rest
  | character :: rest => character :: escapedChars rest

/-- What the first two replacements write for a character. -/
def escapedMark (character : Char) : List Char :=
  if character = '\\' then ['\\', '\\'] else if character = '\x60' then ['\\', '\x60']
  else [character]

theorem replaceAll_marks (text : List Char) :
    Text.replaceAll ['\x60'] ['\\', '\x60'] (Text.replaceAll ['\\'] ['\\', '\\'] text) =
      text.flatMap escapedMark := by
  rw [Text.replaceAll_singleton, Text.replaceAll_singleton, List.flatMap_assoc]
  refine congrArg (List.flatMap · text) (funext fun character => ?_)
  by_cases escape : character = '\\'
  · subst escape
    rfl
  · rw [if_neg escape, List.flatMap_singleton, escapedMark, if_neg escape]

/-- A brace in front comes from the text, since all that is written starts with a backslash. -/
theorem head?_of_head?_escapedMarks {text : List Char}
    (brace : (text.flatMap escapedMark).head? = some '\x7b') : text.head? = some '\x7b' := by
  cases text with
  | nil => cases brace
  | cons character rest =>
      rw [List.flatMap_cons, escapedMark] at brace
      split at brace
      · cases brace
      · split at brace
        · cases brace
        · exact brace

theorem templateChars_eq_escapedChars (text : List Char) :
    templateChars text = escapedChars text := by
  rw [templateChars, replaceAll_marks]
  fun_induction escapedChars text with
  | case1 => rfl
  | case2 rest inductionHypothesis =>
      have twice : escapedMark '\\' = ['\\', '\\'] := rfl
      rw [List.flatMap_cons, twice, List.cons_append, List.singleton_append,
        replaceAll_pair_cons (fun dollar => absurd dollar (by decide)),
        replaceAll_pair_cons (fun dollar => absurd dollar (by decide)), inductionHypothesis]
  | case3 rest inductionHypothesis =>
      have escaped : escapedMark '\x60' = ['\\', '\x60'] := rfl
      rw [List.flatMap_cons, escaped, List.cons_append, List.singleton_append,
        replaceAll_pair_cons (fun dollar => absurd dollar (by decide)),
        replaceAll_pair_cons (fun dollar => absurd dollar (by decide)), inductionHypothesis]
  | case4 rest inductionHypothesis =>
      rw [List.flatMap_cons, List.flatMap_cons, ← inductionHypothesis]
      exact replaceAll_pair _ _ _
  | case5 character rest noEscape noEnd noOpening inductionHypothesis =>
      have itself : escapedMark character = [character] := by
        rw [escapedMark, if_neg fun same => noEscape same, if_neg fun same => noEnd same]
      rw [List.flatMap_cons, itself, List.singleton_append, ← inductionHypothesis]
      refine replaceAll_pair_cons fun dollar brace => ?_
      rcases List.head?_eq_some_iff.mp (head?_of_head?_escapedMarks brace) with ⟨behind, rfl⟩
      exact noOpening behind dollar rfl

/-! ## The scan -/

/-- Where the scan of a template literal stops, with the characters behind. -/
inductive TemplateStop where
  | closed (rest : List Char)
  | substitution (rest : List Char)
  | unfinished
deriving DecidableEq, Repr

/-- The characters that a template literal begins with, and where their scan stops. -/
def scanTemplate : List Char → List Char × TemplateStop
  | [] => ([], .unfinished)
  | ['\\'] => ([], .unfinished)
  | '\\' :: character :: rest => (scanTemplate rest).map (character :: ·) id
  | '\x60' :: rest => ([], .closed rest)
  | '$' :: '\x7b' :: rest => ([], .substitution rest)
  | character :: rest => (scanTemplate rest).map (character :: ·) id

theorem scanTemplate_escaped (character : Char) (rest : List Char) :
    scanTemplate ('\\' :: character :: rest) = (scanTemplate rest).map (character :: ·) id := by
  rw [scanTemplate]

/-- Any other character is read as it is, unless it is the dollar sign before a brace. -/
theorem scanTemplate_plain {character : Char} {rest : List Char} (noEscape : character ≠ '\\')
    (noEnd : character ≠ '\x60') (noOpening : character = '$' → rest.head? ≠ some '\x7b') :
    scanTemplate (character :: rest) = (scanTemplate rest).map (character :: ·) id := by
  rw [scanTemplate]
  · rintro rfl
    exact absurd rfl noEscape
  · rintro other others rfl
    exact absurd rfl noEscape
  · rintro rfl
    exact absurd rfl noEnd
  · rintro others rfl rfl
    exact absurd rfl (noOpening rfl)

/-- A brace at the front of the escaped characters comes from the text. -/
theorem head?_of_head?_escapedChars {characters : List Char}
    (brace : (escapedChars characters).head? = some '\x7b') : characters.head? = some '\x7b' := by
  fun_cases escapedChars characters <;> simp_all [escapedChars]

/-- The escaped characters of a text are read as the text, whatever comes behind, as
long as no brace does. -/
theorem scanTemplate_templateChars (characters : List Char) {rest : List Char}
    (apart : rest.head? ≠ some '\x7b') :
    scanTemplate (templateChars characters ++ rest) =
      (scanTemplate rest).map (characters ++ ·) id := by
  rw [templateChars_eq_escapedChars]
  fun_induction escapedChars characters with
  | case1 => rfl
  | case2 others inductionHypothesis =>
      rw [List.cons_append, List.cons_append, scanTemplate_escaped, inductionHypothesis]
      rfl
  | case3 others inductionHypothesis =>
      rw [List.cons_append, List.cons_append, scanTemplate_escaped, inductionHypothesis]
      rfl
  | case4 others inductionHypothesis =>
      rw [List.cons_append, List.cons_append, List.cons_append, scanTemplate_escaped,
        scanTemplate_plain (by decide) (by decide) (fun dollar => absurd dollar (by decide)),
        inductionHypothesis]
      rfl
  | case5 character others noEscape noEnd noOpening inductionHypothesis =>
      have untouched : character = '$' → (escapedChars others ++ rest).head? ≠ some '\x7b' := by
        intro dollar brace
        rw [List.head?_append] at brace
        cases front : (escapedChars others).head? with
        | none =>
            rw [front] at brace
            exact apart brace
        | some first =>
            rw [front] at brace
            have inText := head?_of_head?_escapedChars (front.trans brace)
            rcases List.head?_eq_some_iff.mp inText with ⟨behind, rfl⟩
            exact noOpening behind dollar rfl
      rw [List.cons_append, scanTemplate_plain (fun same => noEscape same)
        (fun same => noEnd same) untouched, inductionHypothesis]
      rfl

/-- The class that joins a text is a template literal that reads the text and a blank,
and then opens a substitution for the class that is added. -/
theorem exists_literal_of_joinedClass {content : String} (nonempty : content ≠ "")
    (added : String) :
    ∃ literal, (joinedClass (some (.text content)) added).toList = '\x60' :: literal ∧
      scanTemplate literal =
        (content.toList ++ [' '], .substitution (added.toList ++ ['\x7d', '\x60'])) := by
  refine ⟨templateChars content.toList ++
    ' ' :: '$' :: '\x7b' :: (added.toList ++ ['\x7d', '\x60']), ?_, ?_⟩
  · have someText : content.isEmpty = false := by
      rw [Bool.eq_false_iff]
      exact fun empty => nonempty (String.isEmpty_iff.mp empty)
    rw [joinedClass, someText]
    simp
  · rw [scanTemplate_templateChars _ (by simp), scanTemplate_plain (by decide) (by decide)
      (fun dollar => absurd dollar (by decide)), scanTemplate]
    rfl

/-- A class that is attached to an element with a text for its class makes a template literal of
both.  Scanned from behind its opening mark, the literal reads exactly the text and a blank; then
its first substitution opens, which is the class that is attached.  Nothing in the text ends the
literal or opens a substitution before that. -/
theorem attached_class_reads_behind_the_text {element : Element} {content : String}
    (given : element.attribute? "className" = some (.text content)) (nonempty : content ≠ "")
    (added : String) :
    ∃ code literal, (attachClass element added).attribute? "className" = some (.code code) ∧
      code.toList = '\x60' :: literal ∧
      scanTemplate literal =
        (content.toList ++ [' '], .substitution (added.toList ++ ['\x7d', '\x60'])) := by
  rcases exists_literal_of_joinedClass nonempty added with ⟨literal, opens, reads⟩
  refine ⟨joinedClass (some (.text content)) added, literal, ?_, opens, reads⟩
  rw [attachClass, given]
  exact Entries.lookUp?_put_self ..

/-- An element whose class tries to leave the literal: an escaped mark, a dollar sign before what
opens a substitution, and a dollar sign at the end. -/
def dollarElement : Element :=
  ⟨none, "p", [("className", .text "\\\x60$$\x7b\\$\x7bb$")], []⟩

theorem dollarElement_keeps_its_class :
    ∃ code literal,
      (attachClass dollarElement "styles.p").attribute? "className" = some (.code code) ∧
      code.toList = '\x60' :: literal ∧
      scanTemplate literal = ("\\\x60$$\x7b\\$\x7bb$".toList ++ [' '],
        .substitution ("styles.p".toList ++ ['\x7d', '\x60'])) :=
  attached_class_reads_behind_the_text rfl (by decide) "styles.p"

end Styling
end ComponentCompiler
