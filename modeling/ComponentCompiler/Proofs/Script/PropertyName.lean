import ComponentCompiler.Proofs.Outcome
import ComponentCompiler.Proofs.Script.Operand

namespace ComponentCompiler
namespace Script

/-!
# The property that a name stands for

In a script a property is named by a bare word or by a quoted text.  White space and
line ends around either are no part of the name.  Inside quotes a line feed or a
carriage return may only stand as an escape, since it ends the line and the literal is
not closed yet; the other line ends of scripts may stand there.

A key is written bare when it is an identifier, and also when one line feed follows the
identifier.  The line feed is then white space behind the word, so such a key stands for
the property without it.  And a carriage return is not escaped, so a key that holds one
is no name at all.  All other keys stand for themselves.
-/

/-! ## Reading names -/

/-- The characters behind leading white space. -/
def skipSpace (characters : List Char) : List Char :=
  characters.dropWhile isWhiteSpace

/-- The bare name that the characters start with, and what stands behind it. -/
def readWord (characters : List Char) : Option (String × List Char) :=
  if isPlainIdentifier (characters.takeWhile isIdentifierPart) then
    some (String.ofList (characters.takeWhile isIdentifierPart),
      characters.dropWhile isIdentifierPart)
  else none

/-- The text of the literal that the characters start with, and what stands behind it.  A
literal does not go beyond its line. -/
def readLine (characters : List Char) : Option (String × List Char) :=
  (readQuoted characters).bind fun read =>
    if (characters.take (characters.length - read.2.length)).any isLineBreak then none
    else some read

/-- The name that the characters start with, bare or quoted. -/
def readName (characters : List Char) : Option (String × List Char) :=
  if characters.head? = some '\'' then readLine characters else readWord characters

/-- What stands behind a mark that has to come next. -/
def readMark (mark : Char) (read : String × List Char) : Option (String × List Char) :=
  if (skipSpace read.2).head? = some mark then some (read.1, (skipSpace read.2).tail) else none

/-- The name of the entry that the characters start with, and what stands behind its
colon. -/
def readKey (characters : List Char) : Option (String × List Char) :=
  (readName (skipSpace characters)).bind (readMark ':')

/-- The name of the property that is accessed where the characters start, behind a dot or
in brackets, and what stands behind the access. -/
def readProperty (characters : List Char) : Option (String × List Char) :=
  if (skipSpace characters).head? = some '.' then
    readWord (skipSpace (skipSpace characters).tail)
  else if (skipSpace characters).head? = some '[' then
    (readLine (skipSpace (skipSpace characters).tail)).bind (readMark ']')
  else none

theorem skipSpace_cons {character : Char} (noSpace : isWhiteSpace character = false)
    (rest : List Char) : skipSpace (character :: rest) = character :: rest :=
  List.dropWhile_cons_of_neg (Bool.eq_false_iff.mp noSpace)

theorem skipSpace_append {blanks : List Char}
    (spaces : ∀ character ∈ blanks, isWhiteSpace character = true) (rest : List Char) :
    skipSpace (blanks ++ rest) = skipSpace rest :=
  List.dropWhile_append_of_pos spaces

theorem readMark_cons {mark : Char} (noSpace : isWhiteSpace mark = false) (name : String)
    (rest : List Char) : readMark mark (name, mark :: rest) = some (name, rest) := by
  unfold readMark
  simp only [skipSpace_cons noSpace, List.head?_cons, if_true, List.tail_cons]

/-! ## Words -/

theorem isWhiteSpace_eq_false {character : Char} (part : isIdentifierPart character = true) :
    isWhiteSpace character = false := by
  have named := isNamePart_of_isIdentifierPart part
  rw [isNamePart, Bool.and_eq_true, Bool.not_eq_true'] at named
  exact named.1

/-- An identifier is read up to what stands apart from it. -/
theorem readWord_append {word rest : List Char} (plain : isPlainIdentifier word = true)
    (apart : Apart rest) : readWord (word ++ rest) = some (String.ofList word, rest) := by
  have parts := List.all_eq_true.mp (parts_of_isPlainIdentifier plain).2
  rw [readWord, takeWhile_append_of_apart parts apart, dropWhile_append_of_apart parts apart,
    if_pos plain]

/-- An identifier begins with no white space. -/
theorem skipSpace_identifier {word : List Char} (plain : isPlainIdentifier word = true)
    (rest : List Char) : skipSpace (word ++ rest) = word ++ rest := by
  cases word with
  | nil => cases plain
  | cons first others =>
      have parts := List.all_eq_true.mp (parts_of_isPlainIdentifier plain).2
      exact skipSpace_cons (isWhiteSpace_eq_false (parts first List.mem_cons_self)) _

theorem readName_identifier {word rest : List Char} (plain : isPlainIdentifier word = true)
    (apart : Apart rest) : readName (word ++ rest) = some (String.ofList word, rest) := by
  have noQuote : (word ++ rest).head? ≠ some '\'' := by
    cases word with
    | nil => cases plain
    | cons first others =>
        intro quoted
        cases quoted
        cases plain
  rw [readName, if_neg noQuote, readWord_append plain apart]

/-- Bare is what is an identifier, with one line feed behind it or without. -/
theorem isIdentifier_iff {name : String} :
    isIdentifier name = true ↔ isPlainIdentifier name.toList = true ∨ isIdentifierLine name = true := by
  unfold isIdentifier withoutFinalBreak isIdentifierLine
  split
  · rename_i broken
    have notPlain : isPlainIdentifier name.toList ≠ true := by
      intro plain
      have part := List.all_eq_true.mp (parts_of_isPlainIdentifier plain).2 '\n'
        (List.mem_of_getLast? broken)
      cases part
    rw [decide_eq_true broken, Bool.true_and]
    exact ⟨Or.inr, fun either => either.resolve_left notPlain⟩
  · rename_i unbroken
    rw [decide_eq_false unbroken, Bool.false_and]
    exact ⟨Or.inl, fun either => either.resolve_right Bool.false_ne_true⟩

theorem exists_word_of_isIdentifierLine {name : String} (line : isIdentifierLine name = true) :
    ∃ word, isPlainIdentifier word = true ∧ name.toList = word ++ ['\n'] := by
  rw [isIdentifierLine, Bool.and_eq_true, decide_eq_true_eq] at line
  rcases List.getLast?_eq_some_iff.mp line.1 with ⟨word, spelled⟩
  refine ⟨word, ?_, spelled⟩
  rw [spelled, List.dropLast_concat] at line
  exact line.2

/-! ## Quoted texts -/

/-- A quoted text is in one line when it has no carriage return. -/
theorem any_isLineBreak_quoteChars (characters : List Char) :
    (quoteChars characters).any isLineBreak = decide ('\r' ∈ characters) := by
  have each (character : Char) :
      (escapeChar character).any isLineBreak = decide (character = '\r') := by
    by_cases escaped : character = '\\' ∨ character = '\'' ∨ character = '\n'
    · rcases escaped with rfl | rfl | rfl
      all_goals decide
    · rw [not_or, not_or] at escaped
      simp [escapeChar, isLineBreak, escaped]
  have inside : (characters.flatMap escapeChar).any isLineBreak = decide ('\r' ∈ characters) := by
    induction characters with
    | nil => rfl
    | cons character rest inductionHypothesis =>
        rw [List.flatMap_cons, List.any_append, inductionHypothesis, each]
        simp [eq_comm]
  have quoteMark : isLineBreak '\'' = false := by decide
  simp [quoteChars_eq_flatMap, quoteMark, inside]

theorem readLine_quote (text : String) (rest : List Char) :
    readLine ((quote text).toList ++ rest) =
      if '\r' ∈ text.toList then none else some (text, rest) := by
  have consumed : ((quote text).toList ++ rest).take
      (((quote text).toList ++ rest).length - rest.length) = (quote text).toList := by
    rw [List.length_append, Nat.add_sub_cancel, List.take_left]
  rw [readLine, readQuoted_quote, Option.bind_some, consumed, quote, String.toList_ofList,
    any_isLineBreak_quoteChars]
  simp only [decide_eq_true_eq]

theorem exists_quote_eq_cons (text : String) :
    ∃ others, (quote text).toList = '\'' :: others := by
  rw [quote, String.toList_ofList]
  exact ⟨_, rfl⟩

theorem skipSpace_quote (text : String) (rest : List Char) :
    skipSpace ((quote text).toList ++ rest) = (quote text).toList ++ rest := by
  rcases exists_quote_eq_cons text with ⟨others, spelled⟩
  rw [spelled]
  exact skipSpace_cons (by decide) _

theorem readName_quote (text : String) (rest : List Char) :
    readName ((quote text).toList ++ rest) =
      if '\r' ∈ text.toList then none else some (text, rest) := by
  rw [← readLine_quote, readName, if_pos]
  rcases exists_quote_eq_cons text with ⟨others, spelled⟩
  rw [spelled]
  rfl

/-! ## What a key stands for -/

/-- The property that a key stands for, when it stands for one. -/
def denotedName (key : String) : Option String :=
  if isIdentifierLine key then some (String.ofList key.toList.dropLast)
  else if '\r' ∈ key.toList then none
  else some key

theorem denotedName_of_plain {key : String} (plain : isPlainIdentifier key.toList = true) :
    denotedName key = some key := by
  have parts := List.all_eq_true.mp (parts_of_isPlainIdentifier plain).2
  have oneLine : isIdentifierLine key = false := by
    rw [isIdentifierLine, Bool.and_eq_false_iff]
    refine Or.inl (decide_eq_false fun broken => ?_)
    cases parts '\n' (List.mem_of_getLast? broken)
  have noReturn : '\r' ∉ key.toList := by
    intro member
    cases parts '\r' member
  rw [denotedName, oneLine, if_neg Bool.false_ne_true, if_neg noReturn]

theorem denotedName_of_line {key : String} {word : List Char} (line : isIdentifierLine key = true)
    (spelled : key.toList = word ++ ['\n']) : denotedName key = some (String.ofList word) := by
  rw [denotedName, if_pos line, spelled, List.dropLast_concat]

theorem denotedName_of_quoted {key : String} (quoted : ¬ isIdentifier key = true) :
    denotedName key = if '\r' ∈ key.toList then none else some key := by
  rw [isIdentifier_iff, not_or] at quoted
  rw [denotedName, if_neg quoted.2]

/-- A key of an object literal is read as the name that it stands for. -/
theorem readKey_objectKey (key : String) (rest : List Char) :
    readKey ((objectKey key).toList ++ ':' :: rest) = (denotedName key).map (·, rest) := by
  have colon : isWhiteSpace ':' = false := by decide
  unfold objectKey readKey
  split
  · rename_i bare
    rcases isIdentifier_iff.mp bare with plain | line
    · rw [skipSpace_identifier plain, readName_identifier plain (apart_cons (by decide) _),
        Option.bind_some, readMark_cons colon, denotedName_of_plain plain, String.ofList_toList]
      rfl
    · rcases exists_word_of_isIdentifierLine line with ⟨word, plain, spelled⟩
      have skipped : readMark ':' (String.ofList word, '\n' :: ':' :: rest) =
          some (String.ofList word, rest) := readMark_cons colon _ rest
      rw [denotedName_of_line line spelled, spelled, List.append_assoc, List.singleton_append,
        skipSpace_identifier plain, readName_identifier plain (apart_cons (by decide) _),
        Option.bind_some, skipped]
      rfl
  · rename_i quoted
    rw [skipSpace_quote, readName_quote, denotedName_of_quoted quoted]
    split
    · rfl
    · rw [Option.bind_some, readMark_cons colon]
      rfl

/-- An access behind an object is read as an access to the name that the key stands for. -/
theorem readProperty_accessChars (key : String) {rest : List Char} (apart : Apart rest) :
    (readProperty (accessChars key ++ rest)).map Prod.fst = denotedName key := by
  have point : isWhiteSpace '.' = false := by decide
  have bracket : isWhiteSpace '[' = false := by decide
  unfold accessChars readProperty
  split
  · rename_i bare
    rw [List.cons_append, skipSpace_cons point, List.head?_cons, if_pos rfl, List.tail_cons]
    rcases isIdentifier_iff.mp bare with plain | line
    · rw [skipSpace_identifier plain, readWord_append plain apart, denotedName_of_plain plain,
        String.ofList_toList]
      rfl
    · rcases exists_word_of_isIdentifierLine line with ⟨word, plain, spelled⟩
      rw [denotedName_of_line line spelled, spelled, List.append_assoc, List.singleton_append,
        skipSpace_identifier plain, readWord_append plain (apart_cons (by decide) _)]
      rfl
  · rename_i quoted
    have noPoint : some '[' ≠ some '.' := by decide
    rw [List.cons_append, skipSpace_cons bracket, List.head?_cons, if_neg noPoint, if_pos rfl,
      List.tail_cons, List.append_assoc, skipSpace_quote, readLine_quote,
      denotedName_of_quoted quoted]
    split
    · rfl
    · rw [Option.bind_some, List.singleton_append, readMark_cons (by decide)]
      rfl

/-- A key stands for itself, or for the identifier in front of its line feed. -/
theorem denotedName_eq_some_iff {key name : String} :
    denotedName key = some name ↔
      (key = name ∧ isIdentifierLine key = false ∧ '\r' ∉ key.toList) ∨
        (isPlainIdentifier name.toList = true ∧ key = name ++ "\n") := by
  have broken : (name ++ "\n").toList = name.toList ++ ['\n'] := String.toList_append
  cases line : isIdentifierLine key with
  | true =>
      rcases exists_word_of_isIdentifierLine line with ⟨word, plain, spelled⟩
      rw [denotedName_of_line line spelled, Option.some.injEq]
      constructor
      · rintro rfl
        refine Or.inr ⟨by rw [String.toList_ofList]; exact plain, String.toList_inj.mp ?_⟩
        rw [broken, spelled, String.toList_ofList]
      · rintro (⟨_, impossible, _⟩ | ⟨_, rfl⟩)
        · cases impossible
        · rw [broken] at spelled
          rw [← List.append_cancel_right spelled, String.ofList_toList]
  | false =>
      have noLine : ¬ (isPlainIdentifier name.toList = true ∧ key = name ++ "\n") := by
        rintro ⟨plain, rfl⟩
        rw [isIdentifierLine, broken, List.getLast?_concat, List.dropLast_concat, plain] at line
        cases line
      rw [denotedName, line, if_neg Bool.false_ne_true]
      by_cases returns : '\r' ∈ key.toList
      · rw [if_pos returns]
        simp only [reduceCtorEq, returns, not_true_eq_false, and_false, false_or]
        exact ⟨False.elim, noLine⟩
      · rw [if_neg returns, Option.some.injEq]
        exact ⟨fun same => Or.inl ⟨same, rfl, returns⟩, fun either => (either.resolve_right noLine).1⟩

theorem ne_append_break (name : String) : name ≠ name ++ "\n" := by
  intro same
  have lengths := congrArg String.length same
  rw [String.length_append] at lengths
  have one : "\n".length = 1 := by decide
  omega

theorem denotedName_eq_self_iff {key : String} :
    denotedName key = some key ↔ isIdentifierLine key = false ∧ '\r' ∉ key.toList := by
  rw [denotedName_eq_some_iff]
  constructor
  · rintro (⟨_, legible⟩ | ⟨_, same⟩)
    · exact legible
    · exact absurd same (ne_append_break key)
  · exact fun legible => Or.inl ⟨rfl, legible⟩

/-- Two keys stand for one property only when they differ in the line feed behind an
identifier. -/
theorem denotedName_collides_iff {first second : String} (different : first ≠ second) :
    (∃ name, denotedName first = some name ∧ denotedName second = some name) ↔
      (isPlainIdentifier first.toList = true ∧ second = first ++ "\n") ∨
        (isPlainIdentifier second.toList = true ∧ first = second ++ "\n") := by
  simp only [denotedName_eq_some_iff]
  constructor
  · rintro ⟨name, ⟨rfl, _⟩ | ⟨plain, rfl⟩, ⟨rfl, _⟩ | ⟨otherPlain, rfl⟩⟩
    · exact absurd rfl different
    · exact Or.inl ⟨otherPlain, rfl⟩
    · exact Or.inr ⟨plain, rfl⟩
    · exact absurd rfl different
  · rintro (⟨plain, rfl⟩ | ⟨plain, rfl⟩)
    · exact ⟨first, denotedName_eq_some_iff.mp (denotedName_of_plain plain), Or.inr ⟨plain, rfl⟩⟩
    · exact ⟨second, Or.inr ⟨plain, rfl⟩, denotedName_eq_some_iff.mp (denotedName_of_plain plain)⟩

/-! ## The entries of a map -/

/-- The property that an entry of a written map is for. -/
def entryName (entry : String) : Option String :=
  (readKey entry.toList).map Prod.fst

/-- The property that an entry of a map stands for. -/
def denotedEntry (entry : Key × Value) : Option String :=
  match entry.1 with
  | .text name => denotedName name
  | _ => none

theorem entryName_entry {blanks : String}
    (spaces : ∀ character ∈ blanks.toList, isWhiteSpace character = true) (key behind : String) :
    entryName (blanks ++ objectKey key ++ ": " ++ behind) = denotedName key := by
  have colon : ": ".toList = [':', ' '] := rfl
  have spelled : (blanks ++ objectKey key ++ ": " ++ behind).toList =
      blanks.toList ++ ((objectKey key).toList ++ ':' :: ' ' :: behind.toList) := by
    rw [String.toList_append, String.toList_append, String.toList_append, colon]
    simp only [List.append_assoc, List.cons_append, List.nil_append]
  have skipped : readKey (blanks.toList ++ ((objectKey key).toList ++ ':' :: ' ' :: behind.toList)) =
      readKey ((objectKey key).toList ++ ':' :: ' ' :: behind.toList) := by
    unfold readKey
    rw [skipSpace_append spaces]
  rw [entryName, spelled, skipped, readKey_objectKey]
  cases denotedName key <;> rfl

theorem isWhiteSpace_of_mem_padding {level : Int} {character : Char}
    (member : character ∈ (Text.padding level).toList) : isWhiteSpace character = true := by
  rw [Text.mem_padding member]
  decide

/-- The lines of a block are for the properties that its keys stand for. -/
theorem map_entryName_blockEntries {level : Int} {entries : List (Key × Value)}
    {lines : List String} (written : blockEntries level entries = .ok lines) :
    lines.map entryName = entries.map denotedEntry := by
  induction entries generalizing lines with
  | nil =>
      cases written
      rfl
  | cons entry rest inductionHypothesis =>
      rcases entry with ⟨key, value⟩
      rw [blockEntries] at written
      cases key with
      | text name =>
          rcases bind_eq_ok_iff.mp written with ⟨property, named, onward⟩
          cases named
          rcases bind_eq_ok_iff.mp onward with ⟨text, _, onward⟩
          rcases bind_eq_ok_iff.mp onward with ⟨others, later, last⟩
          cases last
          rw [List.map_cons, List.map_cons, inductionHypothesis later, String.append_assoc,
            entryName_entry fun _ => isWhiteSpace_of_mem_padding]
          rfl
      | _ => cases written

/-- In one line the entries are for the same properties. -/
theorem map_entryName_inlineEntries {entries : List (Key × Value)} {texts : List String}
    (written : inlineEntries entries = .ok texts) :
    texts.map entryName = entries.map denotedEntry := by
  induction entries generalizing texts with
  | nil =>
      cases written
      rfl
  | cons entry rest inductionHypothesis =>
      rcases entry with ⟨key, value⟩
      rw [inlineEntries] at written
      cases key with
      | text name =>
          rcases bind_eq_ok_iff.mp written with ⟨property, named, onward⟩
          cases named
          rcases bind_eq_ok_iff.mp onward with ⟨text, _, onward⟩
          rcases bind_eq_ok_iff.mp onward with ⟨others, later, last⟩
          cases last
          have unpadded : ∀ character ∈ "".toList, isWhiteSpace character = true :=
            fun character member => absurd member List.not_mem_nil
          have read := entryName_entry unpadded name text
          rw [String.empty_append] at read
          rw [List.map_cons, List.map_cons, inductionHypothesis later, read]
          rfl
      | _ => cases written

theorem quote_ne (text : String) : quote text ≠ text := by
  intro same
  have longer : ∀ characters : List Char,
      characters.length ≤ (characters.flatMap escapeChar).length := by
    intro characters
    induction characters with
    | nil => exact Nat.le_refl 0
    | cons character rest inductionHypothesis =>
        rw [List.flatMap_cons, List.length_append, List.length_cons]
        rcases escapeChar_cases character with ⟨written, escaped, _⟩ | ⟨plain, _⟩
        · rw [escaped, List.length_cons]
          omega
        · rw [plain, List.length_singleton]
          omega
  have lengths := congrArg (fun spelled : String => spelled.toList.length) same
  simp only [quote, String.toList_ofList, quoteChars_eq_flatMap, List.length_cons, List.length_append,
    List.length_nil] at lengths
  have inside := longer text.toList
  omega

theorem objectKey_eq_self_iff {key : String} :
    objectKey key = key ↔ isPlainIdentifier key.toList = true ∨ isIdentifierLine key = true := by
  rw [← isIdentifier_iff]
  unfold objectKey
  split
  · rename_i bare
    exact ⟨fun _ => bare, fun _ => rfl⟩
  · rename_i quoted
    exact ⟨fun same => absurd same (quote_ne key), fun bare => absurd bare quoted⟩

theorem head?_accessChars_iff {key : String} :
    (accessChars key).head? = some '.' ↔
      isPlainIdentifier key.toList = true ∨ isIdentifierLine key = true := by
  rw [← isIdentifier_iff]
  unfold accessChars
  split
  · rename_i bare
    exact ⟨fun _ => bare, fun _ => rfl⟩
  · rename_i quoted
    refine ⟨fun pointed => ?_, fun bare => absurd bare quoted⟩
    cases pointed

/-- A key of an object literal and an access to a property are read as the name that the
key stands for.  This is the key itself, except for an identifier with one line feed
behind it and for a key with a carriage return.  The first is written bare, as identifiers
are, and stands for the identifier; the second stands for nothing.  So two keys of a map,
in one line or in a block, are for one property exactly when they differ in the line feed
behind an identifier. -/
theorem property_names_denote_keys_iff (object key : String) :
    (∀ rest, readKey ((objectKey key).toList ++ ':' :: rest) = (denotedName key).map (·, rest)) ∧
    (∃ access, member object key = object ++ access ∧
      (∀ rest, Apart rest →
        (readProperty (access.toList ++ rest)).map Prod.fst = denotedName key) ∧
      (access.toList.head? = some '.' ↔
        isPlainIdentifier key.toList = true ∨ isIdentifierLine key = true)) ∧
    (objectKey key = key ↔ isPlainIdentifier key.toList = true ∨ isIdentifierLine key = true) ∧
    (denotedName key = some key ↔ isIdentifierLine key = false ∧ '\r' ∉ key.toList) ∧
    (∀ other, key ≠ other →
      ((∃ name, denotedName key = some name ∧ denotedName other = some name) ↔
        (isPlainIdentifier key.toList = true ∧ other = key ++ "\n") ∨
          (isPlainIdentifier other.toList = true ∧ key = other ++ "\n"))) ∧
    ∀ level entries texts, blockEntries level entries = .ok texts ∨
        inlineEntries entries = .ok texts →
      texts.map entryName = entries.map denotedEntry := by
  refine ⟨readKey_objectKey key, ?_, objectKey_eq_self_iff, denotedName_eq_self_iff,
    fun _ => denotedName_collides_iff, ?_⟩
  · refine ⟨String.ofList (accessChars key), String.toList_inj.mp ?_, ?_⟩
    · rw [toList_member, String.toList_append, String.toList_ofList]
    · rw [String.toList_ofList]
      exact ⟨fun rest apart => readProperty_accessChars key apart, head?_accessChars_iff⟩
  · rintro level entries texts (block | inline)
    · exact map_entryName_blockEntries block
    · exact map_entryName_inlineEntries inline

/-- Two keys of a map that differ in a line feed are for one property. -/
theorem broken_key_collides :
    objectKey "a\n" = "a\n" ∧ denotedName "a\n" ≠ some "a\n" ∧
      ∃ lines, blockEntries 1 [(.text "a", .null), (.text "a\n", .null)] = .ok lines ∧
        lines.map entryName = [some "a", some "a"] := by
  obtain ⟨_, _, bare, itself, _, read⟩ := property_names_denote_keys_iff "props" "a\n"
  obtain ⟨lines, written⟩ : ∃ lines,
      blockEntries 1 [(.text "a", .null), (.text "a\n", .null)] = .ok lines := ⟨_, rfl⟩
  refine ⟨bare.mpr (by decide), fun same => ?_, lines, written, ?_⟩
  · exact absurd (itself.mp same).1 (by decide)
  · exact (read 1 _ lines (Or.inl written)).trans (by decide)

end Script
end ComponentCompiler
