import ComponentCompiler.Proofs.Script.Token

namespace ComponentCompiler
namespace Script

/-!
# Reading one quoted text

A reader that is set at the opening quote of a literal takes the characters up to
the first quote that is not escaped, and stops behind it.  What a text is quoted as
is read as this text, and nothing behind it is touched.
-/

/-- The text up to the closing quote, and what stands behind the quote.  A character
behind a backslash is escaped. -/
def readInside (escaped : Bool) : List Char → Option (List Char × List Char)
  | [] => none
  | character :: rest =>
    if escaped then
      (unescape? character).bind fun meant =>
        (readInside false rest).map fun read => (meant :: read.1, read.2)
    else if character = '\'' then some ([], rest)
    else if character = '\\' then readInside true rest
    else (readInside false rest).map fun read => (character :: read.1, read.2)

/-- The text of the literal that the characters start with, and what stands behind it. -/
def readQuoted : List Char → Option (String × List Char)
  | [] => none
  | character :: rest =>
    if character = '\'' then
      (readInside false rest).map fun read => (String.ofList read.1, read.2)
    else none

theorem readInside_escapeChar (character : Char) (rest : List Char) :
    readInside false (escapeChar character ++ rest) =
      (readInside false rest).map fun read => (character :: read.1, read.2) := by
  rcases escapeChar_cases character with ⟨written, escaped, meant⟩ | ⟨plain, noQuote, noBackslash⟩
  · have opened : readInside false ('\\' :: written :: rest) = readInside true (written :: rest) := rfl
    rw [escaped, List.cons_append, List.singleton_append, opened, readInside, if_pos rfl, meant,
      Option.bind_some]
  · rw [plain, List.singleton_append, readInside, if_neg Bool.false_ne_true, if_neg noQuote,
      if_neg noBackslash]

theorem readInside_escaped (text rest : List Char) :
    readInside false (text.flatMap escapeChar ++ '\'' :: rest) = some (text, rest) := by
  induction text with
  | nil => rfl
  | cons character others inductionHypothesis =>
      rw [List.flatMap_cons, List.append_assoc, readInside_escapeChar, inductionHypothesis]
      rfl

/-- A quoted text is read as this text, whatever it holds and whatever stands behind it. -/
theorem readQuoted_quote (text : String) (rest : List Char) :
    readQuoted ((quote text).toList ++ rest) = some (text, rest) := by
  rw [quote, String.toList_ofList, quoteChars_eq_flatMap, List.cons_append, List.append_assoc,
    List.singleton_append, readQuoted, if_pos rfl, readInside_escaped, Option.map_some,
    String.ofList_toList]

/-! ## Progress -/

/-- Every character that is read takes at least one, and so does the closing quote. -/
theorem length_add_lt_of_readInside {escaped : Bool} {characters text rest : List Char}
    (read : readInside escaped characters = some (text, rest)) :
    text.length + rest.length < characters.length := by
  induction characters generalizing escaped text rest with
  | nil => cases read
  | cons character others inductionHypothesis =>
      rw [readInside] at read
      rw [List.length_cons]
      split at read
      · rcases Option.bind_eq_some_iff.mp read with ⟨meant, _, mapped⟩
        rcases Option.map_eq_some_iff.mp mapped with ⟨later, further, same⟩
        cases same
        have shorter := inductionHypothesis further
        rw [List.length_cons]
        omega
      split at read
      · cases read
        rw [List.length_nil]
        omega
      split at read
      · have shorter := inductionHypothesis read
        omega
      · rcases Option.map_eq_some_iff.mp read with ⟨later, further, same⟩
        cases same
        have shorter := inductionHypothesis further
        rw [List.length_cons]
        omega

/-- Reading a quoted text takes at least its quotes. -/
theorem length_lt_of_readQuoted {characters rest : List Char} {text : String}
    (read : readQuoted characters = some (text, rest)) : rest.length < characters.length := by
  cases characters with
  | nil => cases read
  | cons character others =>
      rw [readQuoted] at read
      split at read
      · rcases Option.map_eq_some_iff.mp read with ⟨later, further, same⟩
        cases same
        have shorter := length_add_lt_of_readInside further
        rw [List.length_cons]
        omega
      · cases read

/-- What is read as itself, with no more left than the closing quote leaves, has neither
quotes nor escapes in it. -/
theorem unescaped_of_readInside {text ending rest : List Char}
    (read : readInside false (text ++ ending) = some (text, rest))
    (left : ending.length ≤ rest.length + 1) :
    ∀ character ∈ text, character ≠ '\'' ∧ character ≠ '\\' := by
  induction text with
  | nil => exact fun character member => absurd member List.not_mem_nil
  | cons first others inductionHypothesis =>
      rw [List.cons_append, readInside, if_neg Bool.false_ne_true] at read
      split at read
      · cases read
      rename_i noQuote
      split at read
      · -- the escape is one character more than what is read
        have lengths := length_add_lt_of_readInside read
        rw [List.length_cons, List.length_append] at lengths
        omega
      rename_i noBackslash
      rcases Option.map_eq_some_iff.mp read with ⟨⟨later, behind⟩, further, same⟩
      cases same
      exact List.forall_mem_cons.mpr ⟨⟨noQuote, noBackslash⟩, inductionHypothesis further⟩

end Script
end ComponentCompiler
