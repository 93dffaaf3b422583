namespace ComponentCompiler
namespace Text

/-!
# Finding text in text

Whether a text starts, ends or occurs anywhere in another one, and a text with
something else in the place of what occurs in it.
-/

/-- Whether the first text is the start of the second. -/
def isStartOf (start text : String) : Bool :=
  start.toList.isPrefixOf text.toList

/-- Whether the first text is the end of the second. -/
def isEndOf (ending text : String) : Bool :=
  ending.toList.isSuffixOf text.toList

/-- Whether characters occur in others, one after another. -/
def occursInChars (part : List Char) : List Char → Bool
  | [] => part.isEmpty
  | character :: rest => part.isPrefixOf (character :: rest) || occursInChars part rest

/-- Whether the first text occurs in the second. -/
def occursIn (part text : String) : Bool :=
  occursInChars part.toList text.toList

/-- Characters with every occurrence of others replaced.  The search goes from left
to right and on behind what it finds; of the last occurrence so many characters are
still to be passed over. -/
def replaceFrom (part written : List Char) : Nat → List Char → List Char
  | _, [] => []
  | passed + 1, _ :: rest => replaceFrom part written passed rest
  | 0, character :: rest =>
    if part.isPrefixOf (character :: rest) then
      written ++ replaceFrom part written (part.length - 1) rest
    else character :: replaceFrom part written 0 rest

/-- Characters with every occurrence of others replaced, from left to right. -/
def replaceAll (part written text : List Char) : List Char :=
  replaceFrom part written 0 text

/-- Replacing a single character is a matter of each character alone. -/
theorem replaceAll_singleton (mark : Char) (written text : List Char) :
    replaceAll [mark] written text =
      text.flatMap fun character => if character = mark then written else [character] := by
  unfold replaceAll
  induction text with
  | nil => rfl
  | cons character rest inductionHypothesis =>
      rw [replaceFrom, List.flatMap_cons, ← inductionHypothesis]
      by_cases same : character = mark
      · simp [same]
      · simp [same, Ne.symm same]

end Text
end ComponentCompiler
