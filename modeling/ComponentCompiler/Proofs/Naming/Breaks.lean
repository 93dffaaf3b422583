import ComponentCompiler.Proofs.Naming.Boundaries
import ComponentCompiler.Proofs.Text.Casing
import Mathlib.Data.List.Chain

namespace ComponentCompiler
namespace Naming

open Text

/-!
# The breaks that inner capitals show

The spelling with inner capitals drops the breaks between words and shows a break
by the capital behind it.  A break in front of a digit, or of any character without
a capital form, is not shown.  The words with the shown breaks give the spelling,
and they can be read from it when the name is made of small letters and the
capitals at its breaks have them as small forms.

A name that has inner capitals itself, and no two of them in a row, has a break in front
of each of them when it is dashed.  All these breaks are shown, so the name comes back.
-/

/-- A word behind the first, with a dash in front when its capital form shows the
break. -/
def shownWord (word : List Char) : List Char :=
  if capitalise word = word then word else '-' :: word

/-- The words of a name in a row, with a dash at each break that inner capitals
show. -/
def shownBreaks (name : List Char) : List Char :=
  match words name with
  | [] => []
  | first :: others => first ++ others.flatMap shownWord

/-- The break in front of a character can be read from the capital form: there is
none, or the character is its small form. -/
def IsLegible (character : Char) : Prop :=
  upperChar character = [character] ∨
    ∃ capital, upperChar character = [capital] ∧ lowerChar capital = [character]

/-- All breaks of a name can be read from the capitals behind them. -/
def LegibleBreaks (name : List Char) : Prop :=
  ∀ word ∈ (words name).tail, ∀ character ∈ word.head?, IsLegible character

theorem isLegible_of_basicLatin {character : Char} (basic : character.toNat < 0x80) :
    IsLegible character := by
  have each : ∀ code < 0x80, upperChar (Char.ofNat code) = [Char.ofNat code] ∨
      upperChar (Char.ofNat code) = [(Char.ofNat code).toUpper] ∧
        lowerChar (Char.ofNat code).toUpper = [Char.ofNat code] := by
    decide
  rcases of_basicLatin (P := fun read => upperChar read = [read] ∨
      upperChar read = [read.toUpper] ∧ lowerChar read.toUpper = [read]) each basic with same | moved
  · exact Or.inl same
  · exact Or.inr ⟨_, moved⟩

/-! ## Words -/

/-- The words of a name are not empty and hold its characters without the breaks. -/
theorem of_mem_wordsFrom {collected rest word : List Char} (member : word ∈ wordsFrom collected rest)
    (unbroken : ∀ character ∈ collected, isWordBreak character = false) :
    word ≠ [] ∧ ∀ character ∈ word, isWordBreak character = false ∧ character ∈ collected ++ rest := by
  induction rest generalizing collected with
  | nil =>
      rw [wordsFrom] at member
      split at member
      · cases member
      · rename_i nonempty
        rw [List.mem_singleton.mp member, List.append_nil]
        exact ⟨fun empty => nonempty (List.isEmpty_iff.mpr empty),
          fun character inside => ⟨unbroken character inside, inside⟩⟩
  | cons next rest inductionHypothesis =>
      rw [wordsFrom] at member
      have onward (later : word ∈ wordsFrom [] rest) : word ≠ [] ∧ ∀ character ∈ word,
          isWordBreak character = false ∧ character ∈ collected ++ next :: rest := by
        rcases inductionHypothesis later fun _ impossible => absurd impossible List.not_mem_nil with
          ⟨nonempty, inside⟩
        refine ⟨nonempty, fun character listed => ⟨(inside character listed).1, ?_⟩⟩
        exact List.mem_append_right _ (List.mem_cons_of_mem _ (inside character listed).2)
      split at member
      · split at member
        · exact onward member
        · rename_i nonempty
          rcases List.mem_cons.mp member with rfl | later
          · exact ⟨fun empty => nonempty (List.isEmpty_iff.mpr empty), fun character inside =>
              ⟨unbroken character inside, List.mem_append_left _ inside⟩⟩
          · exact onward later
      · rename_i joins
        have longer : ∀ character ∈ collected ++ [next], isWordBreak character = false := by
          intro character inside
          rcases List.mem_append.mp inside with before | last
          · exact unbroken character before
          · exact List.mem_singleton.mp last ▸ Bool.eq_false_iff.mpr joins
        rcases inductionHypothesis member longer with ⟨nonempty, inside⟩
        rw [List.append_assoc, List.singleton_append] at inside
        exact ⟨nonempty, inside⟩

theorem of_mem_words {name word : List Char} (member : word ∈ words name) :
    word ≠ [] ∧ ∀ character ∈ word, isWordBreak character = false ∧ character ∈ name :=
  of_mem_wordsFrom member fun _ impossible => absurd impossible List.not_mem_nil

theorem legibleBreaks_of_basicLatin {name : List Char}
    (basic : ∀ character ∈ name, character.toNat < 0x80) : LegibleBreaks name := by
  intro word member character first
  have inside := ((of_mem_words (List.mem_of_mem_tail member)).2 character
    (List.mem_of_mem_head? first)).2
  exact isLegible_of_basicLatin (basic character inside)

theorem dash_not_mem_word {name word : List Char} (member : word ∈ words name) : '-' ∉ word := by
  intro inside
  cases ((of_mem_words member).2 '-' inside).1

/-- A break ends a word. -/
theorem wordsFrom_append_break (collected left : List Char) {character : Char}
    (breaks : isWordBreak character = true) (right : List Char) :
    wordsFrom collected (left ++ character :: right) =
      wordsFrom collected left ++ wordsFrom [] right := by
  induction left generalizing collected with
  | nil =>
      rw [List.nil_append, wordsFrom, wordsFrom, if_pos breaks]
      split <;> rfl
  | cons next rest inductionHypothesis =>
      rw [List.cons_append, wordsFrom, wordsFrom]
      split
      · split
        · exact inductionHypothesis []
        · rw [inductionHypothesis [], List.cons_append]
      · exact inductionHypothesis (collected ++ [next])

theorem wordsFrom_unbroken {word : List Char}
    (unbroken : ∀ character ∈ word, isWordBreak character = false) (collected : List Char)
    (nonempty : collected ++ word ≠ []) : wordsFrom collected word = [collected ++ word] := by
  induction word generalizing collected with
  | nil =>
      rw [List.append_nil] at nonempty ⊢
      rw [wordsFrom, if_neg fun empty => nonempty (List.isEmpty_iff.mp empty)]
  | cons character rest inductionHypothesis =>
      rw [List.forall_mem_cons] at unbroken
      rw [wordsFrom, if_neg (Bool.eq_false_iff.mp unbroken.1),
        inductionHypothesis unbroken.2 (collected ++ [character])
          (List.append_ne_nil_of_left_ne_nil (List.concat_ne_nil character collected) rest),
        List.append_assoc, List.singleton_append]

/-- A last word that starts without a capital form is put behind the spelling of the
others. -/
theorem camelCaseChars_append_word (name : List Char) {word : List Char} (nonempty : word ≠ [])
    (unbroken : ∀ character ∈ word, isWordBreak character = false)
    (uncased : capitalise word = word) :
    camelCaseChars (name ++ '-' :: word) = camelCaseChars name ++ word := by
  have split : words (name ++ '-' :: word) = words name ++ [word] := by
    rw [words, words, wordsFrom_append_break [] name (by decide), wordsFrom_unbroken unbroken [] nonempty,
      List.nil_append]
  rw [camelCaseChars, camelCaseChars, split]
  cases words name with
  | nil => exact List.append_nil word
  | cons first others =>
      rw [List.cons_append]
      simp only
      rw [List.flatMap_append, List.flatMap_singleton, uncased, List.append_assoc]

/-! ## From the shown breaks to the spelling -/

/-- Dashes give way to capitals. -/
def raised : List Char → List Char
  | '-' :: character :: rest => upperChar character ++ raised rest
  | character :: rest => character :: raised rest
  | [] => []

theorem raised_append {word : List Char} (undashed : '-' ∉ word) (rest : List Char) :
    raised (word ++ rest) = word ++ raised rest := by
  induction word with
  | nil => rfl
  | cons character others inductionHypothesis =>
      rw [List.mem_cons, not_or] at undashed
      rw [List.cons_append, raised, inductionHypothesis undashed.2, List.cons_append]
      exact fun _ _ dash => absurd dash.symm undashed.1

theorem raised_shownWord_append {word : List Char} (nonempty : word ≠ []) (undashed : '-' ∉ word)
    (rest : List Char) : raised (shownWord word ++ rest) = capitalise word ++ raised rest := by
  unfold shownWord
  split
  · rename_i same
    rw [raised_append undashed, same]
  · cases word with
    | nil => exact absurd rfl nonempty
    | cons character others =>
        rw [List.cons_append, List.cons_append, raised,
          raised_append fun inside => undashed (List.mem_cons_of_mem _ inside), capitalise,
          List.append_assoc]

theorem raised_flatMap_shownWord {others : List (List Char)}
    (proper : ∀ word ∈ others, word ≠ [] ∧ '-' ∉ word) :
    raised (others.flatMap shownWord) = others.flatMap capitalise := by
  induction others with
  | nil => rfl
  | cons word rest inductionHypothesis =>
      rw [List.forall_mem_cons] at proper
      rw [List.flatMap_cons, List.flatMap_cons, raised_shownWord_append proper.1.1 proper.1.2,
        inductionHypothesis proper.2]

/-- The spelling with inner capitals shows no more than the shown breaks. -/
theorem camelCaseChars_eq_raised (name : List Char) :
    camelCaseChars name = raised (shownBreaks name) := by
  have proper : ∀ word ∈ words name, word ≠ [] ∧ '-' ∉ word :=
    fun word member => ⟨(of_mem_words member).1, dash_not_mem_word member⟩
  unfold camelCaseChars shownBreaks
  cases found : words name with
  | nil => rfl
  | cons first others =>
      rw [found, List.forall_mem_cons] at proper
      simp only
      rw [raised_append proper.1.2, raised_flatMap_shownWord proper.2]

/-! ## From the spelling to the shown breaks -/

/-- Capitals give way to small letters with a dash in front. -/
def lowered (spelling : List Char) : List Char :=
  spelling.flatMap fun character =>
    if IsSmall character then [character] else '-' :: lowerChar character

theorem lowered_of_small {characters : List Char} (small : ∀ character ∈ characters, IsSmall character) :
    lowered characters = characters := by
  induction characters with
  | nil => rfl
  | cons character rest inductionHypothesis =>
      rw [List.forall_mem_cons] at small
      rw [lowered, List.flatMap_cons, ← lowered, inductionHypothesis small.2, if_pos small.1,
        List.singleton_append]

theorem lowered_capitalise {word : List Char} (small : ∀ character ∈ word, IsSmall character)
    (legible : ∀ character ∈ word.head?, IsLegible character) :
    lowered (capitalise word) = shownWord word := by
  cases word with
  | nil => rfl
  | cons character rest =>
      have split : lowered (capitalise (character :: rest)) = lowered (upperChar character) ++ rest := by
        rw [capitalise, lowered, List.flatMap_append, ← lowered, ← lowered,
          lowered_of_small fun inside listed => small inside (List.mem_cons_of_mem _ listed)]
      rw [split, shownWord, capitalise]
      by_cases same : upperChar character = [character]
      · rw [same, List.singleton_append, if_pos rfl, lowered, List.flatMap_singleton,
          if_pos (small character List.mem_cons_self), List.singleton_append]
      · rcases legible character rfl with uncased | ⟨capital, upper, lower⟩
        · exact absurd uncased same
        · -- the capital differs from its small form, so it stands for a break
          have moved : ¬ IsSmall capital := fun small => same (upper.trans (small.symm.trans lower))
          have shown : ¬ [capital] ++ rest = character :: rest := by
            intro equal
            rw [(List.cons.inj equal).1] at upper
            exact same upper
          rw [upper, if_neg shown, lowered, List.flatMap_singleton, if_neg moved, lower,
            List.cons_append, List.singleton_append]

theorem lowered_flatMap_capitalise {others : List (List Char)}
    (small : ∀ word ∈ others, ∀ character ∈ word, IsSmall character)
    (legible : ∀ word ∈ others, ∀ character ∈ word.head?, IsLegible character) :
    lowered (others.flatMap capitalise) = others.flatMap shownWord := by
  rw [lowered, List.flatMap_assoc, List.flatMap_def, List.flatMap_def]
  refine congrArg List.flatten (List.map_congr_left fun word member => ?_)
  exact lowered_capitalise (small word member) (legible word member)

/-- Where capitals tell of breaks only, the shown breaks are read from the spelling. -/
theorem lowered_camelCaseChars {name : List Char} (small : ∀ character ∈ name, IsSmall character)
    (legible : LegibleBreaks name) : lowered (camelCaseChars name) = shownBreaks name := by
  have smallWords : ∀ word ∈ words name, ∀ character ∈ word, IsSmall character :=
    fun word member character inside => small character ((of_mem_words member).2 character inside).2
  unfold camelCaseChars shownBreaks
  unfold LegibleBreaks at legible
  cases found : words name with
  | nil => rfl
  | cons first others =>
      rw [found, List.forall_mem_cons] at smallWords
      rw [found, List.tail_cons] at legible
      simp only
      rw [← lowered_flatMap_capitalise smallWords.2 legible, lowered, List.flatMap_append, ← lowered,
        ← lowered, lowered_of_small smallWords.1]

/-- Two names of small letters with legible breaks have one spelling with inner
capitals when they show the same breaks, and only then. -/
theorem camelCaseChars_eq_iff {first second : List Char}
    (smallFirst : ∀ character ∈ first, IsSmall character) (legibleFirst : LegibleBreaks first)
    (smallSecond : ∀ character ∈ second, IsSmall character) (legibleSecond : LegibleBreaks second) :
    camelCaseChars first = camelCaseChars second ↔ shownBreaks first = shownBreaks second := by
  constructor
  · intro same
    rw [← lowered_camelCaseChars smallFirst legibleFirst, same,
      lowered_camelCaseChars smallSecond legibleSecond]
  · intro same
    rw [camelCaseChars_eq_raised, camelCaseChars_eq_raised, same]

/-! ## Names with inner capitals -/

/-- A name with inner capitals: basic Latin letters and digits that begin with a small
letter, without two capitals in a row. -/
structure IsCamelName (name : List Char) : Prop where
  begins : name.head?.any Char.isLower = true
  plain : ∀ character ∈ name, character.isAlphanum = true
  apart : name.IsChain fun before after => ¬ (before.isUpper = true ∧ after.isUpper = true)

/-- A letter or digit in dash case: a capital becomes small, behind a dash. -/
def dashedLetter (character : Char) : List Char :=
  if character.isUpper then ['-', character.toLower] else [character]

theorem letter_properties {character : Char} (plain : character.isAlphanum = true) :
    dashFor character = character ∧ character ≠ capitalSigma ∧
      lowerChar character = [character.toLower] ∧ isWordBreak character.toLower = false ∧
      (character.isUpper = true → upperChar character.toLower = [character]) ∧
      (character.isUpper = false → character.toLower = character) := by
  have each : ∀ code < 0x80, (Char.ofNat code).isAlphanum = true →
      dashFor (Char.ofNat code) = Char.ofNat code ∧ Char.ofNat code ≠ capitalSigma ∧
        lowerChar (Char.ofNat code) = [(Char.ofNat code).toLower] ∧
        isWordBreak (Char.ofNat code).toLower = false ∧
        ((Char.ofNat code).isUpper = true →
          upperChar (Char.ofNat code).toLower = [Char.ofNat code]) ∧
        ((Char.ofNat code).isUpper = false → (Char.ofNat code).toLower = Char.ofNat code) := by
    decide
  exact of_basicLatin (P := fun letter => letter.isAlphanum = true → dashFor letter = letter ∧
    letter ≠ capitalSigma ∧ lowerChar letter = [letter.toLower] ∧
    isWordBreak letter.toLower = false ∧
    (letter.isUpper = true → upperChar letter.toLower = [letter]) ∧
    (letter.isUpper = false → letter.toLower = letter)) each (basicLatin_of_isAlphanum plain) plain

/-- Where no capital follows another, every capital begins a word. -/
theorem dashedBehind_of_apart {before : Char} {rest : List Char}
    (plain : ∀ character ∈ before :: rest, character.isAlphanum = true)
    (apart : (before :: rest).IsChain fun left right =>
      ¬ (left.isUpper = true ∧ right.isUpper = true)) :
    dashedBehind before rest =
      rest.flatMap fun character => if character.isUpper then ['-', character] else [character] := by
  induction rest generalizing before with
  | nil => rfl
  | cons character others inductionHypothesis =>
      rw [List.forall_mem_cons] at plain
      rw [List.isChain_cons_cons] at apart
      rw [dashedBehind, inductionHypothesis plain.2 apart.2, List.flatMap_cons, dashIf]
      cases capital : character.isUpper with
      | false =>
          have inside : isBoundaryBetween before character others = false := by
            rw [isBoundaryBetween, capital, Bool.false_and]
          rw [inside]
          rfl
      | true =>
          have small : isSmallOrDigit before = true := by
            have kinds : before.isAlphanum =
                (before.isUpper || before.isLower || before.isDigit) := rfl
            have other : before.isUpper = false :=
              Bool.eq_false_iff.mpr fun upper => apart.1 ⟨upper, capital⟩
            rw [plain.1, other, Bool.false_or] at kinds
            exact kinds.symm
          have here : isBoundaryBetween before character others = true := by
            rw [isBoundaryBetween, capital, small, Bool.true_or, Bool.true_and]
          rw [here]
          rfl

theorem lowerAfter_dashed {rest : List Char}
    (plain : ∀ character ∈ rest, character.isAlphanum = true) (before : List Char) :
    lowerAfter before ((rest.flatMap fun character =>
      if character.isUpper then ['-', character] else [character]).map dashFor) =
      rest.flatMap dashedLetter := by
  induction rest generalizing before with
  | nil => rfl
  | cons character others inductionHypothesis =>
      rw [List.forall_mem_cons] at plain
      obtain ⟨kept, noSigma, lowered, _, _, unchanged⟩ := letter_properties plain.1
      have later := inductionHypothesis plain.2
      rw [List.flatMap_cons, List.flatMap_cons, List.map_append]
      unfold dashedLetter at later ⊢
      cases capital : character.isUpper with
      | false =>
          simp only [Bool.false_eq_true, if_false, List.map_cons, List.map_nil, kept,
            List.singleton_append, lowerAfter, noSigma, lowered, unchanged capital, later]
      | true =>
          have dash : lowerChar (dashFor '-') = ['-'] := by decide
          have noDash : dashFor '-' ≠ capitalSigma := by decide
          simp only [if_true, List.map_cons, List.map_nil, kept, List.cons_append, List.nil_append,
            lowerAfter, noDash, if_false, dash, noSigma, lowered, later]

theorem dashCaseChars_of_camelName {first : Char} {rest : List Char}
    (camel : IsCamelName (first :: rest)) :
    dashCaseChars (first :: rest) = first :: rest.flatMap dashedLetter := by
  obtain ⟨kept, noSigma, lowered, _, _, unchanged⟩ :=
    letter_properties (camel.plain first List.mem_cons_self)
  have small : first.toLower = first := unchanged (not_isUpper_of_isLower camel.begins)
  rw [dashCaseChars, separateHumps_separateWords, dashedBehind_of_apart camel.plain camel.apart,
    List.map_cons, kept, lower, lowerAfter, if_neg noSigma, lowered, small,
    lowerAfter_dashed fun character member => camel.plain character (List.mem_cons_of_mem _ member)]
  rfl

/-- The words of a dashed name give the name back when capitals are put at their breaks. -/
theorem wordsFrom_dashedLetters {rest : List Char}
    (plain : ∀ character ∈ rest, character.isAlphanum = true) {collected : List Char}
    (nonempty : collected ≠ []) :
    ∃ word others, wordsFrom collected (rest.flatMap dashedLetter) = word :: others ∧
      word ≠ [] ∧ word ++ others.flatMap capitalise = collected ++ rest := by
  induction rest generalizing collected with
  | nil =>
      refine ⟨collected, [], ?_, nonempty, rfl⟩
      exact if_neg fun empty => nonempty (List.isEmpty_iff.mp empty)
  | cons character rest inductionHypothesis =>
      rw [List.forall_mem_cons] at plain
      obtain ⟨_, _, _, joins, raises, unchanged⟩ := letter_properties plain.1
      have joined : ∀ word : List Char, wordsFrom word (character.toLower :: rest.flatMap dashedLetter) =
          wordsFrom (word ++ [character.toLower]) (rest.flatMap dashedLetter) := by
        intro word
        rw [wordsFrom, if_neg (Bool.eq_false_iff.mp joins)]
      rw [List.flatMap_cons, dashedLetter]
      cases capital : character.isUpper with
      | false =>
          rw [unchanged capital] at joined
          rw [if_neg Bool.false_ne_true, List.singleton_append, joined]
          rcases inductionHypothesis plain.2 (List.concat_ne_nil character collected) with
            ⟨word, others, split, filled, whole⟩
          refine ⟨word, others, split, filled, ?_⟩
          rw [whole, List.append_assoc, List.singleton_append]
      | true =>
          -- the dash ends the word, and the next one begins with the small form
          have ended : wordsFrom collected ('-' :: character.toLower :: rest.flatMap dashedLetter) =
              collected :: wordsFrom [character.toLower] (rest.flatMap dashedLetter) := by
            rw [wordsFrom, if_pos (by decide),
              if_neg fun empty => nonempty (List.isEmpty_iff.mp empty), joined, List.nil_append]
          rcases inductionHypothesis plain.2 (List.cons_ne_nil character.toLower []) with
            ⟨word, others, split, filled, whole⟩
          rw [if_pos rfl, List.cons_append, List.singleton_append, ended, split]
          refine ⟨collected, word :: others, rfl, nonempty, ?_⟩
          cases word with
          | nil => exact absurd rfl filled
          | cons start letters =>
              rw [List.cons_append, List.singleton_append, List.cons.injEq] at whole
              rw [List.flatMap_cons, capitalise, whole.1, raises capital, List.append_assoc, whole.2,
                List.singleton_append]

/-- A name with inner capitals comes back from its dash case. -/
theorem camelCase_dashCase {name : String} (camel : IsCamelName name.toList) :
    camelCase (dashCase name) = name := by
  rw [← String.toList_inj, camelCase, String.toList_ofList, dashCase, String.toList_ofList]
  cases spelled : name.toList with
  | nil =>
      have begins := camel.begins
      rw [spelled] at begins
      cases begins
  | cons first rest =>
      rw [spelled] at camel
      have joins : isWordBreak first = false := by
        obtain ⟨_, _, _, joins, _, unchanged⟩ :=
          letter_properties (camel.plain first List.mem_cons_self)
        rw [unchanged (not_isUpper_of_isLower camel.begins)] at joins
        exact joins
      rcases wordsFrom_dashedLetters
        (fun character member => camel.plain character (List.mem_cons_of_mem _ member))
        (List.cons_ne_nil first []) with ⟨word, others, split, _, whole⟩
      rw [dashCaseChars_of_camelName camel, camelCaseChars, words, wordsFrom,
        if_neg (Bool.eq_false_iff.mp joins), List.nil_append, split]
      exact whole

end Naming
end ComponentCompiler
