import ComponentCompiler.Naming

namespace ComponentCompiler
namespace Naming

/-!
# Where the dashed spelling puts its dashes

The dashed spelling is made by two passes, each of which replaces the leftmost
match of a pattern and goes on behind it.  A match of the first pass takes the
letters of a whole word, so the word right behind it is not found again by this
pass; but then a small letter stands in front of the capital, and the second pass
finds it.  The second pass cannot miss a place, since a capital that ends one match
never begins another.

Together they put a dash in front of a capital exactly at the boundaries of words,
and whether a position is a boundary is seen from the characters next to it.
-/

/-! ## Boundaries -/

/-- Whether a character can stand in front of a hump: a small letter or a digit. -/
def isSmallOrDigit (character : Char) : Bool :=
  character.isLower || character.isDigit

/-- Whether a word begins at a position of a name.  A capital stands there, not at the
start, and either a small letter or digit stands before it, or a small letter stands
behind it and what stands before it is no line feed. -/
def isBoundary (name : List Char) (position : Nat) : Bool :=
  1 ≤ position && name[position]?.any Char.isUpper &&
    (name[position - 1]?.any isSmallOrDigit ||
      (name[position + 1]?.any Char.isLower && !name[position - 1]?.any (· = '\n')))

/-- A name with a dash in front of each character at which a word begins. -/
def dashedAtBoundaries (name : List Char) : List Char :=
  name.zipIdx.flatMap fun place =>
    if isBoundary name place.2 then ['-', place.1] else [place.1]

/-- Whether a dash belongs between two characters when others may follow. -/
def isBoundaryBetween (before capital : Char) (following : List Char) : Bool :=
  capital.isUpper && (isSmallOrDigit before ||
    (following.head?.any Char.isLower && before ≠ '\n'))

/-- A text with a dash in front of it when one belongs there. -/
def dashIf (belongs : Bool) (text : List Char) : List Char :=
  if belongs then '-' :: text else text

/-- The characters behind one, with a dash in front of each at which a word begins. -/
def dashedBehind (before : Char) : List Char → List Char
  | [] => []
  | character :: rest =>
    dashIf (isBoundaryBetween before character rest) (character :: dashedBehind character rest)

/-- Boundaries are seen from the neighbours, however much stands before them. -/
theorem isBoundary_append (earlier : List Char) (before character : Char) (rest : List Char) :
    isBoundary (earlier ++ before :: character :: rest) (earlier.length + 1) =
      isBoundaryBetween before character rest := by
  have here : (earlier ++ before :: character :: rest)[earlier.length + 1]? = some character := by
    simp
  have ahead : (earlier ++ before :: character :: rest)[earlier.length]? = some before := by
    simp
  have behind : (earlier ++ before :: character :: rest)[earlier.length + 1 + 1]? = rest.head? := by
    rw [List.getElem?_append_right (by omega), List.head?_eq_getElem?]
    have offset : earlier.length + 1 + 1 - earlier.length = 2 := by omega
    rw [offset]
    rfl
  unfold isBoundary isBoundaryBetween
  rw [Nat.add_sub_cancel, here, ahead, behind]
  simp

theorem flatMap_boundaries (earlier : List Char) (before : Char) (rest : List Char) :
    (rest.zipIdx (earlier.length + 1)).flatMap
        (fun place => if isBoundary (earlier ++ before :: rest) place.2 then ['-', place.1]
          else [place.1]) =
      dashedBehind before rest := by
  induction rest generalizing earlier before with
  | nil => rfl
  | cons character rest inductionHypothesis =>
      have later := inductionHypothesis (earlier ++ [before]) character
      rw [List.length_append, List.length_singleton, List.append_assoc,
        List.singleton_append] at later
      rw [List.zipIdx_cons, List.flatMap_cons, later, isBoundary_append, dashedBehind, dashIf]
      split <;> rfl

theorem dashedAtBoundaries_cons (first : Char) (rest : List Char) :
    dashedAtBoundaries (first :: rest) = first :: dashedBehind first rest := by
  have later := flatMap_boundaries [] first rest
  rw [List.nil_append, List.length_nil, Nat.zero_add] at later
  rw [dashedAtBoundaries, List.zipIdx_cons, List.flatMap_cons, Nat.zero_add, later]
  rfl

/-! ## The passes replace leftmost matches -/

/-- The second text is the first with every match replaced, from left to right.  A
match gives what is written for it and what stands behind it; where there is none, one
character is passed over. -/
inductive Substituted (match? : List Char → Option (List Char × List Char)) :
    List Char → List Char → Prop
  | done : Substituted match? [] []
  | matched {text written behind result : List Char}
      (found : match? text = some (written, behind)) (later : Substituted match? behind result) :
      Substituted match? text (written ++ result)
  | passed {character : Char} {rest result : List Char}
      (absent : match? (character :: rest) = none) (later : Substituted match? rest result) :
      Substituted match? (character :: rest) (character :: result)

/-- A character other than a line feed, and a capital with as many small letters behind
it as there are, at least one: a dash goes in front of the capital. -/
def capitalisedWord? : List Char → Option (List Char × List Char)
  | before :: capital :: rest =>
    if before ≠ '\n' && capital.isUpper && !(rest.takeWhile Char.isLower).isEmpty then
      some (before :: '-' :: capital :: rest.takeWhile Char.isLower, rest.dropWhile Char.isLower)
    else none
  | _ => none

/-- A small letter or digit and a capital: a dash goes between them. -/
def hump? : List Char → Option (List Char × List Char)
  | before :: capital :: rest =>
    if isSmallOrDigit before && capital.isUpper then some ([before, '-', capital], rest) else none
  | _ => none

/-- Inside a word the small letters are taken, and then the search goes on. -/
theorem separateWords_inWord (text : List Char) :
    separateWords true text =
      text.takeWhile Char.isLower ++ separateWords false (text.dropWhile Char.isLower) := by
  induction text with
  | nil => rfl
  | cons character rest inductionHypothesis =>
      by_cases small : character.isLower = true
      · rw [List.takeWhile_cons_of_pos small, List.dropWhile_cons_of_pos small, List.cons_append,
          ← inductionHypothesis]
        cases rest with
        | nil => rfl
        | cons second rest =>
            cases rest with
            | nil => rfl
            | cons third rest => simp only [separateWords, Bool.true_and, small, if_true]
      · rw [List.takeWhile_cons_of_neg small, List.dropWhile_cons_of_neg small, List.nil_append]
        cases rest with
        | nil => rfl
        | cons second rest =>
            cases rest with
            | nil => rfl
            | cons third rest =>
                rw [Bool.not_eq_true] at small
                simp only [separateWords, small, Bool.and_false]

/-- Where a word starts, the first pass writes a dash and takes the whole word. -/
theorem separateWords_of_startsWord {before capital small : Char}
    (starts : startsWord before capital small = true) (rest : List Char) :
    separateWords false (before :: capital :: small :: rest) =
      (before :: '-' :: capital :: (small :: rest).takeWhile Char.isLower) ++
        separateWords false ((small :: rest).dropWhile Char.isLower) := by
  have isSmall : small.isLower = true := (Bool.and_eq_true_iff.mp starts).2
  simp only [separateWords, Bool.false_and, Bool.false_eq_true, if_false, starts, if_true,
    List.takeWhile_cons_of_pos isSmall, List.dropWhile_cons_of_pos isSmall, separateWords_inWord,
    List.cons_append]

/-- A match begins exactly where a word starts behind the first character. -/
theorem capitalisedWord?_cons (before capital small : Char) (rest : List Char) :
    capitalisedWord? (before :: capital :: small :: rest) =
      if startsWord before capital small then
        some (before :: '-' :: capital :: (small :: rest).takeWhile Char.isLower,
          (small :: rest).dropWhile Char.isLower)
      else none := by
  unfold capitalisedWord? startsWord
  cases isSmall : small.isLower <;> simp [isSmall]

theorem separateWords_substituted (name : List Char) :
    Substituted capitalisedWord? name (separateWords false name) := by
  -- the induction is on the length, since a match goes beyond the next character
  induction size : name.length using Nat.strongRecOn generalizing name with
  | ind size inductionHypothesis =>
      subst size
      rcases name with _ | ⟨before, _ | ⟨capital, _ | ⟨small, rest⟩⟩⟩
      · exact .done
      · exact .passed rfl .done
      · refine .passed ?_ (.passed rfl .done)
        simp [capitalisedWord?]
      · have found := capitalisedWord?_cons before capital small rest
        by_cases starts : startsWord before capital small = true
        · rw [if_pos starts] at found
          rw [separateWords_of_startsWord starts]
          have shorter := (List.dropWhile_sublist Char.isLower (l := small :: rest)).length_le
          refine .matched found (inductionHypothesis _ ?_ _ rfl)
          simp only [List.length_cons] at shorter ⊢
          omega
        · rw [if_neg starts] at found
          have onward : separateWords false (before :: capital :: small :: rest) =
              before :: separateWords false (capital :: small :: rest) := by
            rw [separateWords, Bool.false_and, if_neg Bool.false_ne_true, if_neg starts]
          rw [onward]
          exact .passed found (inductionHypothesis _ (by simp) _ rfl)

theorem separateHumps_substituted (text : List Char) :
    Substituted hump? text (separateHumps text) := by
  fun_induction separateHumps text with
  | case1 before capital rest humped inductionHypothesis =>
      have found : hump? (before :: capital :: rest) = some ([before, '-', capital], rest) :=
        if_pos humped
      exact .matched found inductionHypothesis
  | case2 before capital rest unhumped inductionHypothesis =>
      have absent : hump? (before :: capital :: rest) = none := if_neg unhumped
      exact .passed absent inductionHypothesis
  | case3 text short =>
      rcases text with _ | ⟨first, _ | ⟨second, rest⟩⟩
      · exact .done
      · exact .passed rfl .done
      · exact absurd rfl (short first second rest)

/-! ## No boundary is missed or met twice -/

theorem not_isSmallOrDigit_of_isUpper {character : Char} (capital : character.isUpper = true) :
    isSmallOrDigit character = false := by
  have range : character.val ≥ 'A'.val ∧ character.val ≤ 'Z'.val := of_decide_eq_true capital
  have low : 65 ≤ character.toNat := range.1
  have high : character.toNat ≤ 90 := range.2
  have notSmall : character.isLower = false := by
    refine Bool.and_eq_false_imp.mpr fun small => ?_
    have above : 97 ≤ character.toNat := of_decide_eq_true small
    omega
  have noDigit : character.isDigit = false := by
    refine Bool.and_eq_false_imp.mpr fun _ => decide_eq_false fun digit => ?_
    have below : character.toNat ≤ 57 := digit
    omega
  rw [isSmallOrDigit, notSmall, noDigit]
  rfl

theorem not_isUpper_of_isLower {character : Char} (small : character.isLower = true) :
    character.isUpper = false := by
  cases capital : character.isUpper with
  | false => rfl
  | true =>
      have apart := not_isSmallOrDigit_of_isUpper capital
      rw [isSmallOrDigit, small] at apart
      cases apart

/-- The second pass looks at each two neighbours: what ends a match begins no other. -/
theorem separateHumps_cons_cons (before next : Char) (rest : List Char) :
    separateHumps (before :: next :: rest) =
      before :: dashIf (isSmallOrDigit before && next.isUpper) (separateHumps (next :: rest)) := by
  have equation : separateHumps (before :: next :: rest) =
      if isSmallOrDigit before && next.isUpper then before :: '-' :: next :: separateHumps rest
      else before :: separateHumps (next :: rest) := by
    rw [separateHumps]
    rfl
  rw [equation, dashIf]
  split
  · rename_i humped
    have capital := (Bool.and_eq_true_iff.mp humped).2
    have skipped : separateHumps (next :: rest) = next :: separateHumps rest := by
      cases rest with
      | nil => rfl
      | cons second others =>
          rw [separateHumps, ← isSmallOrDigit, not_isSmallOrDigit_of_isUpper capital,
            Bool.false_and, if_neg Bool.false_ne_true]
    rw [skipped]
  · rfl

/-- Behind anything else than a small letter or digit the second pass writes no dash. -/
theorem separateHumps_cons_of_other {before : Char} (other : isSmallOrDigit before = false)
    (next : Char) (rest : List Char) :
    separateHumps (before :: next :: rest) = before :: separateHumps (next :: rest) := by
  rw [separateHumps_cons_cons, other, Bool.false_and]
  rfl

theorem exists_separateWords_cons (inWord : Bool) (first : Char) (rest : List Char) :
    ∃ others, separateWords inWord (first :: rest) = first :: others := by
  rcases rest with _ | ⟨second, _ | ⟨third, rest⟩⟩
  · exact ⟨[], rfl⟩
  · exact ⟨[second], rfl⟩
  · rw [separateWords]
    split
    · exact ⟨_, rfl⟩
    · split <;> exact ⟨_, rfl⟩

/-- The second pass over one character and what the first pass made of the rest. -/
theorem separateHumps_cons_separateWords (inWord : Bool) (before next : Char) (rest : List Char) :
    separateHumps (before :: separateWords inWord (next :: rest)) =
      before :: dashIf (isSmallOrDigit before && next.isUpper)
        (separateHumps (separateWords inWord (next :: rest))) := by
  rcases exists_separateWords_cons inWord next rest with ⟨others, begins⟩
  rw [begins]
  exact separateHumps_cons_cons before next others

theorem separateWords_of_small {small : Char} (isSmall : small.isLower = true) (rest : List Char) :
    separateWords true (small :: rest) = small :: separateWords true rest := by
  rw [separateWords_inWord, separateWords_inWord rest, List.takeWhile_cons_of_pos isSmall,
    List.dropWhile_cons_of_pos isSmall, List.cons_append]

/-- The second pass leaves the dash of a word alone. -/
theorem separateHumps_of_startsWord {before capital small : Char}
    (starts : startsWord before capital small = true) (rest : List Char) :
    separateHumps (before :: '-' :: capital :: small :: separateWords true rest) =
      before :: '-' :: capital :: separateHumps (separateWords true (small :: rest)) := by
  simp only [startsWord, Bool.and_eq_true] at starts
  have unhumped : separateHumps (before :: '-' :: capital :: small :: separateWords true rest) =
      before :: separateHumps ('-' :: capital :: small :: separateWords true rest) := by
    rw [separateHumps_cons_cons, Bool.and_comm]
    rfl
  have dash : isSmallOrDigit '-' = false := by decide
  rw [unhumped, separateHumps_cons_of_other dash,
    separateHumps_cons_of_other (not_isSmallOrDigit_of_isUpper starts.1.2),
    separateWords_of_small starts.2]

/-- Where a word starts there is one boundary in front of its capital, and none behind. -/
theorem dashedBehind_of_startsWord {before capital small : Char}
    (starts : startsWord before capital small = true) (rest : List Char) :
    dashedBehind before (capital :: small :: rest) =
      '-' :: capital :: small :: dashedBehind small rest := by
  simp only [startsWord, Bool.and_eq_true, decide_eq_true_eq] at starts
  obtain ⟨⟨different, isCapital⟩, isSmall⟩ := starts
  have here : isBoundaryBetween before capital (small :: rest) = true := by
    simp [isBoundaryBetween, isCapital, isSmall, different]
  have within : isBoundaryBetween capital small rest = false := by
    simp [isBoundaryBetween, not_isUpper_of_isLower isSmall]
  simp only [dashedBehind, dashIf, here, within, if_true, Bool.false_eq_true, if_false]

/-- Where no word starts there is a boundary only at a hump. -/
theorem isBoundaryBetween_of_not_startsWord {before capital small : Char}
    (other : startsWord before capital small = false) (rest : List Char) :
    isBoundaryBetween before capital (small :: rest) =
      (isSmallOrDigit before && capital.isUpper) := by
  unfold startsWord at other
  unfold isBoundaryBetween
  rw [List.head?_cons, Option.any_some]
  cases isCapital : capital.isUpper with
  | false => simp
  | true =>
      cases isSmall : small.isLower with
      | false => simp
      | true =>
          rw [isCapital, isSmall, Bool.and_true, Bool.and_true] at other
          simp [other]

/-- Both passes together put the dashes at the boundaries behind the first character,
whether the first pass is inside a word or not. -/
theorem separateHumps_separateWords (inWord : Bool) (first : Char) (rest : List Char) :
    separateHumps (separateWords inWord (first :: rest)) = first :: dashedBehind first rest := by
  induction size : rest.length using Nat.strongRecOn generalizing inWord first rest with
  | ind size inductionHypothesis =>
      subst size
      rcases rest with _ | ⟨second, _ | ⟨third, rest⟩⟩
      · rfl
      · have whole : separateWords inWord [first, second] = [first, second] := rfl
        rw [whole, separateHumps_cons_cons, dashedBehind, isBoundaryBetween, Bool.and_comm]
        simp [separateHumps, dashedBehind]
      · have onward : ∀ inside, (isSmallOrDigit first && second.isUpper) =
              isBoundaryBetween first second (third :: rest) →
            separateHumps (first :: separateWords inside (second :: third :: rest)) =
              first :: dashedBehind first (second :: third :: rest) := by
          intro inside agree
          have later := inductionHypothesis _ (by simp) inside second (third :: rest) rfl
          rw [separateHumps_cons_separateWords, later, agree]
          rfl
        rw [separateWords]
        split
        · -- a boundary behind the word that is being taken is left to the second pass
          rename_i inside
          have small := (Bool.and_eq_true_iff.mp inside).2
          apply onward
          simp [isBoundaryBetween, isSmallOrDigit, small]
        split
        · rename_i starts
          have shorter : rest.length < (second :: third :: rest).length := by
            rw [List.length_cons, List.length_cons]
            omega
          have later := inductionHypothesis rest.length shorter true third rest rfl
          rw [separateHumps_of_startsWord starts, later, dashedBehind_of_startsWord starts]
        · rename_i other
          apply onward
          rw [isBoundaryBetween_of_not_startsWord (Bool.not_eq_true _ ▸ other)]

/-- The dashed spelling is what is left of the name after two rounds of replacing
matches, and it has its dashes exactly where a word begins: in front of a capital that
stands behind a small letter or digit, or in front of a small letter and not behind a
line feed.  Then underscores and blanks become dashes, and all letters small. -/
theorem dashCase_breaks_at_boundaries (name : String) :
    (∃ worded humped, Substituted capitalisedWord? name.toList worded ∧
      Substituted hump? worded humped ∧
      dashCase name = String.ofList (Text.lower (humped.map dashFor))) ∧
    dashCase name = String.ofList (Text.lower ((dashedAtBoundaries name.toList).map dashFor)) := by
  refine ⟨⟨_, _, separateWords_substituted _, separateHumps_substituted _, rfl⟩, ?_⟩
  have passes : separateHumps (separateWords false name.toList) =
      dashedAtBoundaries name.toList := by
    cases name.toList with
    | nil => rfl
    | cons first rest => rw [separateHumps_separateWords, dashedAtBoundaries_cons]
  rw [dashCase, dashCaseChars, passes]

end Naming
end ComponentCompiler
