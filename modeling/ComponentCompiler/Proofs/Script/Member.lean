import ComponentCompiler.Script.Member
import Mathlib.Logic.Function.Defs

namespace ComponentCompiler
namespace Script

/-!
# Different names are written differently

A quoted text can be read back: the first character of an escape tells that there
is a second one, and this one tells the character that was escaped.  So two
properties of an object are accessed by two different expressions.
-/

/-- A character and what stands behind it can be told from the characters that are
written for them. -/
theorem escapeChar_append_inj {first second : Char} {rest others : List Char}
    (same : escapeChar first ++ rest = escapeChar second ++ others) :
    first = second ∧ rest = others := by
  unfold escapeChar at same
  grind

theorem flatMap_escapeChar_injective {first second : List Char}
    (same : first.flatMap escapeChar = second.flatMap escapeChar) : first = second := by
  have written : ∀ character : Char, escapeChar character ≠ [] := by
    intro character
    unfold escapeChar
    grind
  induction first generalizing second with
  | nil =>
      cases second with
      | nil => rfl
      | cons character rest =>
          rw [List.flatMap_nil, List.flatMap_cons] at same
          exact absurd (List.append_eq_nil_iff.mp same.symm).1 (written character)
  | cons character rest inductionHypothesis =>
      cases second with
      | nil =>
          rw [List.flatMap_nil, List.flatMap_cons] at same
          exact absurd (List.append_eq_nil_iff.mp same).1 (written character)
      | cons other others =>
          rw [List.flatMap_cons, List.flatMap_cons] at same
          rcases escapeChar_append_inj same with ⟨sameCharacter, sameRest⟩
          rw [sameCharacter, inductionHypothesis sameRest]

theorem quote_injective : Function.Injective quote := by
  intro first second same
  have characters : quoteChars first.toList = quoteChars second.toList := String.ofList_inj.mp same
  rw [quoteChars_eq_flatMap, quoteChars_eq_flatMap] at characters
  have escaped := List.append_cancel_right (List.cons.inj characters).2
  exact String.toList_inj.mp (flatMap_escapeChar_injective escaped)

/-- Two properties of one object are accessed by two expressions. -/
theorem member_injective (object : String) : Function.Injective (member object) := by
  intro first second same
  unfold member at same
  have characters := congrArg String.toList same
  -- the character behind the object tells which of the two forms is used
  by_cases firstBare : isIdentifier first = true
  · by_cases secondBare : isIdentifier second = true
    · simp only [firstBare, secondBare, if_true, String.toList_append, List.append_assoc] at characters
      have behind := List.append_cancel_left (List.append_cancel_left characters)
      exact String.toList_inj.mp behind
    · simp only [firstBare, secondBare, if_true, Bool.false_eq_true, if_false,
        String.toList_append, List.append_assoc] at characters
      have behind := List.append_cancel_left characters
      cases (List.cons.inj behind).1
  · by_cases secondBare : isIdentifier second = true
    · simp only [firstBare, secondBare, if_true, Bool.false_eq_true, if_false,
        String.toList_append, List.append_assoc] at characters
      have behind := List.append_cancel_left characters
      cases (List.cons.inj behind).1
    · simp only [firstBare, secondBare, Bool.false_eq_true, if_false, String.toList_append,
        List.append_assoc] at characters
      have behind := List.append_cancel_left (List.append_cancel_left characters)
      exact quote_injective (String.toList_inj.mp (List.append_cancel_right behind))

end Script
end ComponentCompiler
