import ComponentCompiler.Text.Casing
import Mathlib.Data.Char

namespace ComponentCompiler
namespace Text

/-!
# Small letters stay small

The small form of a text has no character with a small form of its own.  For the
characters above basic Latin this is a fact about the case tables: where a shift
moves its stretch, no shift applies.  Stretches are compared as a whole, since
they hold many characters.

The characters of basic Latin that are no letters are left alone, and no character
becomes one of them.
-/

/-- The character is its own small form. -/
def IsSmall (character : Char) : Prop :=
  lowerChar character = [character]

instance : DecidablePred IsSmall := fun character =>
  inferInstanceAs (Decidable (lowerChar character = [character]))

/-- A fact about basic Latin is checked character by character. -/
theorem of_basicLatin {P : Char → Prop} (each : ∀ code < 0x80, P (Char.ofNat code))
    {character : Char} (basic : character.toNat < 0x80) : P character :=
  Char.ofNat_toNat character ▸ each character.toNat basic

/-- Letters and digits, as they are told by their ranges, are basic Latin. -/
theorem basicLatin_of_isAlphanum {character : Char} (plain : character.isAlphanum = true) :
    character.toNat < 0x80 := by
  have ranges : character.isAlphanum =
      (character.isUpper || character.isLower || character.isDigit) := rfl
  rw [ranges, Bool.or_eq_true, Bool.or_eq_true] at plain
  rcases plain with (capital | small) | digit
  · have bound : character.toNat ≤ 90 := (of_decide_eq_true capital).2
    omega
  · have bound : character.toNat ≤ 122 := of_decide_eq_true (Bool.and_eq_true_iff.mp small).2
    omega
  · have bound : character.toNat ≤ 57 := of_decide_eq_true (Bool.and_eq_true_iff.mp digit).2
    omega

theorem isSmall_toLower {character : Char} (basic : character.toNat < 0x80) :
    IsSmall character.toLower :=
  of_basicLatin (P := fun character => IsSmall character.toLower) (by decide) basic

/-! ## The tables -/

/-- Whether a shift applies nowhere on a stretch: the two lie apart, or they
alternate. -/
def CaseShift.misses (low high step : Nat) (shift : CaseShift) : Bool :=
  Nat.blt high shift.first || Nat.blt shift.last low ||
    (shift.step == 2 && (step == 2 || low == high) && low % 2 != shift.first % 2)

theorem CaseShift.applies_eq_false_of_misses {low high step : Nat} {shift : CaseShift}
    (missed : shift.misses low high step = true) {code : Nat} (above : low ≤ code)
    (below : code ≤ high) (onStep : (code - low) % step = 0) : shift.applies code = false := by
  by_contra applied
  rw [Bool.not_eq_false, CaseShift.applies, Bool.and_eq_true, Bool.and_eq_true, decide_eq_true_eq,
    decide_eq_true_eq, beq_iff_eq] at applied
  rcases applied with ⟨⟨first, last⟩, same⟩
  simp only [CaseShift.misses, Bool.or_eq_true, Bool.and_eq_true, Nat.blt_eq, beq_iff_eq,
    bne_iff_ne] at missed
  rcases missed with (apart | apart) | ⟨⟨two, alternates⟩, odd⟩
  · omega
  · omega
  · rw [two] at same
    rcases alternates with stepTwo | single
    · rw [stepTwo] at onStep
      omega
    · omega

theorem lowerShifts_miss : (lowerShifts.all fun shift => lowerShifts.all
    (CaseShift.misses (shift.first + shift.distance).toNat (shift.last + shift.distance).toNat
      shift.step)) = true := by
  decide +kernel

/-- A shift leads to no capital letter of basic Latin and to no character whose small
form is a sequence. -/
theorem lowerShifts_range : ∀ shift ∈ lowerShifts, 0x5A < (shift.first : Int) + shift.distance ∧
    (shift.last + shift.distance < 0x130 ∨ 0x130 < shift.first + shift.distance) := by
  decide +kernel

/-- Where a shift leads, none applies. -/
theorem find?_shifted {shift : CaseShift} (listed : shift ∈ lowerShifts) {code : Nat}
    (applies : shift.applies code = true) :
    lowerShifts.find? (·.applies (code + shift.distance).toNat) = none := by
  rw [CaseShift.applies, Bool.and_eq_true, Bool.and_eq_true, decide_eq_true_eq, decide_eq_true_eq,
    beq_iff_eq] at applies
  rcases applies with ⟨⟨first, last⟩, onStep⟩
  have start := (lowerShifts_range shift listed).1
  refine List.find?_eq_none.mpr fun other present => Bool.not_eq_true _ ▸ ?_
  refine CaseShift.applies_eq_false_of_misses
    (List.all_eq_true.mp (List.all_eq_true.mp lowerShifts_miss shift listed) other present)
    (by omega) (by omega) ?_
  rw [show (code + shift.distance).toNat - (shift.first + shift.distance).toNat =
    code - shift.first by omega]
  exact onStep

theorem isSmall_shifted {shift : CaseShift} (listed : shift ∈ lowerShifts) {code : Nat}
    (applies : shift.applies code = true) :
    IsSmall (Char.ofNat (code + shift.distance).toNat) := by
  have settled := find?_shifted listed applies
  rw [CaseShift.applies, Bool.and_eq_true, Bool.and_eq_true, decide_eq_true_eq,
    decide_eq_true_eq] at applies
  have range := lowerShifts_range shift listed
  generalize target : (code + shift.distance).toNat = reached at settled ⊢
  by_cases valid : reached.isValidChar
  · have same : (Char.ofNat reached).toNat = reached := by
      rw [Char.ofNat, dif_pos valid]
      rfl
    by_cases basic : reached < 0x80
    · -- the small letters of basic Latin stand behind the capitals
      have small : ∀ small < 0x80, 0x5A < small → IsSmall (Char.ofNat small) := by
        decide
      exact small reached basic (by omega)
    · have single : lowerSequences.find? (·.1 == reached) = none := by
        refine List.find?_eq_none.mpr fun entry listed => ?_
        rw [List.mem_singleton.mp listed, beq_iff_eq]
        exact fun same => by omega
      rw [IsSmall, lowerChar, same, if_neg basic, mapCase, same]
      simp only [single, settled]
  · rw [Char.ofNat, dif_neg valid]
    decide

/-- The small form of a character is made of small letters. -/
theorem isSmall_of_mem_lowerChar {character small : Char} (member : small ∈ lowerChar character) :
    IsSmall small := by
  by_cases basic : character.toNat < 0x80
  · rw [lowerChar, if_pos basic] at member
    rw [List.mem_singleton.mp member]
    exact isSmall_toLower basic
  · rw [lowerChar, if_neg basic, mapCase] at member
    split at member
    · rename_i sequence found
      have listed := List.mem_of_find?_eq_some found
      cases List.mem_singleton.mp listed
      rcases List.mem_map.mp member with ⟨code, inSequence, rfl⟩
      have each : ∀ code ∈ [0x0069, 0x0307], IsSmall (Char.ofNat code) := by
        decide
      exact each code inSequence
    · split at member
      · rename_i shift found
        rw [List.mem_singleton.mp member]
        exact isSmall_shifted (List.mem_of_find?_eq_some found)
          (List.find?_some (p := fun shift : CaseShift => shift.applies character.toNat) found)
      · rename_i noSequence _ noShift
        rw [List.mem_singleton.mp member, IsSmall, lowerChar, if_neg basic, mapCase]
        simp only [noSequence, noShift]

theorem isSmall_of_mem_lowerAfter {before characters : List Char} {small : Char}
    (member : small ∈ lowerAfter before characters) : IsSmall small := by
  induction characters generalizing before with
  | nil => cases member
  | cons character rest inductionHypothesis =>
      rcases List.mem_append.mp member with here | later
      · split at here
        · -- both small forms of the sigma are small letters
          split at here <;>
          · rw [List.mem_singleton.mp here]
            decide +kernel
        · exact isSmall_of_mem_lowerChar here
      · exact inductionHypothesis later

/-- The small form of a text is made of small letters. -/
theorem isSmall_of_mem_lower {characters : List Char} {small : Char}
    (member : small ∈ lower characters) : IsSmall small :=
  isSmall_of_mem_lowerAfter member

/-! ## Characters that are no letters -/

/-- A shift leads to small letters of basic Latin, or to characters above it. -/
theorem lowerShifts_target : ∀ shift ∈ lowerShifts,
    (0x61 ≤ (shift.first : Int) + shift.distance ∧ (shift.last : Int) + shift.distance ≤ 0x7A) ∨
      (0x80 ≤ (shift.first : Int) + shift.distance ∧
        ((shift.last : Int) + shift.distance < 0xD800 ∨
          0xDFFF < (shift.first : Int) + shift.distance ∧
            (shift.last : Int) + shift.distance < 0x110000)) := by
  decide +kernel

theorem isAlpha_or_above_shifted {shift : CaseShift} (listed : shift ∈ lowerShifts) {code : Nat}
    (applies : shift.applies code = true) :
    (Char.ofNat (code + shift.distance).toNat).isAlpha = true ∨
      0x80 ≤ (Char.ofNat (code + shift.distance).toNat).toNat := by
  have target := lowerShifts_target shift listed
  rw [CaseShift.applies, Bool.and_eq_true, Bool.and_eq_true, decide_eq_true_eq,
    decide_eq_true_eq] at applies
  generalize reached : (code + shift.distance).toNat = number
  rcases target with small | ⟨above, valid⟩
  · have letters : ∀ number < 0x7B, 0x61 ≤ number → (Char.ofNat number).isAlpha = true := by
      decide
    exact Or.inl (letters number (by omega) (by omega))
  · have isValid : number.isValidChar := by
      unfold Nat.isValidChar
      omega
    have same : (Char.ofNat number).toNat = number := by
      rw [Char.ofNat, dif_pos isValid]
      rfl
    rw [same]
    exact Or.inr (by omega)

/-- The small form of a character between others. -/
def smallForm (before : List Char) (character : Char) (rest : List Char) : List Char :=
  if character = capitalSigma then
    if meetsLetter before && !meetsLetter rest then [Char.ofNat 0x3C2] else [Char.ofNat 0x3C3]
  else lowerChar character

theorem lowerAfter_cons (before : List Char) (character : Char) (rest : List Char) :
    lowerAfter before (character :: rest) =
      smallForm before character rest ++ lowerAfter (character :: before) rest :=
  rfl

theorem smallForm_ne_nil (before : List Char) (character : Char) (rest : List Char) :
    smallForm before character rest ≠ [] := by
  unfold smallForm lowerChar mapCase
  split
  · split <;> exact List.cons_ne_nil _ _
  split
  · exact List.cons_ne_nil _ _
  dsimp only
  split
  · rename_i sequence found
    cases List.mem_singleton.mp (List.mem_of_find?_eq_some found)
    exact List.cons_ne_nil _ _
  · split <;> exact List.cons_ne_nil _ _

section NoLetter

variable {mark : Char} (basic : mark.toNat < 0x80) (noLetter : mark.isAlpha = false)
include basic noLetter

theorem lowerChar_of_noLetter : lowerChar mark = [mark] := by
  have each : ∀ code < 0x80, (Char.ofNat code).isAlpha = false →
      lowerChar (Char.ofNat code) = [Char.ofNat code] := by
    decide
  exact of_basicLatin (P := fun mark => mark.isAlpha = false → lowerChar mark = [mark]) each basic
    noLetter

/-- Only the character itself becomes one that is no letter. -/
theorem eq_of_mem_lowerChar {character : Char} (member : mark ∈ lowerChar character) :
    mark = character := by
  by_cases low : character.toNat < 0x80
  · have each : ∀ code < 0x80, (Char.ofNat code).toLower.isAlpha = false →
        (Char.ofNat code).toLower = Char.ofNat code := by
      decide
    rw [lowerChar, if_pos low, List.mem_singleton] at member
    have kept := of_basicLatin (P := fun character => character.toLower.isAlpha = false →
      character.toLower = character) each low
    rw [member] at noLetter ⊢
    exact kept noLetter
  · rw [lowerChar, if_neg low, mapCase] at member
    split at member
    · rename_i sequence found
      cases List.mem_singleton.mp (List.mem_of_find?_eq_some found)
      rcases List.mem_map.mp member with ⟨code, inSequence, rfl⟩
      have each : ∀ code ∈ [0x0069, 0x0307], (Char.ofNat code).isAlpha = false →
          ¬ (Char.ofNat code).toNat < 0x80 := by
        decide
      exact absurd basic (each code inSequence noLetter)
    · split at member
      · rename_i shift found
        rw [List.mem_singleton.mp member] at basic noLetter
        rcases isAlpha_or_above_shifted (List.mem_of_find?_eq_some found)
          (List.find?_some (p := fun shift : CaseShift => shift.applies character.toNat) found) with
          letter | above
        · rw [letter] at noLetter
          cases noLetter
        · omega
      · exact List.mem_singleton.mp member

theorem mem_smallForm_iff {before rest : List Char} {character : Char} :
    mark ∈ smallForm before character rest ↔ mark = character := by
  unfold smallForm
  split
  · rename_i isSigma
    -- neither form of the sigma is in basic Latin
    have above : ∀ code ∈ [0x3A3, 0x3C2, 0x3C3], ¬ (Char.ofNat code).toNat < 0x80 := by
      decide
    have differs {code : Nat} (listed : code ∈ [0x3A3, 0x3C2, 0x3C3]) :
        mark ≠ Char.ofNat code := by
      rintro rfl
      exact above code listed basic
    have apart : mark ≠ character := isSigma ▸ differs (by decide)
    split
    · simp only [List.mem_singleton, differs (by decide : 0x3C2 ∈ _), apart]
    · simp only [List.mem_singleton, differs (by decide : 0x3C3 ∈ _), apart]
  · constructor
    · exact eq_of_mem_lowerChar basic noLetter
    · rintro rfl
      rw [lowerChar_of_noLetter basic noLetter]
      exact List.mem_singleton.mpr rfl

theorem smallForm_of_noLetter {before rest : List Char} : smallForm before mark rest = [mark] := by
  have noSigma : mark ≠ capitalSigma := by
    rintro rfl
    exact absurd basic (by decide)
  rw [smallForm, if_neg noSigma, lowerChar_of_noLetter basic noLetter]

theorem mem_lowerAfter_iff {before characters : List Char} :
    mark ∈ lowerAfter before characters ↔ mark ∈ characters := by
  induction characters generalizing before with
  | nil => rfl
  | cons character rest inductionHypothesis =>
      rw [lowerAfter_cons, List.mem_append, inductionHypothesis, List.mem_cons,
        mem_smallForm_iff basic noLetter]

/-- The small form of a text holds a character that is no letter when the text does. -/
theorem mem_lower_iff {characters : List Char} :
    mark ∈ lower characters ↔ mark ∈ characters :=
  mem_lowerAfter_iff basic noLetter

end NoLetter

end Text
end ComponentCompiler
