import ComponentCompiler.Number.Layout
import Mathlib.Data.List.TakeWhile

namespace ComponentCompiler
namespace Number

/-!
# The shape of a number's text

A number is written as digits, with a fraction or a power of ten behind them and a
sign in front.  None of its rows of digits is empty: the shortest decimal of a
number other than zero lies in an interval above zero, so a digit is left when the
zeros at its end are dropped.
-/

/-- A row of decimal digits with at least one digit. -/
def AreDigits (characters : List Char) : Prop :=
  characters ≠ [] ∧ ∀ character ∈ characters, character.isDigit = true

/-- What can stand behind the whole digits of a number: a point with more digits. -/
def IsFraction (characters : List Char) : Prop :=
  characters = [] ∨ ∃ digits, characters = '.' :: digits ∧ AreDigits digits

/-- What can stand at the end of a number: a power of ten with its sign. -/
def IsPower (characters : List Char) : Prop :=
  characters = [] ∨ ∃ sign digits, characters = 'e' :: sign :: digits ∧
    (sign = '+' ∨ sign = '-') ∧ AreDigits digits

/-- The text of a number without a sign. -/
structure IsNumeral (whole fraction power : List Char) : Prop where
  whole : AreDigits whole
  fraction : IsFraction fraction
  power : IsPower power

/-! ## Digits -/

theorem areDigits_decimalDigits (number : Nat) : AreDigits (decimalDigits number) :=
  ⟨Nat.toDigits_ne_nil,
    fun _ member => Nat.isDigit_of_mem_toDigits (by decide) (by decide) member⟩

theorem AreDigits.append_zeros {digits : List Char} (row : AreDigits digits) (count : Nat) :
    AreDigits (digits ++ List.replicate count '0') := by
  refine ⟨List.append_ne_nil_of_left_ne_nil row.1 _, fun character member => ?_⟩
  rcases List.mem_append.mp member with inRow | zero
  · exact row.2 character inRow
  · rw [List.eq_of_mem_replicate zero]
    rfl

theorem AreDigits.zeros_append {digits : List Char} (row : AreDigits digits) (count : Nat) :
    AreDigits (List.replicate count '0' ++ digits) := by
  refine ⟨List.append_ne_nil_of_right_ne_nil _ row.1, fun character member => ?_⟩
  rcases List.mem_append.mp member with zero | inRow
  · rw [List.eq_of_mem_replicate zero]
    rfl
  · exact row.2 character inRow

theorem AreDigits.take {digits : List Char} (row : AreDigits digits) {count : Nat}
    (some : 0 < count) : AreDigits (digits.take count) := by
  refine ⟨fun empty => ?_, fun character member => row.2 character (List.mem_of_mem_take member)⟩
  rcases List.take_eq_nil_iff.mp empty with none | noDigits
  · omega
  · exact row.1 noDigits

theorem AreDigits.drop {digits : List Char} (row : AreDigits digits) {count : Nat}
    (left : count < digits.length) : AreDigits (digits.drop count) := by
  refine ⟨fun empty => ?_, fun character member => row.2 character (List.mem_of_mem_drop member)⟩
  have short := List.drop_eq_nil_iff.mp empty
  omega

/-! ## The shortest decimal -/

/-- Zeros alone are read as zero. -/
theorem ofDigitChars_of_zeros {digits : List Char} (zeros : ∀ digit ∈ digits, digit = '0') :
    Nat.ofDigitChars 10 digits 0 = 0 := by
  induction digits with
  | nil => rfl
  | cons digit rest inductionHypothesis =>
      rw [List.forall_mem_cons] at zeros
      rw [zeros.1]
      exact inductionHypothesis zeros.2

theorem areDigits_withoutTrailingZeros {number : Nat} (positive : number ≠ 0) :
    AreDigits (withoutTrailingZeros (decimalDigits number)) := by
  refine ⟨fun empty => positive ?_, fun character member => ?_⟩
  · -- were all digits dropped, the number would be read back as zero
    have zeros : ∀ digit ∈ decimalDigits number, digit = '0' := by
      have dropped := List.dropWhile_eq_nil_iff.mp (List.reverse_eq_nil_iff.mp empty)
      exact fun digit member => of_decide_eq_true (dropped digit (List.mem_reverse.mpr member))
    have read := ofDigitChars_of_zeros zeros
    rw [decimalDigits, Nat.ofDigitChars_toDigits (by decide : 1 < 10) (Nat.le_refl 10)] at read
    exact read
  · have inDigits : character ∈ decimalDigits number :=
      List.mem_reverse.mp ((List.dropWhile_sublist _).subset (List.mem_reverse.mp member))
    exact (areDigits_decimalDigits number).2 character inDigits

theorem admits_zero {interval : Interval} {low high : Nat} (above : 0 < low) :
    interval.admits low high 0 = false := by
  unfold Interval.admits
  split
  · rw [decide_eq_false (Nat.not_le_of_gt above), Bool.false_and]
  · rw [decide_eq_false (Nat.not_lt_zero low), Bool.false_and]

/-- A decimal in an interval above zero is not zero. -/
theorem ne_zero_of_decimalOf? {interval : Interval} (above : 0 < interval.low) {point : Int}
    {count number : Nat} (found : decimalOf? interval point count = some number) : number ≠ 0 := by
  rintro rfl
  have positive (power : Nat) : 0 < interval.low * powerOfTen power :=
    Nat.mul_pos above (Nat.pow_pos (by decide))
  unfold decimalOf? at found
  simp only at found
  split at found
  · rename_i admitted
    -- the lower neighbour is admitted, so it is not zero, and the upper one is above it
    have nonzero : interval.value * powerOfTen (-(point - count)).toNat /
        (interval.denominator * powerOfTen (point - count).toNat) ≠ 0 := by
      intro zero
      rw [zero, Nat.zero_mul, admits_zero (positive _)] at admitted
      cases admitted
    repeat' split at found
    all_goals
      first
        | exact nonzero (Option.some.inj found)
        | exact Nat.succ_ne_zero _ (Option.some.inj found)
  · split at found
    · cases found
    · cases found

theorem areDigits_shortestFrom {interval : Interval} (above : 0 < interval.low) (point : Int)
    (attempts count : Nat) : AreDigits (shortestFrom interval point attempts count).digits := by
  induction attempts generalizing count with
  | zero => exact areDigits_decimalDigits _
  | succ attempts inductionHypothesis =>
      rw [shortestFrom]
      split
      · rename_i number found
        exact areDigits_withoutTrailingZeros (ne_zero_of_decimalOf? above found)
      · exact inductionHypothesis (count + 1)

theorem areDigits_shortest {significand : Nat} (positive : significand ≠ 0) (exponent : Int) :
    AreDigits (shortest significand exponent).digits := by
  refine areDigits_shortestFrom ?_ _ _ _
  unfold intervalOf
  refine Nat.mul_pos ?_ (Nat.pow_pos (by decide))
  split <;> omega

/-! ## The two notations -/

theorem isNumeral_positional {decimal : Decimal} (row : AreDigits decimal.digits) :
    ∃ whole fraction, IsNumeral whole fraction [] ∧ positional decimal = whole ++ fraction := by
  have noPower : IsPower [] := Or.inl rfl
  have zero : AreDigits ['0'] := areDigits_decimalDigits 0
  unfold positional
  simp only
  split
  · exact ⟨['0'], _, ⟨zero, Or.inr ⟨_, rfl, row.zeros_append _⟩, noPower⟩, rfl⟩
  · rename_i positive
    split
    · rename_i inside
      exact ⟨_, _, ⟨row.take (by omega), Or.inr ⟨_, rfl, row.drop inside⟩, noPower⟩, rfl⟩
    · exact ⟨_, _, ⟨row.append_zeros _, Or.inr ⟨_, rfl, zero⟩, noPower⟩, rfl⟩

theorem isNumeral_scientific (layout : Layout) {decimal : Decimal} (row : AreDigits decimal.digits) :
    ∃ whole fraction power, IsNumeral whole fraction power ∧
      scientific layout decimal = whole ++ fraction ++ power := by
  have power : IsPower ('e' :: (if decimal.point - 1 < 0 then '-' else '+') ::
      (List.replicate (layout.exponentWidth - (decimalDigits (decimal.point - 1).natAbs).length) '0' ++
        decimalDigits (decimal.point - 1).natAbs)) := by
    refine Or.inr ⟨_, _, rfl, ?_, (areDigits_decimalDigits _).zeros_append _⟩
    split
    · exact Or.inr rfl
    · exact Or.inl rfl
  unfold scientific
  rcases decimal with ⟨digits, point⟩
  cases digits with
  | nil => exact absurd rfl row.1
  | cons first rest =>
      cases rest with
      | nil => exact ⟨[first], [], _, ⟨row, Or.inl rfl, power⟩, rfl⟩
      | cons second others =>
          have one : AreDigits [first] := row.take Nat.one_pos
          have later : AreDigits ((first :: second :: others).drop 1) :=
            row.drop (Nat.succ_lt_succ (Nat.zero_lt_succ _))
          exact ⟨[first], '.' :: second :: others, _, ⟨one, Or.inr ⟨_, rfl, later⟩, power⟩, rfl⟩

/-- The sign in front of a number. -/
def signText (negative : Bool) : List Char :=
  if negative then ['-'] else []

/-- A finite number is written as a numeral with its sign. -/
theorem toList_text_finite (layout : Layout) (negative : Bool) (significand : Nat) (exponent : Int) :
    ∃ whole fraction power, IsNumeral whole fraction power ∧
      (Binary64.text layout (.finite negative significand exponent)).toList =
        signText negative ++ (whole ++ fraction ++ power) := by
  have sign : (if negative then "-" else "").toList = signText negative := by
    cases negative <;> rfl
  unfold Binary64.text
  simp only
  split
  · have zero : AreDigits ['0'] := areDigits_decimalDigits 0
    refine ⟨['0'], ['.', '0'], [], ⟨zero, Or.inr ⟨_, rfl, zero⟩, Or.inl rfl⟩, ?_⟩
    rw [String.toList_append, sign]
    rfl
  · rename_i positive
    have row := areDigits_shortest positive exponent
    split
    · rcases isNumeral_positional row with ⟨whole, fraction, numeral, same⟩
      refine ⟨whole, fraction, [], numeral, ?_⟩
      rw [String.toList_append, sign, String.toList_ofList, same, List.append_nil]
    · rcases isNumeral_scientific layout row with ⟨whole, fraction, power, numeral, same⟩
      refine ⟨whole, fraction, power, numeral, ?_⟩
      rw [String.toList_append, sign, String.toList_ofList, same]

/-- A whole number is written as digits with its sign. -/
theorem toList_toString_int (number : Int) :
    ∃ negative digits, AreDigits digits ∧ (toString number).toList = signText negative ++ digits := by
  have written (size : Nat) : (toString size).toList = decimalDigits size := by
    rw [Nat.toString_eq_ofList_toDigits, String.toList_ofList]
    rfl
  cases number with
  | ofNat size => exact ⟨false, _, areDigits_decimalDigits size, written size⟩
  | negSucc size =>
      refine ⟨true, _, areDigits_decimalDigits (size + 1), ?_⟩
      rw [← written]
      exact String.toList_append

end Number
end ComponentCompiler
