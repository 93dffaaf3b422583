import ComponentCompiler.Markup.Render
import ComponentCompiler.Proofs.Build.Binding
import ComponentCompiler.Proofs.Outcome
import ComponentCompiler.Proofs.Script.Logic
import ComponentCompiler.Proofs.Text.Join

namespace ComponentCompiler

open Script (isOperand isOperand_int isOperand_real isOperand_quote isOperand_memberPath isLineBreak
  isWhiteSpace memberPath readAround readExpression)
open Script.Logic

/-!
# What guards say

The guard of a branch stands in front of a conjunction with the content of the
branch.  Its text is read as the conjunction or the disjunction of its tests: a
single test binds tighter than the conjunction behind it, and several tests are in
parentheses.  Tests that are none are in parentheses too, and these are no
expression.
-/

/-! ## Meaning -/

/-- Whether a test holds. -/
def Condition.holds (valuation : Valuation) (subject : String) (condition : Condition) : Bool :=
  if condition.operation ∈ comparisons then
    valuation.compares subject condition.operation (Scalar.optionalExpression condition.operand)
  else if condition.operation = "falsy" then !valuation.truth subject
  else valuation.truth subject

/-- Whether enough of the tests hold. -/
def Criteria.meets : Criteria → List Bool → Bool
  | .all, truths => truths.all id
  | .one, truths => truths.any id

/-- Whether the tests hold, taken together. -/
def ConditionSet.holds (valuation : Valuation) (subject : String) (set : ConditionSet) : Bool :=
  set.criteria.meets (set.conditions.map (Condition.holds valuation subject))

/-- A text is written as an operand: an input is named without line breaks, a state or
an item by an operand, and any other text has no carriage return. -/
def IsLegibleText (content : String) : Prop :=
  match Binding.prop? (.text content), Binding.expression? (.text content) with
  | some path, _ => ∀ character ∈ path.toList, isLineBreak character = false
  | none, some expression => isOperand expression.toList = true
  | none, none => '\r' ∉ content.toList

/-- The operands that a test shows can be read.  Only texts can be illegible. -/
def Condition.IsLegible (condition : Condition) : Prop :=
  condition.operation ∈ comparisons → ∀ content, condition.operand = some (.text content) →
    IsLegibleText content

theorem isOperand_expression {scalar : Scalar}
    (legible : ∀ content, scalar = .text content → IsLegibleText content) :
    isOperand scalar.expression.toList = true := by
  cases scalar with
  | bool value => cases value <;> decide
  | int number => exact isOperand_int number
  | real number => exact isOperand_real number
  | text content =>
      have legible := legible content rfl
      unfold IsLegibleText at legible
      unfold Scalar.expression
      cases bound : Binding.prop? (.text content) with
      | some path =>
          have expressed : Binding.expression? (.text content) = some (memberPath "props" path) := by
            rw [Binding.expression?, bound]
          rw [bound] at legible
          rw [Scalar.toValue, expressed]
          exact isOperand_memberPath (by decide) legible
      | none =>
          rw [bound] at legible
          cases expressed : Binding.expression? (.text content) with
          | some expression =>
              rw [expressed] at legible
              rw [Scalar.toValue, expressed]
              exact legible
          | none =>
              rw [expressed] at legible
              rw [Scalar.toValue, expressed]
              exact isOperand_quote legible

theorem isOperand_optionalExpression {operand : Option Scalar}
    (legible : ∀ content, operand = some (.text content) → IsLegibleText content) :
    isOperand (Scalar.optionalExpression operand).toList = true := by
  cases operand with
  | none => decide
  | some scalar =>
      exact isOperand_expression fun content same => legible content (congrArg some same)

/-! ## One test -/

theorem operator?_of_comparison : ∀ operation ∈ comparisons,
    operator? operation.toList = some (.comparison operation) ∧
      operation.toList.all isOperatorPart = true := by
  decide

/-- A test is read as an expression that holds when the test does, at any level. -/
theorem leads_test {condition : Condition} (legible : condition.IsLegible) {subject : String}
    (operand : isOperand subject.toList = true) :
    ∃ read negations, (∀ level outer, Leads (condition.test subject).toList
        (.expecting level 0 outer) (.behind read level negations outer)) ∧
      ∀ valuation, (negated negations read).holds valuation =
        condition.holds valuation subject := by
  unfold Condition.test Condition.holds
  by_cases compares : condition.operation ∈ comparisons
  · refine ⟨.comparison subject condition.operation
      (Scalar.optionalExpression condition.operand), 0, fun level outer => ?_, fun valuation => ?_⟩
    · rcases operator?_of_comparison _ compares with ⟨known, parts⟩
      have left : Leads subject.toList (.expecting level 0 outer)
          (.behind (.operand subject) level 0 outer) := leads_operand operand rfl
      have right : Leads (Scalar.optionalExpression condition.operand).toList
          (.comparing subject condition.operation level outer) (.behind (.comparison subject
            condition.operation (Scalar.optionalExpression condition.operand)) level 0 outer) :=
        leads_operand (isOperand_optionalExpression (legible compares)) rfl
      rw [if_pos compares]
      simp only [String.toList_append, List.append_assoc]
      exact left.operator known parts rfl right
    · rw [if_pos compares]
      rfl
  · rw [if_neg compares]
    by_cases falsy : condition.operation = "falsy"
    · refine ⟨.operand subject, 1, fun level outer => ?_, fun valuation => ?_⟩
      · rw [if_pos falsy, String.toList_append]
        exact leads_negation operand rfl rfl
      · rw [if_neg compares, if_pos falsy]
        rfl
    · refine ⟨.operand subject, 0, fun level outer => ?_, fun valuation => ?_⟩
      · rw [if_neg falsy]
        exact leads_operand operand rfl
      · rw [if_neg compares, if_neg falsy]
        rfl

/-! ## Several tests -/

namespace Criteria

/-- The operator between tests without its blanks. -/
def mark : Criteria → List Char
  | .all => ['&', '&']
  | .one => ['|', '|']

/-- The token of the operator. -/
def token : Criteria → Token
  | .all => .both
  | .one => .either

theorem toList_operator (criteria : Criteria) :
    criteria.operator.toList = ' ' :: (criteria.mark ++ [' ']) := by
  cases criteria <;> rfl

theorem operator?_mark (criteria : Criteria) :
    operator? criteria.mark = some criteria.token ∧ criteria.mark.all isOperatorPart = true := by
  cases criteria <;> decide

/-- The level at which the tests before the next one are kept. -/
def level (before : Option Expression) : Criteria → Level
  | .all => { conjuncts := before }
  | .one => { alternatives := before }

/-- The tests so far and one more. -/
def join (before : Option Expression) (last : Expression) : Criteria → Expression
  | .all => joined .conjunction before last
  | .one => joined .disjunction before last

theorem close_level (criteria : Criteria) (before : Option Expression) (last : Expression) :
    (criteria.level before).close last = criteria.join before last := by
  cases criteria <;> rfl

theorem level_none (criteria : Criteria) : criteria.level none = {} := by
  cases criteria <;> rfl

theorem step_token (criteria : Criteria) (read : Expression) (before : Option Expression)
    (negations : Nat) (outer : List (Level × Nat)) :
    (Reading.behind read (criteria.level before) negations outer).step criteria.token =
      some (.expecting (criteria.level (some (criteria.join before (negated negations read)))) 0
        outer) := by
  cases criteria <;> rfl

theorem holds_join (criteria : Criteria) (before : Option Expression) (last : Expression)
    (valuation : Valuation) :
    (criteria.join before last).holds valuation =
      criteria.meets ((before.toList.map (Expression.holds valuation)) ++ [last.holds valuation]) := by
  cases criteria with
  | all =>
      cases before with
      | none => exact (Bool.and_true _).symm
      | some left => exact congrArg (left.holds valuation && ·) (Bool.and_true _).symm
  | one =>
      cases before with
      | none => exact (Bool.or_false _).symm
      | some left => exact congrArg (left.holds valuation || ·) (Bool.or_false _).symm

/-- What some tests come to counts as one test among others. -/
theorem meets_append (criteria : Criteria) (truths others : List Bool) :
    criteria.meets (criteria.meets truths :: others) = criteria.meets (truths ++ others) := by
  cases criteria with
  | all => exact List.all_append.symm
  | one => exact List.any_append.symm

end Criteria

/-- The tests of a set are read as one expression behind those that were read before.
By induction on the tests: each operator moves the tests so far to the left. -/
theorem leads_tests (criteria : Criteria) {subject : String}
    (operand : isOperand subject.toList = true) {conditions : List Condition}
    (nonempty : conditions ≠ []) (legible : ∀ condition ∈ conditions, condition.IsLegible)
    (before : Option Expression) :
    ∃ read negations left, (∀ outer, Leads
        (Text.joinWith criteria.operator (conditions.map (·.test subject))).toList
        (.expecting (criteria.level before) 0 outer)
        (.behind read (criteria.level left) negations outer)) ∧
      ∀ valuation, (criteria.join left (negated negations read)).holds valuation =
        criteria.meets (before.toList.map (Expression.holds valuation) ++
          conditions.map (Condition.holds valuation subject)) := by
  induction conditions generalizing before with
  | nil => exact absurd rfl nonempty
  | cons condition rest inductionHypothesis =>
      rw [List.forall_mem_cons] at legible
      rcases leads_test legible.1 operand with ⟨read, negations, leads, holds⟩
      cases rest with
      | nil =>
          refine ⟨read, negations, before, fun outer => leads _ outer, fun valuation => ?_⟩
          rw [criteria.holds_join, holds]
          rfl
      | cons next others =>
          obtain ⟨last, count, left, onward, meaning⟩ := inductionHypothesis (List.cons_ne_nil _ _)
            legible.2 (some (criteria.join before (negated negations read)))
          refine ⟨last, count, left, fun outer => ?_, fun valuation => ?_⟩
          · have spaced := (leads (criteria.level before) outer).operator criteria.operator?_mark.1
              criteria.operator?_mark.2 (criteria.step_token read before negations outer)
              (onward outer)
            rw [List.map_cons, List.map_cons, Text.joinWith_cons_cons, String.toList_append,
              String.toList_append, criteria.toList_operator, List.append_assoc, List.cons_append,
              List.append_assoc]
            exact spaced
          · rw [meaning, Option.toList_some, List.map_singleton, List.singleton_append,
              criteria.holds_join, criteria.meets_append, holds, List.append_assoc]
            rfl

/-! ## Guards -/

/-- A guard with tests is read at any level as an expression that holds when the tests
do. -/
theorem leads_guard {set : ConditionSet} {subject : String}
    (operand : isOperand subject.toList = true)
    (legible : ∀ condition ∈ set.conditions, condition.IsLegible) (nonempty : set.conditions ≠ []) :
    ∃ read negations, (∀ level outer, Leads (set.guard subject).toList (.expecting level 0 outer)
        (.behind read level negations outer)) ∧
      ∀ valuation, (negated negations read).holds valuation = set.holds valuation subject := by
  rcases set with ⟨conditions, criteria⟩
  cases conditions with
  | nil => exact absurd rfl nonempty
  | cons condition rest =>
      cases rest with
      | nil =>
          rcases leads_test (legible condition List.mem_cons_self) operand with
            ⟨read, negations, leads, holds⟩
          refine ⟨read, negations, leads, fun valuation => ?_⟩
          rw [holds]
          cases criteria with
          | all => exact (Bool.and_true _).symm
          | one => exact (Bool.or_false _).symm
      | cons next others =>
          rcases leads_tests criteria operand nonempty legible none with
            ⟨read, negations, left, leads, holds⟩
          refine ⟨criteria.join left (negated negations read), 0, fun level outer => ?_, holds⟩
          have inside := leads ((level, 0) :: outer)
          rw [criteria.level_none] at inside
          have whole := leads_parentheses inside
          rw [criteria.close_level] at whole
          have written : (ConditionSet.guard ⟨condition :: next :: others, criteria⟩ subject).toList =
              '(' :: ((Text.joinWith criteria.operator
                ((condition :: next :: others).map (·.test subject))).toList ++ [')']) := by
            rw [ConditionSet.guard, List.map_cons, List.map_cons]
            simp only [String.toList_append]
            rfl
          rw [written]
          exact whole

/-- What is written of a guarded part before its body. -/
def guardOpening (level : Int) (guard : String) : String :=
  guard ++ " && (\n" ++ Text.innerPadding level

/-- What is written of a guarded part behind its body. -/
def guardClosing (level : Int) : String :=
  "\n" ++ Text.padding level ++ ")"

theorem render_guarded (level : Int) (guard : String) (body : Markup) :
    (Markup.guarded guard body).render level = (body.render (level + 1)).map fun inner =>
      "\x7b" ++ (guardOpening level guard ++ inner ++ guardClosing level) ++ "\x7d" := by
  rw [Markup.render]
  cases body.render (level + 1) with
  | error fault => rfl
  | ok inner =>
      have closing : ")\x7d" = ")" ++ "\x7d" := rfl
      refine congrArg Except.ok ?_
      rw [closing]
      simp only [guardOpening, guardClosing, String.append_assoc]

theorem isWhiteSpace_of_blank {padding : List Char} (blank : ∀ character ∈ padding, character = ' ') :
    ∀ character ∈ '\n' :: padding, isWhiteSpace character = true := by
  refine List.forall_mem_cons.mpr ⟨by decide, fun character member => ?_⟩
  rw [blank character member]
  decide

/-- In front of its body, a guard is the conjunct to the left of an open parenthesis. -/
theorem leads_guardOpening {guard : String} {read : Expression} {negations : Nat}
    (leads : Leads guard.toList (.expecting {} 0 []) (.behind read {} negations [])) (level : Int) :
    Leads (guardOpening level guard).toList (.expecting {} 0 [])
      (.expecting {} 0 [({ conjuncts := some (negated negations read) }, 0)]) := by
  have known : operator? ['&', '&'] = some .both := by decide
  have blank : ∀ character ∈ '\n' :: (Text.innerPadding level).toList,
      isWhiteSpace character = true := isWhiteSpace_of_blank fun _ => Text.mem_innerPadding
  have opened := leads.operator known (by decide) rfl ((leads_opening _ 0 []).trail blank)
  have written : (guardOpening level guard).toList = guard.toList ++ ' ' :: (['&', '&'] ++ ' ' ::
      (['('] ++ '\n' :: (Text.innerPadding level).toList)) := by
    simp only [guardOpening, String.toList_append, List.append_assoc]
    rfl
  rw [written]
  exact opened

theorem leads_guardClosing (level : Int) (read left : Expression) :
    Leads (guardClosing level).toList (.behind read {} 0 [({ conjuncts := some left }, 0)])
      (.behind read { conjuncts := some left } 0 []) := by
  have blank : ∀ character ∈ '\n' :: (Text.padding level).toList,
      isWhiteSpace character = true := isWhiteSpace_of_blank fun _ => Text.mem_padding
  have closed := (leads_closing read {} { conjuncts := some left } 0 0 []).skip blank
  have written : (guardClosing level).toList = ('\n' :: (Text.padding level).toList) ++ [')'] := by
    simp only [guardClosing, String.toList_append]
    rfl
  rw [written]
  exact closed

/-- A guard without tests stops the reader, whatever stands behind it. -/
theorem advance_guard_of_empty {set : ConditionSet} (empty : set.conditions = []) (subject : String)
    (rest : List Char) :
    (Reading.expecting {} 0 []).advance ((set.guard subject).toList ++ rest) = none := by
  have written : set.guard subject = "()" := by
    rw [ConditionSet.guard, empty]
    rfl
  rw [written]
  exact advance_empty_parentheses {} 0 [] rest

/-- A guard is a complete expression that holds when its tests do, all of them or one,
exactly when it has a test.  So it is in front of every body that is rendered: what is
written there is read as the conjunction of the tests with the body, which counts as
one operand.  A guard without tests is no expression, alone or in front of a body. -/
theorem guard_means_its_tests_iff (level : Int) {set : ConditionSet} {subject : String}
    (subjectReads : isOperand subject.toList = true)
    (legible : ∀ condition ∈ set.conditions, condition.IsLegible) :
    ((∃ expression, readExpression (set.guard subject) = some expression ∧
        ∀ valuation, expression.holds valuation = set.holds valuation subject) ↔
      set.conditions ≠ []) ∧
    ∀ body inner, Markup.render (level + 1) body = .ok inner →
      (Markup.guarded (set.guard subject) body).render level =
        .ok ("\x7b" ++ (guardOpening level (set.guard subject) ++ inner ++ guardClosing level) ++
          "\x7d") ∧
      ((∃ expression, readAround (guardOpening level (set.guard subject)) inner
            (guardClosing level) = some expression ∧
          ∀ valuation, expression.holds valuation =
            (set.holds valuation subject && valuation.truth inner)) ↔
        set.conditions ≠ []) := by
  refine ⟨⟨?_, fun nonempty => ?_⟩, fun body inner rendered => ⟨?_, ?_, fun nonempty => ?_⟩⟩
  · rintro ⟨expression, read, _⟩ empty
    have nothing := advance_guard_of_empty empty subject []
    rw [List.append_nil] at nothing
    rw [readExpression, nothing] at read
    cases read
  · rcases leads_guard subjectReads legible nonempty with ⟨read, negations, leads, holds⟩
    exact ⟨_, readExpression_of_leads (leads {} []), holds⟩
  · rw [render_guarded, rendered]
    rfl
  · rintro ⟨expression, read, _⟩ empty
    rw [readAround, guardOpening, String.append_assoc, String.toList_append,
      advance_guard_of_empty empty] at read
    cases read
  · rcases leads_guard subjectReads legible nonempty with ⟨read, negations, leads, holds⟩
    have opened := (leads_guardOpening (leads {} []) level).advance_eq
    have closed := (leads_guardClosing level (.operand inner) (negated negations read)).advance_eq
    refine ⟨.conjunction (negated negations read) (.operand inner), ?_, fun valuation => ?_⟩
    · rw [readAround, opened, Option.bind_some, Reading.step, Option.bind_some, closed]
      rfl
    · rw [← holds]
      rfl

/-- Two tests, one of them with a text that looks like an expression itself. -/
def doorTests : ConditionSet :=
  ⟨[⟨"===", some (.text "it's (a && b)")⟩, ⟨"falsy", none⟩], .one⟩

/-- In front of an empty fragment the guard of the two tests means one of them, and a
guard without tests means nothing. -/
theorem doorTests_mean_one_of_them :
    (∃ expression, readAround (guardOpening 2 (doorTests.guard "door")) "<></>" (guardClosing 2) =
        some expression ∧
      ∀ valuation, expression.holds valuation =
        ((valuation.compares "door" "===" "'it\\'s (a && b)'" || !valuation.truth "door") &&
          valuation.truth "<></>")) ∧
    (ConditionSet.mk [] .all).guard "door" = "()" ∧
    ¬ ∃ expression, readExpression ((ConditionSet.mk [] .all).guard "door") = some expression ∧
      ∀ valuation, expression.holds valuation = true := by
  have subjectReads : isOperand "door".toList = true := by decide
  refine ⟨?_, rfl, fun means => ?_⟩
  · have legible : ∀ condition ∈ doorTests.conditions, condition.IsLegible := by
      intro condition member compares content shown
      rcases List.mem_cons.mp member with rfl | later
      · cases shown
        exact (by decide : '\r' ∉ "it's (a && b)".toList)
      · rw [List.mem_singleton.mp later] at shown
        cases shown
    have rendered : Markup.render (2 + 1) (.element ⟨none, "", [], []⟩) = .ok "<></>" := by
      simp [Markup.render, Element.render, renderAttributes, renderChildren]
      rfl
    obtain ⟨expression, read, holds⟩ := ((guard_means_its_tests_iff 2 subjectReads
      legible).2 _ _ rendered).2.mpr (List.cons_ne_nil _ _)
    refine ⟨expression, read, fun valuation => ?_⟩
    rw [holds]
    have written : Scalar.optionalExpression (some (.text "it's (a && b)")) =
        "'it\\'s (a && b)'" := by
      decide +kernel
    simp [doorTests, ConditionSet.holds, Criteria.meets, Condition.holds, comparisons, written]
  · exact (guard_means_its_tests_iff 0 subjectReads
      fun _ impossible => absurd impossible List.not_mem_nil).1.mp means rfl

end ComponentCompiler
