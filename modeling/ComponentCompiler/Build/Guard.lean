import ComponentCompiler.Build.Binding

namespace ComponentCompiler

open Script

/-!
# Guards of branches

A branch is shown when the subject of its node passes the test of the branch.
The subject is what the node is named for: a binding, a state, an input, or
else a name that is taken as it is.
-/

/-- The names that a component declares. -/
structure Scope where
  component : String
  states : List String
  props : List String

/-- The names that a component declares. -/
def Component.scope (component : Component) : Scope :=
  { component := component.name
    states := Entries.keys (component.states.getD [])
    props := Entries.keys (component.props.getD []) }

/-- The expression that the branches of a node of this name are chosen by. -/
def Scope.subject (scope : Scope) (name : String) : String :=
  match Binding.expression? (.text name) with
  | some expression => expression
  | none =>
    if name ∈ scope.states then name
    else if name ∈ scope.props then member "props" name
    else name

/-- The operations that compare the subject with an operand. -/
def comparisons : List String :=
  ["==", "===", "!=", "!==", ">", ">=", "<", "<="]

/-- The text of one test.  An operation that is not known tests the subject
itself. -/
def Condition.test (condition : Condition) (subject : String) : String :=
  if condition.operation ∈ comparisons then
    subject ++ " " ++ condition.operation ++ " " ++ Scalar.optionalExpression condition.operand
  else if condition.operation = "falsy" then "!" ++ subject
  else subject

/-- The operator between tests. -/
def Criteria.operator : Criteria → String
  | .all => " && "
  | .one => " || "

/-- The text of several tests.  A single test stands bare. -/
def ConditionSet.guard (set : ConditionSet) (subject : String) : String :=
  match set.conditions.map fun condition => condition.test subject with
  | [test] => test
  | tests => "(" ++ Text.joinWith set.criteria.operator tests ++ ")"

/-- The scalars that the guard of a branch shows. -/
def BranchTest.shown : BranchTest → List Scalar
  | .equals value => [value]
  | .conditions set =>
    set.conditions.filterMap fun condition =>
      if condition.operation ∈ comparisons then condition.operand else none

/-- The condition under which a branch is shown. -/
def BranchTest.guard (test : BranchTest) (subject : String) : String :=
  match test with
  | .equals value => subject ++ " === " ++ value.literal
  | .conditions set => set.guard subject

end ComponentCompiler
