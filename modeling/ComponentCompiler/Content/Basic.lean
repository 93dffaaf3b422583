import ComponentCompiler.Content.Dependency

namespace ComponentCompiler

open Number

/-!
# Component descriptions

A component is described by a tree of abstract elements.  A node names its
type and itself and may carry a style, attributes, events, children, content
repeated over a source, branches chosen by a state, and a dependency.  A list
that is absent and an empty one are different: an absent one can be filled in
by the mapping of the node's type.
-/

/-- A value without parts. -/
inductive Scalar where
  | text (content : String)
  | bool (value : Bool)
  | int (value : Int)
  | real (value : Binary64)
deriving DecidableEq, Repr

/-- A scalar as a value. -/
def Scalar.toValue : Scalar → Value
  | .text content => .text content
  | .bool value => .bool value
  | .int value => .int value
  | .real value => .real value

/-- One test of a state. -/
structure Condition where
  operation : String
  operand : Option Scalar
deriving DecidableEq, Repr

/-- Whether all tests have to hold or one. -/
inductive Criteria where
  | all
  | one
deriving DecidableEq, Repr

/-- The word for the criteria in documents. -/
def Criteria.word : Criteria → String
  | .all => "all"
  | .one => "one"

/-- Tests of a state, taken together. -/
structure ConditionSet where
  conditions : List Condition
  criteria : Criteria
deriving DecidableEq, Repr

/-- What a state is compared with to choose a branch. -/
inductive BranchTest where
  | equals (value : Scalar)
  | conditions (set : ConditionSet)
deriving DecidableEq, Repr

/-- One statement of an event handler. -/
structure Statement where
  type : String
  modifies : Option String
  newState : Option Scalar
  calls : Option String
  args : Option (List Scalar)
deriving DecidableEq, Repr

/-- What content is repeated over: a binding or other text, or listed items. -/
inductive DataSource where
  | text (content : String)
  | items (values : List Value)

/-- A data source as a value. -/
def DataSource.toValue : DataSource → Value
  | .text content => .text content
  | .items values => .list values

mutual

/-- An abstract element with all that it declares. -/
structure ContentNode where
  type : String
  name : String
  style : Option Fields
  attrs : Option Fields
  events : Option (List (String × List Statement))
  children : Option (List Child)
  repetition : Option Repetition
  states : Option (List Branch)
  dependency : Option Dependency

/-- A child of a node. -/
inductive Child where
  | node (node : ContentNode)
  | text (content : String)

/-- Content repeated over a data source. -/
structure Repetition where
  content : ContentNode
  source : DataSource
  notes : Option Fields

/-- Content shown for one value of a state. -/
structure Branch where
  test : BranchTest
  content : Child

end

/-- The declaration of an input of a component. -/
structure PropDefinition where
  type : String
  defaultValue : Value

/-- One value that a state can have. -/
structure StateValue where
  value : Scalar
  notes : Option Fields
  transitions : Value

/-- The declaration of a state of a component. -/
structure StateDefinition where
  type : String
  defaultValue : Value
  values : Option (List StateValue)
  actions : Option (List String)

/-- The description of a component. -/
structure Component where
  name : String
  content : ContentNode
  notes : Option Fields
  props : Option (Entries String PropDefinition)
  states : Option (Entries String StateDefinition)

/-- What an abstract element type stands for. -/
structure ElementMapping where
  type : String
  dependency : Option Dependency
  attrs : Option Fields
  children : Option (List Child)
  repetition : Option Repetition

/-- Element types with what they stand for. -/
abbrev MappingTable := Entries Key ElementMapping

end ComponentCompiler
