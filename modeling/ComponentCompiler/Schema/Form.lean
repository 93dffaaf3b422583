import ComponentCompiler.Content.Basic

namespace ComponentCompiler
namespace Schema

/-!
# Models as documents

A model is written back as a map of all its fields, each under its plain name.
An absent field is written as null.
-/

/-- A map with text keys. -/
def record (fields : List (String × Value)) : Value :=
  Fields.toValue fields

/-- A value that may be absent. -/
def formOption {α : Type} (form : α → Value) : Option α → Value
  | none => .null
  | some value => form value

/-- A text that may be absent. -/
def formText (text : Option String) : Value :=
  formOption .text text

/-- A list of models. -/
def formList {α : Type} (form : α → Value) (items : List α) : Value :=
  .list (items.map form)

/-- A map of models. -/
def formMap {α : Type} (form : α → Value) (entries : List (String × α)) : Value :=
  record (entries.map fun entry => (entry.1, form entry.2))

/-- The import details as a document. -/
def formImportDetails (details : ImportDetails) : Value :=
  record [("named_import", formOption .bool details.named),
    ("original_name", formText details.exported), ("path", formText details.path),
    ("version", formText details.version)]

/-- A dependency as a document. -/
def formDependency (dependency : Dependency) : Value :=
  record [("type", .text dependency.kind.word), ("path", formText dependency.path),
    ("version", formText dependency.version),
    ("meta", formOption formImportDetails dependency.details)]

/-- A test as a document. -/
def formCondition (condition : Condition) : Value :=
  record [("operation", .text condition.operation),
    ("operand", formOption Scalar.toValue condition.operand)]

/-- Tests as a document. -/
def formConditionSet (set : ConditionSet) : Value :=
  record [("conditions", formList formCondition set.conditions),
    ("matching_criteria", .text set.criteria.word)]

/-- The test of a branch as a document. -/
def formBranchTest : BranchTest → Value
  | .equals value => value.toValue
  | .conditions set => formConditionSet set

/-- A statement as a document. -/
def formStatement (statement : Statement) : Value :=
  record [("type", .text statement.type), ("modifies", formText statement.modifies),
    ("new_state", formOption Scalar.toValue statement.newState),
    ("calls", formText statement.calls),
    ("args", formOption (formList Scalar.toValue) statement.args)]

/-- Fields that may be absent. -/
def formFields (fields : Option Fields) : Value :=
  formOption Fields.toValue fields

mutual

/-- A content node as a document. -/
def formNode : ContentNode → Value
  | ⟨type, name, style, attrs, events, children, repetition, states, dependency⟩ =>
    record [("type", .text type), ("name", .text name), ("style", formFields style),
      ("attrs", formFields attrs),
      ("events", formOption (formMap (formList formStatement)) events),
      ("children", formChildren children), ("repeat", formRepetitionOption repetition),
      ("states", formStates states), ("dependency", formOption formDependency dependency)]

/-- A child as a document. -/
def formChild : Child → Value
  | .node node => formNode node
  | .text content => .text content

/-- Children as a document. -/
def formChildren : Option (List Child) → Value
  | none => .null
  | some children => .list (formChildList children)

/-- Listed children as documents. -/
def formChildList : List Child → List Value
  | [] => []
  | child :: rest => formChild child :: formChildList rest

/-- Repeated content as a document. -/
def formRepetition : Repetition → Value
  | ⟨content, source, notes⟩ =>
    record [("content", formNode content), ("data_source", source.toValue),
      ("meta", formFields notes)]

/-- Repeated content that may be absent. -/
def formRepetitionOption : Option Repetition → Value
  | none => .null
  | some repetition => formRepetition repetition

/-- Branches as a document. -/
def formStates : Option (List Branch) → Value
  | none => .null
  | some branches => .list (formBranchList branches)

/-- Listed branches as documents. -/
def formBranchList : List Branch → List Value
  | [] => []
  | branch :: rest => formBranch branch :: formBranchList rest

/-- A branch as a document. -/
def formBranch : Branch → Value
  | ⟨test, content⟩ => record [("value", formBranchTest test), ("content", formChild content)]

end

/-- The declaration of an input as a document. -/
def formPropDefinition (definition : PropDefinition) : Value :=
  record [("type", .text definition.type), ("default_value", definition.defaultValue)]

/-- A value of a state as a document. -/
def formStateValue (state : StateValue) : Value :=
  record [("value", state.value.toValue), ("meta", formFields state.notes),
    ("transitions", state.transitions)]

/-- The declaration of a state as a document. -/
def formStateDefinition (definition : StateDefinition) : Value :=
  record [("type", .text definition.type), ("default_value", definition.defaultValue),
    ("values", formOption (formList formStateValue) definition.values),
    ("actions", formOption (formList .text) definition.actions)]

/-- The description of a component as a document. -/
def formComponent (component : Component) : Value :=
  record [("name", .text component.name), ("content", formNode component.content),
    ("meta", formFields component.notes),
    ("prop_definitions", formOption (formMap formPropDefinition) component.props),
    ("state_definitions", formOption (formMap formStateDefinition) component.states)]

/-- The mapping of an element type as a document. -/
def formElementMapping (mapping : ElementMapping) : Value :=
  record [("type", .text mapping.type),
    ("dependency", formOption formDependency mapping.dependency),
    ("attrs", formFields mapping.attrs), ("children", formChildren mapping.children),
    ("repeat", formRepetitionOption mapping.repetition)]

end Schema
end ComponentCompiler
