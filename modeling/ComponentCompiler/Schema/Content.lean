import ComponentCompiler.Content.Basic
import ComponentCompiler.Schema.Number

namespace ComponentCompiler
namespace Schema

/-!
# Checking component descriptions

Each model is read from a map by its fields.  A field with two names is looked
for under the first one first, and a present null counts as present.  A field
that takes values of several kinds takes the one of the value's own kind; when
there is none, the issues of every kind are reported under its label.
Content nodes hold content nodes, so their check recurs on smaller parts.  A
document can hold a value that stands inside itself; such a value is checked
against a model only once on the way down.
-/

/-- How a name is imported. -/
def checkImportDetails (whole : Value) : Checked ImportDetails :=
  checkModel "DependencyMeta" whole fun _ =>
    ImportDetails.mk
      <$> optional whole ["namedImport", "named_import"] (fun part _ => checkBool part)
      <*> optional whole ["originalName", "original_name"] (fun part _ => checkText part)
      <*> optional whole ["path"] (fun part _ => checkText part)
      <*> optional whole ["version"] (fun part _ => checkText part)

/-- The words for the kinds of dependencies. -/
def dependencyKinds : List (String × DependencyKind) :=
  DependencyKind.all.map fun kind => (kind.word, kind)

/-- How an identifier is imported. -/
def checkDependency (whole : Value) : Checked Dependency :=
  checkModel "ComponentDependency" whole fun _ =>
    Dependency.mk
      <$> defaulted whole ["type", "kind"] .library (checkChoice .notLiteral dependencyKinds)
      <*> optional whole ["path"] (fun part _ => checkText part)
      <*> optional whole ["version"] (fun part _ => checkText part)
      <*> optional whole ["meta"] (fun part _ => checkImportDetails part)

/-- The issues of a value that is no scalar: one for every kind. -/
def scalarIssues (value : Value) : List Issue :=
  [⟨.notText, [.key "str"], value⟩, ⟨.notBool, [.key "bool"], value⟩,
   ⟨.notInt, [.key "int"], value⟩, ⟨.notNumber, [.key "float"], value⟩]

/-- The issues of bytes that encode no text: one for every kind. -/
def undecodableIssues (value : Value) : List Issue :=
  [⟨.undecodableText, [.key "str"], value⟩, ⟨.unreadableBool, [.key "bool"], value⟩,
   ⟨.unreadableInt, [.key "int"], value⟩, ⟨.unreadableNumber, [.key "float"], value⟩]

/-- A value without parts.  Bytes stand for the text that they encode. -/
def checkScalar : Value → Checked Scalar
  | .text content => .valid (.text content)
  | .bool value => .valid (.bool value)
  | .int value => .valid (.int value)
  | .real value => .valid (.real value)
  | .bytes content =>
    match textOfBytes? content with
    | some text => .valid (.text text)
    | none => .invalid (undecodableIssues (.bytes content))
  | other => .invalid (scalarIssues other)

/-- One test of a state. -/
def checkCondition (whole : Value) : Checked Condition :=
  checkModel "Condition" whole fun _ =>
    Condition.mk
      <$> required whole ["operation"] (fun part _ => checkText part)
      <*> optional whole ["operand"] (fun part _ => checkScalar part)

/-- The words for the criteria. -/
def criteriaWords : List (String × Criteria) :=
  [Criteria.all, Criteria.one].map fun criteria => (criteria.word, criteria)

/-- Tests of a state, taken together. -/
def checkConditionSet (whole : Value) : Checked ConditionSet :=
  checkModel "ConditionalExpression" whole fun _ =>
    ConditionSet.mk
      <$> required whole ["conditions"] (fun part _ =>
        checkList part fun item _ => checkCondition item)
      <*> defaulted whole ["matchingCriteria", "matching_criteria"] .all
        (checkChoice .notLiteral criteriaWords)

/-- The scalar that a text in bytes stands for, where truth values and numbers
come before text. -/
def scalarOfText (text : String) : Scalar :=
  match boolOfWord? text, checkIntText text .null, checkNumberText text .null with
  | some truth, _, _ => .bool truth
  | none, .valid number, _ => .int number
  | none, .invalid _, .valid number => .real number
  | none, .invalid _, .invalid _ => .text text

/-- What a state is compared with: tests or a scalar. -/
def checkBranchTest (value : Value) : Checked BranchTest :=
  match value with
  | .text content => .valid (.equals (.text content))
  | .bool truth => .valid (.equals (.bool truth))
  | .int number => .valid (.equals (.int number))
  | .real number => .valid (.equals (.real number))
  | .bytes content =>
    match textOfBytes? content with
    | some text => .valid (.equals (scalarOfText text))
    | none =>
      .invalid (⟨.notModel "ConditionalExpression", [.key "ConditionalExpression"], value⟩ ::
        undecodableIssues value)
  | other =>
    match (checkConditionSet other).under (.key "ConditionalExpression") with
    | .valid set => .valid (.conditions set)
    | .invalid issues => .invalid (issues ++ scalarIssues other)

/-- One statement of an event handler. -/
def checkStatement (whole : Value) : Checked Statement :=
  checkModel "EventHandlerStatement" whole fun _ =>
    Statement.mk
      <$> required whole ["type"] (fun part _ => checkText part)
      <*> optional whole ["modifies"] (fun part _ => checkText part)
      <*> optional whole ["newState", "new_state"] (fun part _ => checkScalar part)
      <*> optional whole ["calls"] (fun part _ => checkText part)
      <*> optional whole ["args"] (fun part _ => checkList part fun item _ => checkScalar item)

/-- What content is repeated over.  Tuples and sets count as lists, and bytes
stand for the text that they encode. -/
def checkDataSource : Value → Checked DataSource
  | .text content => .valid (.text content)
  | .list items => .valid (.items items)
  | .tuple items => .valid (.items items)
  | .set items => .valid (.items items)
  | .enclosing _ (some (.list items)) => .valid (.items items)
  | .bytes content =>
    match textOfBytes? content with
    | some text => .valid (.text text)
    | none =>
      .invalid [⟨.undecodableText, [.key "str"], .bytes content⟩,
        ⟨.notList, [.key "list[any]"], .bytes content⟩]
  | other => .invalid [⟨.notText, [.key "str"], other⟩, ⟨.notList, [.key "list[any]"], other⟩]

/-! ## Values inside themselves -/

/-- The models that the values around a part are being checked against, from the
inside out. -/
abbrev Around := List (List String)

/-- What is around the parts of a value. -/
def Around.within (around : Around) : Value → Around
  | .enclosing distance _ => around.drop distance
  | _ => [] :: around

/-- What is around the parts of a value that is checked against a model.  There
is nothing when the value is already being checked against it. -/
def Around.enter? (around : Around) (model : String) (whole : Value) : Option Around :=
  match around.within whole with
  | models :: others => if model ∈ models then none else some ((model :: models) :: others)
  | [] => none

/-- A model that can hold itself. -/
def checkNested {α : Type} (model : String) (around : Around) (whole : Value)
    (fields : Around → Checked α) : Checked α :=
  match around.enter? model whole with
  | some inner => checkModel model whole fun _ => fields inner
  | none => reject .endless whole

/-! ## Content -/

/-- A child: text, or a node as the given check finds it. -/
def checkChildWith (value : Value) (asNode : Checked ContentNode) : Checked Child :=
  match value with
  | .text content => .valid (.text content)
  | other =>
    match asNode.under (.key "ContentNode") with
    | .valid node => .valid (.node node)
    | .invalid issues =>
      match (checkText other).under (.key "str") with
      | .valid text => .valid (.text text)
      | .invalid others => .invalid (issues ++ others)

/-- Repeated content, with the given check of the nodes below. -/
def checkRepetitionWith (around : Around) (whole : Value)
    (checkNode : Around → (part : Value) → sizeOf part < sizeOf whole → Checked ContentNode) :
    Checked Repetition :=
  checkNested "RepeatDefinition" around whole fun inner =>
    Repetition.mk
      <$> required whole ["content"] (checkNode inner)
      <*> required whole ["dataSource", "data_source"] (fun part _ => checkDataSource part)
      <*> optional whole ["meta"] (fun part _ => checkFields part)

/-- Content for one value of a state, with the given check of the nodes below. -/
def checkBranchWith (whole : Value)
    (checkNode : (part : Value) → sizeOf part < sizeOf whole → Checked ContentNode) :
    Checked Branch :=
  checkModel "StateBranch" whole fun _ =>
    Branch.mk
      <$> required whole ["value"] (fun part _ => checkBranchTest part)
      <*> required whole ["content"] (fun part smaller =>
        checkChildWith part (checkNode part smaller))

/-- An abstract element with all that it declares. -/
def checkNodeIn (around : Around) (whole : Value) : Checked ContentNode :=
  checkNested "ContentNode" around whole fun inner =>
    ContentNode.mk
      <$> required whole ["type"] (fun part _ => checkText part)
      <*> required whole ["name", "key"] (fun part _ => checkText part)
      <*> optional whole ["style"] (fun part _ => checkFields part)
      <*> optional whole ["attrs"] (fun part _ => checkFields part)
      <*> optional whole ["events"] (fun part _ =>
        checkMap part fun value _ => checkList value fun item _ => checkStatement item)
      <*> optional whole ["children"] (fun part _inside =>
        checkList part fun item _smaller =>
          checkChildWith item (checkNodeIn (inner.within part) item))
      <*> optional whole ["repeat"] (fun part _inside =>
        checkRepetitionWith inner part fun below content _smaller => checkNodeIn below content)
      <*> optional whole ["states"] (fun part _inside =>
        checkList part fun item _smallerItem =>
          checkBranchWith item fun content _smaller =>
            checkNodeIn ((inner.within part).within item) content)
      <*> optional whole ["dependency"] (fun part _ => checkDependency part)
termination_by sizeOf whole
decreasing_by all_goals omega

/-- An abstract element that nothing is around. -/
def checkNode (whole : Value) : Checked ContentNode :=
  checkNodeIn [] whole

/-- A child: text or a node. -/
def checkChildIn (around : Around) (value : Value) : Checked Child :=
  checkChildWith value (checkNodeIn around value)

/-- Repeated content. -/
def checkRepetitionIn (around : Around) (whole : Value) : Checked Repetition :=
  checkRepetitionWith around whole fun below part _ => checkNodeIn below part

/-- Repeated content that nothing is around. -/
def checkRepetition (whole : Value) : Checked Repetition :=
  checkRepetitionIn [] whole

/-- Content for one value of a state. -/
def checkBranch (whole : Value) : Checked Branch :=
  checkBranchWith whole fun part _ => checkNodeIn [[]] part

/-- The declaration of an input. -/
def checkPropDefinition (whole : Value) : Checked PropDefinition :=
  checkModel "PropDefinition" whole fun _ =>
    PropDefinition.mk
      <$> required whole ["type"] (fun part _ => checkText part)
      <*> defaulted whole ["defaultValue", "default_value"] .null .valid

/-- One value that a state can have. -/
def checkStateValue (whole : Value) : Checked StateValue :=
  checkModel "StateValue" whole fun _ =>
    StateValue.mk
      <$> required whole ["value"] (fun part _ => checkScalar part)
      <*> optional whole ["meta"] (fun part _ => checkFields part)
      <*> defaulted whole ["transitions"] .null .valid

/-- The declaration of a state. -/
def checkStateDefinition (whole : Value) : Checked StateDefinition :=
  checkModel "StateDefinition" whole fun _ =>
    StateDefinition.mk
      <$> required whole ["type"] (fun part _ => checkText part)
      <*> required whole ["defaultValue", "default_value"] (fun part _ => .valid part)
      <*> optional whole ["values"] (fun part _ =>
        checkList part fun item _ => checkStateValue item)
      <*> optional whole ["actions"] (fun part _ => checkList part fun item _ => checkText item)

/-- The description of a component. -/
def checkComponent (whole : Value) : Checked Component :=
  checkModel "ComponentUIDL" whole fun _ =>
    Component.mk
      <$> required whole ["name"] (fun part _ => checkText part)
      <*> required whole ["content"] (fun part _ => checkNode part)
      <*> optional whole ["meta"] (fun part _ => checkFields part)
      <*> optional whole ["propDefinitions", "prop_definitions"] (fun part _ =>
        checkMap part fun value _ => checkPropDefinition value)
      <*> optional whole ["stateDefinitions", "state_definitions"] (fun part _ =>
        checkMap part fun value _ => checkStateDefinition value)

/-- What an element type stands for.  The entry stands in the table. -/
def checkElementMapping (whole : Value) : Checked ElementMapping :=
  let inner := Around.within [[]] whole
  checkModel "ElementMapping" whole fun _ =>
    ElementMapping.mk
      <$> required whole ["type", "name"] (fun part _ => checkText part)
      <*> optional whole ["dependency"] (fun part _ => checkDependency part)
      <*> optional whole ["attrs"] (fun part _ => checkFields part)
      <*> optional whole ["children"] (fun part _ =>
        checkList part fun item _ => checkChildIn (inner.within part) item)
      <*> optional whole ["repeat"] (fun part _ => checkRepetitionIn inner part)

/-- A table of element types, entry by entry.  The first entry with issues ends
the check, and its issues are told from the entry on. -/
def checkTable : List (Key × Value) → Except (List Issue) MappingTable
  | [] => .ok []
  | (type, entry) :: rest => do
    let mapping ← (checkElementMapping entry).toExcept
    let others ← checkTable rest
    return (type, mapping) :: others

end Schema
end ComponentCompiler
