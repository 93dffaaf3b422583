import ComponentCompiler.Proofs.Content.Walk
import ComponentCompiler.Schema.Content
import ComponentCompiler.Schema.Form

namespace ComponentCompiler
namespace Schema

/-!
# Models are read back from their documents

A model that is written as a document, with all its fields under their plain
names, passes its own check and comes back as it was.  A field can be looked for
under another name first, but the document has no such name, so the plain one is
found.  An absent field is written as null, which counts as absent again; what is
present is never written as null.

Content nodes hold content nodes.  Their documents are followed node by node, and
whatever is around a document makes no difference to it, because no part of it
stands inside itself.
-/

/-! ## Checks that succeed -/

/-- A check finds no issue and returns a value. -/
def Checked.Returns {α : Type} (checked : Checked α) (value : α) : Prop :=
  checked = .valid value

namespace Checked.Returns

variable {α β : Type} {value : α}

theorem map {argument : Checked α} (make : α → β) (given : argument.Returns value) :
    (make <$> argument).Returns (make value) := by
  rw [given]
  rfl

theorem seq {function : Checked (α → β)} {argument : Checked α} {make : α → β}
    (made : function.Returns make) (given : argument.Returns value) :
    (function <*> argument).Returns (make value) := by
  rw [made, given]
  rfl

theorem under {checked : Checked α} (place : Place) (given : checked.Returns value) :
    (checked.under place).Returns value := by
  rw [given]
  rfl

end Checked.Returns

/-! ## Fields of a document -/

/-- The first of some names that a document has, with what stands there. -/
def chosen? (fields : Fields) (names : List String) : Option (String × Value) :=
  names.findSome? fun name => (Entries.lookUp? fields name).map fun value => (name, value)

section Fields

variable {α : Type} {fields : Fields} {names : List String} {name : String} {part : Value}

theorem findPart?_record (fields : Fields) (name : String) :
    (findPart? name (fields.map fun field => (Key.text field.1, field.2))).map Subtype.val =
      Entries.lookUp? fields name := by
  induction fields with
  | nil => rfl
  | cons field rest inductionHypothesis =>
      rcases field with ⟨known, value⟩
      rw [List.map_cons, findPart?, Entries.lookUp?, ← inductionHypothesis]
      by_cases same : known = name
      · simp [same]
      · have otherKey : ¬ Key.text known = Key.text name := fun equal => same (Key.text.inj equal)
        rw [if_neg otherKey, if_neg same]
        cases findPart? name (rest.map fun field => (Key.text field.1, field.2)) <;> rfl

theorem firstPart?_record (fields : Fields) (names : List String) :
    (firstPart? (record fields) names).map (fun found => (found.1, found.2.1)) =
      chosen? fields names := by
  induction names with
  | nil => rfl
  | cons name others inductionHypothesis =>
      have here := findPart?_record fields name
      rw [chosen?, List.findSome?_cons, ← here, firstPart?, part?.eq_def]
      simp only [record, Fields.toValue]
      cases findPart? name (fields.map fun field => (Key.text field.1, field.2)) with
      | none => exact inductionHypothesis
      | some found => rfl

theorem exists_firstPart?_of_chosen? (found : chosen? fields names = some (name, part)) :
    ∃ smaller, firstPart? (record fields) names = some (name, ⟨part, smaller⟩) := by
  rw [← firstPart?_record] at found
  rcases Option.map_eq_some_iff.mp found with ⟨⟨known, value, smaller⟩, first, same⟩
  cases same
  exact ⟨smaller, first⟩

theorem required_reads {check : (part : Value) → sizeOf part < sizeOf (record fields) → Checked α}
    {value : α} (found : chosen? fields names = some (name, part))
    (reads : ∀ smaller, (check part smaller).Returns value) :
    (required (record fields) names check).Returns value := by
  rcases exists_firstPart?_of_chosen? found with ⟨smaller, first⟩
  unfold required
  rw [first]
  exact (reads smaller).under _

/-- A field that is written as null is absent, and any other is read. -/
theorem optional_reads {check : (part : Value) → sizeOf part < sizeOf (record fields) → Checked α}
    {form : α → Value} {given : Option α}
    (found : chosen? fields names = some (name, formOption form given))
    (present : ∀ value, form value ≠ .null)
    (reads : ∀ value ∈ given, ∀ smaller, (check (form value) smaller).Returns value) :
    (optional (record fields) names check).Returns given := by
  rcases exists_firstPart?_of_chosen? found with ⟨smaller, first⟩
  unfold optional
  rw [first]
  cases given with
  | none => rfl
  | some value =>
      have read := (reads value rfl smaller).map some
      simp only [formOption] at read ⊢
      split
      · rename_i isNull _
        exact absurd isNull (present value)
      · exact read.under _

theorem defaulted_reads {check : Value → Checked α} {absent value : α}
    (found : chosen? fields names = some (name, part)) (reads : (check part).Returns value) :
    (defaulted (record fields) names absent check).Returns value := by
  rcases exists_firstPart?_of_chosen? found with ⟨smaller, first⟩
  unfold defaulted
  rw [first]
  exact reads.under _

end Fields

/-! ## Lists and maps -/

section Several

variable {α : Type} {form : α → Value}

theorem checkItems_reads {items : List α}
    {check : (item : Value) → sizeOf item < sizeOf (items.map form) → Checked α} (position : Nat)
    (reads : ∀ item ∈ items, ∀ smaller, (check (form item) smaller).Returns item) :
    (checkItems position (items.map form) check).Returns items := by
  induction items generalizing position with
  | nil => rfl
  | cons item rest inductionHypothesis =>
      rcases List.forall_mem_cons.mp reads with ⟨here, later⟩
      apply Checked.Returns.seq (Checked.Returns.map _ ((here _).under _))
      exact inductionHypothesis _ fun other member _ => later other member _

theorem checkList_reads {items : List α}
    {check : (item : Value) → sizeOf item < sizeOf (formList form items) → Checked α}
    (reads : ∀ item ∈ items, ∀ smaller, (check (form item) smaller).Returns item) :
    (checkList (formList form items) check).Returns items :=
  checkItems_reads 0 fun item member _ => reads item member _

theorem checkEntries_reads {entries : List (String × α)}
    {check : (value : Value) → sizeOf value <
      sizeOf (entries.map fun entry => (Key.text entry.1, form entry.2)) → Checked α}
    (reads : ∀ entry ∈ entries, ∀ smaller, (check (form entry.2) smaller).Returns entry.2) :
    (checkEntries (entries.map fun entry => (Key.text entry.1, form entry.2)) check).Returns
      entries := by
  induction entries with
  | nil => rfl
  | cons entry rest inductionHypothesis =>
      rcases List.forall_mem_cons.mp reads with ⟨here, later⟩
      have key : (checkKey (.text entry.1)).Returns entry.1 := rfl
      apply Checked.Returns.seq (Checked.Returns.map _ _)
      · exact inductionHypothesis fun other member _ => later other member _
      · exact Checked.Returns.seq (Checked.Returns.map _ key) ((here _).under _)

theorem checkMap_reads {entries : List (String × α)} {whole : Value} (form : α → Value)
    (written : whole = .map (entries.map fun entry => (Key.text entry.1, form entry.2)))
    {check : (value : Value) → sizeOf value < sizeOf whole → Checked α}
    (reads : ∀ entry ∈ entries, ∀ smaller, (check (form entry.2) smaller).Returns entry.2) :
    (checkMap whole check).Returns entries := by
  subst written
  exact checkEntries_reads fun entry member _ => reads entry member _

theorem formMap_eq (entries : List (String × α)) :
    formMap form entries = .map (entries.map fun entry => (Key.text entry.1, form entry.2)) := by
  unfold formMap record Fields.toValue
  rw [List.map_map]
  rfl

theorem checkFields_toValue (fields : Fields) : (checkFields fields.toValue).Returns fields :=
  checkMap_reads id rfl fun _ _ _ => rfl

end Several

/-! ## Values without parts -/

theorem record_ne_null (fields : Fields) : record fields ≠ .null := nofun

theorem scalarValue_ne_null (value : Scalar) : value.toValue ≠ .null := by
  cases value <;> exact nofun

theorem checkScalar_reads (value : Scalar) : (checkScalar value.toValue).Returns value := by
  cases value <;> rfl

theorem checkKind_reads (kind : DependencyKind) :
    (checkChoice .notLiteral dependencyKinds (.text kind.word)).Returns kind := by
  cases kind <;> rfl

theorem checkCriteria_reads (criteria : Criteria) :
    (checkChoice .notLiteral criteriaWords (.text criteria.word)).Returns criteria := by
  cases criteria <;> rfl

theorem checkDataSource_reads (source : DataSource) :
    (checkDataSource source.toValue).Returns source := by
  cases source <;> rfl

/-! ## Models without content -/

section Fields

variable {fields : Fields} {names : List String} {name : String}

theorem optionalText_reads {given : Option String}
    (found : chosen? fields names = some (name, formText given)) :
    (optional (record fields) names fun part _ => checkText part).Returns given :=
  optional_reads found nofun fun _ _ _ => rfl

theorem optionalScalar_reads {given : Option Scalar}
    (found : chosen? fields names = some (name, formOption Scalar.toValue given)) :
    (optional (record fields) names fun part _ => checkScalar part).Returns given :=
  optional_reads found scalarValue_ne_null fun value _ _ => checkScalar_reads value

theorem optionalFields_reads {given : Option Fields}
    (found : chosen? fields names = some (name, formFields given)) :
    (optional (record fields) names fun part _ => checkFields part).Returns given :=
  optional_reads found record_ne_null fun value _ _ => checkFields_toValue value

end Fields

theorem checkImportDetails_reads (details : ImportDetails) :
    (checkImportDetails (formImportDetails details)).Returns details := by
  rcases details with ⟨named, exported, path, version⟩
  refine .seq (.seq (.seq (.map _ ?named) ?exported) ?path) ?version
  case named => exact optional_reads rfl nofun fun _ _ _ => rfl
  all_goals exact optionalText_reads rfl

theorem checkDependency_reads (dependency : Dependency) :
    (checkDependency (formDependency dependency)).Returns dependency := by
  rcases dependency with ⟨kind, path, version, details⟩
  refine .seq (.seq (.seq (.map _ ?kind) ?path) ?version) ?details
  case kind => exact defaulted_reads rfl (checkKind_reads kind)
  case details =>
      exact optional_reads rfl (fun _ => record_ne_null _) fun given _ _ =>
        checkImportDetails_reads given
  all_goals exact optionalText_reads rfl

theorem checkCondition_reads (condition : Condition) :
    (checkCondition (formCondition condition)).Returns condition := by
  rcases condition with ⟨operation, operand⟩
  refine .seq (.map _ ?operation) ?operand
  case operation => exact required_reads rfl fun _ => rfl
  case operand => exact optionalScalar_reads rfl

theorem checkConditionSet_reads (set : ConditionSet) :
    (checkConditionSet (formConditionSet set)).Returns set := by
  rcases set with ⟨conditions, criteria⟩
  refine .seq (.map _ ?conditions) ?criteria
  case conditions =>
      exact required_reads rfl fun _ => checkList_reads fun condition _ _ =>
        checkCondition_reads condition
  case criteria => exact defaulted_reads rfl (checkCriteria_reads criteria)

theorem checkBranchTest_reads (test : BranchTest) :
    (checkBranchTest (formBranchTest test)).Returns test := by
  cases test with
  | equals value => cases value <;> rfl
  | conditions set =>
      have tried := (checkConditionSet_reads set).under (.key "ConditionalExpression")
      unfold Checked.Returns formConditionSet record Fields.toValue at tried
      unfold Checked.Returns checkBranchTest formBranchTest formConditionSet record Fields.toValue
      simp only [tried]

theorem checkStatement_reads (statement : Statement) :
    (checkStatement (formStatement statement)).Returns statement := by
  rcases statement with ⟨type, modifies, newState, calls, args⟩
  refine .seq (.seq (.seq (.seq (.map _ ?type) ?modifies) ?newState) ?calls) ?args
  case type => exact required_reads rfl fun _ => rfl
  case newState => exact optionalScalar_reads rfl
  case args =>
      exact optional_reads rfl nofun fun args _ _ => checkList_reads fun value _ _ =>
        checkScalar_reads value
  all_goals exact optionalText_reads rfl

theorem checkEvents_reads (events : List (String × List Statement)) :
    (checkMap (formMap (formList formStatement) events) fun value _ =>
      checkList value fun item _ => checkStatement item).Returns events :=
  checkMap_reads _ (formMap_eq events) fun _ _ _ =>
    checkList_reads fun statement _ _ => checkStatement_reads statement

theorem checkPropDefinition_reads (definition : PropDefinition) :
    (checkPropDefinition (formPropDefinition definition)).Returns definition := by
  rcases definition with ⟨type, defaultValue⟩
  refine .seq (.map _ ?type) ?defaultValue
  case type => exact required_reads rfl fun _ => rfl
  case defaultValue => exact defaulted_reads rfl rfl

theorem checkStateValue_reads (state : StateValue) :
    (checkStateValue (formStateValue state)).Returns state := by
  rcases state with ⟨value, notes, transitions⟩
  refine .seq (.seq (.map _ ?value) ?notes) ?transitions
  case value => exact required_reads rfl fun _ => checkScalar_reads value
  case notes => exact optionalFields_reads rfl
  case transitions => exact defaulted_reads rfl rfl

theorem checkStateDefinition_reads (definition : StateDefinition) :
    (checkStateDefinition (formStateDefinition definition)).Returns definition := by
  rcases definition with ⟨type, defaultValue, values, actions⟩
  refine .seq (.seq (.seq (.map _ ?type) ?defaultValue) ?values) ?actions
  case values =>
      exact optional_reads rfl nofun fun values _ _ => checkList_reads fun state _ _ =>
        checkStateValue_reads state
  case actions =>
      exact optional_reads rfl nofun fun actions _ _ => checkList_reads fun _ _ _ => rfl
  all_goals exact required_reads rfl fun _ => rfl

/-! ## Content -/

theorem formNode_eq_record (node : ContentNode) : ∃ fields, formNode node = record fields := by
  rcases node with ⟨type, name, style, attrs, events, children, repetition, states, dependency⟩
  exact ⟨_, formNode.eq_1 ..⟩

theorem formChildren_eq (children : Option (List Child)) :
    formChildren children = formOption (formList formChild) children := by
  have listed : ∀ given : List Child, formChildList given = given.map formChild := by
    intro given
    induction given with
    | nil => rw [formChildList, List.map_nil]
    | cons child rest inductionHypothesis =>
        rw [formChildList, inductionHypothesis, List.map_cons]
  cases children with
  | none => rw [formChildren, formOption]
  | some given => rw [formChildren, listed, formOption, formList]

theorem formRepetitionOption_eq (repetition : Option Repetition) :
    formRepetitionOption repetition = formOption formRepetition repetition := by
  cases repetition with
  | none => rw [formRepetitionOption, formOption]
  | some given => rw [formRepetitionOption, formOption]

theorem formStates_eq (states : Option (List Branch)) :
    formStates states = formOption (formList formBranch) states := by
  have listed : ∀ given : List Branch, formBranchList given = given.map formBranch := by
    intro given
    induction given with
    | nil => rw [formBranchList, List.map_nil]
    | cons branch rest inductionHypothesis =>
        rw [formBranchList, inductionHypothesis, List.map_cons]
  cases states with
  | none => rw [formStates, formOption]
  | some given => rw [formStates, listed, formOption, formList]

/-- Nothing that is around a map keeps it from being checked. -/
theorem checkNested_record {α : Type} (model : String) (around : Around) (fields : Fields)
    (make : Around → Checked α) :
    checkNested model around (record fields) make = make ([model] :: around) := rfl

theorem checkChildWith_reads {child : Child} {asNode : Checked ContentNode}
    (reads : ∀ node, child = .node node → asNode.Returns node) :
    (checkChildWith (formChild child) asNode).Returns child := by
  cases child with
  | text content => rw [formChild]; rfl
  | node node =>
      rcases formNode_eq_record node with ⟨fields, written⟩
      have tried := (reads node rfl).under (.key "ContentNode")
      rw [formChild, written]
      unfold Checked.Returns at tried
      unfold Checked.Returns checkChildWith record Fields.toValue
      simp only [tried]

theorem checkRepetitionWith_reads {repetition : Repetition}
    {checkNode : Around → (part : Value) →
      sizeOf part < sizeOf (formRepetition repetition) → Checked ContentNode}
    (around : Around)
    (reads : ∀ inner smaller,
      (checkNode inner (formNode repetition.content) smaller).Returns repetition.content) :
    (checkRepetitionWith around (formRepetition repetition) checkNode).Returns repetition := by
  rcases repetition with ⟨content, source, notes⟩
  have written := formRepetition.eq_1 content source notes
  revert checkNode
  rw [written]
  intro checkNode reads
  refine .seq (.seq (.map _ ?content) ?source) ?notes
  case content => exact required_reads rfl fun smaller => reads _ smaller
  case source => exact required_reads rfl fun _ => checkDataSource_reads source
  case notes => exact optionalFields_reads rfl

theorem checkBranchWith_reads {branch : Branch}
    {checkNode : (part : Value) → sizeOf part < sizeOf (formBranch branch) → Checked ContentNode}
    (reads : ∀ node, branch.content = .node node → ∀ smaller,
      (checkNode (formChild branch.content) smaller).Returns node) :
    (checkBranchWith (formBranch branch) checkNode).Returns branch := by
  rcases branch with ⟨test, content⟩
  have written := formBranch.eq_1 test content
  revert checkNode
  rw [written]
  intro checkNode reads
  refine .seq (.map _ ?test) ?content
  case test => exact required_reads rfl fun _ => checkBranchTest_reads test
  case content =>
      exact required_reads rfl fun smaller => checkChildWith_reads fun node same =>
        reads node same smaller

theorem formRepetition_ne_null (repetition : Repetition) : formRepetition repetition ≠ .null := by
  rcases repetition with ⟨content, source, notes⟩
  rw [formRepetition]
  exact record_ne_null _

/-- A node comes back from its document, whatever the document stands in. -/
theorem checkNodeIn_reads (node : ContentNode) :
    ∀ around, (checkNodeIn around (formNode node)).Returns node := by
  induction node using ContentNode.inner_induction with
  | step node inductionHypothesis =>
      intro around
      rcases node with ⟨type, name, style, attrs, events, children, repetition, states, dependency⟩
      rw [formNode, formChildren_eq, formRepetitionOption_eq, formStates_eq, checkNodeIn,
        checkNested_record]
      refine .seq (.seq (.seq (.seq (.seq (.seq (.seq (.seq (.map _ ?typed) ?named) ?styled)
        ?attributed) ?eventful) ?parental) ?repeated) ?branched) ?dependent
      case typed => exact required_reads rfl fun _ => rfl
      case named => exact required_reads rfl fun _ => rfl
      case styled => exact optionalFields_reads rfl
      case attributed => exact optionalFields_reads rfl
      case eventful =>
          exact optional_reads rfl (fun _ => record_ne_null _) fun events _ _ =>
            checkEvents_reads events
      case dependent =>
          exact optional_reads rfl (fun _ => record_ne_null _) fun given _ _ =>
            checkDependency_reads given
      case parental =>
          apply optional_reads rfl nofun
          intro given present _
          apply checkList_reads
          intro child member _
          apply checkChildWith_reads
          rintro inner rfl
          rw [formChild]
          exact inductionHypothesis inner (ContentNode.mem_inner_of_child present member) _
      case repeated =>
          apply optional_reads rfl formRepetition_ne_null
          intro given present _
          apply checkRepetitionWith_reads
          intro below smaller
          exact inductionHypothesis given.content (ContentNode.mem_inner_of_repetition present) below
      case branched =>
          apply optional_reads rfl nofun
          intro given present _
          apply checkList_reads
          intro branch member _
          apply checkBranchWith_reads
          intro inner same _
          rw [same, formChild]
          exact inductionHypothesis inner (ContentNode.mem_inner_of_branch present member same) _

theorem checkChildren_reads {fields : Fields} {names : List String}
    {name : String} {given : Option (List Child)} (around : Around)
    (found : chosen? fields names = some (name, formOption (formList formChild) given)) :
    (optional (record fields) names fun part _ =>
      checkList part fun item _ => checkChildIn (around.within part) item).Returns given := by
  apply optional_reads found nofun
  intro listed _ _
  apply checkList_reads
  intro child _ _
  apply checkChildWith_reads
  rintro node rfl
  rw [formChild]
  exact checkNodeIn_reads node _

theorem checkRepetitionIn_reads (repetition : Repetition) (around : Around) :
    (checkRepetitionIn around (formRepetition repetition)).Returns repetition :=
  checkRepetitionWith_reads around fun inner _ => checkNodeIn_reads repetition.content inner

theorem checkBranch_reads (branch : Branch) : (checkBranch (formBranch branch)).Returns branch := by
  apply checkBranchWith_reads
  intro node same _
  rw [same, formChild]
  exact checkNodeIn_reads node _

theorem checkComponent_reads (component : Component) :
    (checkComponent (formComponent component)).Returns component := by
  rcases component with ⟨name, content, notes, props, states⟩
  refine .seq (.seq (.seq (.seq (.map _ ?name) ?content) ?notes) ?props) ?states
  case name => exact required_reads rfl fun _ => rfl
  case content => exact required_reads rfl fun _ => checkNodeIn_reads content []
  case notes => exact optionalFields_reads rfl
  case props =>
      exact optional_reads rfl (fun _ => record_ne_null _) fun props _ _ =>
        checkMap_reads _ (formMap_eq props) fun entry _ _ => checkPropDefinition_reads entry.2
  case states =>
      exact optional_reads rfl (fun _ => record_ne_null _) fun states _ _ =>
        checkMap_reads _ (formMap_eq states) fun entry _ _ => checkStateDefinition_reads entry.2

theorem checkElementMapping_reads (mapping : ElementMapping) :
    (checkElementMapping (formElementMapping mapping)).Returns mapping := by
  rcases mapping with ⟨type, dependency, attrs, children, repetition⟩
  unfold formElementMapping
  rw [formChildren_eq, formRepetitionOption_eq]
  refine .seq (.seq (.seq (.seq (.map _ ?typed) ?dependent) ?attributed) ?parental) ?repeated
  case typed => exact required_reads rfl fun _ => rfl
  case dependent =>
      exact optional_reads rfl (fun _ => record_ne_null _) fun given _ _ =>
        checkDependency_reads given
  case attributed => exact optionalFields_reads rfl
  case parental => exact checkChildren_reads _ rfl
  case repeated =>
      exact optional_reads rfl formRepetition_ne_null fun given _ _ =>
        checkRepetitionIn_reads given _

/-! ## All models -/

/-- The models of component descriptions and of mapping tables. -/
inductive Model where
  | importDetails
  | dependency
  | condition
  | conditionSet
  | statement
  | repetition
  | branch
  | node
  | propDefinition
  | stateValue
  | stateDefinition
  | component
  | elementMapping
deriving DecidableEq, Repr

namespace Model

/-- What is described by the documents of a model. -/
def Carrier : Model → Type
  | importDetails => ImportDetails
  | dependency => Dependency
  | condition => Condition
  | conditionSet => ConditionSet
  | statement => Statement
  | repetition => Repetition
  | branch => Branch
  | node => ContentNode
  | propDefinition => PropDefinition
  | stateValue => StateValue
  | stateDefinition => StateDefinition
  | component => Component
  | elementMapping => ElementMapping

/-- The check of a document against a model. -/
def check : (model : Model) → Value → Checked model.Carrier
  | importDetails => checkImportDetails
  | dependency => checkDependency
  | condition => checkCondition
  | conditionSet => checkConditionSet
  | statement => checkStatement
  | repetition => checkRepetition
  | branch => checkBranch
  | node => checkNode
  | propDefinition => checkPropDefinition
  | stateValue => checkStateValue
  | stateDefinition => checkStateDefinition
  | component => checkComponent
  | elementMapping => checkElementMapping

/-- The document of a model. -/
def form : (model : Model) → model.Carrier → Value
  | importDetails => formImportDetails
  | dependency => formDependency
  | condition => formCondition
  | conditionSet => formConditionSet
  | statement => formStatement
  | repetition => formRepetition
  | branch => formBranch
  | node => formNode
  | propDefinition => formPropDefinition
  | stateValue => formStateValue
  | stateDefinition => formStateDefinition
  | component => formComponent
  | elementMapping => formElementMapping

/-- The plain names of a model's fields, in their order. -/
def fieldNames : Model → List String
  | importDetails => ["named_import", "original_name", "path", "version"]
  | dependency => ["type", "path", "version", "meta"]
  | condition => ["operation", "operand"]
  | conditionSet => ["conditions", "matching_criteria"]
  | statement => ["type", "modifies", "new_state", "calls", "args"]
  | repetition => ["content", "data_source", "meta"]
  | branch => ["value", "content"]
  | node =>
    ["type", "name", "style", "attrs", "events", "children", "repeat", "states", "dependency"]
  | propDefinition => ["type", "default_value"]
  | stateValue => ["value", "meta", "transitions"]
  | stateDefinition => ["type", "default_value", "values", "actions"]
  | component => ["name", "content", "meta", "prop_definitions", "state_definitions"]
  | elementMapping => ["type", "dependency", "attrs", "children", "repeat"]

theorem form_eq_record (model : Model) (value : model.Carrier) :
    ∃ fields, model.form value = record fields ∧ fields.map Prod.fst = model.fieldNames := by
  cases model
  case repetition =>
      rcases value with ⟨content, source, notes⟩
      exact ⟨_, formRepetition.eq_1 .., rfl⟩
  case branch =>
      rcases value with ⟨test, content⟩
      exact ⟨_, formBranch.eq_1 .., rfl⟩
  case node =>
      rcases value with ⟨type, name, style, attrs, events, children, repetition, states, dependency⟩
      exact ⟨_, formNode.eq_1 .., rfl⟩
  all_goals exact ⟨_, rfl, rfl⟩

theorem check_form (model : Model) (value : model.Carrier) :
    (model.check (model.form value)).Returns value := by
  cases model with
  | importDetails => exact checkImportDetails_reads value
  | dependency => exact checkDependency_reads value
  | condition => exact checkCondition_reads value
  | conditionSet => exact checkConditionSet_reads value
  | statement => exact checkStatement_reads value
  | repetition => exact checkRepetitionIn_reads value []
  | branch => exact checkBranch_reads value
  | node => exact checkNodeIn_reads value []
  | propDefinition => exact checkPropDefinition_reads value
  | stateValue => exact checkStateValue_reads value
  | stateDefinition => exact checkStateDefinition_reads value
  | component => exact checkComponent_reads value
  | elementMapping => exact checkElementMapping_reads value

end Model

/-- The document of a model has all its fields under their plain names, and the
model's own check accepts it and returns what was written. -/
theorem document_reads_back (model : Model) (value : model.Carrier) :
    (∃ fields : Fields, model.form value = fields.toValue ∧
      fields.map Prod.fst = model.fieldNames) ∧
    model.check (model.form value) = .valid value :=
  ⟨model.form_eq_record value, model.check_form value⟩

end Schema
end ComponentCompiler
