import ComponentCompiler.Generator.Basic
import ComponentCompiler.Proofs.Content.Writable
import ComponentCompiler.Proofs.Outcome
import ComponentCompiler.Proofs.Schema.Checked

namespace ComponentCompiler
namespace Schema

open Checked

/-!
# Descriptions in the stricter notation

A description that is checked from a value of the stricter notation declares only
what can be written.  The checks of a node and of what it holds follow the value
down; a part is smaller than the whole.

The issues of a value that is no description are about values inside it, so that they
have what all values inside it have.
-/

variable {about : Value → Prop} {whole : Value}

/-! ## Values without parts -/

theorem checkScalar_follows (json : whole.isJson = true) (holds : about whole) :
    (checkScalar whole).Follows about fun scalar => scalar.isTooLong = false := by
  cases whole with
  | text | bool | real => exact follows_valid rfl
  | int number => exact follows_valid (Bool.not_eq_true' _ |>.mp json)
  | bytes content => cases json
  | _ => exact follows_invalid (by simp [scalarIssues, holds])

theorem checkDataSource_follows (json : whole.isJson = true) (holds : about whole) :
    (checkDataSource whole).Follows about fun source => source.toValue.isJson = true := by
  cases whole with
  | text content => exact follows_valid rfl
  | list items => exact follows_valid json
  | tuple | set | enclosing | bytes => cases json
  | _ => exact follows_invalid (by simp [holds])

section Models

variable (passes : Hereditary about)
include passes

theorem checkFields_follows (holds : about whole) :
    (checkFields whole).Follows about Fields.IsJson := by
  have asItIs (part : Value) (_ : sizeOf part < sizeOf whole) (partHolds : about part) :
      (Checked.valid part).Follows about fun part => part.isJson = true :=
    follows_valid (passes.json partHolds)
  exact checkMap_follows passes holds asItIs

theorem checkImportDetails_follows (holds : about whole) :
    (checkImportDetails whole).Follows about fun _ => True :=
  checkModel_follows holds (Follows.also (Follows.also (Follows.also
    (optional_follows passes holds fun _ _ => checkBool_follows).alone
    (optionalText_follows passes holds))
    (optionalText_follows passes holds))
    (optionalText_follows passes holds))

theorem checkDependency_follows (holds : about whole) :
    (checkDependency whole).Follows about fun _ => True :=
  checkModel_follows holds (Follows.also (Follows.also (Follows.also
    (defaulted_follows passes holds fun _ => checkChoice_follows).alone
    (optionalText_follows passes holds))
    (optionalText_follows passes holds))
    (optional_follows passes holds fun _ _ => checkImportDetails_follows passes))

theorem checkCondition_follows (holds : about whole) :
    (checkCondition whole).Follows about fun condition =>
      ∀ operand, condition.operand = some operand → operand.isTooLong = false :=
  checkModel_follows holds (Follows.seq
    ((required_follows passes holds fun _ _ => checkText_follows).map fun _ _ _ short => short)
    (optional_follows passes holds fun _ _ partHolds =>
      checkScalar_follows (passes.json partHolds) partHolds))

theorem checkConditionSet_follows (holds : about whole) :
    (checkConditionSet whole).Follows about fun set => ∀ condition ∈ set.conditions,
      ∀ operand, condition.operand = some operand → operand.isTooLong = false :=
  checkModel_follows holds (Follows.seq
    ((required_follows passes holds fun _ _ partHolds => checkList_follows passes partHolds
      fun _ _ => checkCondition_follows passes).map fun _ short _ _ => short)
    (defaulted_follows passes holds fun _ => checkChoice_follows))

/-- The tests of a branch show no number of too many digits. -/
theorem checkBranchTest_follows (holds : about whole) :
    (checkBranchTest whole).Follows about fun test => AllShort test.shown := by
  have json := passes.json holds
  have several := (checkConditionSet_follows passes holds).under (.key "ConditionalExpression")
  have single : ∀ scalar : Scalar, scalar.isTooLong = false →
      AllShort (BranchTest.equals scalar).shown := by
    intro scalar short other member
    exact List.mem_singleton.mp member ▸ short
  unfold checkBranchTest
  split
  · exact follows_valid (single _ rfl)
  · exact follows_valid (single _ rfl)
  · exact follows_valid (single _ (Bool.not_eq_true' _ |>.mp json))
  · exact follows_valid (single _ rfl)
  · cases json
  · split
    · rename_i set checked
      refine follows_valid fun scalar member => ?_
      rcases List.mem_filterMap.mp member with ⟨condition, listed, shown⟩
      split at shown
      · exact several.ensures set checked condition listed scalar shown
      · cases shown
    · rename_i issues checked
      exact follows_invalid (List.forall_mem_append.mpr
        ⟨several.reports issues checked, by simp [scalarIssues, holds]⟩)

theorem checkStatement_follows (holds : about whole) :
    (checkStatement whole).Follows about fun statement => AllShort statement.shown := by
  refine checkModel_follows holds (Follows.seq (Follows.seq (Follows.seq (Follows.seq
    ((required_follows passes holds fun _ _ => checkText_follows).map
      fun type _ modifies _ newState newShort calls _ args argsShort => ?_)
    (optionalText_follows passes holds))
    (optional_follows passes holds fun _ _ partHolds =>
      checkScalar_follows (passes.json partHolds) partHolds))
    (optionalText_follows passes holds))
    (optional_follows passes holds fun _ _ partHolds => checkList_follows passes partHolds
      fun _ _ itemHolds => checkScalar_follows (passes.json itemHolds) itemHolds))
  intro scalar member
  unfold Statement.shown at member
  split at member
  · cases member
  · split at member
    · exact newShort scalar (Option.mem_toList.mp member)
    · cases args with
      | none => cases member
      | some listed => exact argsShort listed rfl scalar member

end Models

/-! ## Content -/

section Content

/-- What a child that is a node has to satisfy. -/
def OfNode (good : ContentNode → Prop) (child : Child) : Prop :=
  ∀ node, child.node? = some node → good node

theorem checkChildWith_follows {good : ContentNode → Prop} {asNode : Checked ContentNode}
    (holds : about whole) (follows : asNode.Follows about good) :
    (checkChildWith whole asNode).Follows about (OfNode good) := by
  have texts := (checkText_follows holds).under (.key "str")
  have nodes := follows.under (.key "ContentNode")
  unfold checkChildWith
  split
  · exact follows_valid fun node impossible => by cases impossible
  · split
    · rename_i node checked
      refine follows_valid fun other same => ?_
      cases same
      exact nodes.ensures node checked
    · rename_i issues noNode
      split
      · exact follows_valid fun node impossible => by cases impossible
      · rename_i others noText
        exact follows_invalid (List.forall_mem_append.mpr
          ⟨nodes.reports issues noNode, texts.reports others noText⟩)

theorem checkNested_follows {α : Type} {good : α → Prop} {model : String} {around : Around}
    {fields : Around → Checked α} (holds : about whole)
    (inner : ∀ around, (fields around).Follows about good) :
    (checkNested model around whole fields).Follows about good := by
  unfold checkNested
  split
  · exact checkModel_follows holds (inner _)
  · exact follows_reject holds

theorem exists_of_mem_getD {α : Type} {listed : Option (List α)} {item : α}
    (member : item ∈ listed.getD []) : ∃ items, listed = some items ∧ item ∈ items := by
  cases listed with
  | none => cases member
  | some items => exact ⟨items, rfl, member⟩

/-- A node can be written when each of its fields can. -/
theorem allWritable_of_fields {node : ContentNode}
    (style : ∀ fields, node.style = some fields → fields.IsJson)
    (attrs : ∀ fields, node.attrs = some fields → fields.IsJson)
    (events : ∀ events, node.events = some events →
      ∀ event ∈ events, ∀ statement ∈ event.2, AllShort statement.shown)
    (children : ∀ children, node.children = some children →
      ∀ child ∈ children, OfNode ContentNode.AllWritable child)
    (repetition : ∀ repetition, node.repetition = some repetition →
      repetition.content.AllWritable ∧ repetition.HasSource)
    (states : ∀ branches, node.states = some branches → ∀ branch ∈ branches,
      AllShort branch.test.shown ∧ OfNode ContentNode.AllWritable branch.content) :
    node.AllWritable := by
  refine ContentNode.AllWritable.intro ⟨?style, ?attrs, ?handlers, ?tests, ?source⟩ ?below
  case style =>
    intro field member
    rcases exists_of_mem_getD member with ⟨fields, given, listed⟩
    exact style fields given field listed
  case attrs =>
    intro field member
    rcases exists_of_mem_getD member with ⟨fields, given, listed⟩
    exact attrs fields given field listed
  case handlers =>
    intro scalar member
    rcases List.mem_flatMap.mp member with ⟨statement, handles, shown⟩
    rcases List.mem_flatMap.mp handles with ⟨event, listed, inStatements⟩
    rcases exists_of_mem_getD listed with ⟨handled, given, inEvents⟩
    exact events handled given event inEvents statement inStatements scalar shown
  case tests =>
    intro branch member
    rcases exists_of_mem_getD member with ⟨branches, given, listed⟩
    exact (states branches given branch listed).1
  case source => exact fun repeated given => (repetition repeated given).2
  case below =>
    intro inner member
    rcases List.mem_append.mp member with early | inChildren
    · rcases List.mem_append.mp early with inRepetition | inBranches
      · obtain ⟨repeated, given, rfl⟩ := Option.map_eq_some_iff.mp (Option.mem_toList.mp inRepetition)
        exact (repetition repeated given).1
      · rcases List.mem_filterMap.mp inBranches with ⟨branch, listed, isNode⟩
        rcases exists_of_mem_getD listed with ⟨branches, given, inListed⟩
        exact (states branches given branch inListed).2 inner isNode
    · rcases List.mem_filterMap.mp inChildren with ⟨child, listed, isNode⟩
      rcases exists_of_mem_getD listed with ⟨items, given, inListed⟩
      exact children items given child inListed inner isNode

variable (passes : Hereditary about)
include passes

theorem checkRepetitionWith_follows (holds : about whole) {around : Around}
    {good : ContentNode → Prop}
    {checkNode : Around → (part : Value) → sizeOf part < sizeOf whole → Checked ContentNode}
    (inner : ∀ around part smaller, about part →
      (checkNode around part smaller).Follows about good) :
    (checkRepetitionWith around whole checkNode).Follows about fun repetition =>
      good repetition.content ∧ repetition.HasSource :=
  checkNested_follows holds fun around => Follows.seq (Follows.seq
    ((required_follows passes holds (inner around)).map
      fun _ isGood _ sourceJson _ _ => ⟨isGood, sourceJson⟩)
    (required_follows passes holds fun _ _ partHolds =>
      checkDataSource_follows (passes.json partHolds) partHolds))
    (optional_follows passes holds fun _ _ => checkFields_follows passes)

theorem checkBranchWith_follows (holds : about whole) {good : ContentNode → Prop}
    {checkNode : (part : Value) → sizeOf part < sizeOf whole → Checked ContentNode}
    (inner : ∀ part smaller, about part → (checkNode part smaller).Follows about good) :
    (checkBranchWith whole checkNode).Follows about fun branch =>
      AllShort branch.test.shown ∧ OfNode good branch.content :=
  checkModel_follows holds (Follows.seq
    ((required_follows passes holds fun _ _ => checkBranchTest_follows passes).map
      fun _ short _ isGood => ⟨short, isGood⟩)
    (required_follows passes holds fun part smaller partHolds =>
      checkChildWith_follows partHolds (inner part smaller partHolds)))

/-- A node that is checked from a value of the stricter notation can be written, with all nodes
below it; and the issues are about values inside. -/
theorem checkNodeIn_follows (around : Around) (whole : Value) (holds : about whole) :
    (checkNodeIn around whole).Follows about ContentNode.AllWritable := by
  rw [checkNodeIn]
  refine checkNested_follows holds fun inside => Follows.seq (Follows.seq (Follows.seq (Follows.seq
    (Follows.seq (Follows.seq (Follows.seq (Follows.seq
    ((required_follows passes holds fun _ _ => checkText_follows).map
      fun type _ name _ style styleJson attrs attrsJson events eventsShort children childrenGood
        repetition repetitionGood states statesGood dependency _ => ?node)
    (required_follows passes holds fun _ _ => checkText_follows))
    (optional_follows passes holds fun _ _ => checkFields_follows passes))
    (optional_follows passes holds fun _ _ => checkFields_follows passes))
    (optional_follows passes holds fun _ _ partHolds => checkMap_follows passes partHolds
      fun _ _ valueHolds => checkList_follows passes valueHolds
        fun _ _ => checkStatement_follows passes))
    (optional_follows passes holds fun part smallerPart partHolds =>
      checkList_follows passes partHolds fun item smallerItem itemHolds =>
        checkChildWith_follows itemHolds
          (checkNodeIn_follows (inside.within part) item itemHolds)))
    (optional_follows passes holds fun part smallerPart partHolds =>
      checkRepetitionWith_follows passes partHolds fun below content smallerContent contentHolds =>
        checkNodeIn_follows below content contentHolds))
    (optional_follows passes holds fun part smallerPart partHolds =>
      checkList_follows passes partHolds fun item smallerItem itemHolds =>
        checkBranchWith_follows passes itemHolds fun content smallerContent contentHolds =>
          checkNodeIn_follows ((inside.within part).within item) content contentHolds))
    (optional_follows passes holds fun _ _ => checkDependency_follows passes)
  exact allWritable_of_fields styleJson attrsJson eventsShort childrenGood repetitionGood statesGood
termination_by sizeOf whole
decreasing_by all_goals omega

theorem checkPropDefinition_follows (holds : about whole) :
    (checkPropDefinition whole).Follows about fun _ => True :=
  checkModel_follows holds (Follows.also
    (required_follows passes holds fun _ _ => checkText_follows).alone
    (defaulted_follows passes holds fun _ _ => follows_valid trivial))

theorem checkStateValue_follows (holds : about whole) :
    (checkStateValue whole).Follows about fun _ => True :=
  checkModel_follows holds (Follows.also (Follows.also
    (required_follows passes holds fun _ _ partHolds =>
      checkScalar_follows (passes.json partHolds) partHolds).alone
    (optional_follows passes holds fun _ _ => checkFields_follows passes))
    (defaulted_follows passes holds fun _ _ => follows_valid trivial))

theorem checkStateDefinition_follows (holds : about whole) :
    (checkStateDefinition whole).Follows about fun state => state.defaultValue.isJson = true := by
  have asItIs (part : Value) (_ : sizeOf part < sizeOf whole) (partHolds : about part) :
      (Checked.valid part).Follows about fun part => part.isJson = true :=
    follows_valid (passes.json partHolds)
  exact checkModel_follows holds (Follows.seq (Follows.seq (Follows.seq
    ((required_follows passes holds fun _ _ => checkText_follows).map
      fun _ _ _ isJson _ _ _ _ => isJson)
    (required_follows passes holds asItIs))
    (optional_follows passes holds fun _ _ partHolds => checkList_follows passes partHolds
      fun _ _ => checkStateValue_follows passes))
    (optional_follows passes holds fun _ _ partHolds => checkList_follows passes partHolds
      fun _ _ => checkText_follows))

theorem checkComponent_follows (holds : about whole) :
    (checkComponent whole).Follows about Component.Writable := by
  refine checkModel_follows holds (Follows.seq (Follows.seq (Follows.seq (Follows.seq
    ((required_follows passes holds fun _ _ => checkText_follows).map
      fun name _ content contentGood notes _ props _ states statesJson =>
        ⟨contentGood, fun state member => ?_⟩)
    (required_follows passes holds fun part _ => checkNodeIn_follows passes [] part))
    (optional_follows passes holds fun _ _ => checkFields_follows passes))
    (optional_follows passes holds fun _ _ partHolds => checkMap_follows passes partHolds
      fun _ _ => checkPropDefinition_follows passes))
    (optional_follows passes holds fun _ _ partHolds => checkMap_follows passes partHolds
      fun _ _ => checkStateDefinition_follows passes))
  rcases exists_of_mem_getD member with ⟨declared, given, listed⟩
  exact statesJson declared given state listed

theorem checkElementMapping_follows (holds : about whole) :
    (checkElementMapping whole).Follows about ElementMapping.Writable := by
  unfold checkElementMapping
  dsimp only
  refine checkModel_follows holds (Follows.seq (Follows.seq (Follows.seq (Follows.seq
    ((required_follows passes holds fun _ _ => checkText_follows).map
      fun type _ dependency _ attrs attrsJson children childrenGood repetition repetitionGood =>
        ⟨?attrs, ?source, ?content⟩)
    (optional_follows passes holds fun _ _ => checkDependency_follows passes))
    (optional_follows passes holds fun _ _ => checkFields_follows passes))
    (optional_follows passes holds fun _ _ partHolds => checkList_follows passes partHolds
      fun item _ itemHolds =>
        checkChildWith_follows itemHolds (checkNodeIn_follows passes _ item itemHolds)))
    (optional_follows passes holds fun _ _ partHolds => checkRepetitionWith_follows passes partHolds
      fun below content _ => checkNodeIn_follows passes below content))
  case attrs =>
    intro field member
    rcases exists_of_mem_getD member with ⟨fields, given, listed⟩
    exact attrsJson fields given field listed
  case source => exact fun repeated given => (repetitionGood repeated given).2
  case content =>
    intro root member
    rcases List.mem_append.mp member with inChildren | inRepetition
    · rcases List.mem_filterMap.mp inChildren with ⟨child, listed, isNode⟩
      rcases exists_of_mem_getD listed with ⟨items, given, inListed⟩
      exact childrenGood items given child inListed root isNode
    · obtain ⟨repeated, given, rfl⟩ := Option.map_eq_some_iff.mp (Option.mem_toList.mp inRepetition)
      exact (repetitionGood repeated given).1

omit passes in
/-- A table is read when each of its entries is, and it has them in their order. -/
theorem checkTable_eq_ok_iff {entries : List (Key × Value)} {table : MappingTable} :
    checkTable entries = .ok table ↔
      List.Forall₂ (fun entry mapped => mapped.1 = entry.1 ∧
        checkElementMapping entry.2 = .valid mapped.2) entries table := by
  induction entries generalizing table with
  | nil =>
      rw [checkTable, List.forall₂_nil_left_iff, Except.ok.injEq]
      exact eq_comm
  | cons entry rest inductionHypothesis =>
      rcases entry with ⟨type, value⟩
      rw [checkTable]
      constructor
      · intro checked
        rcases bind_eq_ok_iff.mp checked with ⟨mapping, mappingChecked, onward⟩
        rcases bind_eq_ok_iff.mp onward with ⟨others, restChecked, last⟩
        cases last
        exact .cons ⟨rfl, toExcept_eq_ok_iff.mp mappingChecked⟩ (inductionHypothesis.mp restChecked)
      · intro paired
        rcases List.forall₂_cons_left_iff.mp paired with
          ⟨⟨_, mapping⟩, others, ⟨rfl, passed⟩, restPaired, rfl⟩
        rw [toExcept_eq_ok_iff.mpr passed, inductionHypothesis.mpr restPaired]
        rfl

omit passes in
theorem writable_of_checkTable {entries : List (Key × Value)} {table : MappingTable}
    (json : ∀ entry ∈ entries, Value.IsJsonEntry entry) (checked : checkTable entries = .ok table) :
    table.Writable := by
  intro mapped member
  rcases exists_related_of_mem (checkTable_eq_ok_iff.mp checked) member with
    ⟨entry, listed, _, passed⟩
  exact (checkElementMapping_follows hereditary_isJson (json entry listed).2).ensures _ passed

/-- The issues of a table are about values inside its entries. -/
theorem about_of_checkTable {entries : List (Key × Value)} {issues : List Issue}
    (holds : ∀ entry ∈ entries, about entry.2) (failed : checkTable entries = .error issues) :
    ∀ issue ∈ issues, about issue.input := by
  induction entries with
  | nil => cases failed
  | cons entry rest inductionHypothesis =>
      rcases entry with ⟨type, value⟩
      rw [List.forall_mem_cons] at holds
      rw [checkTable] at failed
      rcases bind_eq_error_iff.mp failed with here | ⟨mapping, _, onward⟩
      · exact (checkElementMapping_follows passes holds.1).of_toExcept here
      · rcases bind_eq_error_iff.mp onward with later | ⟨others, _, last⟩
        · exact inductionHypothesis holds.2 later
        · cases last

end Content

end Schema

open Schema

/-! ## Documents -/

/-- A component that is read from a value of the stricter notation can be written. -/
theorem Generator.writable_of_readComponent {document : Value} {component : Component}
    (json : document.isJson = true) (read : Generator.readComponent document = .ok component) :
    component.Writable :=
  (checkComponent_follows hereditary_isJson json).ensures component
    (Checked.toExcept_eq_ok_iff.mp (ok_of_mapError_eq_ok read))

namespace MappingTable

/-- A table that is read from a value of the stricter notation can be written. -/
theorem writable_of_ofOptional {document : Value} {table : Option MappingTable}
    (json : document.isJson = true) (read : ofOptional document = .ok table) :
    MappingTable.Writable (table.getD []) := by
  unfold ofOptional at read
  split at read
  · cases read
    exact fun entry member => absurd member List.not_mem_nil
  · rcases map_eq_ok_iff.mp read with ⟨listed, ofDocument, rfl⟩
    cases document with
    | map entries =>
        exact writable_of_checkTable (Value.isJson_map.mp json) (ok_of_mapError_eq_ok ofDocument)
    | _ => cases ofDocument

end MappingTable
end ComponentCompiler
