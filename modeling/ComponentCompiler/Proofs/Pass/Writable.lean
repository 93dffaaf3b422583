import ComponentCompiler.Proofs.Build.Failure
import ComponentCompiler.Proofs.Chunk.Writable
import ComponentCompiler.Proofs.Pass.Styles

namespace ComponentCompiler

open Script Styling

/-!
# Passes over what can be written

Handing out styles keeps literals: bound entries and classes are code, and the
other entries are values of the stricter notation.  So the chunks that a pass
leaves can be written when those before it can, and no style pass fails over
content that can be written.
-/

/-! ## Receipts -/

theorem inlineStyle_literal {element : Element} (literals : AllLiteral element.attributes) :
    ∀ entry ∈ element.inlineStyle, HasLiteralEntry entry := by
  unfold Element.inlineStyle
  cases found : element.attribute? "style" with
  | none => exact fun entry member => absurd member List.not_mem_nil
  | some style =>
      have literal := literals _ (Entries.mem_of_lookUp?_eq_some found)
      rw [Option.bind_some]
      unfold Value.mapEntries?
      split
      · exact Value.hasLiteral_map.mp literal
      · -- a map inside itself has no literal
        rcases literal with ⟨text, written⟩
        rw [inlineLiteral] at written
        cases written
      · exact fun entry member => absurd member List.not_mem_nil

theorem mergeStyle_literal {element : Element} (literals : AllLiteral element.attributes)
    {merged : Fields} (mergedLiterals : AllLiteral merged) :
    AllLiteral (element.mergeStyle (asEntries merged)).attributes := by
  refine literals.put (Value.hasLiteral_map.mpr fun entry member => ?_)
  rcases Entries.mem_or_mem_of_mem_update member with before | written
  · exact inlineStyle_literal literals entry before
  · rcases List.mem_map.mp written with ⟨field, listed, rfl⟩
    exact ⟨⟨field.1, rfl⟩, mergedLiterals field listed⟩

theorem Receipt.onAttributes_literal {receipt : Receipt} (merged : AllLiteral receipt.merged)
    {attributes : Fields} (literals : AllLiteral attributes) :
    AllLiteral (receipt.onAttributes attributes) := by
  have styled : AllLiteral (if receipt.merged.isEmpty then (⟨none, "", attributes, []⟩ : Element)
      else Element.mergeStyle ⟨none, "", attributes, []⟩ (asEntries receipt.merged)).attributes := by
    split
    · exact literals
    · exact mergeStyle_literal literals merged
  unfold Receipt.onAttributes Receipt.onElement
  dsimp only
  split
  · exact styled.put (Value.hasLiteral_code _)
  · exact styled

theorem editOf_keepsLiterals {receipts : List (Origin × Receipt)}
    (merged : ∀ receipt ∈ receipts, AllLiteral receipt.2.merged) :
    (editOf receipts).KeepsLiterals := by
  refine editOf_relates (fun before after => AllLiteral before → AllLiteral after)
    (fun _ literals => literals) (fun first second literals => second (first literals)) ?_
  intro receipt member attributes
  exact Receipt.onAttributes_literal (merged receipt member)

/-! ## What is handed out -/

theorem boundStyle_literal (bound : Entries String String) : AllLiteral (boundStyle bound) := by
  intro field member
  rcases List.mem_map.mp member with ⟨entry, _, rfl⟩
  exact Value.hasLiteral_code _

theorem inlineStyle_entries_literal {style : Fields} (json : style.IsJson) :
    AllLiteral (Styling.inlineStyle style) := by
  intro field member
  rcases List.mem_map.mp member with ⟨entry, listed, rfl⟩
  split
  · exact Value.hasLiteral_code _
  · exact Value.hasLiteral_of_isJson (json entry listed)

/-- The fixed entries of a node are entries of its style. -/
theorem fixedEntries_isJson {node : ContentNode} (writable : node.Writable) :
    ∀ entry ∈ asEntries node.fixedEntries, Value.IsJsonEntry entry := by
  intro entry member
  rcases List.mem_map.mp member with ⟨field, listed, rfl⟩
  exact ⟨⟨field.1, rfl⟩, writable.style field (List.mem_of_mem_filter listed)⟩

section Classes

variable {ρ : Type}

/-- Every rule of a class pass is made from the fixed entries of a claim. -/
theorem rule_of_mem_classRules {classPass : ClassPass ρ} {claimed : List (Origin × ContentNode)}
    {assigned : List (Assignment ρ)} (matching : List.Forall₂ (Assigns classPass) claimed assigned)
    {classRule : ClassRule ρ} (member : classRule ∈ classRules assigned) :
    ∃ claim ∈ claimed,
      classPass.rule classRule.name claim.2.fixedEntries = .ok classRule.rule := by
  rcases exists_pairs matching with ⟨pairs, rfl, rfl, assigns⟩
  rcases List.mem_filterMap.mp member with ⟨assignment, listed, classed⟩
  rcases List.mem_map.mp listed with ⟨pair, inPairs, rfl⟩
  rcases (assigns pair inPairs).classed classRule classed with ⟨fixed, _, made⟩
  rw [fixed] at made
  exact ⟨pair.1, List.mem_map_of_mem inPairs, made⟩

/-- A class pass leaves chunks that can be written when its own chunk can. -/
theorem ClassOutput.styled_writable (output : ClassOutput ρ) {assigned : List (Assignment ρ)}
    {chunks : ChunkStore} (writable : chunks.Writable)
    (own : (output.chunk (classRules assigned)).content.Writable) :
    (output.styled assigned chunks).Writable := by
  have decorated : (decorateAll assigned output.reference chunks).Writable := by
    rw [decorateAll_eq_restyle]
    refine writable.restyle (editOf_keepsLiterals fun receipt member => ?_)
    rcases List.mem_map.mp member with ⟨assignment, _, rfl⟩
    exact boundStyle_literal assignment.bound
  unfold ClassOutput.styled
  dsimp only
  split
  · exact decorated
  · exact (decorated.add own).extendExport _ _ _ _

end Classes

/-! ## The passes -/

theorem Component.build_meets {component : Component} {table : MappingTable}
    (writable : component.Writable) (tableWritable : table.Writable) (unnested : table.Unnested)
    (number : Nat) :
    (component.build table number).Meets
      (table.firstFailure (table.visits table.defaultDepth component.content)) AllWritable := by
  refine MappingTable.settled_of_entered component.scope unnested tableWritable
    (MappingTable.Entered.start table component.content) (fun path found reached => ?_) _
  exact writable.written tableWritable
    (reached.mem_written (List.mem_append_left _ (ContentNode.self_mem_walk _)))

theorem Component.Writable.exists_hooks {component : Component} (writable : component.Writable) :
    ∃ hooks, component.hooks = .ok hooks := by
  refine exists_mapM_eq_ok_iff.mpr fun state member => ?_
  obtain ⟨text, written⟩ :=
    Value.exists_blockLiteral (Value.hasLiteral_of_isJson (writable.states state member)) 0
  exact ⟨_, bind_eq_ok_iff.mpr ⟨text, written, rfl⟩⟩

/-- What the component pass leaves of a component that can be written. -/
structure Assembly.Ready (built : Assembly) (table : MappingTable) : Prop where
  chunks : built.chunks.Writable
  recorded : ∃ function, built.Records table function
  nodes : ∀ node ∈ built.walked, node.Writable

theorem componentTree_meets {component : Component} {table : MappingTable}
    (writable : component.Writable) (tableWritable : table.Writable) (unnested : table.Unnested) :
    ((Pass.componentTree {}).run table (Assembly.start component)).Meets
      (table.firstFailure (table.visits table.defaultDepth component.content))
      fun built => built.Ready table := by
  have build := component.build_meets writable tableWritable unnested 0
  rcases writable.exists_hooks with ⟨hooks, declared⟩
  have outcome := assembleTree_outcome component table
  refine ⟨?_, fun built succeeded => ?_⟩
  · have same : ((Pass.componentTree {}).run table (Assembly.start component)).outcome = _ := outcome
    rw [declared] at same
    rw [← build.failure, Traced.failure?, Traced.failure?, same]
    cases (component.build table 0).outcome <;> rfl
  · rcases records_of_assembleTree succeeded with ⟨same, function, records⟩
    rcases builtFrom_of_assembleTree succeeded with ⟨notes, parts, written, run, _, left⟩
    refine ⟨?_, ⟨function, records⟩, fun node member => ?_⟩
    · have partsWritable := build.success parts (congrArg Traced.outcome run)
      rw [left.chunks]
      exact List.forall_mem_cons.mpr
        ⟨gathered_writable partsWritable, List.forall_mem_singleton.mpr trivial⟩
    · have listed := mem_written_of_mem_walked records member
      rw [same] at listed
      exact writable.written tableWritable listed

section Passes

variable {stylesObject : String} {camelCase : Bool} {library : StyleLibrary}
  {table : MappingTable} {built : Assembly} {function : ComponentFunction}

/-- No style pass fails over nodes that can be written, and what it leaves can be
written. -/
theorem Flavor.pass_meets (flavor : Flavor) (records : built.Records table function)
    (writable : built.chunks.Writable) (nodes : ∀ node ∈ built.walked, node.Writable) :
    ((flavor.pass (.ofChoice stylesObject camelCase library)).run table built).Meets none
      fun styled => styled.chunks.Writable := by
  have styledWritable : ∀ node ∈ built.styledNodes, node.Writable :=
    fun node member => nodes node (mem_styledNodes_iff.mp member).1
  have claimedWritable : ∀ claim ∈ claims built.nodes [] built.styledNodes, claim.2.Writable :=
    fun claim member => styledWritable claim.2 (of_mem_claims member).1
  obtain ⟨styled, ran⟩ := (Flavor.pass_succeeds_iff records).mpr fun _ claim claimed =>
    Stylesheet.exists_rule_of_isJson (fixedEntries_isJson (claimedWritable claim claimed))
  refine Traced.Meets.ofResult ran ?_
  cases flavor with
  | inlineStyles =>
      rw [← Except.ok.inj ((run_inlineStyles table built).symm.trans ran)]
      refine writable.restyle (editOf_keepsLiterals fun receipt member => ?_)
      rcases List.mem_map.mp member with ⟨item, listed, rfl⟩
      rcases List.mem_filterMap.mp listed with ⟨node, styled, found⟩
      rcases Option.map_eq_some_iff.mp found with ⟨origin, _, rfl⟩
      exact inlineStyle_entries_literal (styledWritable node styled).style
  | scopedClasses =>
      rw [run_scopedClasses records, ScopedClasses.style_outcome] at ran
      rcases map_eq_ok_iff.mp ran with ⟨assigned, _, rfl⟩
      exact ClassOutput.styled_writable _ writable trivial
  | injectedStyles =>
      rw [run_injectedStyles records, InjectedStyles.style_outcome] at ran
      rcases map_eq_ok_iff.mp ran with ⟨assigned, succeeded, rfl⟩
      -- The style object is a literal: each of its rules is the fixed part of a style.
      refine ClassOutput.styled_writable _ writable (Value.hasLiteral_map.mpr fun entry member => ?_)
      rcases List.mem_map.mp member with ⟨classRule, listed, rfl⟩
      obtain ⟨claim, claimed, made⟩ := rule_of_mem_classRules (assigns_of_assign succeeded).1 listed
      refine ⟨⟨classRule.name, rfl⟩, ?_⟩
      rw [← Except.ok.inj made]
      exact Value.hasLiteral_of_isJson (Value.isJson_map.mpr
        (fixedEntries_isJson (claimedWritable claim claimed)))

end Passes

end ComponentCompiler
