import ComponentCompiler.Proofs.Generator.Files
import ComponentCompiler.Proofs.Stylesheet.Declared

namespace ComponentCompiler

open Script Styling Stylesheet

/-!
# Bindings in static styles

The entries of a style that are bound to an input are set apart from the fixed
ones, but only at the top of the style.  The fixed entries are written as they
are, with all that their values hold.  So a stylesheet declares the bindings that
stand in nested maps, and a style object holds those inside any value.  No other
binding gets into either.
-/

/-- A value directly holds another. -/
def Value.Holds (outer inner : Value) : Prop :=
  inner ∈ outer.parts

/-- A style holds a binding to the input below one of its entries, at any depth of
what is opened. -/
def ContentNode.NestsBinding (opens : Value → Value → Prop) (node : ContentNode) (path : String) :
    Prop :=
  ∃ entry ∈ node.style.getD [], ∃ value, Relation.TransGen opens entry.2 value ∧
    Binding.prop? value = some path

/-- The rule of a class that is worn. -/
def Worn.rule (item : Worn) : StyleRule :=
  ruleTree ("." ++ item.className) (asEntries item.node.fixedEntries)

/-! ## Fixed entries -/

theorem mem_fixedEntries {node : ContentNode} {entry : String × Value} :
    entry ∈ node.fixedEntries ↔ entry ∈ node.style.getD [] ∧ Binding.prop? entry.2 = none := by
  rw [← Option.isNone_iff_eq_none]
  exact List.mem_filter

/-- What holds something is no text. -/
theorem prop?_eq_none_of_holds {opens : Value → Value → Prop}
    (textless : ∀ content inner, ¬ opens (.text content) inner) {outer inner : Value}
    (holds : Relation.TransGen opens outer inner) : Binding.prop? outer = none := by
  refine Option.eq_none_iff_forall_ne_some.mpr fun path bound => ?_
  rw [(Binding.prop?_eq_some_iff.mp bound).1] at holds
  rcases Relation.TransGen.head'_iff.mp holds with ⟨next, step, _⟩
  exact textless _ next step

/-- The fixed entries hold the bindings that the style holds below its entries. -/
theorem nestsBinding_iff {opens : Value → Value → Prop}
    (textless : ∀ content inner, ¬ opens (.text content) inner) {node : ContentNode}
    {path : String} :
    node.NestsBinding opens path ↔
      ∃ entry ∈ node.fixedEntries, ∃ value, Relation.ReflTransGen opens entry.2 value ∧
        Binding.prop? value = some path := by
  constructor
  · rintro ⟨entry, member, value, holds, bound⟩
    have fixed := mem_fixedEntries.mpr ⟨member, prop?_eq_none_of_holds textless holds⟩
    exact ⟨entry, fixed, value, holds.to_reflTransGen, bound⟩
  · rintro ⟨entry, fixed, value, reaches, bound⟩
    rcases mem_fixedEntries.mp fixed with ⟨member, unbound⟩
    refine ⟨entry, member, value, ?_, bound⟩
    rcases Relation.reflTransGen_iff_eq_or_transGen.mp reaches with same | holds
    · rw [same, unbound] at bound
      cases bound
    · exact holds

/-! ## Stylesheets -/

theorem not_holdsNamed_text (content : String) (inner : Value) :
    ¬ HoldsNamed (.text content) inner := by
  rintro ⟨entries, name, impossible, _⟩
  cases impossible

/-- The rule of a class declares the bindings in the nested maps of its node. -/
theorem Worn.declares_binding_iff (item : Worn) (path : String) :
    (∃ entry ∈ item.rule.declarations,
        Binding.prop? (.text (propertyValue entry.1 entry.2)) = some path) ↔
      item.node.NestsBinding HoldsNamed path := by
  rw [nestsBinding_iff not_holdsNamed_text]
  constructor
  · rintro ⟨⟨name, value⟩, declared, bound⟩
    rw [prop?_propertyValue] at bound
    rcases mem_declarations_ruleTree.mp declared with ⟨_, entries, reaches, listed⟩
    have holds : Relation.TransGen HoldsNamed (.map (asEntries item.node.fixedEntries)) value :=
      Relation.TransGen.tail' reaches ⟨entries, name, rfl, listed⟩
    rcases Relation.TransGen.head'_iff.mp holds with ⟨next, ⟨_, field, isMap, member⟩, onward⟩
    cases isMap
    rcases List.mem_map.mp member with ⟨entry, fixed, same⟩
    rcases Prod.mk.inj same with ⟨_, rfl⟩
    exact ⟨entry, fixed, value, onward, bound⟩
  · rintro ⟨entry, fixed, value, reaches, bound⟩
    have member : (Key.text entry.1, entry.2) ∈ asEntries item.node.fixedEntries :=
      List.mem_map_of_mem fixed
    have holds : Relation.TransGen HoldsNamed (.map (asEntries item.node.fixedEntries)) value :=
      Relation.TransGen.head' ⟨_, _, rfl, member⟩ reaches
    rcases Relation.TransGen.tail'_iff.mp holds with ⟨_, before, ⟨entries, name, rfl, listed⟩⟩
    have isText := (Binding.prop?_eq_some_iff.mp bound).1
    refine ⟨(name, value), mem_declarations_ruleTree.mpr ⟨?_, entries, before, listed⟩, ?_⟩
    · rw [isText]
      exact nofun
    · rw [prop?_propertyValue]
      exact bound

/-! ## Style objects -/

theorem not_holds_text (content : String) (inner : Value) : ¬ (Value.text content).Holds inner :=
  List.not_mem_nil

/-- The style object holds the bindings inside the entries of the nodes that wear a
class. -/
theorem styleObject_holds_binding_iff (worn : List Worn) (path : String) :
    (∃ value, Relation.TransGen Value.Holds (styleDeclaration worn).value value ∧
        Binding.prop? value = some path) ↔
      ∃ item ∈ worn, item.node.NestsBinding Value.Holds path := by
  simp only [nestsBinding_iff not_holds_text]
  constructor
  · rintro ⟨value, holds, bound⟩
    have isText := (Binding.prop?_eq_some_iff.mp bound).1
    -- the first step leads to a class and the second to one of its entries
    rcases Relation.TransGen.head'_iff.mp holds with ⟨ofClass, first, onward⟩
    rcases List.mem_map.mp first with ⟨_, listed, rfl⟩
    rcases List.mem_map.mp listed with ⟨item, member, rfl⟩
    rcases Relation.ReflTransGen.cases_head onward with same | ⟨ofEntry, second, later⟩
    · rw [← same] at isText
      cases isText
    · rcases List.mem_map.mp second with ⟨_, entryListed, rfl⟩
      rcases List.mem_map.mp entryListed with ⟨entry, fixed, rfl⟩
      exact ⟨item, member, entry, fixed, value, later, bound⟩
  · rintro ⟨item, member, entry, fixed, value, reaches, bound⟩
    refine ⟨value, ?_, bound⟩
    have first : (styleDeclaration worn).value.Holds item.node.fixedEntries.toValue :=
      List.mem_map.mpr ⟨_, List.mem_map_of_mem member, rfl⟩
    have second : item.node.fixedEntries.toValue.Holds entry.2 :=
      List.mem_map.mpr ⟨_, List.mem_map_of_mem fixed, rfl⟩
    exact Relation.TransGen.head first (Relation.TransGen.head' second reaches)

/-! ## Compiled components -/

/-- Rules that are written have the texts of their trees. -/
theorem rulesOf_eq_texts {worn : List Worn} {rules : List String}
    (written : rulesOf worn = .ok rules) : rules = worn.map fun item => item.rule.text := by
  have each := mapM_eq_ok_iff.mp written
  clear written
  induction each with
  | nil => rfl
  | cons here _ inductionHypothesis =>
      rw [List.map_cons, rule_eq_text here, inductionHypothesis]
      rfl

/-- For every component that is compiled with classes, a binding to an input is the
value of a declaration in the stylesheet exactly when a node that wears a class has
it in a nested map of its style, and it is found in the style object exactly when
such a node has it anywhere inside an entry of its style.  The bindings at the top of
a style never get there. -/
theorem static_styles_hold_nested_bindings (stylesObject : String) (camelCase : Bool)
    (library : StyleLibrary) {flavor : Flavor} (withClasses : flavor ≠ .inlineStyles)
    {own overrides : Option MappingTable} {component : Component} {compiled : CompiledComponent}
    (succeeded : ((Generator.ofFlavor flavor own
      (.ofChoice stylesObject camelCase library)).compile overrides component).outcome =
        .ok compiled) :
    let generator := Generator.ofFlavor flavor own (.ofChoice stylesObject camelCase library)
    ∃ built worn, ∃ blocks : ScriptBlocks, ∃ stylesheet : Option OutputFile,
      ((Pass.componentTree {}).run (generator.tableFor overrides)
        (Assembly.start component)).outcome = .ok built ∧
      (worn.map fun item => (item.origin, item.node)) =
        (claims built.nodes [] built.styledNodes).filter (fun claim => claim.2.fixedEntries ≠ []) ∧
      compiled.files = ⟨Naming.dashCase component.name, "js", Text.joinWith "\n" blocks.all⟩ ::
        stylesheet.toList ∧
      (stylesheet.isSome ↔ flavor = .scopedClasses ∧ worn ≠ []) ∧
      (∀ file ∈ stylesheet, file.content =
        Text.joinWith "\n\n" (worn.map fun item => item.rule.text) ++ "\n") ∧
      (∀ path, (∃ item ∈ worn, ∃ entry ∈ item.rule.declarations,
          Binding.prop? (.text (propertyValue entry.1 entry.2)) = some path) ↔
        ∃ item ∈ worn, item.node.NestsBinding HoldsNamed path) ∧
      (blocks.styleObject.isSome ↔ flavor = .injectedStyles ∧ worn ≠ []) ∧
      (∀ text ∈ blocks.styleObject, (styleDeclaration worn).render = .ok text) ∧
      ∀ path, (∃ value, Relation.TransGen Value.Holds (styleDeclaration worn).value value ∧
          Binding.prop? value = some path) ↔
        ∃ item ∈ worn, item.node.NestsBinding Value.Holds path := by
  intro generator
  rcases stages_of_compile succeeded with ⟨built, styled, imported, stages, _, made⟩
  rcases records_of_assembleTree stages.tree with ⟨_, before, records⟩
  rcases builtFrom_of_assembleTree stages.tree with ⟨notes, parts, hooks, _, _, left⟩
  rcases Flavor.handsOut_and_leaves withClasses records stages.style with
    ⟨worn, edit, handsOut, leaves⟩
  have imports := stages.imported_eq (leaves.registers_library left)
  subst imports
  rcases leaves.writes left handsOut.kept made with ⟨blocks, stylesheet, files, script, sheet⟩
  refine ⟨built, worn, blocks, stylesheet, stages.tree, handsOut.claimants, files, sheet.styled,
    ?_, ?_, script.styled, script.styleObject, styleObject_holds_binding_iff worn⟩
  · intro file here
    rcases sheet.rules file here with ⟨rules, written, rfl⟩
    rw [rulesOf_eq_texts written]
  · intro path
    simp only [Worn.declares_binding_iff]

/-- A link that changes its colour below the pointer to one that is given. -/
def hoverLink : Component :=
  ⟨"Link", .plain "text" "link" (some [("color", .text "red"),
    (":hover", .map [(.text "color", .text "$props.hoverColor")])]) none, none, none, none⟩

/-- The stylesheet of the link has the binding as the text of a declaration. -/
theorem hoverLink_declares_its_binding :
    ∃ compiled, ∃ worn : List Worn,
      ((Generator.ofFlavor .scopedClasses none (.ofChoice "styles" false {})).compile none
        hoverLink).outcome = .ok compiled ∧
      compiled.files.tail = [⟨"link", "css", ".link \x7b\n  color: red;\n\x7d\n" ++
        ".link:hover \x7b\n  color: $props.hoverColor;\n\x7d\n"⟩] ∧
      ∃ item ∈ worn, ∃ entry ∈ item.rule.declarations,
        Binding.prop? (.text (propertyValue entry.1 entry.2)) = some "hoverColor" := by
  have evaluated : ((Generator.ofFlavor .scopedClasses none (.ofChoice "styles" false {})).compile
      none hoverLink).outcome.toOption.map (fun compiled => compiled.files.tail) =
        some [⟨"link", "css", ".link \x7b\n  color: red;\n\x7d\n" ++
          ".link:hover \x7b\n  color: $props.hoverColor;\n\x7d\n"⟩] := by
    decide +kernel
  rcases Option.map_eq_some_iff.mp evaluated with ⟨compiled, found, sheet⟩
  have succeeded := eq_ok_of_toOption_eq_some found
  obtain ⟨built, worn, _, stylesheet, tree, listed, files, styled, _, declares, _⟩ :=
    static_styles_hold_nested_bindings "styles" false {} (by decide) succeeded
  refine ⟨compiled, worn, succeeded, sheet, (declares "hoverColor").mpr ?_⟩
  -- there is a stylesheet, so a class is worn, and the link is the only node
  obtain ⟨item, member⟩ : ∃ item, item ∈ worn := by
    rw [files, List.tail_cons] at sheet
    have present : stylesheet.isSome = true := by
      cases stylesheet with
      | none => cases sheet
      | some file => rfl
    exact List.exists_mem_of_ne_nil worn (styled.mp present).2
  have single : item.node = hoverLink.content := by
    have noDefaults : ((Pass.componentTree {}).run (Generator.tableFor (Generator.ofFlavor
        .scopedClasses none (.ofChoice "styles" false {})) none)
        (Assembly.start hoverLink)).outcome.toOption.map (fun built => built.defaults.isEmpty) =
          some true := by
      decide +kernel
    rw [tree] at noDefaults
    have claimed : (item.origin, item.node) ∈ claims built.nodes [] built.styledNodes := by
      have among := List.mem_map_of_mem (f := fun item => (item.origin, item.node)) member
      rw [listed] at among
      exact List.mem_of_mem_filter among
    have walked := (mem_styledNodes_iff.mp (of_mem_claims claimed).1).1
    rw [Assembly.walked, (records_of_assembleTree tree).1,
      List.isEmpty_iff.mp (Option.some.inj noDefaults)] at walked
    have alone : [hoverLink.content].flatMap ContentNode.walk = [hoverLink.content] := by
      rw [List.flatMap_singleton, ContentNode.walk_eq]
      rfl
    rw [alone] at walked
    exact List.mem_singleton.mp walked
  refine ⟨item, member, ?_⟩
  rw [single]
  refine ⟨_, List.mem_cons_of_mem _ List.mem_cons_self, .text "$props.hoverColor", ?_, by decide⟩
  exact Relation.TransGen.single ⟨_, "color", rfl, List.mem_cons_self⟩

end ComponentCompiler
