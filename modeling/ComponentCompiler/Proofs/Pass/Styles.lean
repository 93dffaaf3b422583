import ComponentCompiler.Generator.Flavor
import ComponentCompiler.Proofs.Pass.Compiled
import ComponentCompiler.Proofs.Styling.Wardrobe
import ComponentCompiler.Proofs.Stylesheet.Rule

namespace ComponentCompiler

open Styling

/-!
# What the style passes leave

The two class passes differ in how a class is referred to and in the chunk that
holds the fixed entries.  Both decorate the elements and, when there is a class,
add one chunk and make the export stand behind it.  What they hand out follows
the claims, that is, the names.  No pass fails but for a rule that cannot be
made.
-/

/-! ## The chunks of a class pass -/

/-- How a class pass leaves its classes: the expression for a class, the import
that it needs, the chunk of some rules, and the new content of the export. -/
structure ClassOutput (ρ : Type) where
  reference : String → String
  registration : String × Dependency
  chunk : List (ClassRule ρ) → Chunk
  exportContent : Option String

namespace ClassOutput

variable {ρ : Type}

/-- The chunks after a class pass. -/
def styled (output : ClassOutput ρ) (assigned : List (Assignment ρ)) (chunks : ChunkStore) :
    ChunkStore :=
  let decorated := decorateAll assigned output.reference chunks
  if (classRules assigned).isEmpty then decorated
  else
    let styles := output.chunk (classRules assigned)
    (decorated.add styles).extendExport "export" styles.name "import" output.exportContent

/-- The assembly after a class pass. -/
def leaves (output : ClassOutput ρ) (assembly : Assembly) (assigned : List (Assignment ρ)) :
    Assembly :=
  { assembly with
    registry :=
      if (classRules assigned).isEmpty then assembly.registry
      else assembly.registry.register output.registration.1 output.registration.2
    chunks := output.styled assigned assembly.chunks }

theorem content?_component_styled {output : ClassOutput ρ} {styleName : String}
    (named : ∀ rules, (output.chunk rules).name = styleName) (other : styleName ≠ "react-component")
    (assigned : List (Assignment ρ)) (chunks : ChunkStore) :
    (output.styled assigned chunks).content? "react-component" =
      (chunks.content? "react-component").map (ChunkContent.restyle (editOf
        (assigned.map fun assignment =>
          (assignment.origin, assignment.receipt output.reference)))) := by
  rw [← ChunkStore.content?_restyle, ← decorateAll_eq_restyle]
  unfold styled
  simp only
  split
  · rfl
  · have different : (output.chunk (classRules assigned)).name ≠ "react-component" :=
      named (classRules assigned) ▸ other
    unfold ChunkStore.content?
    rw [ChunkStore.chunk?_extendExport_of_ne (by decide), ChunkStore.chunk?_add_of_ne different]

theorem content?_styles_styled {output : ClassOutput ρ} {styleName : String}
    (named : ∀ rules, (output.chunk rules).name = styleName) (other : "export" ≠ styleName)
    (assigned : List (Assignment ρ)) {chunks : ChunkStore}
    (absent : chunks.content? styleName = none) :
    (output.styled assigned chunks).content? styleName =
      if (classRules assigned).isEmpty then none
      else some (output.chunk (classRules assigned)).content := by
  unfold styled
  simp only
  split
  · rw [decorateAll_eq_restyle, ChunkStore.content?_restyle, absent]
    rfl
  · have found := ChunkStore.chunk?_add_self (decorateAll assigned output.reference chunks)
      (output.chunk (classRules assigned))
    rw [named] at found ⊢
    unfold ChunkStore.content?
    rw [ChunkStore.chunk?_extendExport_of_ne other, found]
    rfl

end ClassOutput

/-- How scoped classes are left: as rules of a stylesheet. -/
def ScopedClasses.output (stylesObject : String) (camelCase : Bool) (component : Component) :
    ClassOutput String :=
  { reference := ScopedClasses.classReference stylesObject camelCase
    registration := (stylesObject, ScopedClasses.stylesheetDependency component)
    chunk := fun rules => ScopedClasses.stylesheetChunk
      { stylesObject := stylesObject, camelCase := camelCase } (rules.map ClassRule.rule)
    exportContent := none }

/-- The pass of scoped classes fails as its assignments do. -/
theorem ScopedClasses.style_outcome (stylesObject : String) (camelCase : Bool)
    (assembly : Assembly) :
    (ScopedClasses.style { stylesObject := stylesObject, camelCase := camelCase }
        assembly).outcome =
      (assignments ScopedClasses.classPass assembly).outcome.map
        ((ScopedClasses.output stylesObject camelCase assembly.component).leaves assembly) := by
  unfold ScopedClasses.style
  rw [Traced.outcome_bind]
  cases (assignments ScopedClasses.classPass assembly).outcome with
  | error failure => rfl
  | ok assigned =>
      simp only [ClassOutput.leaves, ClassOutput.styled, Except.map, bind, Except.bind]
      cases classRules assigned <;> rfl

/-- How injected classes are left: as entries of a style object. -/
def InjectedStyles.output (library : StyleLibrary) (component : Component) : ClassOutput Value :=
  { reference := InjectedStyles.classReference
    registration := (library.importName, InjectedStyles.libraryDependency library)
    chunk := InjectedStyles.styleObjectChunk {}
    exportContent := some
      (Script.injectedExport (Naming.componentName component.name) "style" library.importName) }

/-- The pass of injected styles fails as its assignments do. -/
theorem InjectedStyles.style_outcome (library : StyleLibrary) (assembly : Assembly) :
    (InjectedStyles.style { library := library } assembly).outcome =
      (assignments InjectedStyles.classPass assembly).outcome.map
        ((InjectedStyles.output library assembly.component).leaves assembly) := by
  unfold InjectedStyles.style
  rw [Traced.outcome_bind]
  cases (assignments InjectedStyles.classPass assembly).outcome with
  | error failure => rfl
  | ok assigned =>
      simp only [ClassOutput.leaves, ClassOutput.styled, Except.map, bind, Except.bind]
      cases classRules assigned <;> rfl

/-! ## What a class pass hands out -/

/-- The stylesheet has one rule for each class that is worn, in order, made of
the fixed entries of its node. -/
def IsStylesheet (worn : List Worn) (content : Option ChunkContent) : Prop :=
  if worn = [] then content = none
  else ∃ rules, worn.mapM (fun item =>
      Stylesheet.rule ("." ++ item.className) (asEntries item.node.fixedEntries)) = .ok rules ∧
    content = some (.text (Text.joinWith "\n\n" rules ++ "\n"))

/-- The style object has one entry for each class that is worn, in order: the
fixed entries of its node. -/
def IsStyleObject (worn : List Worn) (content : Option ChunkContent) : Prop :=
  content =
    if worn = [] then none
    else some (.declaration ⟨"style", .map (worn.map fun item =>
      (.text item.className, item.node.fixedEntries.toValue))⟩)

/-- Where a flavor keeps the classes that are worn. -/
def Flavor.KeepsClasses (worn : List Worn) (chunks : ChunkStore) : Flavor → Prop
  | .scopedClasses => IsStylesheet worn (chunks.content? "css-modules")
  | .injectedStyles => IsStyleObject worn (chunks.content? "jss-style-definition")
  | .inlineStyles => worn = []

/-- The expression by which an element refers to a class. -/
def Flavor.reference (stylesObject : String) (camelCase : Bool) : Flavor → String → String
  | .scopedClasses => ScopedClasses.classReference stylesObject camelCase
  | _ => InjectedStyles.classReference

/-- What a class pass hands out to the elements of a component, and what it leaves
in the chunks. -/
structure HandsOut (flavor : Flavor) (stylesObject : String) (camelCase : Bool) (built : Assembly)
    (function : ComponentFunction) (chunks : ChunkStore) (worn : List Worn) (edit : Edit) :
    Prop where
  /-- The classes are those that the nodes are given one after another. -/
  given : worn.map Worn.className = givenClasses [] (worn.map fun item => item.node.name)
  /-- No element wears two classes. -/
  origins : (worn.map Worn.origin).Nodup
  /-- The classes stand in the order of the claims. -/
  order : (worn.map fun item => (item.origin, item.node)).Sublist
    (claims built.nodes [] built.styledNodes)
  /-- The claimed elements with fixed entries wear a class, and no others. -/
  wearers : ∀ origin node, (∃ className, ⟨origin, node, className⟩ ∈ worn) ↔
    (origin, node) ∈ claims built.nodes [] built.styledNodes ∧ node.fixedEntries ≠ []
  /-- The classes are kept with the fixed entries. -/
  kept : flavor.KeepsClasses worn chunks
  /-- The component is restyled. -/
  component : chunks.content? "react-component" =
    some (.component { function with root := function.root.restyle edit })
  /-- What a claimed element receives. -/
  received : ∀ {origin node}, (origin, node) ∈ claims built.nodes [] built.styledNodes →
    edit origin = Receipt.onAttributes
      ⟨node.boundEntries, (classAt worn origin).map (flavor.reference stylesObject camelCase)⟩
  /-- An element that is not claimed stays as it was built. -/
  passedOver : ∀ {origin}, origin ∉ (claims built.nodes [] built.styledNodes).map Prod.fst →
    edit origin = fun attributes => attributes

/-- Every class is worn once. -/
theorem HandsOut.classes {flavor : Flavor} {stylesObject : String} {camelCase : Bool}
    {built : Assembly} {function : ComponentFunction} {chunks : ChunkStore} {worn : List Worn}
    {edit : Edit} (handsOut : HandsOut flavor stylesObject camelCase built function chunks worn edit) :
    (worn.map Worn.className).Nodup :=
  handsOut.given ▸ givenClasses_nodup _ _

/-- The chunk in which a class flavor keeps its classes. -/
def Flavor.styleChunk (content : ChunkContent) : Flavor → Chunk
  | .injectedStyles => ⟨"jss-style-definition", .script, content, [], ["import"]⟩
  | _ => ⟨"css-modules", .stylesheet, content, [], []⟩

/-- The import that the classes of a flavor need. -/
def Flavor.styleImport (stylesObject : String) (library : StyleLibrary) (component : Component) :
    Flavor → String × Dependency
  | .injectedStyles => (library.importName, InjectedStyles.libraryDependency library)
  | _ => (stylesObject, ScopedClasses.stylesheetDependency component)

/-- The new content of the export of a component that has classes, where a flavor gives
it one. -/
def Flavor.exported (library : StyleLibrary) (component : Component) : Flavor → Option String
  | .injectedStyles => some
      (Script.injectedExport (Naming.componentName component.name) "style" library.importName)
  | _ => none

/-- What a style pass leaves besides the restyled elements: nothing when no class is
worn, and otherwise an import, the chunk of the classes, and an export that stands
behind it. -/
structure Flavor.Leaves (flavor : Flavor) (stylesObject : String) (library : StyleLibrary)
    (built styled : Assembly) (worn : List Worn) (edit : Edit) : Prop where
  component : styled.component = built.component
  idle : worn = [] → styled.registry = built.registry ∧ styled.chunks = built.chunks.restyle edit
  busy : worn ≠ [] →
    styled.registry = built.registry.register
      (flavor.styleImport stylesObject library built.component).1
      (flavor.styleImport stylesObject library built.component).2 ∧
    ∃ content, styled.chunks =
      ((built.chunks.restyle edit).add (flavor.styleChunk content)).extendExport "export"
        (flavor.styleChunk content).name "import" (flavor.exported library built.component)

section HandingOut

variable {ρ : Type} {table : MappingTable} {built : Assembly} {function : ComponentFunction}

/-- Besides the component there is only its export before the style pass. -/
theorem Assembly.Records.content?_eq_none (records : built.Records table function)
    {styleName : String} (notComponent : styleName ≠ "react-component")
    (notExport : "export" ≠ styleName) : built.chunks.content? styleName = none := by
  rw [ChunkStore.content?, Option.map_eq_none_iff]
  refine List.find?_eq_none.mpr fun chunk member sameName => ?_
  have listed : chunk.name ∈ built.chunks.names := List.mem_map_of_mem member
  rw [records.names, of_decide_eq_true sameName] at listed
  rcases List.mem_cons.mp listed with same | later
  · exact notComponent same
  · exact notExport (List.mem_singleton.mp later).symm

theorem Assembly.Records.content?_component (records : built.Records table function) :
    built.chunks.content? "react-component" = some (.component function) := by
  rw [ChunkStore.content?, records.chunk]
  rfl

/-- The recorded component is the one that was built. -/
theorem Assembly.Records.function_eq (records : built.Records table function)
    {component : Component} {notes : List BuildNote} {parts : List Markup} {hooks : List String}
    (left : built.BuiltFrom component notes parts hooks) :
    function = ⟨Naming.componentName component.name, .element (gathered parts), hooks⟩ := by
  have found := records.content?_component
  rw [left.chunks] at found
  cases found
  rfl

theorem isEmpty_iff_of_makesRules {classPass : ClassPass ρ} {worn : List Worn}
    {rules : List (ClassRule ρ)} (made : MakesRules classPass worn rules) :
    rules.isEmpty = true ↔ worn = [] := by
  rw [List.isEmpty_iff, ← List.length_eq_zero_iff, ← List.length_eq_zero_iff,
    List.Forall₂.length_eq made]

theorem ClassOutput.content?_of_makesRules (output : ClassOutput ρ) {styleName : String}
    (named : ∀ rules, (output.chunk rules).name = styleName)
    (notComponent : styleName ≠ "react-component") (notExport : "export" ≠ styleName)
    (records : built.Records table function) {classPass : ClassPass ρ} {worn : List Worn}
    {assigned : List (Assignment ρ)} (made : MakesRules classPass worn (classRules assigned)) :
    (output.styled assigned built.chunks).content? styleName =
      if worn = [] then none else some (output.chunk (classRules assigned)).content := by
  rw [ClassOutput.content?_styles_styled named notExport assigned
    (records.content?_eq_none notComponent notExport)]
  have sameEmpty := isEmpty_iff_of_makesRules made
  by_cases empty : worn = []
  · rw [if_pos (sameEmpty.mpr empty), if_pos empty]
  · rw [if_neg fun none => empty (sameEmpty.mp none), if_neg empty]

theorem ClassOutput.handsOut {flavor : Flavor} {stylesObject : String} {camelCase : Bool}
    {library : StyleLibrary} (output : ClassOutput ρ) {styleName : String}
    (named : ∀ rules, (output.chunk rules).name = styleName)
    (notComponent : styleName ≠ "react-component")
    (refers : output.reference = flavor.reference stylesObject camelCase)
    (imports : output.registration = flavor.styleImport stylesObject library built.component)
    (exports : output.exportContent = flavor.exported library built.component)
    (chunked : ∀ rules, output.chunk rules = flavor.styleChunk (output.chunk rules).content)
    (records : built.Records table function) {classPass : ClassPass ρ}
    {assigned : List (Assignment ρ)}
    (succeeded : (assignments classPass built).outcome = .ok assigned)
    (keeps : ∀ worn, MakesRules classPass worn (classRules assigned) →
      flavor.KeepsClasses worn (output.styled assigned built.chunks)) :
    ∃ worn edit, HandsOut flavor stylesObject camelCase built function
        (output.styled assigned built.chunks) worn edit ∧
      flavor.Leaves stylesObject library built (output.leaves built assigned) worn edit := by
  rcases assigns_of_assign succeeded with ⟨matching, classNames⟩
  rcases exists_dressed matching (claims_nodup _ _ _) classNames with ⟨worn, dressed⟩
  refine ⟨worn, editOf (assigned.map fun assignment =>
    (assignment.origin, assignment.receipt output.reference)), ⟨dressed.given, dressed.origins,
    dressed.order, dressed.wearers, keeps worn dressed.rules, ?_, ?_, dressed.passedOver⟩, rfl,
    ?_, ?_⟩
  · rw [ClassOutput.content?_component_styled named notComponent, records.content?_component]
    rfl
  · intro origin node claimed
    rw [← refers]
    exact dressed.received claimed
  · intro empty
    have none := (isEmpty_iff_of_makesRules dressed.rules).mpr empty
    rw [ClassOutput.leaves, ClassOutput.styled, ← decorateAll_eq_restyle]
    simp only [none, if_true]
    exact ⟨trivial, trivial⟩
  · intro nonempty
    have some : (classRules assigned).isEmpty = false :=
      Bool.eq_false_iff.mpr fun none => nonempty ((isEmpty_iff_of_makesRules dressed.rules).mp none)
    rw [ClassOutput.leaves, ClassOutput.styled, ← decorateAll_eq_restyle, ← imports, ← exports]
    simp only [some, Bool.false_eq_true, if_false]
    refine ⟨trivial, (output.chunk (classRules assigned)).content, ?_⟩
    rw [← chunked]

/-- The rules of the stylesheet are made of the fixed entries that are worn. -/
theorem isStylesheet_of_makesRules {worn : List Worn} {rules : List (ClassRule String)}
    {content : Option ChunkContent} (made : MakesRules ScopedClasses.classPass worn rules)
    (found : content = if worn = [] then none
      else some (.text (Text.joinWith "\n\n" (rules.map ClassRule.rule) ++ "\n"))) :
    IsStylesheet worn content := by
  unfold IsStylesheet
  split
  · rename_i empty
    rw [if_pos empty] at found
    exact found
  · rename_i nonempty
    rw [if_neg nonempty] at found
    refine ⟨rules.map ClassRule.rule, mapM_eq_ok_iff.mpr ?_, found⟩
    rw [List.forall₂_map_right_iff]
    exact List.Forall₂.imp (fun _ _ rule => rule.2.2) made

/-- The entries of the style object are the fixed entries that are worn. -/
theorem entries_of_makesRules {worn : List Worn} {rules : List (ClassRule Value)}
    (made : MakesRules InjectedStyles.classPass worn rules) :
    rules.map (fun classRule => (Key.text classRule.name, classRule.rule)) =
      worn.map fun item => (.text item.className, item.node.fixedEntries.toValue) := by
  unfold MakesRules at made
  induction made with
  | nil => rfl
  | cons here _ inductionHypothesis =>
      rcases here with ⟨named, _, rule⟩
      rw [List.map_cons, List.map_cons, inductionHypothesis, named, ← Except.ok.inj rule]

end HandingOut

/-! ## The flavors -/

/-- The choices that a generator makes for its style pass.  The chunks keep their
names. -/
def StyleSettings.ofChoice (stylesObject : String) (camelCase : Bool) (library : StyleLibrary) :
    StyleSettings :=
  ⟨{ stylesObject := stylesObject, camelCase := camelCase }, library⟩

section Flavors

variable {stylesObject : String} {camelCase : Bool} {library : StyleLibrary}
  {table : MappingTable} {built : Assembly} {function : ComponentFunction}

/-- Where the component has its chunk, the pass of scoped classes is its styling. -/
theorem run_scopedClasses (records : built.Records table function) :
    (Flavor.scopedClasses.pass (.ofChoice stylesObject camelCase library)).run table built =
      ScopedClasses.style { stylesObject := stylesObject, camelCase := camelCase } built := by
  simp only [Flavor.pass, StyleSettings.ofChoice, Pass.scopedClasses, records.chunk,
    Option.isNone_some, Bool.false_eq_true, if_false]

theorem run_injectedStyles (records : built.Records table function) :
    (Flavor.injectedStyles.pass (.ofChoice stylesObject camelCase library)).run table built =
      InjectedStyles.style { library := library } built := by
  simp only [Flavor.pass, StyleSettings.ofChoice, Pass.injectedStyles, records.chunk,
    Option.isNone_some, Bool.false_eq_true, if_false]

theorem mem_styledNodes_iff {node : ContentNode} :
    node ∈ built.styledNodes ↔ node ∈ built.walked ∧ node.style.getD [] ≠ [] := by
  rw [Assembly.styledNodes, List.mem_filter, Bool.not_eq_true', List.isEmpty_eq_false_iff]
  rfl

/-- The inline pass restyles the chunks, whatever they are. -/
theorem run_inlineStyles (table : MappingTable) (built : Assembly) :
    (Pass.inlineStyles.run table built).outcome = .ok { built with
      chunks := built.chunks.restyle
        (editOf (inlineReceipts (located built.nodes built.styledNodes))) } := by
  unfold Pass.inlineStyles
  rw [Traced.outcome_bind, inlineStyle_outcome fun node listed => (mem_styledNodes_iff.mp listed).2]
  rfl

/-- The inline pass leaves the restyled elements and nothing else. -/
theorem inlineStyles_leaves {styled : Assembly} (records : built.Records table function)
    (ran : (Pass.inlineStyles.run table built).outcome = .ok styled) :
    Flavor.inlineStyles.Leaves stylesObject library built styled []
        (editOf (inlineReceipts (located built.nodes built.styledNodes))) ∧
      styled.chunks.content? "react-component" = some (.component { function with
        root := function.root.restyle
          (editOf (inlineReceipts (located built.nodes built.styledNodes))) }) := by
  rw [← Except.ok.inj ((run_inlineStyles table built).symm.trans ran)]
  refine ⟨⟨rfl, fun _ => ⟨rfl, rfl⟩, fun some => absurd rfl some⟩, ?_⟩
  rw [ChunkStore.content?_restyle, records.content?_component]
  rfl

theorem Flavor.handsOut_and_leaves {flavor : Flavor} {styled : Assembly}
    (withClasses : flavor ≠ .inlineStyles) (records : built.Records table function)
    (ran : ((flavor.pass (.ofChoice stylesObject camelCase library)).run table built).outcome =
      .ok styled) :
    ∃ worn edit, HandsOut flavor stylesObject camelCase built function styled.chunks worn edit ∧
      flavor.Leaves stylesObject library built styled worn edit := by
  cases flavor with
  | inlineStyles => exact absurd rfl withClasses
  | scopedClasses =>
      rw [run_scopedClasses records, ScopedClasses.style_outcome] at ran
      rcases map_eq_ok_iff.mp ran with ⟨assigned, succeeded, rfl⟩
      refine (ScopedClasses.output stylesObject camelCase built.component).handsOut (fun _ => rfl)
        (by decide : "css-modules" ≠ "react-component") rfl rfl rfl (fun _ => rfl) records
        succeeded fun worn made => ?_
      have content := (ScopedClasses.output stylesObject camelCase
        built.component).content?_of_makesRules (fun _ => rfl) (by decide)
        (by decide : "export" ≠ "css-modules") records made
      exact isStylesheet_of_makesRules made content
  | injectedStyles =>
      rw [run_injectedStyles records, InjectedStyles.style_outcome] at ran
      rcases map_eq_ok_iff.mp ran with ⟨assigned, succeeded, rfl⟩
      refine (InjectedStyles.output library built.component).handsOut (fun _ => rfl)
        (by decide : "jss-style-definition" ≠ "react-component") rfl rfl rfl (fun _ => rfl) records
        succeeded fun worn made => ?_
      have content := (InjectedStyles.output library built.component).content?_of_makesRules
        (fun _ => rfl) (by decide) (by decide : "export" ≠ "jss-style-definition") records made
      exact content.trans (by rw [← entries_of_makesRules made]; rfl)

theorem Flavor.handsOut {flavor : Flavor} {styled : Assembly} (withClasses : flavor ≠ .inlineStyles)
    (records : built.Records table function)
    (ran : ((flavor.pass (.ofChoice stylesObject camelCase library)).run table built).outcome =
      .ok styled) :
    ∃ worn edit, HandsOut flavor stylesObject camelCase built function styled.chunks worn edit := by
  rcases Flavor.handsOut_and_leaves withClasses records ran with ⟨worn, edit, handsOut, _⟩
  exact ⟨worn, edit, handsOut⟩

/-- A style pass fails only over a rule of scoped classes that cannot be written. -/
theorem Flavor.pass_succeeds_iff {flavor : Flavor} (records : built.Records table function) :
    (∃ styled, ((flavor.pass (.ofChoice stylesObject camelCase library)).run table built).outcome =
        .ok styled) ↔
      (flavor = .scopedClasses → ∀ claim ∈ claims built.nodes [] built.styledNodes,
        ∀ selector, ∃ text, Stylesheet.rule selector (asEntries claim.2.fixedEntries) = .ok text) := by
  cases flavor with
  | inlineStyles =>
      refine ⟨fun _ impossible => ?_, fun _ => ⟨_, run_inlineStyles table built⟩⟩
      cases impossible
  | injectedStyles =>
      refine ⟨fun _ impossible => ?_, fun _ => ?_⟩
      · cases impossible
      · have makeable : ∀ claim ∈ claims built.nodes [] built.styledNodes,
            (split (claim.2.style.getD [])).fixed ≠ [] → ∀ name, ∃ rule,
              InjectedStyles.classPass.rule name (split (claim.2.style.getD [])).fixed = .ok rule :=
          fun claim _ _ _ => ⟨claim.2.fixedEntries.toValue, rfl⟩
        rcases assign_succeeds makeable with ⟨assigned, succeeded⟩
        exact ⟨_, run_injectedStyles records ▸ InjectedStyles.style_outcome library built ▸
          map_eq_ok_iff.mpr ⟨assigned, succeeded, rfl⟩⟩
  | scopedClasses =>
      constructor
      · rintro ⟨styled, ran⟩ _ claim claimed selector
        obtain ⟨worn, edit, handsOut⟩ := Flavor.handsOut (by decide) records ran
        by_cases noFixed : claim.2.fixedEntries = []
        · rw [noFixed]
          exact ⟨_, rfl⟩
        · rcases (handsOut.wearers claim.1 claim.2).mpr ⟨claimed, noFixed⟩ with ⟨className, member⟩
          have kept : IsStylesheet worn _ := handsOut.kept
          rw [IsStylesheet, if_neg (List.ne_nil_of_mem member)] at kept
          rcases kept with ⟨rules, written, _⟩
          rcases exists_mapM_eq_ok_iff.mp ⟨rules, written⟩ _ member with ⟨text, made⟩
          exact Stylesheet.rule_of_other made selector
      · intro writable
        have makeable : ∀ claim ∈ claims built.nodes [] built.styledNodes,
            (split (claim.2.style.getD [])).fixed ≠ [] → ∀ name, ∃ rule,
              ScopedClasses.classPass.rule name (split (claim.2.style.getD [])).fixed = .ok rule :=
          fun claim claimed _ name => writable rfl claim claimed ("." ++ name)
        rcases assign_succeeds makeable with ⟨assigned, succeeded⟩
        exact ⟨_, run_scopedClasses records ▸
          ScopedClasses.style_outcome stylesObject camelCase built ▸
          map_eq_ok_iff.mpr ⟨assigned, succeeded, rfl⟩⟩

end Flavors

end ComponentCompiler
