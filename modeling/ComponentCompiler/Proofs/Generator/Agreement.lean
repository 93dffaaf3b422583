import ComponentCompiler.Proofs.Generator.Failure
import ComponentCompiler.Proofs.Markup.Unstyled
import Mathlib.Algebra.Group.Int.Defs

namespace ComponentCompiler

open Styling

/-!
# The flavors agree up to styles

The flavors differ only in the pass between the build and the imports, and this
pass writes nothing but styles.  So the components that they leave are the same
once the styles are taken away, and they fail over the same descriptions, with the
same failure, as long as every style can be written.
-/

/-! ## Style passes write styles only -/

theorem Receipt.onAttributes_restyled (receipt : Receipt) (attributes : Fields) :
    Restyled attributes (receipt.onAttributes attributes) := by
  have merged : Restyled attributes (if receipt.merged.isEmpty then
      (⟨none, "", attributes, []⟩ : Element) else Element.mergeStyle ⟨none, "", attributes, []⟩
        (asEntries receipt.merged)).attributes := by
    split
    · exact Restyled.refl attributes
    · exact Restyled.put (Or.inl rfl) attributes _
  unfold Receipt.onAttributes Receipt.onElement
  dsimp only
  split
  · exact merged.trans (Restyled.put (Or.inr rfl) _ _)
  · exact merged

theorem editOf_restyles (receipts : List (Origin × Receipt)) : (editOf receipts).Restyles :=
  editOf_relates Restyled Restyled.refl Restyled.trans fun receipt _ attributes =>
    Receipt.onAttributes_restyled receipt.2 attributes

section Passes

variable {stylesObject : String} {camelCase : Bool} {library : StyleLibrary}
  {table : MappingTable} {built styled : Assembly} {function : ComponentFunction}

/-- An edit that a class pass hands out touches styles only. -/
theorem HandsOut.restyles {flavor : Flavor} {chunks : ChunkStore} {worn : List Worn} {edit : Edit}
    (handsOut : HandsOut flavor stylesObject camelCase built function chunks worn edit) :
    edit.Restyles := by
  intro origin attributes
  by_cases claimed : origin ∈ (claims built.nodes [] built.styledNodes).map Prod.fst
  · rcases List.mem_map.mp claimed with ⟨⟨_, node⟩, listed, rfl⟩
    rw [handsOut.received listed]
    exact Receipt.onAttributes_restyled _ attributes
  · rw [handsOut.passedOver claimed]
    exact Restyled.refl attributes

/-- Every style pass restyles the component, and touches styles only. -/
theorem Flavor.restyles (flavor : Flavor) (records : built.Records table function)
    (ran : ((flavor.pass (.ofChoice stylesObject camelCase library)).run table built).outcome =
      .ok styled) :
    ∃ edit : Edit, edit.Restyles ∧ styled.chunks.content? "react-component" =
      some (.component { function with root := function.root.restyle edit }) := by
  by_cases inline : flavor = .inlineStyles
  · subst inline
    have leaves : Flavor.inlineStyles.Leaves stylesObject library built styled [] _ ∧ _ :=
      inlineStyles_leaves records ran
    exact ⟨_, editOf_restyles _, leaves.2⟩
  · rcases Flavor.handsOut inline records ran with ⟨worn, edit, handsOut⟩
    exact ⟨edit, handsOut.restyles, handsOut.component⟩

end Passes

/-! ## Calls -/

section Calls

variable {stylesObject : String} {camelCase : Bool} {library : StyleLibrary}

/-- The component that a flavor leaves is, without styles, the one that was built. -/
theorem unstyled_of_stages {flavor : Flavor} {table : MappingTable} {component : Component}
    {built styled imported : Assembly} {function : ComponentFunction}
    (stages : flavor.Stages (.ofChoice stylesObject camelCase library) table component built styled
      imported)
    (records : built.Records table function) :
    ∃ final, imported.chunks.content? "react-component" = some (.component final) ∧
      final.unstyled = function.unstyled := by
  obtain ⟨edit, restyles, content⟩ := flavor.restyles records stages.style
  refine ⟨{ function with root := function.root.restyle edit }, ?_, ?_⟩
  · rw [stages.content?_component]
    exact content
  · unfold ComponentFunction.unstyled
    rw [Markup.unstyled_restyle restyles.stylesOnly]

/-- The component that a generator leaves behind its last pass. -/
def Generator.Leaves (generator : Generator) (document overrides : Value)
    (final : ComponentFunction) : Prop :=
  ∃ component given assembly, Generator.readComponent document = .ok component ∧
    MappingTable.ofOptional overrides = .ok given ∧
    (generator.assembly given component).outcome = .ok assembly ∧
    assembly.chunks.content? "react-component" = some (.component final)

variable {own : Option MappingTable} {document overrides : Value}

theorem exists_leaves_of_generate {flavor : Flavor} {compiled : CompiledComponent}
    (succeeded : ((Generator.ofFlavor flavor own
      (.ofChoice stylesObject camelCase library)).generate document overrides).outcome =
        .ok compiled) :
    ∃ final, (Generator.ofFlavor flavor own
      (.ofChoice stylesObject camelCase library)).Leaves document overrides final := by
  rcases Traced.outcome_bind_eq_ok.mp succeeded with ⟨component, described, afterReading⟩
  rcases Traced.outcome_bind_eq_ok.mp afterReading with ⟨given, overridden, compiles⟩
  rcases stages_of_compile compiles with ⟨built, _, imported, stages, assembled, _⟩
  rcases records_of_assembleTree stages.tree with ⟨_, _, records⟩
  rcases unstyled_of_stages stages records with ⟨final, content, _⟩
  exact ⟨final, component, given, imported, described, overridden, assembled, content⟩

/-- Two flavors build one component, and what each of them leaves is that component up to
styles. -/
theorem unstyled_eq_of_leaves {first second : Flavor} {final other : ComponentFunction}
    (leaves : (Generator.ofFlavor first own
      (.ofChoice stylesObject camelCase library)).Leaves document overrides final)
    (leavesToo : (Generator.ofFlavor second own
      (.ofChoice stylesObject camelCase library)).Leaves document overrides other) :
    final.unstyled = other.unstyled := by
  rcases leaves with ⟨component, given, _, described, overridden, assembled, content⟩
  rcases leavesToo with ⟨_, _, _, describedToo, overriddenToo, assembledToo, contentToo⟩
  cases described.symm.trans describedToo
  cases overridden.symm.trans overriddenToo
  rcases stages_of_assembly assembled with ⟨built, _, stages⟩
  rcases stages_of_assembly assembledToo with ⟨_, _, stagesToo⟩
  cases stages.tree.symm.trans stagesToo.tree
  rcases records_of_assembleTree stages.tree with ⟨_, function, records⟩
  rcases unstyled_of_stages stages records with ⟨_, found, same⟩
  rcases unstyled_of_stages stagesToo records with ⟨_, foundToo, sameToo⟩
  cases content.symm.trans found
  cases contentToo.symm.trans foundToo
  exact same.trans sameToo.symm

end Calls

/-- Whatever is described, the components that two flavors leave are the same once the inline
styles and classes are taken from all elements, and a flavor that succeeds leaves one.

Over descriptions in the stricter notation, with whole numbers of at most `mostDigits` digits in
them and in the tables, and over tables whose default content does not nest, the three flavors
either fail with one failure or all succeed. -/
theorem flavors_agree_up_to_styles (stylesObject : String) (camelCase : Bool)
    (library : StyleLibrary) (own : Option MappingTable) (document overrides : Value) :
    let generator : Flavor → Generator := fun flavor =>
      .ofFlavor flavor own (.ofChoice stylesObject camelCase library)
    (∀ flavor compiled, ((generator flavor).generate document overrides).outcome = .ok compiled →
      ∃ final, (generator flavor).Leaves document overrides final) ∧
    (∀ first second final other, (generator first).Leaves document overrides final →
      (generator second).Leaves document overrides other → final.unstyled = other.unstyled) ∧
    ∀ mapping, document.isJson = true → mapping.isJson = true → overrides.isJson = true →
      MappingTable.ofOptional mapping = .ok own →
      (∀ flavor given, MappingTable.ofOptional overrides = .ok given →
        ((generator flavor).tableFor given).Unnested) →
      (∃ failure, ∀ flavor,
        ((generator flavor).generate document overrides).outcome = .error failure) ∨
      ∀ flavor, ∃ compiled,
        ((generator flavor).generate document overrides).outcome = .ok compiled := by
  intro generator
  refine ⟨fun _ _ => exists_leaves_of_generate, fun _ _ _ _ => unstyled_eq_of_leaves, ?_⟩
  intro mapping documentJson mappingJson overridesJson mapped unnested
  cases described : Generator.readComponent document with
  | error failure =>
      refine Or.inl ⟨failure, fun flavor => ?_⟩
      rw [Generator.generate, Traced.outcome_bind, Traced.ofExcept, described]
      rfl
  | ok component =>
      cases overridden : MappingTable.ofOptional overrides with
      | error failure =>
          refine Or.inl ⟨failure, fun flavor => ?_⟩
          rw [Generator.generate, Traced.outcome_bind, Traced.ofExcept, described]
          change (Traced.ofExcept (MappingTable.ofOptional overrides) >>= _ : Run _).outcome = _
          rw [Traced.outcome_bind, Traced.ofExcept, overridden]
          rfl
      | ok given =>
          -- the table does not depend on the flavor, and neither does the failure of the build
          have meets := fun flavor => generate_meets flavor stylesObject camelCase library
            documentJson mappingJson overridesJson described mapped overridden rfl
            (unnested flavor given overridden)
          let table := (generator .scopedClasses).tableFor given
          cases expected : table.firstFailure
              (table.visits table.defaultDepth component.content) with
          | some failure =>
              refine Or.inl ⟨failure, fun flavor => ?_⟩
              exact Traced.failure?_eq_some_iff.mp ((meets flavor).failure.trans expected)
          | none =>
              refine Or.inr fun flavor => ?_
              exact Traced.failure?_eq_none_iff.mp ((meets flavor).failure.trans expected)

/-- A styled card with a styled text of its own. -/
def noticeDocument : Value :=
  .map [(.text "name", .text "Notice"),
    (.text "content", .map [(.text "type", .text "card"), (.text "name", .text "notice"),
      (.text "style", .map [(.text "color", .text "red"), (.text "width", .text "$props.width")]),
      (.text "children", .list [.text "read", .map [(.text "type", .text "text"),
        (.text "name", .text "hint"), (.text "attrs", .map [(.text "id", .text "h")]),
        (.text "style", .map [(.text "margin", .text "0")])]])])]

def noticeHint : ContentNode :=
  ⟨"text", "hint", some [("margin", .text "0")], some [("id", .text "h")], none, none, none, none,
    none⟩

/-- The notice as it is read. -/
def notice : Component :=
  ⟨"Notice", ⟨"card", "notice", some [("color", .text "red"), ("width", .text "$props.width")],
    none, none, some [.text "read", .node noticeHint], none, none, none⟩, none, none, none⟩

theorem notice_mapped {place : List Step} {node : ContentNode}
    (reached : boardTable.Reaches notice.content place node) : ¬ boardTable.IsUnmapped node := by
  intro unmapped
  have inside : boardTable.below notice.content = [(.child 1, noticeHint)] := rfl
  have leaf : boardTable.below noticeHint = [] := rfl
  cases reached with
  | here => exact absurd unmapped.2 (Option.some_ne_none _)
  | onward led rest =>
      rw [inside, List.mem_singleton] at led
      rcases Prod.mk.inj led with ⟨rfl, rfl⟩
      cases rest with
      | here => exact absurd unmapped.2 (Option.some_ne_none _)
      | onward further _ =>
          rw [leaf] at further
          cases further

/-- All flavors compile the notice, to components that differ in styles only. -/
theorem notice_differs_in_styles_only :
    ∃ common, ∀ flavor : Flavor, ∃ compiled final,
      ((Generator.ofFlavor flavor (some cardEntries) (.ofChoice "styles" true {})).generate
        noticeDocument .null).outcome = .ok compiled ∧
      (Generator.ofFlavor flavor (some cardEntries) (.ofChoice "styles" true {})).Leaves
        noticeDocument .null final ∧
      final.unstyled = common := by
  have described : Generator.readComponent noticeDocument = .ok notice := by cbv
  have mapped : MappingTable.ofOptional cardMapping = .ok (some cardEntries) := by cbv
  have documentJson : noticeDocument.isJson = true := by decide
  have mappingJson : cardMapping.isJson = true := by decide
  have nullJson : Value.null.isJson = true := by decide
  obtain ⟨leaves, agree, alike⟩ :=
    flavors_agree_up_to_styles "styles" true {} (some cardEntries) noticeDocument .null
  rcases alike cardMapping documentJson mappingJson nullJson mapped
    (fun _ _ read => Except.ok.inj read ▸ unnested_boardTable) with ⟨failure, failed⟩ | succeeds
  · -- the call does not fail, as every node of the notice has an entry
    have succeeds := generate_succeeds .inlineStyles "styles" true {} documentJson mappingJson
      nullJson described mapped rfl rfl unnested_boardTable fun _ _ => notice_mapped
    rcases succeeds with ⟨compiled, succeeded⟩
    cases (failed .inlineStyles).symm.trans succeeded
  · rcases succeeds .scopedClasses with ⟨_, firstCompiled⟩
    rcases leaves _ _ firstCompiled with ⟨first, firstLeft⟩
    refine ⟨first.unstyled, fun flavor => ?_⟩
    rcases succeeds flavor with ⟨compiled, succeeded⟩
    rcases leaves _ _ succeeded with ⟨final, left⟩
    exact ⟨compiled, final, succeeded, left, agree _ _ _ _ left firstLeft⟩

/-- A text of some width. -/
def wideText (width : Int) : ContentNode :=
  .plain "text" "a" (some [("width", .int width)]) none

/-- A mapping in which a card brings two texts of one name along, and the width of the first has
one digit too many. -/
def wideTextEntries : MappingTable :=
  [(.text "card", ⟨"div", none, none,
    some [.node (wideText (10 ^ mostDigits)), .node (wideText 1)], none⟩)]

def wideTextTable : MappingTable :=
  .overBuiltin wideTextEntries

/-- The texts bring nothing along. -/
theorem unnested_wideTextTable : wideTextTable.Unnested := by
  apply MappingTable.Acyclic.unnested
  apply MappingTable.acyclic_merge_of_rank fun type => if type = "card" then 1 else 0
  rintro type entry (inOwn | inGiven) root isRoot node walked
  · cases List.mem_singleton.mp inOwn
    rcases List.mem_pair.mp isRoot with rfl | rfl <;>
      rw [wideText, ContentNode.walk_plain, List.mem_singleton] at walked <;>
      rw [walked] <;> decide
  · cases inGiven

def pageDocument : Value :=
  .map [(.text "name", .text "Page"),
    (.text "content", .map [(.text "type", .text "card"), (.text "name", .text "page")])]

/-- Among inline styles the second width takes the place of the first, which is never written.
The other flavors fail over it. -/
theorem wideText_divides_flavors :
    wideTextTable.Unnested ∧ (∃ compiled, ((Generator.ofFlavor .inlineStyles (some wideTextEntries)
      (.ofChoice "styles" true {})).generate pageDocument .null).outcome = .ok compiled) ∧
    ∀ flavor, flavor ≠ .inlineStyles → ((Generator.ofFlavor flavor (some wideTextEntries)
      (.ofChoice "styles" true {})).generate pageDocument .null).outcome =
        .error (.unrenderable .tooManyDigits) := by
  refine ⟨unnested_wideTextTable, ?_, ?_⟩
  · rw [← Traced.failure?_eq_none_iff, ← Option.isNone_iff_eq_none]
    decide +kernel
  · intro flavor other
    apply outcome_of_fault?
    cases flavor with
    | inlineStyles => exact absurd rfl other
    | scopedClasses | injectedStyles => decide +kernel

end ComponentCompiler
