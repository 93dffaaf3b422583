import ComponentCompiler.Proofs.Build.Shape
import ComponentCompiler.Proofs.Generator.Agreement

namespace ComponentCompiler

/-!
# The shape of compiled components

Whatever description and table are compiled, and with whatever flavor, the
component has a single element as its root and a well-formed tree below it.  The
build makes the tree well formed, the style pass restyles it, and the imports
leave it alone.
-/

/-- The component pass leaves a component with a well-formed element as its root. -/
theorem wellFormed_of_assembleTree {component : Component} {table : MappingTable}
    {built : Assembly}
    (succeeded : (assembleTree {} table (Assembly.start component)).outcome = .ok built) :
    ∃ function root, built.Records table function ∧ function.root = .element root ∧
      root.WellFormed := by
  rcases records_of_assembleTree succeeded with ⟨_, function, records⟩
  rcases builtFrom_of_assembleTree succeeded with ⟨notes, parts, hooks, build, _, builtFrom⟩
  cases records.function_eq builtFrom
  refine ⟨_, gathered parts, records, rfl, wellFormed_gathered ?_⟩
  exact (component.yields_build table 0).success parts (congrArg Traced.outcome build)

section Calls

variable {flavor : Flavor} {stylesObject : String} {camelCase : Bool} {library : StyleLibrary}

/-- The later passes keep the shape. -/
theorem wellFormed_of_stages {table : MappingTable} {component : Component}
    {built styled imported : Assembly}
    (stages : flavor.Stages (.ofChoice stylesObject camelCase library) table component built styled
      imported) :
    ∃ final root, imported.chunks.content? "react-component" = some (.component final) ∧
      final.root = .element root ∧ root.WellFormed := by
  rcases wellFormed_of_assembleTree stages.tree with ⟨function, root, records, isElement, wellFormed⟩
  obtain ⟨edit, restyles, content⟩ := flavor.restyles records stages.style
  refine ⟨{ function with root := function.root.restyle edit }, root.restyle edit, ?_, ?_,
    root.wellFormed_restyle restyles wellFormed⟩
  · rw [stages.content?_component]
    exact content
  · simp only [isElement, Markup.restyle]

end Calls

/-- Every component that a flavor compiles has a single element as its root, and the
tree below it is well formed. -/
theorem compiled_component_wellFormed (flavor : Flavor) (stylesObject : String) (camelCase : Bool)
    (library : StyleLibrary) (own given : Option MappingTable) (component : Component)
    {compiled : CompiledComponent}
    (compiles : ((Generator.ofFlavor flavor own
      (.ofChoice stylesObject camelCase library)).compile given component).outcome =
        .ok compiled) :
    ∃ assembly final root,
      ((Generator.ofFlavor flavor own
        (.ofChoice stylesObject camelCase library)).assembly given component).outcome =
          .ok assembly ∧
      assembly.chunks.content? "react-component" = some (.component final) ∧
      final.root = .element root ∧ root.WellFormed := by
  rcases stages_of_compile compiles with ⟨built, styled, imported, stages, assembled, _⟩
  rcases wellFormed_of_stages stages with ⟨final, root, content, isElement, wellFormed⟩
  exact ⟨imported, final, root, assembled, content, isElement, wellFormed⟩

/-- A row that declares a key of its own and has a style. -/
def tallyRow : ContentNode :=
  ⟨"text", "row", some [("color", .text "red")], some [("key", .text "own"), ("id", .text "r")],
    none, none, none, none, none⟩

/-- A sign that is a text in one state and a node in the other. -/
def tallySign : ContentNode :=
  ⟨"text", "open", none, none, none, none, none,
    some [⟨.equals (.bool true), .text "open"⟩, ⟨.equals (.bool false), .node tallyRow⟩], none⟩

def tally : Component :=
  ⟨"Tally", ⟨"group", "tally", none, none, none, some [.text "rows", .node tallySign],
    some ⟨tallyRow, .text "$props.rows", none⟩, none, none⟩, none, none, none⟩

theorem tally_wellFormed :
    ∃ compiled assembly final root,
      ((Generator.ofFlavor .scopedClasses none (.ofChoice "styles" true {})).compile none
        tally).outcome = .ok compiled ∧
      ((Generator.ofFlavor .scopedClasses none (.ofChoice "styles" true {})).assembly none
        tally).outcome = .ok assembly ∧
      assembly.chunks.content? "react-component" = some (.component final) ∧
      final.root = .element root ∧ root.WellFormed := by
  have succeeds : ((Generator.ofFlavor .scopedClasses none (.ofChoice "styles" true {})).compile
      none tally).outcome.toOption.isSome = true := by
    decide +kernel
  rcases Option.isSome_iff_exists.mp succeeds with ⟨compiled, found⟩
  have compiles := eq_ok_of_toOption_eq_some found
  rcases compiled_component_wellFormed .scopedClasses "styles" true {} none none tally compiles with
    ⟨assembly, final, root, shape⟩
  exact ⟨compiled, assembly, final, root, compiles, shape⟩

end ComponentCompiler
