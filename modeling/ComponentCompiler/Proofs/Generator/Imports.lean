import ComponentCompiler.Proofs.Generator.Failure
import ComponentCompiler.Proofs.Generator.Layout
import ComponentCompiler.Proofs.Imports.Lines
import ComponentCompiler.Proofs.Pass.WalkOnce
import ComponentCompiler.Proofs.Styling.Correspondence

namespace ComponentCompiler

open Imports Styling

/-!
# What the script imports

Imports are registered by three passes: the component pass registers the library,
the dependencies of the elements on its way down, and the function that declares
states; the style pass registers what its classes need; the import pass writes
what has been registered by then.  An identifier that is registered again keeps
its place and takes the new dependency.
-/

/-- The import of the classes: it is there when the class of some element changed, and
otherwise it is not. -/
def ClassImports (before after : Markup) (needed : String × Dependency)
    (classes : List (String × Dependency)) : Prop :=
  ((∃ origin, ClassChanged before after origin) ∧ classes = [needed]) ∨
    ((¬ ∃ origin, ClassChanged before after origin) ∧ classes = [])

/-- The imports that a component needs, in the order of their registration: the
library, those of its elements from the first to the last, the function that declares
states, and that of its classes.  The trees are those before and after the style
pass. -/
def Flavor.Needs (flavor : Flavor) (stylesObject : String) (library : StyleLibrary)
    (table : MappingTable) (component : Component) (before after : Markup)
    (needed : List (String × Dependency)) : Prop :=
  ∃ listed classes, table.ListsElements component.content listed ∧
    outlineAll [before] = listed.map (fun item =>
      (some (Origin.descend ⟨0, []⟩ item.1), table.tag item.2)) ∧
    ClassImports before after (flavor.styleImport stylesObject library component) classes ∧
    (flavor = .inlineStyles → classes = []) ∧
    needed = ("React", Dependency.ofLibrary "react") ::
      (listed.filterMap fun item => table.registration? item.2) ++
      (if (component.states.getD []).isEmpty then [] else [("useState", stateHookDependency)]) ++
      classes

/-! ## The classes -/

section Classes

variable {stylesObject : String} {camelCase : Bool} {library : StyleLibrary}
  {table : MappingTable} {built styled : Assembly} {function : ComponentFunction}

/-- The classes that a style pass attached: they stand in the order in which the walk
comes to their nodes, each is worn by the element of its node's name, and the wearers
are the elements whose class changed. -/
structure Attached (reference : String → String) (built : Assembly) (before after : Markup)
    (worn : List Worn) : Prop where
  order : (worn.map Worn.node).Sublist built.walked
  named : ∀ item ∈ worn, Entries.lookUp? built.nodes item.node.name = some item.origin
  classes : (worn.map Worn.className).Nodup
  origins : (worn.map Worn.origin).Nodup
  refers : ∀ item ∈ worn, RefersTo reference before after item.origin item.className
  changed : ∀ origin, ClassChanged before after origin ↔ origin ∈ worn.map Worn.origin

theorem Attached.exists_changed_iff {reference : String → String} {before after : Markup}
    {worn : List Worn} (attached : Attached reference built before after worn) :
    (∃ origin, ClassChanged before after origin) ↔ worn ≠ [] := by
  constructor
  · rintro ⟨origin, somewhere⟩ rfl
    cases (attached.changed origin).mp somewhere
  · intro nonempty
    rcases List.exists_mem_of_ne_nil worn nonempty with ⟨item, member⟩
    exact ⟨item.origin, (attached.changed _).mpr (List.mem_map_of_mem member)⟩

theorem Attached.classImports {reference : String → String} {before after : Markup}
    {worn : List Worn} (attached : Attached reference built before after worn)
    (needed : String × Dependency) :
    ClassImports before after needed (if worn = [] then [] else [needed]) := by
  by_cases empty : worn = []
  · exact Or.inr ⟨fun somewhere => attached.exists_changed_iff.mp somewhere empty, if_pos empty⟩
  · exact Or.inl ⟨attached.exists_changed_iff.mpr empty, if_neg empty⟩

theorem HandsOut.attached {flavor : Flavor} {chunks : ChunkStore} {worn : List Worn} {edit : Edit}
    (handsOut : HandsOut flavor stylesObject camelCase built function chunks worn edit)
    (records : built.Records table function) :
    Attached (flavor.reference stylesObject camelCase) built function.root
      (function.root.restyle edit) worn := by
  refine ⟨?_, ?_, handsOut.classes, handsOut.origins,
    fun item member => handsOut.refersTo_of_worn records member, handsOut.classChanged_iff records⟩
  · have claimed := (handsOut.order.map Prod.snd).trans (claims_sublist _ _ _)
    rw [List.map_map] at claimed
    exact claimed.trans List.filter_sublist
  · intro item member
    exact (of_mem_claims (handsOut.claimed_of_worn member)).2.1

/-- Every style pass restyles the component, attaches classes to some elements and keeps
them in its chunk. -/
theorem Flavor.leaves_classes (flavor : Flavor) (records : built.Records table function)
    (ran : ((flavor.pass (.ofChoice stylesObject camelCase library)).run table built).outcome =
      .ok styled) :
    ∃ worn edit, flavor.Leaves stylesObject library built styled worn edit ∧
      styled.chunks.content? "react-component" =
        some (.component { function with root := function.root.restyle edit }) ∧
      Attached (flavor.reference stylesObject camelCase) built function.root
        (function.root.restyle edit) worn ∧
      flavor.KeepsClasses worn styled.chunks := by
  by_cases inline : flavor = .inlineStyles
  · subst inline
    rcases inlineStyles_leaves records ran with ⟨leaves, content⟩
    refine ⟨[], _, leaves, content, ⟨List.nil_sublist _, ?_, List.nodup_nil, List.nodup_nil, ?_, ?_⟩,
      rfl⟩
    · exact fun _ member => absurd member List.not_mem_nil
    · exact fun _ member => absurd member List.not_mem_nil
    · intro origin
      rw [classChanged_restyle_iff records.once]
      refine iff_of_false ?_ List.not_mem_nil
      rintro ⟨attributes, _, changed⟩
      exact changed (lookUp?_className_inline _ origin attributes)
  · rcases Flavor.handsOut_and_leaves inline records ran with ⟨worn, edit, handsOut, leaves⟩
    exact ⟨worn, edit, leaves, handsOut.component, handsOut.attached records, handsOut.kept⟩

end Classes

/-! ## The registry -/

theorem Component.hooks_isEmpty {component : Component} {hooks : List String}
    (declared : component.hooks = .ok hooks) :
    hooks.isEmpty = (component.states.getD []).isEmpty := by
  have lengths := (mapM_eq_ok_iff.mp declared).length_eq
  rw [Bool.eq_iff_iff, List.isEmpty_iff, List.isEmpty_iff, ← List.length_eq_zero_iff,
    ← List.length_eq_zero_iff, lengths]

section Registrations

variable {flavor : Flavor} {stylesObject : String} {camelCase : Bool} {library : StyleLibrary}
  {table : MappingTable} {component : Component} {needed : List (String × Dependency)}

/-- No identifier is empty when neither the tags nor the name of what the classes need
are. -/
theorem Flavor.Needs.spelled {before after : Markup}
    (needs : flavor.Needs stylesObject library table component before after needed)
    (typed : ∀ entry ∈ table, entry.2.type ≠ "")
    (objectNamed : flavor = .scopedClasses → stylesObject ≠ "")
    (libraryNamed : flavor = .injectedStyles → library.importName ≠ "") :
    ∀ identifier ∈ needed.map Prod.fst, identifier ≠ "" := by
  rcases needs with ⟨listed, classes, _, _, imported, inline, rfl⟩
  intro identifier member
  rcases List.mem_map.mp member with ⟨entry, inNeeded, rfl⟩
  rcases List.mem_append.mp inNeeded with inComponent | inClasses
  · rcases List.mem_append.mp inComponent with inElements | inStates
    · rcases List.mem_cons.mp inElements with rfl | ofElement
      · exact (by decide : "React" ≠ "")
      · rcases List.mem_filterMap.mp ofElement with ⟨item, _, registered⟩
        rcases Option.bind_eq_some_iff.mp registered with ⟨mapped, known, withDependency⟩
        rcases Option.map_eq_some_iff.mp withDependency with ⟨dependency, _, rfl⟩
        exact typed _ (Entries.mem_of_lookUp?_eq_some known)
    · split at inStates
      · cases inStates
      · rw [List.mem_singleton.mp inStates]
        exact (by decide : "useState" ≠ "")
  · rcases imported with ⟨_, rfl⟩ | ⟨_, rfl⟩
    · rw [List.mem_singleton.mp inClasses]
      cases flavor with
      | scopedClasses => exact objectNamed rfl
      | injectedStyles => exact libraryNamed rfl
      | inlineStyles => cases inline rfl
    · cases inClasses

/-- A style pass adds the import of its classes to what is registered. -/
theorem Flavor.Leaves.registry_eq {built styled : Assembly} {worn : List Worn} {edit : Edit}
    (leaves : flavor.Leaves stylesObject library built styled worn edit)
    (registered : built.registry = Entries.update [] needed) :
    styled.registry = Entries.update [] (needed ++
      if worn = [] then [] else [flavor.styleImport stylesObject library built.component]) := by
  unfold Entries.update at *
  by_cases empty : worn = []
  · rw [(leaves.idle empty).1, registered, if_pos empty, List.append_nil]
  · rw [(leaves.busy empty).1, registered, if_neg empty, List.foldl_concat]
    rfl

/-- The library is always registered, so that there is always something to import. -/
theorem Flavor.Leaves.registers_library {built styled : Assembly} {worn : List Worn} {edit : Edit}
    {notes : List BuildNote} {parts : List Markup} {hooks : List String}
    (leaves : flavor.Leaves stylesObject library built styled worn edit)
    (left : built.BuiltFrom component notes parts hooks) :
    "React" ∈ Entries.keys styled.registry := by
  rw [leaves.registry_eq left.registry, Entries.keys_update_nil, mem_distinct_iff]
  exact List.mem_cons_self

end Registrations

/-- What is registered in the stages of a call is what the component needs, and it is
written at the beginning of the script. -/
theorem Flavor.Stages.needs {flavor : Flavor} {stylesObject : String} {camelCase : Bool}
    {library : StyleLibrary} {table : MappingTable} {component : Component}
    {built styled imported : Assembly}
    (stages : flavor.Stages (.ofChoice stylesObject camelCase library) table component built styled
      imported) :
    ∃ before after needed,
      built.chunks.content? "react-component" = some (.component before) ∧
      imported.chunks.content? "react-component" = some (.component after) ∧
      flavor.Needs stylesObject library table component before.root after.root needed ∧
      imported.registry = Entries.update [] needed ∧
      ∃ others, ((link imported.chunks).filter fun chunk => chunk.kind = .script) =
        importChunk "import" imported.registry :: others := by
  rcases records_of_assembleTree stages.tree with ⟨same, before, records⟩
  rcases builtFrom_of_assembleTree stages.tree with ⟨notes, parts, hooks, run, declared, left⟩
  rcases flavor.leaves_classes records stages.style with
    ⟨worn, edit, leaves, content, attached, keeps⟩
  obtain ⟨expanded, account⟩ := table.accounted component.scope table.defaultDepth
    component.content ⟨0, []⟩ notes parts run
  have registry := leaves.registry_eq left.registry
  rw [same, componentImports, account.registered, Component.hooks_isEmpty declared] at registry
  have root : before.root = .element (gathered parts) :=
    congrArg ComponentFunction.root (records.function_eq left)
  have imports := stages.imported_eq (leaves.registers_library left)
  refine ⟨before, _, _, records.content?_component, stages.content?_component.trans content,
    ⟨_, if worn = [] then [] else [flavor.styleImport stylesObject library component],
      MappingTable.listsElements_visits expanded, ?_, attached.classImports _, ?_, rfl⟩, ?_,
    ?_⟩
  · rw [root, outlineAll_gathered]
    exact account.outline
  · rintro rfl
    exact if_pos keeps
  · rw [imports]
    exact registry
  · rw [imports]
    exact leaves.imports_first left.chunks styled.registry

/-- In a call that succeeds, the first block of the script binds exactly what the
component needs, each identifier once.  An identifier that is registered several times
has its first place and its last dependency. -/
theorem script_binds_needed_imports (stylesObject : String) (camelCase : Bool)
    (library : StyleLibrary) {flavor : Flavor} {own overrides : Option MappingTable}
    {component : Component} {compiled : CompiledComponent}
    (typed : ∀ entry ∈ (Generator.ofFlavor flavor own
      (.ofChoice stylesObject camelCase library)).tableFor overrides, entry.2.type ≠ "")
    (objectNamed : flavor = .scopedClasses → stylesObject ≠ "")
    (libraryNamed : flavor = .injectedStyles → library.importName ≠ "")
    (succeeded : ((Generator.ofFlavor flavor own
      (.ofChoice stylesObject camelCase library)).compile overrides component).outcome =
        .ok compiled) :
    let generator := Generator.ofFlavor flavor own (.ofChoice stylesObject camelCase library)
    let table := generator.tableFor overrides
    ∃ built assembly before after needed lines blocks later,
      ((Pass.componentTree {}).run table (Assembly.start component)).outcome = .ok built ∧
      built.chunks.content? "react-component" = some (.component before) ∧
      (generator.assembly overrides component).outcome = .ok assembly ∧
      assembly.chunks.content? "react-component" = some (.component after) ∧
      flavor.Needs stylesObject library table component before.root after.root needed ∧
      Entries.keys assembly.registry = distinct (needed.map Prod.fst) ∧
      (Entries.keys assembly.registry).Nodup ∧
      (∀ identifier, Entries.lookUp? assembly.registry identifier =
        Entries.lookUp? needed.reverse identifier) ∧
      compiled.files = ⟨Naming.dashCase component.name, "js",
        Text.joinWith "\n" ((Text.joinWith "\n" lines ++ "\n") :: blocks)⟩ :: later ∧
      (∀ file ∈ later, file.extension ≠ "js") ∧
      Binds lines (assembly.registry.map Binding.ofEntry) := by
  intro generator table
  rcases stages_of_compile succeeded with ⟨built, styled, imported, stages, assembled, made⟩
  obtain ⟨before, after, needed, beforeStyles, afterStyles, needs, registry, others, first⟩ :=
    stages.needs
  rcases script_of_assemble made first rfl with ⟨blocks, later, files, extensions⟩
  have order : Entries.keys imported.registry = distinct (needed.map Prod.fst) := by
    rw [registry, Entries.keys_update_nil]
  have spelled : ∀ entry ∈ imported.registry, entry.1 ≠ "" := by
    intro entry member
    have listed : entry.1 ∈ Entries.keys imported.registry := List.mem_map_of_mem member
    rw [order, mem_distinct_iff] at listed
    exact needs.spelled typed objectNamed libraryNamed entry.1 listed
  refine ⟨built, imported, before, after, needed, lines imported.registry, blocks, later,
    stages.tree, beforeStyles, assembled, afterStyles, needs, order, ?_, ?_, files, extensions,
    binds_lines spelled⟩
  · rw [order]
    exact distinct_nodup _
  · intro identifier
    rw [registry, Entries.lookUp?_update]
    exact Option.or_none

/-- A mapping of icons to elements of a library. -/
def iconMapping : Value :=
  .map [(.text "icon", .map [(.text "type", .text "Icon"),
    (.text "dependency", .map [(.text "type", .text "library"), (.text "path", .text "icons")])])]

/-- The mapping as it is read. -/
def iconEntries : MappingTable :=
  [(.text "icon", ⟨"Icon", some (.ofLibrary "icons"), none, none, none⟩)]

/-- A styled gallery with a state.  The second of its two icons has a dependency of its
own. -/
def galleryDocument : Value :=
  .map [(.text "name", .text "Gallery"),
    (.text "content", .map [(.text "type", .text "group"), (.text "name", .text "gallery"),
      (.text "style", .map [(.text "color", .text "red")]),
      (.text "children", .list [
        .map [(.text "type", .text "icon"), (.text "name", .text "first")],
        .map [(.text "type", .text "icon"), (.text "name", .text "second"),
          (.text "dependency", .map [(.text "type", .text "package"), (.text "path", .text "shapes"),
            (.text "meta", .map [(.text "namedImport", .bool true)])])]])]),
    (.text "stateDefinitions", .map [(.text "open", .map [(.text "type", .text "boolean"),
      (.text "defaultValue", .bool false)])])]

def shapeDependency : Dependency :=
  ⟨.package, some "shapes", none, some ⟨some true, none, none, none⟩⟩

/-- The gallery as it is read. -/
def gallery : Component :=
  ⟨"Gallery", ⟨"group", "gallery", some [("color", .text "red")], none, none,
    some [.node (.ofType "icon" "first"),
      .node ⟨"icon", "second", none, none, none, none, none, none, some shapeDependency⟩],
    none, none, none⟩, none, none, some [("open", ⟨"boolean", .bool false, none, none⟩)]⟩

def galleryTable : MappingTable :=
  .overBuiltin iconEntries

theorem galleryTable_plain :
    ∀ entry ∈ galleryTable, entry.2.roots.isEmpty ∧ entry.2.type ≠ "" := by
  decide +kernel

theorem unnested_galleryTable : galleryTable.Unnested := by
  intro slot item supplied path node reached omitted
  rcases MappingTable.exists_entry_of_supply supplied with ⟨entry, known, root⟩
  have bare := (galleryTable_plain _ (Entries.mem_of_lookUp?_eq_some known)).1
  rw [List.isEmpty_iff.mp bare] at root
  cases root

theorem gallery_mapped {place : List Step} {node : ContentNode}
    (reached : galleryTable.Reaches gallery.content place node) :
    ¬ galleryTable.IsUnmapped node := by
  intro unmapped
  cases reached with
  | here => exact absurd unmapped.2 (Option.some_ne_none _)
  | onward led rest =>
      rcases List.mem_pair.mp led with first | second
      · rcases Prod.mk.inj first with ⟨rfl, rfl⟩
        cases rest with
        | here => exact absurd unmapped.2 (Option.some_ne_none _)
        | onward further _ => cases further
      · rcases Prod.mk.inj second with ⟨rfl, rfl⟩
        cases rest with
        | here => exact absurd unmapped.2 (Option.some_ne_none _)
        | onward further _ => cases further

theorem gallery_compiles : ∃ compiled,
    ((Generator.ofFlavor .scopedClasses (some iconEntries) (.ofChoice "styles" false {})).compile
      none gallery).outcome = .ok compiled := by
  have described : Generator.readComponent galleryDocument = .ok gallery := by cbv
  have mapped : MappingTable.ofOptional iconMapping = .ok (some iconEntries) := by cbv
  have succeeds := generate_succeeds .scopedClasses "styles" false {}
    (by decide : galleryDocument.isJson = true) (by decide : iconMapping.isJson = true)
    (by decide : Value.null.isJson = true) described mapped rfl rfl unnested_galleryTable
    fun _ _ => gallery_mapped
  rw [Generator.outcome_generate _ described rfl] at succeeds
  exact succeeds

theorem gallery_registry {built styled imported : Assembly}
    (stages : Flavor.scopedClasses.Stages (.ofChoice "styles" false {}) galleryTable gallery built
      styled imported) :
    imported.registry = [("React", .ofLibrary "react"), ("Icon", shapeDependency),
      ("useState", stateHookDependency),
      ("styles", ScopedClasses.stylesheetDependency gallery)] := by
  obtain ⟨other, succeeded, same, nodes, defaults, registry⟩ : ∃ other,
      ((Pass.componentTree {}).run galleryTable (Assembly.start gallery)).outcome = .ok other ∧
      other.component = gallery ∧
      other.nodes = [("first", ⟨0, [.child 0]⟩), ("second", ⟨0, [.child 1]⟩), ("gallery", ⟨0, []⟩)] ∧
      other.defaults = [] ∧
      other.registry = [("React", .ofLibrary "react"), ("Icon", shapeDependency),
        ("useState", stateHookDependency)] :=
    ⟨_, rfl, rfl, rfl, rfl, rfl⟩
  cases stages.tree.symm.trans succeeded
  rcases records_of_assembleTree succeeded with ⟨_, _, records⟩
  -- the style of the gallery becomes a class, so that the stylesheet is imported
  have styled : (assignments ScopedClasses.classPass built).outcome.toOption.map
      (fun assigned => (classRules assigned).isEmpty) = some false := by
    unfold assignments Assembly.styledNodes
    rw [same, nodes, defaults]
    decide +kernel
  rcases Option.map_eq_some_iff.mp styled with ⟨assigned, found, withClasses⟩
  have assigns := eq_ok_of_toOption_eq_some found
  have ran := stages.style
  rw [run_scopedClasses records, ScopedClasses.style_outcome, assigns] at ran
  cases ran
  have kept : imported.registry = ((ScopedClasses.output "styles" false built.component).leaves built
      assigned).registry := by
    rw [stages.imports]
    split <;> rfl
  rw [kept, ClassOutput.leaves, withClasses, registry, same]
  rfl

/-- The gallery imports its icons as the second of them asks for, at the place of the
first. -/
theorem gallery_binds_its_last_icon :
    ∃ compiled lines blocks later,
      ((Generator.ofFlavor .scopedClasses (some iconEntries) (.ofChoice "styles" false {})).compile
        none gallery).outcome = .ok compiled ∧
      compiled.files = ⟨Naming.dashCase "Gallery", "js",
        Text.joinWith "\n" ((Text.joinWith "\n" lines ++ "\n") :: blocks)⟩ :: later ∧
      (∀ file ∈ later, file.extension ≠ "js") ∧
      Binds lines [⟨"React", "react", none⟩, ⟨"Icon", "shapes", some "Icon"⟩,
        ⟨"useState", "react", some "useState"⟩, ⟨"styles", "./gallery.css", none⟩] := by
  rcases gallery_compiles with ⟨compiled, succeeded⟩
  have typed : ∀ entry ∈ (Generator.ofFlavor .scopedClasses (some iconEntries)
      (.ofChoice "styles" false {})).tableFor none, entry.2.type ≠ "" :=
    fun entry member => (galleryTable_plain entry member).2
  obtain ⟨built, assembly, before, after, needed, lines, blocks, later, _, _, assembled, _, _, _, _,
      _, files, extensions, binds⟩ :=
    script_binds_needed_imports "styles" false {} typed (fun _ => by decide)
      (fun impossible => by cases impossible) succeeded
  refine ⟨compiled, lines, blocks, later, succeeded, files, extensions, ?_⟩
  rcases stages_of_assembly assembled with ⟨built, styled, stages⟩
  rw [gallery_registry stages] at binds
  have bindings : [("React", Dependency.ofLibrary "react"), ("Icon", shapeDependency),
      ("useState", stateHookDependency), ("styles", ScopedClasses.stylesheetDependency gallery)].map
        Binding.ofEntry = [⟨"React", "react", none⟩, ⟨"Icon", "shapes", some "Icon"⟩,
          ⟨"useState", "react", some "useState"⟩, ⟨"styles", "./gallery.css", none⟩] := by
    decide +kernel
  rw [bindings] at binds
  exact binds

end ComponentCompiler
