import ComponentCompiler.Proofs.Generator.Imports

namespace ComponentCompiler

open Imports Script Styling

/-!
# The files of a call

Whether there is a style object, a stylesheet, an import of it and a wrapped export
is decided in different places: in the style pass, in the linking of its chunk, and
in the split of the chunks by kind.  They agree, because all of them follow from the
classes that the style pass attached.
-/

/-- The blocks of a script in order. -/
structure ScriptBlocks where
  imports : String
  definition : String
  styleObject : Option String
  exported : String

def ScriptBlocks.all (blocks : ScriptBlocks) : List String :=
  [blocks.imports, blocks.definition] ++ blocks.styleObject.toList ++ [blocks.exported]

/-- The declaration of the style object of some classes. -/
def styleDeclaration (worn : List Worn) : Declaration :=
  ⟨"style", .map (worn.map fun item => (.text item.className, item.node.fixedEntries.toValue))⟩

/-- The rules of some classes. -/
def rulesOf (worn : List Worn) : Except RenderFault (List String) :=
  worn.mapM fun item =>
    Stylesheet.rule ("." ++ item.className) (asEntries item.node.fixedEntries)

/-- The export of a component, wrapped by the style library or plain. -/
def exportOf (library : StyleLibrary) (component : Component) (wrapped : Bool) : String :=
  if wrapped then
    injectedExport (Naming.componentName component.name) "style" library.importName
  else defaultExport (Naming.componentName component.name)

/-- What stands in the blocks of a script. -/
structure Flavor.WritesScript (flavor : Flavor) (library : StyleLibrary) (component : Component)
    (registry : Registry) (after : ComponentFunction) (worn : List Worn) (blocks : ScriptBlocks) :
    Prop where
  imports : blocks.imports = Text.joinWith "\n" (lines registry) ++ "\n"
  definition : after.render = .ok blocks.definition
  /-- There is a style object for injected classes. -/
  styled : blocks.styleObject.isSome ↔ flavor = .injectedStyles ∧ worn ≠ []
  styleObject : ∀ text ∈ blocks.styleObject, (styleDeclaration worn).render = .ok text
  exported : blocks.exported = exportOf library component blocks.styleObject.isSome
  closed : ∀ block ∈ blocks.all, EndsInBreak block

/-- The stylesheet of a component: there is one for scoped classes, and it has their
rules. -/
structure Flavor.WritesStylesheet (flavor : Flavor) (component : Component) (worn : List Worn)
    (stylesheet : Option OutputFile) : Prop where
  styled : stylesheet.isSome ↔ flavor = .scopedClasses ∧ worn ≠ []
  rules : ∀ file ∈ stylesheet, ∃ rules, rulesOf worn = .ok rules ∧
    file = ⟨Naming.dashCase component.name, "css", Text.joinWith "\n\n" rules ++ "\n"⟩

/-! ## The export -/

/-- A wrapped export is longer than the plain one. -/
theorem injectedExport_ne_defaultExport (component style injector : String) :
    injectedExport component style injector ≠ defaultExport component := by
  intro same
  have lengths := congrArg String.length same
  unfold injectedExport defaultExport at lengths
  simp only [String.length_append] at lengths
  have opening : 0 < "(".length := by decide
  have closing : "\n".length < ")\n".length := by decide
  omega

theorem closed_exportOf (library : StyleLibrary) (component : Component) (wrapped : Bool) :
    (ChunkContent.text (exportOf library component wrapped)).Closed := by
  cases wrapped with
  | false => exact ChunkContent.closed_text _
  | true =>
      intro text rendered
      cases rendered
      exact ⟨_, (@String.append_assoc _ ")" "\n").symm⟩

theorem exportOf_eq_injectedExport_iff {library : StyleLibrary} {component : Component}
    {wrapped : Bool} :
    exportOf library component wrapped =
        injectedExport (Naming.componentName component.name) "style" library.importName ↔
      wrapped = true := by
  cases wrapped with
  | true => exact ⟨fun _ => rfl, fun _ => rfl⟩
  | false =>
      refine ⟨fun same => ?_, fun impossible => ?_⟩
      · exact absurd same.symm (injectedExport_ne_defaultExport _ _ _)
      · cases impossible

/-! ## Blocks of linked chunks -/

/-- The content has this text, or both are absent. -/
def Renders : Option ChunkContent → Option String → Prop :=
  Option.Rel fun content text => content.render = .ok text

/-- The chunks are linked as the blocks of a script, with a style object or without,
and as a stylesheet or none. -/
structure LinkedAs (chunks : List Chunk) (imports exported : String) (after : ComponentFunction)
    (styleObject stylesheet : Option ChunkContent) : Prop where
  script : ((link chunks).filter fun chunk => chunk.kind = .script).map Chunk.content =
    [.text imports, .component after] ++ styleObject.toList ++ [.text exported]
  stylesheet : ((link chunks).filter fun chunk => chunk.kind = .stylesheet).map Chunk.content =
    stylesheet.toList

theorem LinkedAs.closed {chunks : List Chunk} {imports exported : String}
    {after : ComponentFunction} {styleObject stylesheet : Option ChunkContent}
    (linked : LinkedAs chunks imports exported after styleObject stylesheet)
    (closedImports : (ChunkContent.text imports).Closed)
    (closedExport : (ChunkContent.text exported).Closed)
    (closedObject : ∀ content ∈ styleObject, content.Closed)
    (closedSheet : ∀ content ∈ stylesheet, content.Closed) :
    ∀ chunk ∈ link chunks, chunk.content.Closed := by
  intro chunk member
  have listed : ∀ kind, chunk.kind = kind →
      chunk.content ∈ ((link chunks).filter fun other => other.kind = kind).map Chunk.content :=
    fun kind same => List.mem_map.mpr ⟨chunk, List.mem_filter.mpr ⟨member, decide_eq_true same⟩, rfl⟩
  cases kind : chunk.kind with
  | script =>
      have inScript := listed _ kind
      rw [linked.script] at inScript
      simp only [List.mem_append, List.mem_cons, List.not_mem_nil, or_false,
        Option.mem_toList] at inScript
      rcases inScript with ((first | second) | inObject) | last
      · exact first ▸ closedImports
      · exact second ▸ ChunkContent.closed_component after
      · exact closedObject _ inObject
      · exact last ▸ closedExport
  | stylesheet =>
      have inSheet := listed _ kind
      rw [linked.stylesheet] at inSheet
      exact closedSheet _ (Option.mem_toList.mp inSheet)

theorem Renders.isSome_eq {content : Option ChunkContent} {text : Option String}
    (rendered : Renders content text) : text.isSome = content.isSome := by
  cases rendered <;> rfl

theorem exists_renders_of_forall₂ {content : Option ChunkContent} {texts : List String}
    (written : List.Forall₂ (fun content text => content.render = .ok text) content.toList texts) :
    ∃ text, Renders content text ∧ texts = text.toList := by
  cases content with
  | none =>
      cases written
      exact ⟨none, .none, rfl⟩
  | some content =>
      rcases written with _ | ⟨rendered, _ | _⟩
      exact ⟨some _, .some rendered, rfl⟩

/-- The files of closed chunks have their texts as blocks. -/
theorem LinkedAs.files {chunks : List Chunk} {imports exported : String} {after : ComponentFunction}
    {styleObject stylesheet : Option ChunkContent}
    (linked : LinkedAs chunks imports exported after styleObject stylesheet)
    (closed : ∀ chunk ∈ link chunks, chunk.content.Closed) {name : String}
    {files : List OutputFile} (made : (assemble chunks name).outcome = .ok files) :
    ∃ definition declaration rules,
      files = ⟨name, "js", Text.joinWith "\n"
          (ScriptBlocks.all ⟨imports, definition, declaration, exported⟩)⟩ ::
        (rules.map fun content => ⟨name, "css", content⟩).toList ∧
      after.render = .ok definition ∧ Renders styleObject declaration ∧ Renders stylesheet rules ∧
      ∀ block ∈ ScriptBlocks.all ⟨imports, definition, declaration, exported⟩,
        EndsInBreak block := by
  rcases files_of_linked made rfl closed with ⟨scripts, sheets, written, writtenToo, ends, rfl⟩
  rw [← List.forall₂_map_left_iff (R := fun (content : ChunkContent) text =>
    content.render = .ok text)] at written writtenToo
  rw [linked.script] at written
  rw [linked.stylesheet] at writtenToo
  rcases exists_renders_of_forall₂ writtenToo with ⟨rules, rulesWritten, rfl⟩
  have sheet : fileOf name .stylesheet rules.toList =
      (rules.map fun content => ⟨name, "css", content⟩).toList := by
    cases rules <;> rfl
  rw [sheet]
  cases styleObject with
  | none =>
      rcases written with _ | ⟨importsWritten, _ | ⟨definitionWritten, _ | ⟨exportedWritten, _ | _⟩⟩⟩
      cases importsWritten
      cases exportedWritten
      exact ⟨_, none, rules, rfl, definitionWritten, .none, rulesWritten, ends⟩
  | some content =>
      rcases written with _ | ⟨importsWritten, _ | ⟨definitionWritten, _ | ⟨contentWritten,
        _ | ⟨exportedWritten, _ | _⟩⟩⟩⟩
      cases importsWritten
      cases exportedWritten
      exact ⟨_, some _, rules, rfl, definitionWritten, .some contentWritten, rulesWritten, ends⟩

/-! ## What the style pass leaves to be linked -/

/-- The style object and the stylesheet that a flavor makes of the classes that are
worn. -/
inductive Flavor.KeptAs (flavor : Flavor) (worn : List Worn) :
    Option ChunkContent → Option ChunkContent → Prop
  | nothing (empty : worn = []) : KeptAs flavor worn none none
  | object (flavored : flavor = .injectedStyles) (nonempty : worn ≠ []) :
      KeptAs flavor worn (some (.declaration (styleDeclaration worn))) none
  | sheet (flavored : flavor = .scopedClasses) (nonempty : worn ≠ []) {rules : List String}
      (made : rulesOf worn = .ok rules) :
      KeptAs flavor worn none (some (.text (Text.joinWith "\n\n" rules ++ "\n")))

namespace Flavor.KeptAs

variable {flavor : Flavor} {worn : List Worn} {styleObject stylesheet : Option ChunkContent}

theorem closed (kept : flavor.KeptAs worn styleObject stylesheet) :
    (∀ content ∈ styleObject, content.Closed) ∧ ∀ content ∈ stylesheet, content.Closed := by
  cases kept with
  | nothing _ =>
      constructor
      · rintro _ ⟨⟩
      · rintro _ ⟨⟩
  | object _ _ =>
      constructor
      · rintro _ ⟨⟩
        exact ChunkContent.closed_declaration _
      · rintro _ ⟨⟩
  | sheet _ _ _ =>
      constructor
      · rintro _ ⟨⟩
      · rintro _ ⟨⟩
        exact ChunkContent.closed_text _

theorem isSome_styleObject_iff (kept : flavor.KeptAs worn styleObject stylesheet) :
    styleObject.isSome ↔ flavor = .injectedStyles ∧ worn ≠ [] := by
  cases kept with
  | nothing empty => exact iff_of_false Bool.false_ne_true fun both => both.2 empty
  | object flavored nonempty => exact iff_of_true rfl ⟨flavored, nonempty⟩
  | sheet flavored _ _ =>
      refine iff_of_false Bool.false_ne_true fun both => ?_
      cases flavored.symm.trans both.1

theorem isSome_stylesheet_iff (kept : flavor.KeptAs worn styleObject stylesheet) :
    stylesheet.isSome ↔ flavor = .scopedClasses ∧ worn ≠ [] := by
  cases kept with
  | nothing empty => exact iff_of_false Bool.false_ne_true fun both => both.2 empty
  | sheet flavored nonempty _ => exact iff_of_true rfl ⟨flavored, nonempty⟩
  | object flavored _ =>
      refine iff_of_false Bool.false_ne_true fun both => ?_
      cases flavored.symm.trans both.1

theorem render_styleObject (kept : flavor.KeptAs worn styleObject stylesheet) {text : String}
    (rendered : Renders styleObject (some text)) : (styleDeclaration worn).render = .ok text := by
  cases kept with
  | nothing _ => cases rendered
  | object _ _ =>
      cases rendered with
      | some written => exact written
  | sheet _ _ _ => cases rendered

theorem render_stylesheet (kept : flavor.KeptAs worn styleObject stylesheet) {text : String}
    (rendered : Renders stylesheet (some text)) :
    ∃ rules, rulesOf worn = .ok rules ∧ text = Text.joinWith "\n\n" rules ++ "\n" := by
  cases kept with
  | nothing _ => cases rendered
  | object _ _ => cases rendered
  | sheet _ _ made =>
      cases rendered with
      | some written => exact ⟨_, made, (Except.ok.inj written).symm⟩

end Flavor.KeptAs

section Linking

variable {flavor : Flavor} {stylesObject : String} {library : StyleLibrary}
  {component : Component} {built styled : Assembly} {notes : List BuildNote}
  {parts : List Markup} {hooks : List String} {worn : List Worn} {edit : Edit}

/-- The classes are found in the chunk that the pass added. -/
theorem content?_styleChunk (flavor : Flavor) (store : ChunkStore) (content : ChunkContent)
    (exported : Option String) :
    ((store.add (flavor.styleChunk content)).extendExport "export" (flavor.styleChunk content).name
      "import" exported).content? (flavor.styleChunk content).name = some content := by
  have other : "export" ≠ (flavor.styleChunk content).name := by
    cases flavor with
    | injectedStyles => exact (by decide : "export" ≠ "jss-style-definition")
    | scopedClasses => exact (by decide : "export" ≠ "css-modules")
    | inlineStyles => exact (by decide : "export" ≠ "css-modules")
  unfold ChunkStore.content?
  rw [ChunkStore.chunk?_extendExport_of_ne other, ChunkStore.chunk?_add_self]
  cases flavor <;> rfl

/-- Behind a style pass and the import pass, the chunks are linked as the blocks of a
script and the stylesheet that the flavor makes of its classes. -/
theorem Flavor.Leaves.linked (leaves : flavor.Leaves stylesObject library built styled worn edit)
    (left : built.BuiltFrom component notes parts hooks)
    (keeps : flavor.KeepsClasses worn styled.chunks) (registry : Registry) :
    ∃ styleObject stylesheet, flavor.KeptAs worn styleObject stylesheet ∧
      LinkedAs (styled.chunks.add (importChunk "import" registry))
        (Text.joinWith "\n" (lines registry) ++ "\n") (exportOf library component styleObject.isSome)
        ⟨Naming.componentName component.name, (Markup.element (gathered parts)).restyle edit, hooks⟩
        styleObject stylesheet := by
  by_cases empty : worn = []
  · refine ⟨none, none, .nothing empty, ?_, ?_⟩
    all_goals
      rw [(leaves.idle empty).2, left.chunks]
      exact congrArg (fun chunks => (List.filter _ chunks).map Chunk.content)
        (link_without_classes _ _ _)
  · rcases (leaves.busy empty).2 with ⟨content, chunks⟩
    have found := content?_styleChunk flavor (built.chunks.restyle edit) content
      (flavor.exported library built.component)
    rw [← chunks] at found
    cases flavor with
    | inlineStyles => exact absurd keeps empty
    | injectedStyles =>
        have object : IsStyleObject worn (styled.chunks.content? "jss-style-definition") := keeps
        rw [IsStyleObject, if_neg empty] at object
        cases found.symm.trans object
        refine ⟨_, none, .object rfl empty, ?_, ?_⟩
        all_goals
          rw [chunks, left.chunks, left.same]
          exact congrArg (fun chunks => (List.filter _ chunks).map Chunk.content)
            (link_with_styleObject _ _ _ _)
    | scopedClasses =>
        have sheet : IsStylesheet worn (styled.chunks.content? "css-modules") := keeps
        rw [IsStylesheet, if_neg empty] at sheet
        rcases sheet with ⟨rules, made, kept⟩
        cases found.symm.trans kept
        refine ⟨none, _, .sheet rfl empty made, ?_, ?_⟩
        all_goals
          rw [chunks, left.chunks]
          exact congrArg (fun chunks => (List.filter _ chunks).map Chunk.content)
            (link_with_stylesheet _ _ _ _)

/-- The files behind a style pass and the import pass. -/
theorem Flavor.Leaves.writes (leaves : flavor.Leaves stylesObject library built styled worn edit)
    (left : built.BuiltFrom component notes parts hooks)
    (keeps : flavor.KeepsClasses worn styled.chunks) {registry : Registry}
    {files : List OutputFile}
    (made : (assemble (styled.chunks.add (importChunk "import" registry))
      (Naming.dashCase component.name)).outcome = .ok files) :
    ∃ blocks stylesheet,
      files = ⟨Naming.dashCase component.name, "js", Text.joinWith "\n" blocks.all⟩ ::
        stylesheet.toList ∧
      flavor.WritesScript library component registry
        ⟨Naming.componentName component.name, (Markup.element (gathered parts)).restyle edit, hooks⟩
        worn blocks ∧
      flavor.WritesStylesheet component worn stylesheet := by
  rcases leaves.linked left keeps registry with ⟨styleObject, sheet, kept, linked⟩
  have closed := linked.closed (ChunkContent.closed_text _) (closed_exportOf _ _ _) kept.closed.1
    kept.closed.2
  obtain ⟨definition, declaration, rules, written, rendered, object, sheetText, ends⟩ :=
    linked.files closed made
  refine ⟨_, _, written, ⟨rfl, rendered, ?_, ?_, ?_, ends⟩, ?_, ?_⟩
  · exact object.isSome_eq ▸ kept.isSome_styleObject_iff
  · rintro text rfl
    exact kept.render_styleObject object
  · rw [object.isSome_eq]
  · rw [Option.isSome_map, sheetText.isSome_eq]
    exact kept.isSome_stylesheet_iff
  · rintro file here
    rcases Option.map_eq_some_iff.mp here with ⟨content, rfl, rfl⟩
    rcases kept.render_stylesheet sheetText with ⟨rules, made, rfl⟩
    exact ⟨rules, made, rfl⟩

end Linking

/-! ## The import of the stylesheet -/

/-- The import of a stylesheet leads to its file. -/
theorem modulePath_stylesheet (identifier content : String) (component : Component) :
    modulePath identifier (ScopedClasses.stylesheetDependency component) =
      "./" ++ OutputFile.path ⟨Naming.dashCase component.name, "css", content⟩ := by
  have path : "./" ++ Naming.dashCase component.name ++ ".css" =
      "./" ++ OutputFile.path ⟨Naming.dashCase component.name, "css", content⟩ := by
    have ending : ".css" = "." ++ "css" := by decide
    rw [OutputFile.path, ending]
    simp only [String.append_assoc]
  have visible : ("./" ++ Naming.dashCase component.name ++ ".css").isEmpty = false := by
    refine Bool.eq_false_iff.mpr fun empty => ?_
    have characters := congrArg String.toList (String.isEmpty_iff.mp empty)
    rw [String.toList_append] at characters
    exact absurd (List.append_eq_nil_iff.mp characters).2 (by decide)
  have given : given? (some ("./" ++ Naming.dashCase component.name ++ ".css")) =
      some ("./" ++ Naming.dashCase component.name ++ ".css") := by
    rw [given?, Option.filter_some, visible]
    rfl
  rw [modulePath, Dependency.importPath, ScopedClasses.stylesheetDependency]
  simp only [given]
  exact path

/-- The only import that is registered under the identifier is the default export of the
path, and a line of the imports binds it. -/
structure BindsDefault (registry : Registry) (identifier path : String) : Prop where
  registered : (registry.filter fun entry => entry.1 = identifier).map Binding.ofEntry =
    [⟨identifier, path, none⟩]
  line : identifier ≠ "" → ∃ line ∈ lines registry, ∃ group, ImportLine line group ∧
    ⟨identifier, path, none⟩ ∈ group

/-- Classes of a stylesheet are imported from its file. -/
theorem Flavor.Leaves.bindsDefault {stylesObject : String} {library : StyleLibrary}
    {component : Component} {built styled : Assembly} {notes : List BuildNote}
    {parts : List Markup} {hooks : List String} {worn : List Worn} {edit : Edit}
    (leaves : Flavor.scopedClasses.Leaves stylesObject library built styled worn edit)
    (left : built.BuiltFrom component notes parts hooks) (nonempty : worn ≠ [])
    (content : String) :
    BindsDefault styled.registry stylesObject
      ("./" ++ OutputFile.path ⟨Naming.dashCase component.name, "css", content⟩) := by
  have registry : styled.registry = Entries.put built.registry stylesObject
      (ScopedClasses.stylesheetDependency component) := by
    rw [(leaves.busy nonempty).1, left.same]
    rfl
  have distinct : (Entries.keys built.registry).Nodup := by
    rw [left.registry, Entries.keys_update_nil]
    exact distinct_nodup _
  have alone : (Entries.put built.registry stylesObject
      (ScopedClasses.stylesheetDependency component)).filter (fun entry => entry.1 = stylesObject) =
        [(stylesObject, ScopedClasses.stylesheetDependency component)] :=
    Entries.filter_put_self distinct
  have member : (stylesObject, ScopedClasses.stylesheetDependency component) ∈ styled.registry := by
    rw [registry]
    exact List.mem_of_mem_filter (alone ▸ List.mem_singleton_self _)
  constructor
  · rw [registry, alone, List.map_singleton, Binding.ofEntry,
      modulePath_stylesheet stylesObject content component]
    rfl
  · intro spelled
    rcases exists_line_of_entry member spelled with ⟨line, written, group, imports, bound⟩
    refine ⟨line, linesOf_subset_lines member written, group, imports, ?_⟩
    rw [← modulePath_stylesheet stylesObject content component]
    exact bound

/-! ## The files -/

/-- The stylesheet of the swatches, in their order. -/
def swatchSheet : OutputFile :=
  ⟨"list", "css", ".a-b \x7b\n  color: red;\n\x7d\n\n" ++
    ".a-b-2 \x7b\n  color: blue;\n\x7d\n\n.a-b-2-2 \x7b\n  color: green;\n\x7d\n"⟩

end ComponentCompiler
