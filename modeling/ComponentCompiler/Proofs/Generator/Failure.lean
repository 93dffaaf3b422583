import ComponentCompiler.Generator.Registry
import ComponentCompiler.Proofs.Build.Acyclic
import ComponentCompiler.Proofs.Generator.Stages
import ComponentCompiler.Proofs.Pass.Writable
import ComponentCompiler.Proofs.Schema.Content
import Mathlib.Algebra.Group.Int.Defs

namespace ComponentCompiler

open Script Styling

/-!
# When a component cannot be compiled

A component whose description is in the stricter notation is compiled to files
unless the build reaches an element whose type is in none of the tables.  Nothing
else can go wrong: the passes after the build and the writing of the chunks work
on what can be written, and default content that does not nest is built to the
end.

A mapping in a looser notation can bring values along that cannot be written.  Then
this is the one other reason why a component is not compiled.

Before all this a generator is looked up, and there may be none for what is asked.
-/

/-! ## Generators -/

theorem Target.ofWord?_eq_some_iff {word : String} {target : Target} :
    Target.ofWord? word = some target ↔ target.word = word := by
  constructor
  · intro found
    simpa using List.find?_some found
  · rintro rfl
    cases target <;> decide

namespace GeneratorRegistry

variable {settings : Settings} {target : Option Target} {label : String} {flavor : Option String}

/-- The generator of a flavor is found by the word for it, which the settings give when the call
does not. -/
theorem find_standard {chosen : Flavor} (known : target = some .react)
    (named : (given? flavor).getD settings.defaultFlavor = chosen.word) :
    (standard settings).find target label flavor =
      .ok (Generator.ofFlavor chosen none settings.styleSettings) := by
  unfold find
  rw [known]
  cases chosen <;> simp [standard, Entries.lookUp?, named, Flavor.all, Flavor.word]

/-- There are no other generators. -/
theorem find_standard_of_unchosen (unchosen : ∀ chosen : Flavor,
      ¬ (target = some .react ∧ (given? flavor).getD settings.defaultFlavor = chosen.word)) :
    ∃ failure, (standard settings).find target label flavor = .error failure ∧
      failure.isReported = true := by
  unfold find
  by_cases known : target = some .react
  · have different (chosen : Flavor) :
        ¬ chosen.word = (given? flavor).getD settings.defaultFlavor :=
      fun named => unchosen chosen ⟨known, named.symm⟩
    rw [known]
    refine ⟨.unknownFlavor ((given? flavor).getD settings.defaultFlavor) label
      (Flavor.all.map Flavor.word), ?_, rfl⟩
    simp [standard, Entries.lookUp?, Entries.keys, Flavor.all, different]
  · have missing : (target.bind fun named => Entries.lookUp? (standard settings) named) = none := by
      cases target with
      | none => rfl
      | some other => exact if_neg fun same => known (congrArg some same.symm)
    rw [missing]
    exact ⟨_, rfl, rfl⟩

end GeneratorRegistry

/-! ## Tables -/

namespace MappingTable

/-- Entries that bring no content along can be written when their attributes can. -/
theorem writable_of_bare {entry : ElementMapping}
    (bare : entry.roots = [] ∧ Fields.IsJson (entry.attrs.getD [])) : entry.Writable where
  attrs := bare.2
  source repetition given := by
    have noRoots := bare.1
    rw [ElementMapping.roots, given] at noRoots
    exact absurd (List.append_eq_nil_iff.mp noRoots).2 (List.cons_ne_nil _ _)
  content root member := by
    rw [bare.1] at member
    cases member

/-- The elements of plain markup bring no content along. -/
theorem bare_of_mem_markup {entry : Key × ElementMapping} (member : entry ∈ markup) :
    entry.2.roots = [] ∧ Fields.IsJson (entry.2.attrs.getD []) := by
  rcases List.mem_map.mp member with ⟨named, listed, rfl⟩
  have bare : ∀ named ∈ markupEntries,
      named.2.roots.isEmpty ∧ Fields.IsJson (named.2.attrs.getD []) := by
    unfold Fields.IsJson
    decide
  exact ⟨List.isEmpty_iff.mp (bare named listed).1, (bare named listed).2⟩

theorem bare_of_mem_react {entry : Key × ElementMapping} (member : entry ∈ react) :
    entry.2.roots = [] ∧ Fields.IsJson (entry.2.attrs.getD []) := by
  rw [List.mem_singleton.mp member]
  exact ⟨rfl, fun _ impossible => absurd impossible List.not_mem_nil⟩

theorem exists_mem_of_mem_merge {tables : List (Option MappingTable)} {entry : Key × ElementMapping}
    (member : entry ∈ merge tables) : ∃ table ∈ tables, entry ∈ table.getD [] := by
  have general : ∀ start : MappingTable, entry ∈ tables.foldl
      (fun merged table => Entries.update merged (table.getD [])) start →
      entry ∈ start ∨ ∃ table ∈ tables, entry ∈ table.getD [] := by
    clear member
    induction tables with
    | nil => exact fun start member => Or.inl member
    | cons table rest inductionHypothesis =>
        intro start member
        rcases inductionHypothesis _ member with early | ⟨other, listed, inOther⟩
        · rcases Entries.mem_or_mem_of_mem_update early with before | added
          · exact Or.inl before
          · exact Or.inr ⟨table, List.mem_cons_self, added⟩
        · exact Or.inr ⟨other, List.mem_cons_of_mem _ listed, inOther⟩
  rcases general [] member with impossible | found
  · cases impossible
  · exact found

/-- What the tables of a call hold besides the built-in elements, which bring no content along,
is from its own table or from the given one. -/
theorem roots_eq_nil_or_mem {own given : Option MappingTable} {entry : Key × ElementMapping}
    (member : entry ∈ merge [some (merge [some markup, some react, own]), given]) :
    entry.2.roots = [] ∨ entry ∈ own.getD [] ∨ entry ∈ given.getD [] := by
  rcases exists_mem_of_mem_merge member with ⟨table, listed, inTable⟩
  rcases List.mem_pair.mp listed with rfl | rfl
  · rcases exists_mem_of_mem_merge inTable with ⟨part, isPart, inPart⟩
    simp only [List.mem_cons, List.not_mem_nil, or_false] at isPart
    rcases isPart with rfl | rfl | rfl
    · exact .inl (bare_of_mem_markup inPart).1
    · exact .inl (bare_of_mem_react inPart).1
    · exact .inr (.inl inPart)
  · exact .inr (.inr inTable)

/-- The tables of a call have no circle when the types that its own table and the given one bring
along come down in rank. -/
theorem acyclic_merge_of_rank {own given : Option MappingTable} (rank : String → Nat)
    (falls : ∀ type entry, (.text type, entry) ∈ own.getD [] ∨ (.text type, entry) ∈ given.getD [] →
      ∀ root ∈ entry.roots, ∀ node ∈ root.walk, rank node.type < rank type) :
    (merge [some (merge [some markup, some react, own]), given]).Acyclic := by
  apply acyclic_of_rank rank
  rintro first second ⟨entry, known, root, isRoot, node, walked, rfl⟩
  rcases roots_eq_nil_or_mem (Entries.mem_of_lookUp?_eq_some known) with bare | listed
  · rw [bare] at isRoot
    cases isRoot
  · exact falls first entry listed root isRoot node walked

/-- The table of a generator over the built-in ones. -/
def overBuiltin (own : MappingTable) : MappingTable :=
  merge [some (merge [some markup, some react, some own]), none]

theorem writable_merge {tables : List (Option MappingTable)}
    (writable : ∀ table ∈ tables, MappingTable.Writable (table.getD [])) :
    (merge tables).Writable := by
  intro entry member
  rcases exists_mem_of_mem_merge member with ⟨table, listed, inTable⟩
  exact writable table listed entry inTable

end MappingTable

/-! ## Failures in any notation -/

/-- The failure is over a value that cannot be written. -/
def Failure.IsUnrenderable (failure : Failure) : Prop :=
  ∃ fault, failure = .unrenderable fault

/-- The fault of the value that a failure is over, when it is over one. -/
def Failure.fault? : Failure → Option RenderFault
  | .unrenderable fault => some fault
  | _ => none

theorem outcome_of_fault? {α : Type} {run : Run α} {fault : RenderFault}
    (found : run.failure?.bind Failure.fault? = some fault) :
    run.outcome = .error (.unrenderable fault) := by
  rcases Option.bind_eq_some_iff.mp found with ⟨failure, failed, faulty⟩
  rw [Traced.failure?_eq_some_iff.mp failed]
  cases failure with
  | unrenderable other => rw [Option.some.inj faulty]
  | _ => cases faulty

theorem failsWithin_ofRendered {α : Type} (rendered : Except RenderFault α) :
    (Traced.ofExcept (rendered.mapError Failure.unrenderable) : Run α).FailsWithin
      Failure.IsUnrenderable := by
  intro failure failed
  cases rendered with
  | ok value => cases failed
  | error fault => exact ⟨fault, (Except.error.inj failed).symm⟩

theorem assign_failsWithin {ρ : Type} (classPass : ClassPass ρ) (component : Component)
    (nodes : Entries String Origin) (owners : ClassOwners) (styled : List Origin)
    (rest : List ContentNode) :
    (assign classPass component nodes owners styled rest).FailsWithin Failure.IsUnrenderable := by
  induction rest generalizing owners styled with
  | nil => exact .of_outcome_eq_ok rfl
  | cons node rest inductionHypothesis =>
      rw [assign]
      split
      · exact .bind (.of_outcome_eq_ok rfl) fun _ => inductionHypothesis owners styled
      split
      · exact inductionHypothesis owners styled
      dsimp only
      split
      · exact .bind (inductionHypothesis owners _) fun _ => .of_outcome_eq_ok rfl
      · refine .bind (.of_outcome_eq_ok rfl) fun _ => .bind (failsWithin_ofRendered _) fun _ => ?_
        exact .bind (inductionHypothesis _ _) fun _ => .of_outcome_eq_ok rfl

theorem assemble_failsWithin (chunks : List Chunk) (name : String) :
    (assemble chunks name).FailsWithin Failure.IsUnrenderable :=
  .bind (.of_outcome_eq_ok rfl) fun _ => failsWithin_ofRendered _

theorem Flavor.pass_failsWithin (flavor : Flavor) (stylesObject : String) (camelCase : Bool)
    (library : StyleLibrary) (table : MappingTable) (assembly : Assembly) :
    ((flavor.pass (.ofChoice stylesObject camelCase library)).run table assembly).FailsWithin
      Failure.IsUnrenderable := by
  cases flavor with
  | inlineStyles => exact .of_outcome_eq_ok (run_inlineStyles table assembly)
  | scopedClasses =>
      change Traced.FailsWithin (if (assembly.chunks.chunk? "react-component").isNone then
        pure assembly
        else ScopedClasses.style { stylesObject := stylesObject, camelCase := camelCase } assembly) _
      split
      · exact .of_outcome_eq_ok rfl
      · intro failure failed
        rw [ScopedClasses.style_outcome] at failed
        exact assign_failsWithin _ _ _ _ _ _ failure (error_of_map_eq_error failed)
  | injectedStyles =>
      change Traced.FailsWithin (if (assembly.chunks.chunk? "react-component").isNone then
        pure assembly else InjectedStyles.style { library := library } assembly) _
      split
      · exact .of_outcome_eq_ok rfl
      · intro failure failed
        rw [InjectedStyles.style_outcome] at failed
        exact assign_failsWithin _ _ _ _ _ _ failure (error_of_map_eq_error failed)

namespace MappingTable

/-- The failure is over an element below the content whose type has no entry. -/
def FailsUnmapped (table : MappingTable) (content : ContentNode) (failure : Failure) : Prop :=
  ∃ place node, table.Reaches content place node ∧ table.IsUnmapped node ∧
    failure = .unmapped node.type (some node.name)

end MappingTable

theorem componentTree_failsWithin {component : Component} {table : MappingTable}
    (acyclic : table.Acyclic) :
    ((Pass.componentTree {}).run table (Assembly.start component)).FailsWithin fun failure =>
      failure.IsUnrenderable ∨ table.FailsUnmapped component.content failure := by
  intro failure failed
  have same : ((Pass.componentTree {}).run table (Assembly.start component)).outcome = _ :=
    assembleTree_outcome component table
  rw [same] at failed
  cases built : (component.build table 0).outcome with
  | ok parts =>
      rw [built] at failed
      cases declared : component.hooks with
      | ok hooks =>
          rw [declared] at failed
          cases failed
      | error fault =>
          rw [declared] at failed
          exact .inl ⟨fault, (Except.error.inj failed).symm⟩
  | error early =>
      rw [built] at failed
      rw [← Except.error.inj failed]
      rcases component.build_failsWithin acyclic 0 early built with
        ⟨place, node, reached, failsThere⟩
      cases failsThere with
      | unmapped missing => exact .inr ⟨place, node, reached, missing, rfl⟩
      | handlers | test | source => exact .inl ⟨_, rfl⟩

/-- Over tables without circles a component cannot be compiled only for an element whose type has
no entry, or for a value that cannot be written. -/
theorem compile_failsWithin (flavor : Flavor) (stylesObject : String) (camelCase : Bool)
    (library : StyleLibrary) {own given : Option MappingTable} (component : Component)
    {table : MappingTable} (merged : (Generator.ofFlavor flavor own
      (.ofChoice stylesObject camelCase library)).tableFor given = table) (acyclic : table.Acyclic) :
    ((Generator.ofFlavor flavor own (.ofChoice stylesObject camelCase library)).compile given
      component).FailsWithin fun failure =>
        failure.IsUnrenderable ∨ table.FailsUnmapped component.content failure := by
  subst merged
  have performed {pass : Pass} {assembly : Assembly} {allowed : Failure → Prop}
      {table : MappingTable} (runs : (pass.run table assembly).FailsWithin allowed) :
      (pass.perform table assembly).FailsWithin allowed := by
    intro failure failed
    rw [Pass.outcome_perform] at failed
    exact runs failure failed
  refine .bind (.bind (performed (componentTree_failsWithin acyclic)) fun built => ?_) fun _ =>
    .bind (fun failure failed => .inl (assemble_failsWithin _ _ failure failed)) fun _ =>
      .of_outcome_eq_ok rfl
  refine .bind (performed fun failure failed => .inl ?_) fun styled =>
    .bind (performed (.of_outcome_eq_ok rfl)) fun _ => .of_outcome_eq_ok rfl
  exact flavor.pass_failsWithin stylesObject camelCase library _ built failure failed

theorem mapped_of_compile {flavor : Flavor} {settings : StyleSettings}
    {own given : Option MappingTable} {component : Component} {compiled : CompiledComponent}
    (succeeded : ((Generator.ofFlavor flavor own settings).compile given component).outcome =
      .ok compiled) :
    ∀ place node, ((Generator.ofFlavor flavor own settings).tableFor given).Reaches
      component.content place node →
        ¬ ((Generator.ofFlavor flavor own settings).tableFor given).IsUnmapped node := by
  intro place node reached
  rcases stages_of_compile succeeded with ⟨built, _, _, stages, _, _⟩
  rcases builtFrom_of_assembleTree stages.tree with ⟨notes, parts, _, run, _, _⟩
  rcases MappingTable.accounted _ _ _ _ _ _ _ run with ⟨expanded, account⟩
  exact account.mapped (place, node) (expanded.mem_visits reached)

/-! ## Passes in a row -/

theorem Pass.perform_meets {pass : Pass} {table : MappingTable} {assembly : Assembly}
    {expected : Option Failure} {good : Assembly → Prop}
    (run : (pass.run table assembly).Meets expected good) :
    (pass.perform table assembly).Meets expected good := by
  exact run.of_outcome_eq (pass.outcome_perform table assembly)

theorem importBlock_meets {name : String} {table : MappingTable} {assembly : Assembly}
    (writable : assembly.chunks.Writable) :
    ((Pass.importBlock name).run table assembly).Meets none fun next => next.chunks.Writable := by
  refine Traced.Meets.ofResult rfl ?_
  split
  · exact writable
  · exact writable.add trivial

theorem runPasses_meets (flavor : Flavor) (stylesObject : String) (camelCase : Bool)
    (library : StyleLibrary) {component : Component} {table : MappingTable}
    (writable : component.Writable) (tableWritable : table.Writable) (unnested : table.Unnested) :
    (runPasses table [Pass.componentTree {}, flavor.pass (.ofChoice stylesObject camelCase library),
      Pass.importBlock "import"] (Assembly.start component)).Meets
      (table.firstFailure (table.visits table.defaultDepth component.content))
      fun assembly => assembly.chunks.Writable := by
  have build := Pass.perform_meets (componentTree_meets writable tableWritable unnested)
  refine build.finish fun built ready => ?_
  rcases ready.recorded with ⟨function, records⟩
  have styling := Pass.perform_meets (@Flavor.pass_meets stylesObject camelCase library table built
    function flavor records ready.chunks ready.nodes)
  exact styling.andThen fun styled styledWritable =>
    (Pass.perform_meets (importBlock_meets styledWritable)).andThen fun _ finished =>
      Traced.Meets.ofResult rfl finished

/-- Over tables that can be written, a component that can be written is compiled unless the build
fails. -/
theorem compile_meets (flavor : Flavor) (stylesObject : String) (camelCase : Bool)
    (library : StyleLibrary) {component : Component} {own given : Option MappingTable}
    (writable : component.Writable) (ownWritable : MappingTable.Writable (own.getD []))
    (givenWritable : MappingTable.Writable (given.getD [])) {table : MappingTable}
    (merged : (Generator.ofFlavor flavor own (.ofChoice stylesObject camelCase library)).tableFor
      given = table) (unnested : table.Unnested) :
    ((Generator.ofFlavor flavor own (.ofChoice stylesObject camelCase library)).compile given
      component).Meets (table.firstFailure (table.visits table.defaultDepth component.content))
      fun _ => True := by
  have tableWritable : table.Writable := by
    rw [← merged]
    refine MappingTable.writable_merge (List.forall_mem_cons.mpr
      ⟨MappingTable.writable_merge ?_, List.forall_mem_singleton.mpr givenWritable⟩)
    have markup : MappingTable.markup.Writable := fun _ member =>
      MappingTable.writable_of_bare (MappingTable.bare_of_mem_markup member)
    have react : MappingTable.react.Writable := fun _ member =>
      MappingTable.writable_of_bare (MappingTable.bare_of_mem_react member)
    exact List.forall_mem_cons.mpr ⟨markup, List.forall_mem_cons.mpr
      ⟨react, List.forall_mem_singleton.mpr ownWritable⟩⟩
  have passes := runPasses_meets flavor stylesObject camelCase library writable tableWritable unnested
  subst merged
  exact passes.finish fun assembly assembled => (assemble_meets assembled _).andThen fun files _ =>
    (Traced.noteAll_meets [_]).andThen fun _ _ => Traced.Meets.ofResult rfl trivial

/-- With the generators that there are, what can be written is compiled, or it fails over an
element whose type has no entry. -/
theorem compile_cases (settings : Settings) (flavor : Flavor) {component : Component}
    {given : Option MappingTable} (writable : component.Writable)
    (givenWritable : MappingTable.Writable (given.getD []))
    (acyclic : ((Generator.ofFlavor flavor none settings.styleSettings).tableFor given).Acyclic) :
    let generator := Generator.ofFlavor flavor none settings.styleSettings
    let table := generator.tableFor given
    (∃ compiled, (generator.compile given component).outcome = .ok compiled ∧
      ∀ place node, table.Reaches component.content place node → ¬ table.IsUnmapped node) ∨
    ∃ failure, (generator.compile given component).outcome = .error failure ∧
      table.FailsUnmapped component.content failure := by
  intro generator table
  have meets : (generator.compile given component).Meets
      (table.firstFailure (table.visits table.defaultDepth component.content)) fun _ => True :=
    compile_meets flavor "styles" settings.camelCaseClassNames settings.styleSettings.library
      writable (fun _ member => absurd member List.not_mem_nil) givenWritable rfl acyclic.unnested
  have expanded := MappingTable.expanded_of_entered acyclic.unnested
    (MappingTable.Entered.start table component.content)
  cases first : table.firstFailure (table.visits table.defaultDepth component.content) with
  | none =>
      rcases Traced.failure?_eq_none_iff.mp (meets.failure.trans first) with ⟨compiled, succeeded⟩
      exact .inl ⟨compiled, succeeded, (MappingTable.firstFailure_eq_none_iff expanded).mp first⟩
  | some failure =>
      have failed := Traced.failure?_eq_some_iff.mp (meets.failure.trans first)
      rcases (MappingTable.firstFailure_eq_some_iff expanded).mp first with
        ⟨place, node, isFirst, named⟩
      exact .inr ⟨failure, failed, place, node, isFirst.1, isFirst.2.1, named⟩

section Descriptions

variable (flavor : Flavor) (stylesObject : String) (camelCase : Bool) (library : StyleLibrary)
  {document mapping overrides : Value} {component : Component} {own given : Option MappingTable}
  (documentJson : document.isJson = true) (mappingJson : mapping.isJson = true)
  (overridesJson : overrides.isJson = true)
  (described : Generator.readComponent document = .ok component)
  (mapped : MappingTable.ofOptional mapping = .ok own)
  (overridden : MappingTable.ofOptional overrides = .ok given) {table : MappingTable}
  (merged : (Generator.ofFlavor flavor own (.ofChoice stylesObject camelCase library)).tableFor
    given = table) (unnested : table.Unnested)
include documentJson mappingJson overridesJson described mapped overridden merged unnested

/-- A call on descriptions in the stricter notation fails as the build does. -/
theorem generate_meets :
    ((Generator.ofFlavor flavor own (.ofChoice stylesObject camelCase library)).generate document
      overrides).Meets (table.firstFailure (table.visits table.defaultDepth component.content))
      fun _ => True := by
  have compiles := compile_meets flavor stylesObject camelCase library
    (Generator.writable_of_readComponent documentJson described)
    (MappingTable.writable_of_ofOptional mappingJson mapped)
    (MappingTable.writable_of_ofOptional overridesJson overridden) merged unnested
  exact compiles.of_outcome_eq (Generator.outcome_generate _ described overridden)

theorem generate_succeeds
    (known : ∀ place node, table.Reaches component.content place node → ¬ table.IsUnmapped node) :
    ∃ compiled, ((Generator.ofFlavor flavor own
      (.ofChoice stylesObject camelCase library)).generate document overrides).outcome =
        .ok compiled := by
  have meets := generate_meets flavor stylesObject camelCase library documentJson mappingJson
    overridesJson described mapped overridden merged unnested
  have expanded := MappingTable.expanded_of_entered unnested
    (MappingTable.Entered.start table component.content)
  exact Traced.failure?_eq_none_iff.mp
    (meets.failure.trans ((MappingTable.firstFailure_eq_none_iff expanded).mpr known))

end Descriptions

/-- A component that is described in the stricter notation, with whole numbers of at
most `mostDigits` digits in it and in the tables, over tables whose default content
does not nest, is compiled exactly when every element that the build reaches has an
entry for its type.  Otherwise the failure names the type and the name of the first
element that has none, in the order of the visits, and no other failure is possible. -/
theorem generate_fails_over_first_unmapped (flavor : Flavor) (stylesObject : String)
    (camelCase : Bool) (library : StyleLibrary) {document mapping overrides : Value}
    {component : Component} {own given : Option MappingTable}
    (documentJson : document.isJson = true) (mappingJson : mapping.isJson = true)
    (overridesJson : overrides.isJson = true)
    (described : Generator.readComponent document = .ok component)
    (mapped : MappingTable.ofOptional mapping = .ok own)
    (overridden : MappingTable.ofOptional overrides = .ok given)
    (unnested : ((Generator.ofFlavor flavor own
      (.ofChoice stylesObject camelCase library)).tableFor given).Unnested) :
    let generator := Generator.ofFlavor flavor own (.ofChoice stylesObject camelCase library)
    let table := generator.tableFor given
    ((∃ compiled, (generator.generate document overrides).outcome = .ok compiled) ↔
      ∀ place node, table.Reaches component.content place node → ¬ table.IsUnmapped node) ∧
    ∀ failure, (generator.generate document overrides).outcome = .error failure ↔
      ∃ place node, table.FirstUnmapped component.content place node ∧
        failure = .unmapped node.type (some node.name) := by
  intro generator table
  have meets := generate_meets flavor stylesObject camelCase library documentJson mappingJson
    overridesJson described mapped overridden rfl unnested
  -- The build goes to the end, so what it visits is what can be reached.
  have expanded : table.Expanded table.defaultDepth component.content :=
    MappingTable.expanded_of_entered unnested (MappingTable.Entered.start table component.content)
  constructor
  · rw [← MappingTable.firstFailure_eq_none_iff expanded, ← Traced.failure?_eq_none_iff,
      meets.failure]
  · intro failure
    rw [← MappingTable.firstFailure_eq_some_iff expanded, ← Traced.failure?_eq_some_iff,
      meets.failure]

/-- A board with a card and a widget. -/
def boardDocument : Value :=
  .map [(.text "name", .text "Board"),
    (.text "content", .map [(.text "type", .text "group"), (.text "name", .text "board"),
      (.text "children", .list [
        .map [(.text "type", .text "card"), (.text "name", .text "first")],
        .map [(.text "type", .text "widget"), (.text "name", .text "later")]])])]

/-- A mapping in which a card brings a badge along. -/
def cardMapping : Value :=
  .map [(.text "card", .map [(.text "type", .text "div"),
    (.text "children", .list [.map [(.text "type", .text "badge"), (.text "name", .text "hint")]])])]

def cardBadge : ContentNode := .ofType "badge" "hint"

/-- The mapping as it is read. -/
def cardEntries : MappingTable :=
  [(.text "card", ⟨"div", none, none, some [.node cardBadge], none⟩)]

/-- The board as it is read. -/
def board : Component :=
  ⟨"Board", .plain "group" "board" none
    (some [.node (.ofType "card" "first"), .node (.ofType "widget" "later")]), none, none, none⟩

/-- The tables of the board put together. -/
def boardTable : MappingTable :=
  .overBuiltin cardEntries

/-- Only a card brings content along, and the badge leads to nothing. -/
theorem unnested_boardTable : boardTable.Unnested := by
  apply MappingTable.Acyclic.unnested
  apply MappingTable.acyclic_merge_of_rank fun type => if type = "card" then 1 else 0
  rintro type entry (inOwn | inGiven) root isRoot node walked
  · cases List.mem_singleton.mp inOwn
    rw [List.mem_singleton.mp isRoot, cardBadge, ContentNode.walk_ofType] at walked
    rw [List.mem_singleton.mp walked]
    decide
  · cases inGiven

/-- The badge is the first node of the board whose type is not in the tables: the
widget, which is not in them either, comes behind it. -/
theorem badge_first_unmapped :
    boardTable.FirstUnmapped board.content [.child 0, .child 0] cardBadge := by
  refine ⟨.onward List.mem_cons_self (.onward List.mem_cons_self (.here _)), ⟨rfl, rfl⟩, ?_⟩
  intro other found reached unmapped
  have card : boardTable.below (.ofType "card" "first") = [(.child 0, cardBadge)] := rfl
  have leaf : boardTable.below cardBadge = [] := rfl
  cases reached with
  | here => exact absurd unmapped.2 (Option.some_ne_none _)
  | onward led rest =>
      rcases List.mem_pair.mp led with first | second
      · rcases Prod.mk.inj first with ⟨rfl, rfl⟩
        cases rest with
        | here => exact absurd unmapped.2 (Option.some_ne_none _)
        | onward inside further =>
            rw [card, List.mem_singleton] at inside
            rcases Prod.mk.inj inside with ⟨rfl, rfl⟩
            cases further with
            | here => exact Or.inl rfl
            | onward impossible _ =>
                rw [leaf] at impossible
                cases impossible
      · rcases Prod.mk.inj second with ⟨rfl, _⟩
        exact Or.inr (.rel (.children Nat.zero_lt_one))

/-- The badge that a card brings along is in none of the tables and comes before the
widget, so every flavor fails over the badge. -/
theorem board_fails_over_its_badge :
    boardTable.FirstUnmapped board.content [.child 0, .child 0] cardBadge ∧
    ∀ flavor : Flavor,
      ((Generator.ofFlavor flavor (some cardEntries) (.ofChoice "styles" true {})).generate
        boardDocument .null).outcome = .error (.unmapped "badge" (some "hint")) := by
  refine ⟨badge_first_unmapped, fun flavor => ?_⟩
  have described : Generator.readComponent boardDocument = .ok board := by cbv
  have mapped : MappingTable.ofOptional cardMapping = .ok (some cardEntries) := by cbv
  have mappingJson : cardMapping.isJson = true := by decide
  exact ((generate_fails_over_first_unmapped flavor "styles" true {} (by decide) mappingJson
    (by decide) described mapped rfl unnested_boardTable).2 _).mpr
      ⟨_, _, badge_first_unmapped, rfl⟩

/-- A note and nothing else. -/
def noteDocument : Value :=
  .map [(.text "name", .text "Note"),
    (.text "content", .map [(.text "type", .text "note"), (.text "name", .text "hint")])]

/-- The note as it is read. -/
def hintNote : Component :=
  ⟨"Note", .ofType "note" "hint", none, none, none⟩

/-- A mapping in which a note is titled with one digit too many. -/
def longTitleEntries : MappingTable :=
  [(.text "note", ⟨"p", none, some [("title", .int (10 ^ mostDigits))], none, none⟩)]

def longTitleTable : MappingTable :=
  .overBuiltin longTitleEntries

theorem unnested_longTitleTable : longTitleTable.Unnested := by
  apply MappingTable.Acyclic.unnested
  apply MappingTable.acyclic_merge_of_rank fun _ => 0
  rintro type entry (inOwn | inGiven) root isRoot
  · cases List.mem_singleton.mp inOwn
    cases isRoot
  · cases inGiven

/-- The number in the title cannot be written.  So every flavor fails, though the note has its
entry and nothing else is reached. -/
theorem note_fails_over_long_title :
    Generator.readComponent noteDocument = .ok hintNote ∧ longTitleTable.Unnested ∧
    (∀ place node, longTitleTable.Reaches hintNote.content place node →
      ¬ longTitleTable.IsUnmapped node) ∧
    ∀ flavor : Flavor,
      ((Generator.ofFlavor flavor (some longTitleEntries) (.ofChoice "styles" true {})).generate
        noteDocument .null).outcome = .error (.unrenderable .tooManyDigits) := by
  refine ⟨by cbv, unnested_longTitleTable, ?_, fun flavor => outcome_of_fault? ?_⟩
  · intro place node reached unmapped
    have leaf : longTitleTable.below hintNote.content = [] := rfl
    cases reached with
    | here => exact absurd unmapped.2 (Option.some_ne_none _)
    | onward led _ =>
        rw [leaf] at led
        cases led
  · cases flavor <;> decide +kernel

end ComponentCompiler
