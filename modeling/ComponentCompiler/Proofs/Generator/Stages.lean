import ComponentCompiler.Generator.Flavor
import ComponentCompiler.Proofs.Chunk.Store
import ComponentCompiler.Proofs.Traced

namespace ComponentCompiler

/-!
# The stages of a call

A generator of a flavor runs three passes.  A call that succeeds leaves an
assembly behind each of them: the component as it was built, the component with
its styles, and both together with the imports.  The files are made from the last
one.
-/

/-- The table that a call of a generator works with. -/
def Generator.tableFor (generator : Generator) (overrides : Option MappingTable) : MappingTable :=
  MappingTable.merge [some generator.table, overrides]

/-- The assemblies behind the three passes of a flavor. -/
structure Flavor.Stages (flavor : Flavor) (settings : StyleSettings) (table : MappingTable)
    (component : Component) (built styled imported : Assembly) : Prop where
  tree : ((Pass.componentTree {}).run table (Assembly.start component)).outcome = .ok built
  style : ((flavor.pass settings).run table built).outcome = .ok styled
  imports : imported = if styled.registry.isEmpty then styled
    else styled.addChunk (importChunk "import" styled.registry)

theorem Pass.outcome_perform (pass : Pass) (table : MappingTable) (assembly : Assembly) :
    (pass.perform table assembly).outcome = (pass.run table assembly).outcome := by
  unfold Pass.perform
  dsimp only
  split
  · rename_i next succeeded
    exact succeeded.symm
  · rename_i failure failed
    exact failed.symm

section Calls

variable {flavor : Flavor} {settings : StyleSettings} {own given : Option MappingTable}
  {component : Component}

theorem stages_of_assembly {imported : Assembly}
    (succeeded : ((Generator.ofFlavor flavor own settings).assembly given component).outcome =
      .ok imported) :
    ∃ built styled, flavor.Stages settings ((Generator.ofFlavor flavor own settings).tableFor given)
      component built styled imported := by
  rcases Traced.outcome_bind_eq_ok.mp succeeded with ⟨built, tree, afterTree⟩
  rcases Traced.outcome_bind_eq_ok.mp afterTree with ⟨styled, style, afterStyle⟩
  rcases Traced.outcome_bind_eq_ok.mp afterStyle with ⟨next, imports, last⟩
  rw [Pass.outcome_perform] at tree style imports
  cases last
  cases imports
  exact ⟨built, styled, tree, style, rfl⟩

/-- The files of a call that succeeds are made from the last stage. -/
theorem stages_of_compile {compiled : CompiledComponent}
    (succeeded : ((Generator.ofFlavor flavor own settings).compile given component).outcome =
      .ok compiled) :
    ∃ built styled imported,
      flavor.Stages settings ((Generator.ofFlavor flavor own settings).tableFor given) component
        built styled imported ∧
      ((Generator.ofFlavor flavor own settings).assembly given component).outcome = .ok imported ∧
      (assemble imported.chunks (Naming.dashCase component.name)).outcome = .ok compiled.files := by
  rcases Traced.outcome_bind_eq_ok.mp succeeded with ⟨imported, assembled, afterPasses⟩
  rcases Traced.outcome_bind_eq_ok.mp afterPasses with ⟨files, made, afterFiles⟩
  rcases stages_of_assembly assembled with ⟨built, styled, stages⟩
  cases afterFiles
  exact ⟨built, styled, imported, stages, assembled, made⟩

end Calls

/-- Descriptions that can be read are compiled. -/
theorem Generator.outcome_generate (generator : Generator) {document overrides : Value}
    {component : Component} {given : Option MappingTable}
    (described : Generator.readComponent document = .ok component)
    (overridden : MappingTable.ofOptional overrides = .ok given) :
    (generator.generate document overrides).outcome =
      (generator.compile given component).outcome := by
  rw [Generator.generate, Traced.outcome_bind, Traced.ofExcept, described]
  change (Traced.ofExcept (MappingTable.ofOptional overrides) >>= _ : Run _).outcome = _
  rw [Traced.outcome_bind, Traced.ofExcept, overridden]
  rfl

theorem Flavor.Stages.imported_eq {flavor : Flavor} {settings : StyleSettings}
    {table : MappingTable} {component : Component} {built styled imported : Assembly}
    (stages : flavor.Stages settings table component built styled imported) {identifier : String}
    (registered : identifier ∈ Entries.keys styled.registry) :
    imported = styled.addChunk (importChunk "import" styled.registry) := by
  rw [stages.imports, if_neg]
  intro empty
  rw [List.isEmpty_iff.mp empty] at registered
  cases registered

/-- The import pass leaves all other chunks. -/
theorem Flavor.Stages.content?_component {flavor : Flavor} {settings : StyleSettings}
    {table : MappingTable} {component : Component} {built styled imported : Assembly}
    (stages : flavor.Stages settings table component built styled imported) :
    imported.chunks.content? "react-component" = styled.chunks.content? "react-component" := by
  rw [stages.imports]
  split
  · rfl
  · have other : "import" ≠ "react-component" := by decide
    unfold ChunkStore.content? Assembly.addChunk
    rw [ChunkStore.chunk?_add_of_ne other]

end ComponentCompiler
