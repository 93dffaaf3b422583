import ComponentCompiler.Pass.Basic

namespace ComponentCompiler

open Script

/-!
# The component pass

The first pass builds the markup of the component and leaves the component
chunk and the export chunk.
-/

/-- The names of the chunks that passes have to agree on. -/
structure ChunkNames where
  componentChunk : String := "react-component"
  exportChunk : String := "export"
  importChunk : String := "import"
deriving DecidableEq, Repr

/-- The import of the function that declares a state. -/
def stateHookDependency : Dependency :=
  ⟨.library, some "react", none, some ⟨some true, none, none, none⟩⟩

/-- The chunk of a component. -/
def componentChunk (names : ChunkNames) (function : ComponentFunction) : Chunk :=
  ⟨names.componentChunk, .script, .component function, [], [names.importChunk]⟩

/-- The chunk of the default export of a component. -/
def exportChunk (names : ChunkNames) (component : String) : Chunk :=
  ⟨names.exportChunk, .script, .text (defaultExport component), [], [names.componentChunk]⟩

/-- Build the component and leave its chunks. -/
def assembleTree (names : ChunkNames) (table : MappingTable) (assembly : Assembly) :
    Run Assembly := do
  let started ← assembly.register "React" (Dependency.ofLibrary "react")
  let built := assembly.component.build table assembly.builds
  let followed ← started.follow built.notes
  let parts ← Traced.ofExcept built.outcome
  let hooks ← Traced.ofExcept (assembly.component.hooks.mapError Failure.unrenderable)
  let imported ←
    if hooks.isEmpty then pure followed else followed.register "useState" stateHookDependency
  let name := Naming.componentName assembly.component.name
  let function : ComponentFunction := ⟨name, .element (gathered parts), hooks⟩
  let chunked := imported.addChunk (componentChunk names function)
  return { chunked.addChunk (exportChunk names name) with builds := assembly.builds + 1 }

/-- The component pass. -/
def Pass.componentTree (names : ChunkNames) : Pass :=
  ⟨"react-base-component", assembleTree names⟩

end ComponentCompiler
