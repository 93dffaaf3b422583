import ComponentCompiler.Imports.Group
import ComponentCompiler.Pass.Basic

namespace ComponentCompiler

/-!
# The import pass

The registered imports become the import chunk.  Without imports there is no
chunk.
-/

/-- The chunk of some imports. -/
def importChunk (name : String) (registry : Registry) : Chunk :=
  ⟨name, .script, .text (Text.joinWith "\n" (Imports.lines registry) ++ "\n"), [], []⟩

/-- The import pass. -/
def Pass.importBlock (name : String) : Pass :=
  { name := "import-statements"
    run := fun _ assembly =>
      return if assembly.registry.isEmpty then assembly
        else assembly.addChunk (importChunk name assembly.registry) }

end ComponentCompiler
