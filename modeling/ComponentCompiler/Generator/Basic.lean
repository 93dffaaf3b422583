import ComponentCompiler.Chunk.Assemble
import ComponentCompiler.Mapping.Document
import ComponentCompiler.Pass.Basic

namespace ComponentCompiler

open Schema

/-!
# Generators

A generator is a mapping table and a list of passes.  Compiling a component
leaves it as it was; the mapping of a single call goes over its own table.
-/

/-- What compiles components for one target and style. -/
structure Generator where
  passes : List Pass
  table : MappingTable

/-- The result of compiling a component: its files, and the versions of the
packages that they import. -/
structure CompiledComponent where
  files : List OutputFile
  packages : Entries String String

namespace Generator

/-- A generator with one more pass at the end. -/
def addPass (generator : Generator) (pass : Pass) : Generator :=
  { generator with passes := generator.passes ++ [pass] }

/-- A generator with another table over its own. -/
def addTable (generator : Generator) (table : MappingTable) : Generator :=
  { generator with table := MappingTable.merge [some generator.table, some table] }

/-- Run the passes over a component. -/
def assembly (generator : Generator) (overrides : Option MappingTable) (component : Component) :
    Run Assembly :=
  runPasses (MappingTable.merge [some generator.table, overrides]) generator.passes
    (Assembly.start component)

/-- The entry in the log for a compiled component. -/
def generatedEntry (component : Component) (count : Nat) : Log.Entry :=
  { level := .info
    source := "uidl_compiler.generators.component_gen.generator"
    component := some component.name
    pass := none
    message := "Generated " ++ toString count ++ " file(s)" }

/-- Compile a component. -/
def compile (generator : Generator) (overrides : Option MappingTable) (component : Component) :
    Run CompiledComponent := do
  let assembly ← generator.assembly overrides component
  let files ← assemble assembly.chunks (Naming.dashCase component.name)
  Traced.note (generatedEntry component files.length)
  return ⟨files, assembly.registry.packages⟩

/-- Check the description of a component. -/
def readComponent (document : Value) : Except Failure Component :=
  (checkComponent document).toExcept.mapError Failure.invalid

/-- Compile the description of a component, with a mapping that may be left
out.  The description is checked before the mapping. -/
def generate (generator : Generator) (document overrides : Value) : Run CompiledComponent := do
  let component ← Traced.ofExcept (readComponent document)
  let table ← Traced.ofExcept (MappingTable.ofOptional overrides)
  generator.compile table component

end Generator
end ComponentCompiler
