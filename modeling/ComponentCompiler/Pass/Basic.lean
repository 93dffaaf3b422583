import ComponentCompiler.Build.Tree
import ComponentCompiler.Chunk.Basic
import ComponentCompiler.Imports.Registry

namespace ComponentCompiler

/-!
# Passes

A component is compiled by passes that run one after another over an assembly.
The assembly holds the chunks and imports found so far, where the element of
each node is, and the default content that the tree took.  The first failure
ends the run.
-/

/-- What the passes work on. -/
structure Assembly where
  component : Component
  chunks : ChunkStore
  registry : Registry
  nodes : Entries String Origin
  defaults : List ContentNode
  builds : Nat

/-- A part of a run. -/
abbrev Run (α : Type) := Traced Log.Entry Failure α

/-- One pass over the assembly of a component, with the mapping table at hand. -/
structure Pass where
  name : String
  run : MappingTable → Assembly → Run Assembly

namespace Assembly

/-- The assembly of a component before the first pass. -/
def start (component : Component) : Assembly :=
  ⟨component, [], [], [], [], 0⟩

/-- Register an import. -/
def register (assembly : Assembly) (identifier : String) (dependency : Dependency) :
    Run Assembly := do
  Traced.noteAll (assembly.registry.registerNotes identifier)
  return { assembly with registry := assembly.registry.register identifier dependency }

/-- Add a chunk. -/
def addChunk (assembly : Assembly) (chunk : Chunk) : Assembly :=
  { assembly with chunks := assembly.chunks.add chunk }

/-- Take up what the builder noted. -/
def follow (assembly : Assembly) : List BuildNote → Run Assembly
  | [] => pure assembly
  | .log entry :: rest => do
    Traced.note entry
    assembly.follow rest
  | .register identifier dependency :: rest => do
    let registered ← assembly.register identifier dependency
    registered.follow rest
  | .defaults root :: rest =>
    { assembly with defaults := assembly.defaults ++ [root] }.follow rest
  | .built name origin :: rest =>
    { assembly with nodes := Entries.put assembly.nodes name origin }.follow rest

/-- The nodes with a style: those of the component, then those of default
content. -/
def styledNodes (assembly : Assembly) : List ContentNode :=
  ((assembly.component.content :: assembly.defaults).flatMap ContentNode.walk).filter
    fun node => !(node.style.getD []).isEmpty

end Assembly

/-- An entry in the log about a pass over a component. -/
def passEntry (level : Log.Level) (source : String) (component : Component) (pass : String)
    (message : String) : Log.Entry :=
  ⟨level, source, some component.name, some pass, message⟩

/-- A pass with its entries in the log. -/
def Pass.perform (pass : Pass) (table : MappingTable) (assembly : Assembly) : Run Assembly :=
  let entry (level : Log.Level) (message : String) : Log.Entry :=
    passEntry level "uidl_compiler.core.engine" assembly.component pass.name message
  let done := pass.run table assembly
  match done.outcome with
  | .ok next => ⟨entry .info "Running plugin" :: done.notes, .ok next⟩
  | .error failure =>
    ⟨entry .info "Running plugin" :: (done.notes ++ [entry .error "Plugin failed"]), .error failure⟩

/-- Run passes one after another. -/
def runPasses (table : MappingTable) : List Pass → Assembly → Run Assembly
  | [], assembly => pure assembly
  | pass :: rest, assembly => do
    let next ← pass.perform table assembly
    runPasses table rest next

/-- A pass without work of its own. -/
def Pass.abstract : Pass :=
  ⟨"base", fun _ _ => Traced.fail .unimplemented⟩

end ComponentCompiler
