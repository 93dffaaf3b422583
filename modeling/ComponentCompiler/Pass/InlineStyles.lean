import ComponentCompiler.Styling.Assignment

namespace ComponentCompiler

open Styling

/-!
# Styling inline

Every entry of a style goes to the inline style of the element.  Each styled
node is written in turn, so when several nodes lead to one element, the later
ones write over the earlier ones.
-/

namespace InlineStyles

/-- The name of the pass. -/
def passName : String := "react-inline-styles"

/-- Write the styles of nodes into the chunks. -/
def style (component : Component) (nodes : Entries String Origin) :
    List ContentNode → ChunkStore → Run ChunkStore
  | [], chunks => pure chunks
  | node :: rest, chunks =>
    match Entries.lookUp? nodes node.name with
    | none => do
      Traced.note
        (skippedEntry "uidl_compiler.plugins.react_inline_styles" component passName node.name)
      style component nodes rest chunks
    | some origin =>
      let entries := asEntries (inlineStyle (node.style.getD []))
      style component nodes rest
        (chunks.changeAt origin fun element => element.mergeStyle entries)

end InlineStyles

/-- The pass that styles inline. -/
def Pass.inlineStyles : Pass :=
  { name := InlineStyles.passName
    run := fun _ assembly => do
      let chunks ← InlineStyles.style assembly.component assembly.nodes assembly.styledNodes
        assembly.chunks
      return { assembly with chunks := chunks } }

end ComponentCompiler
