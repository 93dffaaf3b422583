import ComponentCompiler.Chunk.Assemble
import ComponentCompiler.Files.Tree

namespace ComponentCompiler

/-!
# Writing the output

Each output file goes below the output directory, under its own path.
-/

/-- Where a file goes below a directory. -/
def OutputFile.place (file : OutputFile) (directory : Path) : Path :=
  directory.join (Path.ofText file.path)

/-- The paths of output files below a directory. -/
def outputPaths (files : List OutputFile) (directory : Path) : List Path :=
  files.map fun file => file.place directory

/-- Write output files below a directory, which is made when it is missing. -/
def FileTree.writeOutput (tree : FileTree) (files : List OutputFile) (directory : Path) :
    Except FileFault FileTree := do
  let made ← tree.makeDirectory directory.root directory.parts
  files.foldlM
    (fun written file => written.withFile (file.place directory) file.content.toUTF8) made

end ComponentCompiler
