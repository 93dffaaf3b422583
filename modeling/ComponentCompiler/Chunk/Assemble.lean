import ComponentCompiler.Chunk.Link
import ComponentCompiler.Failure
import ComponentCompiler.Traced

namespace ComponentCompiler

/-!
# Output files

The linked chunks of one kind make one file, the script before the stylesheet.
Chunks without text are left out, every other one ends in a line feed, and a
blank line stands between neighbours.
-/

/-- A file of the output. -/
structure OutputFile where
  name : String
  extension : String
  content : String
deriving DecidableEq, Repr

/-- The path of a file below the output directory. -/
def OutputFile.path (file : OutputFile) : String :=
  file.name ++ "." ++ file.extension

/-- The text with a line feed at its end. -/
def withFinalBreak (text : String) : String :=
  if text.toList.getLast? = some '\n' then text else text ++ "\n"

/-- The file of one kind, when there is something in it. -/
def assembleKind (name : String) (kind : ChunkKind) (chunks : List Chunk) :
    Except Script.RenderFault (List OutputFile) := do
  let texts ← (chunks.filter fun chunk => chunk.kind = kind).mapM fun chunk => chunk.content.render
  let parts := (texts.filter fun text => !text.isEmpty).map withFinalBreak
  return if parts.isEmpty then []
    else [⟨name, kind.extension, Text.joinWith "\n" parts⟩]

/-- The files of the chunks. -/
def assemble (chunks : List Chunk) (name : String) :
    Traced Log.Entry Failure (List OutputFile) := do
  Traced.noteAll ((linkNotices chunks).map LinkNotice.entry)
  let ordered := link chunks
  let files : Except Script.RenderFault (List OutputFile) := do
    let script ← assembleKind name .script ordered
    let stylesheet ← assembleKind name .stylesheet ordered
    return script ++ stylesheet
  Traced.ofExcept (files.mapError Failure.unrenderable)

/-- Several files as one text, each under a line with its path.  A single file
stands alone. -/
def concatenate : List OutputFile → String
  | [file] => file.content
  | files => Text.joinWith "\n" (files.map fun file => "// " ++ file.path ++ "\n" ++ file.content)

end ComponentCompiler
