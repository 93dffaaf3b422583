import ComponentCompiler.Markup.Render
import ComponentCompiler.Script.Statement

namespace ComponentCompiler

open Script

/-!
# Chunks

The passes of a pipeline leave named chunks of output.  A chunk belongs to the
script or to the stylesheet and says before and after which others it has to
stand.  Its content is text, or something that is still open to change and
turned into text only at the end.
-/

/-- The file that a chunk belongs to. -/
inductive ChunkKind where
  | script
  | stylesheet
deriving DecidableEq, Repr

/-- The extension of the file. -/
def ChunkKind.extension : ChunkKind → String
  | .script => "js"
  | .stylesheet => "css"

/-- What a chunk holds. -/
inductive ChunkContent where
  | text (content : String)
  | declaration (constant : Declaration)
  | component (function : ComponentFunction)

/-- The text of a content. -/
def ChunkContent.render : ChunkContent → Except RenderFault String
  | .text content => .ok content
  | .declaration constant => constant.render
  | .component function => function.render

/-- A named piece of output. -/
structure Chunk where
  name : String
  kind : ChunkKind
  content : ChunkContent
  before : List String
  after : List String

/-- The chunks of one run, unique by name, in the order of registration. -/
abbrev ChunkStore := List Chunk

namespace ChunkStore

/-- Add a chunk, or replace the one of the same name in its place. -/
def add : ChunkStore → Chunk → ChunkStore
  | [], chunk => [chunk]
  | existing :: rest, chunk =>
    if existing.name = chunk.name then chunk :: rest else existing :: add rest chunk

/-- The chunk of a name. -/
def chunk? (store : ChunkStore) (name : String) : Option Chunk :=
  store.find? fun chunk => chunk.name = name

/-- The names in order. -/
def names (store : ChunkStore) : List String :=
  store.map Chunk.name

/-- A chunk that also stands after another one. -/
def placeAfter (chunk : Chunk) (name : String) : Chunk :=
  if name ∈ chunk.after then chunk else { chunk with after := chunk.after ++ [name] }

/-- Make the export stand after the style chunk and give it new content when
there is some.  Without an export chunk a new one is added. -/
def extendExport (store : ChunkStore) (exportName styleName importName : String)
    (content : Option String) : ChunkStore :=
  match chunk? store exportName with
  | none => add store ⟨exportName, .script, .text (content.getD ""), [], [importName, styleName]⟩
  | some chunk =>
    let filled :=
      match content with
      | some text => { chunk with content := .text text }
      | none => chunk
    add store (placeAfter filled styleName)

/-- Change the element of an origin in all components of the store. -/
def changeAt (store : ChunkStore) (origin : Origin) (change : Element → Element) : ChunkStore :=
  store.map fun chunk =>
    match chunk.content with
    | .component function =>
      { chunk with
        content := .component { function with root := function.root.changeAt origin change } }
    | _ => chunk

end ChunkStore
end ComponentCompiler
