import ComponentCompiler.Mapping.Table

namespace ComponentCompiler
namespace MappingTable

/-!
# Built-in mapping tables

The first table maps the common element types to plain tags.  The second adds
the element types that a library of the target provides.
-/

/-- An entry that is only a tag. -/
def tagEntry (tag : String) : ElementMapping :=
  ⟨tag, none, none, none, none⟩

/-- An entry for an input field of a kind. -/
def inputEntry (kind : String) : ElementMapping :=
  ⟨"input", none, some [("type", .text kind)], none, none⟩

/-- Element types that are plain tags. -/
def markupEntries : List (String × ElementMapping) :=
  [("container", tagEntry "div"), ("group", tagEntry "div"), ("section", tagEntry "section"),
   ("nav", tagEntry "nav"), ("header", tagEntry "header"), ("footer", tagEntry "footer"),
   ("main", tagEntry "main"), ("article", tagEntry "article"), ("aside", tagEntry "aside"),
   ("text", tagEntry "span"), ("textblock", tagEntry "p"), ("heading", tagEntry "h1"),
   ("label", tagEntry "label"), ("image", tagEntry "img"), ("picture", tagEntry "picture"),
   ("source", tagEntry "source"), ("video", tagEntry "video"), ("audio", tagEntry "audio"),
   ("link", tagEntry "a"), ("button", tagEntry "button"), ("form", tagEntry "form"),
   ("textinput", inputEntry "text"), ("textarea", tagEntry "textarea"),
   ("checkbox", inputEntry "checkbox"), ("radiobutton", inputEntry "radio"),
   ("select", tagEntry "select"), ("option", tagEntry "option"), ("list", tagEntry "ul"),
   ("orderedlist", tagEntry "ol"), ("listitem", tagEntry "li"), ("table", tagEntry "table"),
   ("tablerow", tagEntry "tr"), ("tablecell", tagEntry "td"), ("separator", tagEntry "hr"),
   ("svg", tagEntry "svg"), ("path", tagEntry "path"), ("line", tagEntry "line"),
   ("circle", tagEntry "circle")]

/-- The table of plain tags. -/
def markup : MappingTable :=
  markupEntries.map fun entry => (.text entry.1, entry.2)

/-- The dependency of a link between pages. -/
def routerDependency : Dependency :=
  { kind := .library
    path := some "react-router-dom"
    version := some "4.3.1"
    details := some ⟨some true, none, none, none⟩ }

/-- The table of element types from libraries. -/
def react : MappingTable :=
  [(.text "navlink", ⟨"Link", some routerDependency, none, none, none⟩)]

end MappingTable
end ComponentCompiler
