import ComponentCompiler.Build.Binding

namespace ComponentCompiler
namespace Styling

open Script

/-!
# The two parts of a style

Entries that are bound to an input of the component have no fixed value.  They
are told apart from the fixed ones; both parts keep the order of the style.
-/

/-- A style in two parts: fixed entries, and entries bound to an input. -/
structure SplitStyle where
  fixed : Fields
  bound : Entries String String

/-- Tell bound entries from fixed ones. -/
def split (style : Fields) : SplitStyle :=
  { fixed := style.filter fun entry => (Binding.prop? entry.2).isNone
    bound := style.filterMap fun entry =>
      (Binding.prop? entry.2).map fun path => (entry.1, path) }

/-- Bound entries as entries of an inline style. -/
def boundStyle (bound : Entries String String) : Fields :=
  bound.map fun entry => (entry.1, .code (memberPath "props" entry.2))

/-- All entries of a style as entries of an inline style. -/
def inlineStyle (style : Fields) : Fields :=
  style.map fun entry =>
    match Binding.prop? entry.2 with
    | some path => (entry.1, .code (memberPath "props" path))
    | none => entry

/-- Fields as entries of a map. -/
def asEntries (fields : Fields) : List (Key × Value) :=
  fields.map fun field => (.text field.1, field.2)

end Styling
end ComponentCompiler
