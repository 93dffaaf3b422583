import ComponentCompiler.Proofs.Build.Element
import ComponentCompiler.Proofs.Build.Written
import ComponentCompiler.Proofs.Value.Json

namespace ComponentCompiler

/-!
# Content that can be written

Everything that a description declares is written out somewhere: styles and
attributes, the scalars of handlers and tests, the sources of repeated content and
the first values of states.  It can be written when it holds no other values than
those of the stricter notation.
-/

/-- All values of some fields are values of the stricter notation. -/
def Fields.IsJson (fields : Fields) : Prop :=
  ∀ field ∈ fields, field.2.isJson = true

/-- No scalar is a whole number of too many digits. -/
def AllShort (scalars : List Scalar) : Prop :=
  ∀ scalar ∈ scalars, scalar.isTooLong = false

/-- What repeated content is repeated over can be written. -/
def Repetition.HasSource (repetition : Repetition) : Prop :=
  repetition.source.toValue.isJson = true

/-- What a node itself declares can be written. -/
structure ContentNode.Writable (node : ContentNode) : Prop where
  style : Fields.IsJson (node.style.getD [])
  attrs : Fields.IsJson (node.attrs.getD [])
  handlers : AllShort node.shown
  tests : ∀ branch ∈ node.states.getD [], AllShort branch.test.shown
  source : ∀ repetition, node.repetition = some repetition → repetition.HasSource

/-- What a node and all nodes below it declare can be written. -/
def ContentNode.AllWritable (node : ContentNode) : Prop :=
  ∀ found ∈ node.walk, found.Writable

/-- What an element type brings along can be written. -/
structure ElementMapping.Writable (entry : ElementMapping) : Prop where
  attrs : Fields.IsJson (entry.attrs.getD [])
  source : ∀ repetition, entry.repetition = some repetition → repetition.HasSource
  content : ∀ root ∈ entry.roots, root.AllWritable

/-- The entries of a table can be written. -/
def MappingTable.Writable (table : MappingTable) : Prop :=
  ∀ entry ∈ table, entry.2.Writable

/-- What a component declares can be written. -/
structure Component.Writable (component : Component) : Prop where
  content : component.content.AllWritable
  states : ∀ state ∈ component.states.getD [], state.2.defaultValue.isJson = true

theorem ContentNode.AllWritable.intro {node : ContentNode} (here : node.Writable)
    (below : ∀ inner ∈ node.inner, inner.AllWritable) : node.AllWritable := by
  intro found member
  rw [ContentNode.walk_eq] at member
  rcases List.mem_cons.mp member with same | later
  · exact same ▸ here
  · rcases List.mem_flatMap.mp later with ⟨inner, directly, walked⟩
    exact below inner directly found walked

theorem Component.Writable.written {component : Component} {table : MappingTable}
    (writable : component.Writable) (tableWritable : table.Writable) {node : ContentNode}
    (member : node ∈ table.written component.content) : node.Writable := by
  rcases List.mem_append.mp member with inContent | inTable
  · exact writable.content node inContent
  · rcases List.mem_flatMap.mp inTable with ⟨entry, listed, inEntry⟩
    rcases List.mem_flatMap.mp inEntry with ⟨root, isRoot, walked⟩
    exact (tableWritable entry listed).content root isRoot node walked

end ComponentCompiler
