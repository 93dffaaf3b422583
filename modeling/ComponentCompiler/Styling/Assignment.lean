import ComponentCompiler.Pass.Basic
import ComponentCompiler.Styling.ClassName
import ComponentCompiler.Styling.Split

namespace ComponentCompiler
namespace Styling

/-!
# Which element gets which style

A style pass that works with classes goes through the styled nodes in order.
The element of a node is found by the node's name and styled once, by the first
node that leads to it.  Its bound entries go to the inline style; its fixed
entries, when there are some, go to a class of its own.
-/

/-- A class with the fixed entries that it stands for, and its rule. -/
structure ClassRule (ρ : Type) where
  name : String
  node : String
  fixed : Fields
  rule : ρ

/-- The style of an element. -/
structure Assignment (ρ : Type) where
  origin : Origin
  bound : Entries String String
  classRule : Option (ClassRule ρ)

variable {ρ : Type}

/-- The entry in the log for a styled node without an element. -/
def skippedEntry (source : String) (component : Component) (pass node : String) : Log.Entry :=
  passEntry .warning source component pass
    ("No compiled node for styled element " ++ node ++ ", skipping")

/-- A class pass: the source of its entries in the log, its name, and how the
rule of a class is made. -/
structure ClassPass (ρ : Type) where
  source : String
  pass : String
  rule : String → Fields → Except Script.RenderFault ρ

/-- Find the style of each element, with the classes and elements that are
already taken. -/
def assign (classPass : ClassPass ρ) (component : Component) (nodes : Entries String Origin) :
    ClassOwners → List Origin → List ContentNode → Run (List (Assignment ρ))
  | _, _, [] => pure []
  | owners, styled, node :: rest =>
    match Entries.lookUp? nodes node.name with
    | none => do
      Traced.note (skippedEntry classPass.source component classPass.pass node.name)
      assign classPass component nodes owners styled rest
    | some origin =>
      if origin ∈ styled then assign classPass component nodes owners styled rest
      else
        let parts := split (node.style.getD [])
        if parts.fixed.isEmpty then do
          let others ← assign classPass component nodes owners (origin :: styled) rest
          return ⟨origin, parts.bound, none⟩ :: others
        else do
          let name := freeClass owners node.name
          Traced.noteAll (classNotes owners component.name classPass.pass node.name)
          let rule ←
            Traced.ofExcept ((classPass.rule name parts.fixed).mapError Failure.unrenderable)
          let others ← assign classPass component nodes (withClass owners node.name)
            (origin :: styled) rest
          return ⟨origin, parts.bound, some ⟨name, node.name, parts.fixed, rule⟩⟩ :: others

/-- The style of each element of an assembly. -/
def assignments (classPass : ClassPass ρ) (assembly : Assembly) : Run (List (Assignment ρ)) :=
  assign classPass assembly.component assembly.nodes [] [] assembly.styledNodes

/-- The rules of some assignments, in order. -/
def classRules (assigned : List (Assignment ρ)) : List (ClassRule ρ) :=
  assigned.filterMap Assignment.classRule

/-- Write an assignment into its element: bound entries, then the class. -/
def Assignment.decorate (assignment : Assignment ρ) (reference : String → String)
    (element : Element) : Element :=
  let bound :=
    if assignment.bound.isEmpty then element
    else element.mergeStyle (asEntries (boundStyle assignment.bound))
  match assignment.classRule with
  | some classRule => attachClass bound (reference classRule.name)
  | none => bound

/-- Write assignments into the chunks. -/
def decorateAll (assigned : List (Assignment ρ)) (reference : String → String)
    (chunks : ChunkStore) : ChunkStore :=
  assigned.foldl
    (fun changed assignment => changed.changeAt assignment.origin (assignment.decorate reference))
    chunks

end Styling
end ComponentCompiler
