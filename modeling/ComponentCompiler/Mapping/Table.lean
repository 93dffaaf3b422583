import ComponentCompiler.Content.Basic
import ComponentCompiler.Failure
import ComponentCompiler.Log
import ComponentCompiler.Traced

namespace ComponentCompiler

/-!
# Mapping tables

Tables are merged from left to right; a later table wins for each element type.
Resolving an element takes the entry of its type: the node's attributes go over
those of the entry, the node's dependency goes before that of the entry, and
default children count only when there are some.
-/

namespace MappingTable

/-- Merge tables from left to right.  An absent table adds nothing. -/
def merge (tables : List (Option MappingTable)) : MappingTable :=
  tables.foldl (fun merged table => Entries.update merged (table.getD [])) []

/-- The entry of an element type. -/
def entry? (table : MappingTable) (type : String) : Option ElementMapping :=
  Entries.lookUp? table (Key.text type)

end MappingTable

/-- What an element is made of. -/
structure ResolvedElement where
  tag : String
  attrs : Fields
  dependency : Option Dependency
  children : Option (List Child)
  repetition : Option Repetition

/-- A list that is there and not empty. -/
def someNonempty {α : Type} : Option (List α) → Option (List α)
  | some (item :: rest) => some (item :: rest)
  | _ => none

/-- The element that an entry and a node's own declarations make together. -/
def ElementMapping.resolve (entry : ElementMapping) (attrs : Option Fields)
    (dependency : Option Dependency) : ResolvedElement :=
  { tag := entry.type
    attrs := Entries.update (entry.attrs.getD []) (attrs.getD [])
    dependency := dependency.or entry.dependency
    children := someNonempty entry.children
    repetition := entry.repetition }

/-- The entry in the log for an element type without a mapping. -/
def unmappedEntry (type : String) (node : Option String) : Log.Entry :=
  { level := .error
    source := "uidl_compiler.generators.component_gen.resolver"
    component := none
    pass := none
    message := "Unresolvable element type " ++ type ++ " (node " ++ node.getD "None" ++ ")" }

/-- Resolve an element type for a node. -/
def MappingTable.resolve (table : MappingTable) (type : String) (attrs : Option Fields)
    (dependency : Option Dependency) (node : Option String) :
    Traced Log.Entry Failure ResolvedElement :=
  match table.entry? type with
  | some entry => pure (entry.resolve attrs dependency)
  | none => do
    Traced.note (unmappedEntry type node)
    Traced.fail (.unmapped type node)

end ComponentCompiler
