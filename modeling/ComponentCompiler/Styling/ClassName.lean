import ComponentCompiler.Entries
import ComponentCompiler.Log
import ComponentCompiler.Markup.Basic
import ComponentCompiler.Naming
import ComponentCompiler.Text.Search

namespace ComponentCompiler
namespace Styling

/-!
# Class names

Each styled element gets a class of its own, named after its node in dash case.
When the name is taken, the first free number from two on is put behind it.
The class joins the classes that the element already has.
-/

/-- The classes that are taken, each with the node that has it. -/
abbrev ClassOwners := Entries String String

/-- A class name with a number. -/
def numbered (base : String) (number : Nat) : String :=
  base ++ "-" ++ toString number

/-- The first free numbered name, among as many as the given count and the one
after them. -/
def firstFree (owners : ClassOwners) (base : String) : Nat → Nat → String
  | 0, number => numbered base number
  | count + 1, number =>
    if Entries.has owners (numbered base number) then firstFree owners base count (number + 1)
    else numbered base number

/-- The class for a node.  One of as many numbers as there are classes is free
when the base is taken. -/
def freeClass (owners : ClassOwners) (node : String) : String :=
  let base := Naming.dashCase node
  if Entries.has owners base then firstFree owners base owners.length 2 else base

/-- The entries in the log that giving a class to a node leaves. -/
def classNotes (owners : ClassOwners) (component pass node : String) : List Log.Entry :=
  let base := Naming.dashCase node
  match Entries.lookUp? owners base with
  | none => []
  | some owner =>
    [{ level := .warning
       source := "uidl_compiler.plugins.style_utils"
       component := some component
       pass := some pass
       message := "Class " ++ base ++ " of node " ++ node ++ " is taken by node " ++ owner ++
         ", using " ++ freeClass owners node }]

/-- The owners after a node got its class. -/
def withClass (owners : ClassOwners) (node : String) : ClassOwners :=
  Entries.put owners (freeClass owners node) node

/-! ## Attaching a class -/

/-- The characters of a text inside a template literal: what would end the
literal or open a substitution is escaped, and the escapes of the text itself
before that. -/
def templateChars (text : List Char) : List Char :=
  Text.replaceAll ['$', '\x7b'] ['\\', '$', '\x7b']
    (Text.replaceAll ['\x60'] ['\\', '\x60'] (Text.replaceAll ['\\'] ['\\', '\\'] text))

/-- The class of an element that has the given one and gets another. -/
def joinedClass (existing : Option Value) (added : String) : String :=
  match existing with
  | some (.text content) =>
    if content.isEmpty then added
    else "\x60" ++ String.ofList (templateChars content.toList) ++ " $\x7b" ++ added ++ "\x7d\x60"
  | some (.code expression) => "\x60$\x7b" ++ expression ++ "\x7d $\x7b" ++ added ++ "\x7d\x60"
  | _ => added

/-- Give an element another class. -/
def attachClass (element : Element) (added : String) : Element :=
  element.setAttribute "className" (.code (joinedClass (element.attribute? "className") added))

end Styling
end ComponentCompiler
