import ComponentCompiler.Build.Guard
import ComponentCompiler.Build.Handler
import ComponentCompiler.Content.Walk
import ComponentCompiler.Mapping.Table
import ComponentCompiler.Markup.Basic

namespace ComponentCompiler

open Script

/-!
# Building the markup of a component

Each node of the content becomes an element, except that a node with branches
becomes a guarded part for each branch.  Children and repeated content that a
node leaves out are taken from the mapping entry of its type; such default
content can again leave content out.

Building recurses on the content.  Default content is no part of the node that
takes it, so it is built by a builder of a smaller depth.  A default that is
built inside itself would be so without end: at most two kinds of defaults per
entry can be nested otherwise, which bounds the depth.

The builder leaves notes of what the rest of the pipeline has to know: the
imports it needs, the default content it took, and where the element of each
name is.
-/

/-- What the builder notes on its way. -/
inductive BuildNote where
  /-- An entry in the log. -/
  | log (entry : Log.Entry)
  /-- An identifier has to be imported. -/
  | register (identifier : String) (dependency : Dependency)
  /-- Default content was taken. -/
  | defaults (root : ContentNode)
  /-- The element of a name is finished. -/
  | built (name : String) (origin : Origin)

/-- A part of the building. -/
abbrev Builder (α : Type) := Traced BuildNote Failure α

/-- How default content is built below an element. -/
structure DefaultBuilder where
  children : Origin → List Child → Builder (List Markup)
  repetition : Origin → Repetition → Builder Markup

/-- What is the same for all nodes of a build. -/
structure Site where
  table : MappingTable
  scope : Scope
  defaults : DefaultBuilder

/-! ## One element -/

/-- The value of an attribute: a binding is code. -/
def attributeValue (value : Value) : Value :=
  match Binding.expression? value with
  | some expression => .code expression
  | none => value

/-- The markup of text below an element: a binding is code. -/
def Markup.ofText (content : String) : Markup :=
  match Binding.expression? (.text content) with
  | some expression => .code expression
  | none => .text content

/-- The element with its attributes. -/
def withAttributes (element : Element) (attrs : Fields) : Element :=
  attrs.foldl (fun changed attr => changed.setAttribute attr.1 (attributeValue attr.2)) element

/-- The element with the handlers of its events. -/
def withHandlers (element : Element) (events : List (String × List Statement)) : Element :=
  events.foldl
    (fun changed event =>
      match handler? event.2 with
      | some handler => changed.setAttribute event.1 (.code handler)
      | none => changed)
    element

/-- The note of what an element needs to be imported. -/
def importNotes (resolved : ResolvedElement) : List BuildNote :=
  (resolved.dependency.map (BuildNote.register resolved.tag)).toList

/-- The tag of repeated parts that need an element around them. -/
def repeatedTag : String := "React.Fragment"

/-- The element that is repeated: the single element with a tag, or else one
around the parts. -/
def repeatedElement : List Markup → Element
  | [.element element] =>
    if element.tag.isEmpty then ⟨none, repeatedTag, [], [.element element]⟩ else element
  | parts => ⟨none, repeatedTag, [], parts⟩

/-- The element of several parts: the single element, or else a fragment. -/
def gathered : List Markup → Element
  | [.element element] => element
  | parts => Element.fragment parts

/-- Go on unless one of the scalars cannot be written. -/
def requireWritable (scalars : List Scalar) : Builder Unit :=
  match Scalar.writeFault? scalars with
  | some fault => Traced.fail (.unrenderable fault)
  | none => pure ()

/-- Go over statements in their order.  One that is left out is warned of, and one
that shows a scalar which cannot be written is the last. -/
def passStatements (component : String) : List Statement → Builder Unit
  | [] => pure ()
  | statement :: rest => do
    Traced.noteAll ((handlerNotes component [statement]).map .log)
    requireWritable statement.shown
    passStatements component rest

/-- Resolve the type of a node. -/
def Site.resolve (site : Site) (type : String) (attrs : Option Fields)
    (dependency : Option Dependency) (name : String) : Builder ResolvedElement :=
  (site.table.resolve type attrs dependency (some name)).mapNotes .log

/-- The children of an element whose node left them out. -/
def Site.defaultChildren (site : Site) (origin : Origin) (resolved : ResolvedElement) :
    Builder (List Markup) :=
  match resolved.children with
  | none => pure []
  | some children => do
    Traced.noteAll ((children.filterMap Child.node?).map .defaults)
    site.defaults.children origin children

/-- The repeated content of an element whose node left it out. -/
def Site.defaultRepetition (site : Site) (origin : Origin) (resolved : ResolvedElement) :
    Builder (List Markup) :=
  match resolved.repetition with
  | none => pure []
  | some repetition => do
    Traced.note (.defaults repetition.content)
    return [← site.defaults.repetition origin repetition]

/-! ## The tree -/

mutual

/-- Build a node. -/
def buildNode (site : Site) (origin : Origin) : ContentNode → Builder (List Markup)
  | ⟨type, name, _, attrs, events, children, repetition, states, dependency⟩ => do
    let guarded ← buildStates site origin (site.scope.subject name) states
    if guarded.isEmpty then
      let resolved ← site.resolve type attrs dependency name
      passStatements site.scope.component ((events.getD []).flatMap Prod.snd)
      let started := withHandlers
        (withAttributes (Element.ofTag (some origin) resolved.tag) resolved.attrs)
        (events.getD [])
      Traced.noteAll (importNotes resolved)
      let inner ←
        match ← buildChildren site origin children with
        | some parts => pure parts
        | none => site.defaultChildren origin resolved
      let repeated ←
        match ← buildRepetition site origin repetition with
        | some part => pure [part]
        | none => site.defaultRepetition origin resolved
      Traced.note (.built name origin)
      return [.element { started with children := inner ++ repeated }]
    else
      return guarded

/-- Build the branches of a node, when it has some. -/
def buildStates (site : Site) (origin : Origin) (subject : String) :
    Option (List Branch) → Builder (List Markup)
  | none => pure []
  | some branches => buildBranches site origin subject 0 branches

/-- Build branches, from a position on. -/
def buildBranches (site : Site) (origin : Origin) (subject : String) (position : Nat) :
    List Branch → Builder (List Markup)
  | [] => pure []
  | branch :: rest => do
    let part ← buildBranch site (origin.below (.branch position)) subject branch
    return part :: (← buildBranches site origin subject (position + 1) rest)

/-- Build a branch. -/
def buildBranch (site : Site) (origin : Origin) (subject : String) : Branch → Builder Markup
  | ⟨test, content⟩ => do
    requireWritable test.shown
    let parts ← buildChild site origin content
    return .guarded (test.guard subject) (.element (gathered parts))

/-- Build the children of a node, when it has a list of them. -/
def buildChildren (site : Site) (origin : Origin) :
    Option (List Child) → Builder (Option (List Markup))
  | none => pure none
  | some children => do return some (← buildChildList site origin 0 children)

/-- Build children, from a position on. -/
def buildChildList (site : Site) (origin : Origin) (position : Nat) :
    List Child → Builder (List Markup)
  | [] => pure []
  | child :: rest => do
    let parts ← buildChild site (origin.below (.child position)) child
    return parts ++ (← buildChildList site origin (position + 1) rest)

/-- Build a child. -/
def buildChild (site : Site) (origin : Origin) : Child → Builder (List Markup)
  | .node node => buildNode site origin node
  | .text content => pure [Markup.ofText content]

/-- Build the repeated content of a node, when it has some. -/
def buildRepetition (site : Site) (origin : Origin) :
    Option Repetition → Builder (Option Markup)
  | none => pure none
  | some repetition => do return some (← buildRepeated site origin repetition)

/-- Build repeated content.  Each repeated element is told apart by its index. -/
def buildRepeated (site : Site) (origin : Origin) : Repetition → Builder Markup
  | ⟨content, source, _⟩ => do
    let parts ← buildNode site (origin.below .repetition) content
    let element := (repeatedElement parts).setAttribute "key" (.code "index")
    let expression ← Traced.ofExcept (source.toValue.expression.mapError Failure.unrenderable)
    return .repeated expression (.element element) "item" "index"

end

/-- The builder of default content that is nested up to a depth. -/
def defaultBuilder (table : MappingTable) (scope : Scope) : Nat → DefaultBuilder
  | 0 => ⟨fun _ _ => Traced.fail .endlessDefaults, fun _ _ => Traced.fail .endlessDefaults⟩
  | depth + 1 =>
    let site : Site := ⟨table, scope, defaultBuilder table scope depth⟩
    ⟨fun origin children => buildChildList site origin 0 children, buildRepeated site⟩

/-- The depth that default content can have without containing itself: an entry
has default children and default repeated content. -/
def MappingTable.defaultDepth (table : MappingTable) : Nat :=
  2 * table.length

/-- The site of a component. -/
def Component.site (component : Component) (table : MappingTable) : Site :=
  ⟨table, component.scope, defaultBuilder table component.scope table.defaultDepth⟩

/-- Build the content of a component. -/
def Component.build (component : Component) (table : MappingTable) (number : Nat) :
    Builder (List Markup) :=
  buildNode (component.site table) ⟨number, []⟩ component.content

/-- The lines that declare the states of a component. -/
def Component.hooks (component : Component) : Except RenderFault (List String) :=
  (component.states.getD []).mapM fun state => do
    let value ← blockLiteral 0 state.2.defaultValue
    return "const [" ++ state.1 ++ ", " ++ Naming.setterName state.1 ++
      "] = useState(" ++ value ++ ")"

end ComponentCompiler
