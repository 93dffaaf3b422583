import ComponentCompiler.Value.Basic

namespace ComponentCompiler

/-!
# Markup

The component's output is a tree of elements, texts, expressions, guarded parts
and repeated parts.  Elements made from a content node remember which one, so
that a later pass can find the element of a node and change it in place.
Elements that only hold others together have no origin.
-/

/-- A step from a content node to one directly below it. -/
inductive Step where
  | child (index : Nat)
  | repetition
  | branch (index : Nat)
deriving DecidableEq, Repr

/-- Where an element comes from: the build that made it, and the place of its
content node below the root of that build, innermost step first. -/
structure Origin where
  build : Nat
  steps : List Step
deriving DecidableEq, Repr

/-- The place one step below. -/
def Origin.below (origin : Origin) (step : Step) : Origin :=
  { origin with steps := step :: origin.steps }

mutual

/-- A part of the output tree. -/
inductive Markup where
  /-- Literal text. -/
  | text (content : String)
  /-- The value of an expression. -/
  | code (expression : String)
  /-- A part that is shown when the condition holds. -/
  | guarded (condition : String) (body : Markup)
  /-- A part that is shown for each item of a source. -/
  | repeated (source : String) (body : Markup) (item : String) (index : String)
  /-- An element. -/
  | element (element : Element)

/-- An element with its attributes and children.  The empty tag is a fragment. -/
structure Element where
  origin : Option Origin
  tag : String
  attributes : List (String × Value)
  children : List Markup

end

instance : Inhabited Markup := ⟨.text ""⟩

namespace Element

/-- An element without attributes and children. -/
def ofTag (origin : Option Origin) (tag : String) : Element :=
  ⟨origin, tag, [], []⟩

/-- A fragment that holds parts together. -/
def fragment (children : List Markup) : Element :=
  ⟨none, "", [], children⟩

/-- Set an attribute; one of the same name is replaced in its place. -/
def setAttribute (element : Element) (name : String) (value : Value) : Element :=
  { element with attributes := Entries.put element.attributes name value }

/-- The value of an attribute. -/
def attribute? (element : Element) (name : String) : Option Value :=
  Entries.lookUp? element.attributes name

/-- Add a part behind the children. -/
def append (element : Element) (child : Markup) : Element :=
  { element with children := element.children ++ [child] }

/-- The inline style that an element already has, when it is a map. -/
def inlineStyle (element : Element) : List (Key × Value) :=
  ((element.attribute? "style").bind Value.mapEntries?).getD []

/-- Write entries into the inline style of an element.  An inline style that is
no map gives way. -/
def mergeStyle (element : Element) (styles : List (Key × Value)) : Element :=
  element.setAttribute "style" (.map (Entries.update element.inlineStyle styles))

end Element

mutual

/-- Change the elements with the given origin. -/
def Markup.changeAt (origin : Origin) (change : Element → Element) : Markup → Markup
  | .text content => .text content
  | .code expression => .code expression
  | .guarded condition body => .guarded condition (body.changeAt origin change)
  | .repeated source body item index => .repeated source (body.changeAt origin change) item index
  | .element element => .element (element.changeAt origin change)

/-- Change an element when it has the given origin, and the elements below it. -/
def Element.changeAt (origin : Origin) (change : Element → Element) : Element → Element
  | ⟨own, tag, attributes, children⟩ =>
    let inner : Element := ⟨own, tag, attributes, changeAllAt origin change children⟩
    if own = some origin then change inner else inner

/-- Change the elements with the given origin in a list of parts. -/
def changeAllAt (origin : Origin) (change : Element → Element) : List Markup → List Markup
  | [] => []
  | part :: rest => part.changeAt origin change :: changeAllAt origin change rest

end
end ComponentCompiler
