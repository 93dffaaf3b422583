import ComponentCompiler.Markup.Basic
import ComponentCompiler.Script.Literal

namespace ComponentCompiler

open Script

/-!
# The text of markup

The first line of a part carries no indentation; every following line is
indented for the level at which the part stands.  Text that could be taken for
markup is written as a quoted expression, and so is an attribute with a double
quote in it.
-/

/-- Whether a text can be taken for markup. -/
def hasMarkupChar (text : String) : Bool :=
  text.toList.any fun character =>
    character = '\x7b' || character = '\x7d' || character = '<' || character = '>'

/-- A code in braces. -/
def braced (code : String) : String :=
  "\x7b" ++ code ++ "\x7d"

/-- A literal text. -/
def renderText (text : String) : String :=
  if hasMarkupChar text then braced (quote text) else text

/-- An attribute.  `true` needs no value, and a text without a double quote
stands in double quotes. -/
def renderAttribute (name : String) (value : Value) : Except RenderFault String :=
  match value with
  | .bool true => .ok name
  | .text content =>
    if content.toList.contains '"' then .ok (name ++ "=" ++ braced (quote content))
    else .ok (name ++ "=\"" ++ content ++ "\"")
  | other => do
    let code ← inlineLiteral other
    return name ++ "=" ++ braced code

/-- The attributes of an element, each with a blank in front. -/
def renderAttributes : List (String × Value) → Except RenderFault String
  | [] => .ok ""
  | (name, value) :: rest => do
    let text ← renderAttribute name value
    return " " ++ text ++ (← renderAttributes rest)

mutual

/-- The text of a part at a level of nesting. -/
def Markup.render (level : Int) : Markup → Except RenderFault String
  | .text content => .ok (renderText content)
  | .code expression => .ok (braced expression)
  | .guarded condition body => do
    let inner ← body.render (level + 1)
    return "\x7b" ++ condition ++ " && (\n" ++ Text.innerPadding level ++ inner ++ "\n" ++
      Text.padding level ++ ")\x7d"
  | .repeated source body item index => do
    let inner ← body.render (level + 1)
    return "\x7b" ++ source ++ ".map((" ++ item ++ ", " ++ index ++ ") => (\n" ++
      Text.innerPadding level ++ inner ++ "\n" ++ Text.padding level ++ "))\x7d"
  | .element element => element.render level

/-- The text of an element.  Without children it closes itself, and an empty
fragment has a form of its own. -/
def Element.render (level : Int) : Element → Except RenderFault String
  | ⟨_, tag, attributes, children⟩ => do
    let attributeText ← renderAttributes attributes
    let lines ← renderChildren level children
    if children.isEmpty then
      return if tag.isEmpty then "<></>" else "<" ++ tag ++ attributeText ++ " />"
    else
      return Text.joinWith "\n" (("<" ++ tag ++ attributeText ++ ">") ::
        (lines ++ [Text.padding level ++ "</" ++ tag ++ ">"]))

/-- The lines of the children of an element at a level. -/
def renderChildren (level : Int) : List Markup → Except RenderFault (List String)
  | [] => .ok []
  | part :: rest => do
    let text ← part.render (level + 1)
    return (Text.innerPadding level ++ text) :: (← renderChildren level rest)

end

/-- A component function: the hooks for its state and the markup it returns. -/
structure ComponentFunction where
  name : String
  root : Markup
  hooks : List String

/-- The text of a component function. -/
def ComponentFunction.render (component : ComponentFunction) : Except RenderFault String := do
  let root ← component.root.render 2
  let hooks := component.hooks.map fun hook => "  " ++ hook
  let body := hooks ++ (if hooks.isEmpty then [] else [""]) ++
    ["  return (", "    " ++ root, "  )"]
  return "const " ++ component.name ++ " = (props) => \x7b\n" ++ Text.joinWith "\n" body ++
    "\n\x7d\n"

end ComponentCompiler
