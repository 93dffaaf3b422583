import ComponentCompiler.Naming
import ComponentCompiler.Script.Literal

namespace ComponentCompiler
namespace Stylesheet

open Script

/-!
# Style rules

A style map becomes a rule with one declaration per entry.  An entry that is
itself a map becomes a rule of its own behind it, on the selector extended by
the entry's key.  Numbers other than zero are lengths in pixels, except for the
properties that have no unit.
-/

/-- Properties whose numbers have no unit. -/
def unitless : List String :=
  ["animationIterationCount", "flex", "flexGrow", "flexShrink", "fontWeight", "lineHeight",
   "opacity", "order", "orphans", "widows", "zIndex", "zoom"]

/-- Whether a number under a property is a length in pixels. -/
def isLength (property : String) : Value → Bool
  | .int value => value ≠ 0 && !unitless.contains property
  | .real value => !value.isZero && !unitless.contains property
  | _ => false

/-- The text of a value under a property. -/
def propertyValue (property : String) (value : Value) : String :=
  match value with
  | .bool true => "true"
  | .bool false => "false"
  | other => if isLength property other then other.display ++ "px" else other.display

/-- One declaration of a rule. -/
def declaration (property : String) (value : Value) : String :=
  "  " ++ Naming.dashCase property ++ ": " ++ propertyValue property value ++ ";"

/-- What a key adds to the selector: itself without one leading ampersand. -/
def selectorSuffix (key : String) : String :=
  match key.toList with
  | '&' :: rest => String.ofList rest
  | _ => key

/-- A rule and the rules of its nested maps.  A map without declarations has no
rule of its own. -/
def ruleText (selector : String) (declarations nested : List String) : String :=
  let own :=
    if declarations.isEmpty then []
    else [selector ++ " \x7b\n" ++ Text.joinWith "\n" declarations ++ "\n\x7d"]
  Text.joinWith "\n" (own ++ nested)

/-- What an entry contributes: a declaration, or the rules of a nested map. -/
inductive Contribution where
  | declared (text : String)
  | nested (text : String)

mutual

/-- The contribution of an entry on a selector. -/
def contribution (selector : String) (key : Key) : Value → Except RenderFault Contribution
  | .map entries =>
    match key with
    | .text name => do
      let inner := selector ++ selectorSuffix name
      let parts ← ruleParts inner entries
      return .nested (ruleText inner parts.1 parts.2)
    | other => .error (.ofSelector other)
  | .enclosing _ (some (.map _)) => .error .endless
  | value =>
    match key with
    | .text name =>
      if holdsTooLong value then .error .tooManyDigits
      else .ok (.declared (declaration name value))
    | other => .error (.ofKey other)

/-- The declarations of a map and the rules of its nested maps. -/
def ruleParts (selector : String) :
    List (Key × Value) → Except RenderFault (List String × List String)
  | [] => .ok ([], [])
  | (key, value) :: rest => do
    let first ← contribution selector key value
    let others ← ruleParts selector rest
    match first with
    | .declared text => return (text :: others.1, others.2)
    | .nested text => return (others.1, text :: others.2)

end

/-- The rules of a style map on a selector. -/
def rule (selector : String) (styles : List (Key × Value)) : Except RenderFault String := do
  let parts ← ruleParts selector styles
  return ruleText selector parts.1 parts.2

end Stylesheet
end ComponentCompiler
