import ComponentCompiler.Build.Binding
import ComponentCompiler.Log
import ComponentCompiler.Naming

namespace ComponentCompiler

open Script

/-!
# Event handlers

A handler runs the statements of an event that can be written.  Those that
cannot are left out with a warning, and an event without any has no handler.
-/

namespace Statement

/-- The arguments of a call. -/
def arguments (statement : Statement) : String :=
  Text.joinWith ", " ((statement.args.getD []).map Scalar.expression)

/-- The call that changes a state. -/
def stateChange (state : String) (newState : Option Scalar) : String :=
  let value := if newState = some (.text "$toggle") then "!" ++ state
    else Scalar.optionalExpression newState
  Naming.setterName state ++ "(" ++ value ++ ")"

/-- The text of a statement, when its type is known and it says what it acts on. -/
def script? (statement : Statement) : Option String :=
  if statement.type = "stateChange" then
    (given? statement.modifies).map fun state => stateChange state statement.newState
  else if statement.type = "propCall" then
    (given? statement.calls).map fun path =>
      memberPath "props" path ++ "(" ++ statement.arguments ++ ")"
  else if statement.type = "logging" then some ("console.log(" ++ statement.arguments ++ ")")
  else none

/-- The scalars that the text of a statement shows. -/
def shown (statement : Statement) : List Scalar :=
  if statement.script?.isNone then []
  else if statement.type = "stateChange" then statement.newState.toList
  else statement.args.getD []

/-- The entry in the log for a statement that cannot be written. -/
def unsupportedEntry (component : String) (statement : Statement) : Log.Entry :=
  { level := .warning
    source := "uidl_compiler.plugins.react_base_component"
    component := some component
    pass := none
    message := "Unsupported event statement type " ++ statement.type }

end Statement

/-- The handler of some statements. -/
def handler? (statements : List Statement) : Option String :=
  match statements.filterMap Statement.script? with
  | [] => none
  | [only] => some ("() => " ++ only)
  | several => some ("() => \x7b " ++ Text.joinWith "; " several ++ " \x7d")

/-- The entries in the log that a handler leaves. -/
def handlerNotes (component : String) (statements : List Statement) : List Log.Entry :=
  (statements.filter fun statement => statement.script?.isNone).map
    (Statement.unsupportedEntry component)

end ComponentCompiler
