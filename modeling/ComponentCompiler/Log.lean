import ComponentCompiler.Text.Casing
import ComponentCompiler.Value.Display

namespace ComponentCompiler
namespace Log

/-!
# The log

An entry names its level, the part of the program it comes from, the component
and the pass at work, and a message.  A dash stands for a component or pass
that is not known.
-/

/-- The weight of an entry. -/
inductive Level where
  | debug
  | info
  | warning
  | error
deriving DecidableEq, Repr

/-- The word for a level. -/
def Level.word : Level → String
  | .debug => "DEBUG"
  | .info => "INFO"
  | .warning => "WARNING"
  | .error => "ERROR"

/-- The rank of a level. -/
def Level.rank : Level → Nat
  | .debug => 10
  | .info => 20
  | .warning => 30
  | .error => 40

/-- An entry of the log. -/
structure Entry where
  level : Level
  source : String
  component : Option String
  pass : Option String
  message : String
deriving DecidableEq, Repr

/-- A line of the log with its context. -/
def contextLine (level source component pass message : Value) : String :=
  level.display ++ " " ++ source.display ++ " [component=" ++ component.display ++ " plugin=" ++
    pass.display ++ "] - " ++ message.display

/-- What stands for a component or a pass that may not be known. -/
def contextValue (name : Option String) : Value :=
  .text (name.getD "-")

/-- The line of an entry. -/
def Entry.line (entry : Entry) : String :=
  contextLine (.text entry.level.word) (.text entry.source) (contextValue entry.component)
    (contextValue entry.pass) (.text entry.message)

/-- What goes wrong with the log itself. -/
inductive Fault where
  /-- The name of a level stands for the layout of lines. -/
  | layout
  /-- The name of a level stands for all layouts of lines. -/
  | layouts
  /-- What should follow a line is no text. -/
  | notText (kind : String)
deriving DecidableEq, Repr

/-- The message of a fault. -/
def Fault.message : Fault → String
  | .layout => "Unknown level: '%(levelname)s:%(name)s:%(message)s'"
  | .layouts =>
    "Level not an integer or a valid string: \x7b'%': (<class 'logging.PercentStyle'>, " ++
      "'%(levelname)s:%(name)s:%(message)s'), '\x7b': (<class 'logging.StrFormatStyle'>, " ++
      "'\x7blevelname\x7d:\x7bname\x7d:\x7bmessage\x7d'), " ++
      "'$': (<class 'logging.StringTemplateStyle'>, " ++
      "'$\x7blevelname\x7d:$\x7bname\x7d:$\x7bmessage\x7d')\x7d"
  | .notText kind => "can only concatenate str (not \"" ++ kind ++ "\") to str"

/-- A line with something below it.  What says nothing is left out. -/
def withBelow (line : String) (below : Value) : Except Fault String :=
  if below.isVoid then .ok line
  else
    match below with
    | .text content =>
      .ok (line ++ (if line.toList.getLast? = some '\n' then "" else "\n") ++ content)
    | other => .error (.notText other.kindName)

/-- A record of the log in which any field may be any value.  Below its line
stand the trace of a fault and the calls that led there. -/
structure Record where
  level : Value
  source : Value
  component : Value
  pass : Value
  message : Value
  trace : Value
  calls : Value

/-- The text of a record. -/
def Record.text (record : Record) : Except Fault String := do
  let line :=
    contextLine record.level record.source record.component record.pass record.message
  withBelow (← withBelow line record.trace) record.calls

/-- The ranks that level names stand for. -/
def namedRanks : List (String × Nat) :=
  [("DEBUG", 10), ("INFO", 20), ("WARNING", 30), ("WARN", 30), ("ERROR", 40), ("CRITICAL", 50),
   ("FATAL", 50), ("NOTSET", 0)]

/-- The word for a level name.  Where two names have one rank, the first one known
is the word. -/
def wordOfName (name : String) : String :=
  match Entries.lookUp? namedRanks name with
  | some rank => ((namedRanks.find? fun entry => entry.2 = rank).map Prod.fst).getD name
  | none => name

/-- The rank of a level name in any spelling of its letters.  A name that is not
known has the rank of information; two names stand for layouts and have none. -/
def rankOfName (name : String) : Except Fault Nat :=
  match String.ofList (Text.upper name.toList) with
  | "BASIC_FORMAT" => .error .layout
  | "_STYLES" => .error .layouts
  | known => .ok ((Entries.lookUp? namedRanks known).getD 20)

/-- The lines of the entries that reach a rank. -/
def lines (threshold : Nat) (entries : List Entry) : List String :=
  (entries.filter fun entry => threshold ≤ entry.level.rank).map Entry.line

end Log
end ComponentCompiler
