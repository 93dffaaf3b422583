import ComponentCompiler.Entries
import ComponentCompiler.Number.Binary64

namespace ComponentCompiler

open Number

/-!
# Values

A value is what a document holds and what the emitted source shows: data in
the order in which it was written, or a piece of script code that stands for a
value.  Documents in the stricter notation have text keys only, and no other
values than null, truth values, numbers, text, lists and maps.  The looser
notation also has days and moments, raw bytes, sets, pairs, keys that are no
text, and values that stand inside themselves; these are kept, because what is
done with them is decided later.
-/

/-- A day of the calendar. -/
structure Date where
  year : Nat
  month : Nat
  day : Nat
deriving DecidableEq, Repr

/-- A moment: a time on a day.  The offset is how many minutes the clock is
ahead of universal time, when that is told. -/
structure Moment where
  date : Date
  hour : Nat
  minute : Nat
  second : Nat
  microsecond : Nat
  offset : Option Int
deriving DecidableEq, Repr

/-- A key of a map. -/
inductive Key where
  | text (content : String)
  | null
  | bool (value : Bool)
  | int (value : Int)
  | real (value : Binary64)
  | date (value : Date)
  | moment (value : Moment)
  | bytes (content : List UInt8)
deriving DecidableEq, Repr

/-- A value of a document or of the emitted source. -/
inductive Value where
  | null
  | bool (value : Bool)
  | int (value : Int)
  | real (value : Binary64)
  | text (content : String)
  | date (value : Date)
  | moment (value : Moment)
  | bytes (content : List UInt8)
  | list (items : List Value)
  /-- Values that belong together, such as a pair. -/
  | tuple (items : List Value)
  | set (items : List Value)
  | map (entries : List (Key × Value))
  /-- The value that holds this one, so many steps further out.  It may be written
  out once more. -/
  | enclosing (distance : Nat) (again : Option Value)
  | code (expression : String)
deriving Repr

instance : Inhabited Value := ⟨.null⟩

/-- A map whose keys are all text: styles, attributes, definitions. -/
abbrev Fields := Entries String Value

/-- Fields as a value. -/
def Fields.toValue (fields : Fields) : Value :=
  .map (fields.map fun field => (Key.text field.1, field.2))

/-- A key as a value of its own. -/
def Key.toValue : Key → Value
  | .text content => .text content
  | .null => .null
  | .bool value => .bool value
  | .int value => .int value
  | .real value => .real value
  | .date value => .date value
  | .moment value => .moment value
  | .bytes content => .bytes content

namespace Value

/-- The word for the kind of a value in messages. -/
def kindName : Value → String
  | .null => "NoneType"
  | .bool _ => "bool"
  | .int _ => "int"
  | .real _ => "float"
  | .text _ => "str"
  | .date _ => "date"
  | .moment _ => "datetime"
  | .bytes _ => "bytes"
  | .list _ => "list"
  | .tuple _ => "tuple"
  | .set _ => "set"
  | .map _ => "dict"
  | .enclosing _ (some (.list _)) => "list"
  | .enclosing _ _ => "dict"
  | .code _ => "JSExpression"

/-- The value under a text key of a map. -/
def field? (value : Value) (key : String) : Option Value :=
  match value with
  | .map entries => Entries.lookUp? entries (.text key)
  | _ => none

/-- The text that the value is. -/
def text? : Value → Option String
  | .text content => some content
  | _ => none

/-- The items of a list. -/
def items? : Value → Option (List Value)
  | .list items => some items
  | _ => none

/-- The entries of a map. -/
def entries? : Value → Option (List (Key × Value))
  | .map entries => some entries
  | _ => none

/-- The entries of a map, also of one that stands inside itself. -/
def mapEntries? : Value → Option (List (Key × Value))
  | .map entries => some entries
  | .enclosing _ (some (.map entries)) => some entries
  | _ => none

/-- The entries of a map whose keys are all text. -/
def fields? : Value → Option Fields
  | .map entries =>
    entries.mapM fun entry =>
      match entry.1 with
      | .text key => some (key, entry.2)
      | _ => none
  | _ => none

end Value

namespace Key

/-- The word for the kind of a key in messages. -/
def kindName (key : Key) : String :=
  key.toValue.kindName

/-- The word for the kind of a key with the part of the library it comes from. -/
def fullKindName (key : Key) : String :=
  match key with
  | .date _ | .moment _ => "datetime." ++ key.kindName
  | _ => key.kindName

end Key
/-- Whether a value says nothing: it is absent, false, zero or empty. -/
def Value.isVoid : Value → Bool
  | .null => true
  | .bool value => !value
  | .int value => value = 0
  | .real value => value.isZero
  | .text content => content.isEmpty
  | .bytes content => content.isEmpty
  | .list items => items.isEmpty
  | .tuple items => items.isEmpty
  | .set items => items.isEmpty
  | .map entries => entries.isEmpty
  | .date _ | .moment _ | .enclosing .. | .code _ => false

end ComponentCompiler
