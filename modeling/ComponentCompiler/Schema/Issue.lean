import ComponentCompiler.Value.Display

namespace ComponentCompiler
namespace Schema

/-!
# Issues of a document

Checking a document against a model collects every issue.  An issue says what
is wrong, where, and which value was met there.  Issues are reported in the
order of their places: an index comes before a key, indexes in numeric order,
keys by code point, and a place before the places below it.
-/

/-- One step to a part of a document. -/
inductive Place where
  | index (position : Int)
  | key (name : String)
deriving DecidableEq, Repr

/-- What is wrong with a value. -/
inductive IssueKind where
  | missing
  | notText
  | undecodableText
  | notBool
  | unreadableBool
  | notInt
  | unreadableInt
  | hugeInt
  | notNumber
  | unreadableNumber
  | notMap
  | notList
  | notModel (model : String)
  | notLiteral (choices : List String)
  | notMember (choices : List String)
  | notObject
  | endless
deriving DecidableEq, Repr

/-- The choices of a value as a phrase: `'a', 'b' or 'c'`. -/
def choicePhrase : List String → String
  | [] => ""
  | [choice] => "'" ++ choice ++ "'"
  | [first, last] => "'" ++ first ++ "' or '" ++ last ++ "'"
  | first :: second :: rest => "'" ++ first ++ "', " ++ choicePhrase (second :: rest)

namespace IssueKind

/-- The code of an issue. -/
def code : IssueKind → String
  | .missing => "missing"
  | .notText => "string_type"
  | .undecodableText => "string_unicode"
  | .notBool => "bool_type"
  | .unreadableBool => "bool_parsing"
  | .notInt => "int_type"
  | .unreadableInt => "int_parsing"
  | .hugeInt => "int_parsing_size"
  | .notNumber => "float_type"
  | .unreadableNumber => "float_parsing"
  | .notMap => "dict_type"
  | .notList => "list_type"
  | .notModel _ => "model_type"
  | .notLiteral _ => "literal_error"
  | .notMember _ => "enum"
  | .notObject => "model_attributes_type"
  | .endless => "recursion_loop"

/-- The message of an issue. -/
def message : IssueKind → String
  | .missing => "Field required"
  | .notText => "Input should be a valid string"
  | .undecodableText =>
    "Input should be a valid string, unable to parse raw data as a unicode string"
  | .notBool => "Input should be a valid boolean"
  | .unreadableBool => "Input should be a valid boolean, unable to interpret input"
  | .notInt => "Input should be a valid integer"
  | .unreadableInt => "Input should be a valid integer, unable to parse string as an integer"
  | .hugeInt => "Unable to parse input string as an integer, exceeded maximum size"
  | .notNumber => "Input should be a valid number"
  | .unreadableNumber => "Input should be a valid number, unable to parse string as a number"
  | .notMap => "Input should be a valid dictionary"
  | .notList => "Input should be a valid list"
  | .notModel model => "Input should be a valid dictionary or instance of " ++ model
  | .notLiteral choices => "Input should be " ++ choicePhrase choices
  | .notMember choices => "Input should be " ++ choicePhrase choices
  | .notObject => "Input should be a valid dictionary or object to extract fields from"
  | .endless => "Recursion error - cyclic reference detected"

end IssueKind

/-- What is wrong, where, and the value met there. -/
structure Issue where
  kind : IssueKind
  path : List Place
  input : Value

/-- The same issue seen from one step further out. -/
def Issue.under (place : Place) (issue : Issue) : Issue :=
  { issue with path := place :: issue.path }

/-- The order of two places. -/
def Place.compare : Place → Place → Ordering
  | .index first, .index second => Ord.compare first second
  | .index _, .key _ => .lt
  | .key _, .index _ => .gt
  | .key first, .key second => Ord.compare first second

/-- The order of two paths: step by step, the shorter one first. -/
def comparePaths : List Place → List Place → Ordering
  | [], [] => .eq
  | [], _ :: _ => .lt
  | _ :: _, [] => .gt
  | first :: firstRest, second :: secondRest =>
    (first.compare second).then (comparePaths firstRest secondRest)

/-- Whether the first issue may be reported before the second. -/
def Issue.atMost (first second : Issue) : Bool :=
  match (comparePaths first.path second.path).then
    (Ord.compare first.kind.code second.kind.code) with
  | .gt => false
  | _ => true

/-- The issues in the order of the report. -/
def sortIssues (issues : List Issue) : List Issue :=
  issues.mergeSort Issue.atMost

end Schema
end ComponentCompiler
