import ComponentCompiler.Schema.Issue

namespace ComponentCompiler
namespace Schema

/-!
# Checked values

The result of a check is a value or the issues found.  Checks of several fields
are put together so that the issues of all of them are kept.  A check of a part
is handed the fact that the part is smaller than the whole; recursive models end
by it.
-/

/-- A value, or the issues that were found instead. -/
inductive Checked (α : Type) where
  | valid (value : α)
  | invalid (issues : List Issue)

namespace Checked

variable {α β : Type}

/-- Apply a checked function to a checked value and keep the issues of both. -/
def apply (function : Checked (α → β)) (argument : Checked α) : Checked β :=
  match function, argument with
  | .valid f, .valid value => .valid (f value)
  | .valid _, .invalid issues => .invalid issues
  | .invalid issues, .valid _ => .invalid issues
  | .invalid first, .invalid second => .invalid (first ++ second)

instance : Applicative Checked where
  pure := .valid
  seq function argument := apply function (argument ())

/-- The check seen from one step further out. -/
def under (place : Place) : Checked α → Checked α
  | .valid value => .valid value
  | .invalid issues => .invalid (issues.map (Issue.under place))

/-- Check all items and keep the issues of each. -/
def traverse (check : α → Checked β) : List α → Checked (List β)
  | [] => .valid []
  | item :: rest => List.cons <$> check item <*> traverse check rest

/-- The value, or the issues in the order of the report. -/
def toExcept : Checked α → Except (List Issue) α
  | .valid value => .ok value
  | .invalid issues => .error (sortIssues issues)

end Checked

/-- A single issue with a value. -/
def reject {α : Type} (kind : IssueKind) (input : Value) : Checked α :=
  .invalid [⟨kind, [], input⟩]

/-! ## Values without parts -/

/-- The text that bytes encode. -/
def textOfBytes? (bytes : List UInt8) : Option String :=
  String.fromUTF8? ⟨bytes.toArray⟩

/-- A text, which may be given by its bytes. -/
def checkText : Value → Checked String
  | .text content => .valid content
  | .bytes content =>
    match textOfBytes? content with
    | some text => .valid text
    | none => reject .undecodableText (.bytes content)
  | other => reject .notText other

/-- The truth value that a word stands for, in any spelling of its letters. -/
def boolOfWord? (word : String) : Option Bool :=
  let small := String.ofList (word.toList.map Char.toLower)
  if ["0", "off", "f", "false", "n", "no"].contains small then some false
  else if ["1", "on", "t", "true", "y", "yes"].contains small then some true
  else none

/-- The truth value that a whole number stands for. -/
def boolOfInt? (number : Int) : Option Bool :=
  if number = 0 then some false else if number = 1 then some true else none

/-- One more than the greatest number of 64 bits with a sign. -/
def wordLimit : Int := 9223372036854775808

/-- Whether a whole number fits into 64 bits with a sign. -/
def fitsWord (number : Int) : Bool :=
  -wordLimit ≤ number && number < wordLimit

/-- A truth value, or a number or word that stands for one.  Numbers that do not
fit into a word are not looked at. -/
def checkBool (value : Value) : Checked Bool :=
  let accept (read : Option Bool) : Checked Bool :=
    match read with
    | some truth => .valid truth
    | none => reject .unreadableBool value
  match value with
  | .bool truth => .valid truth
  | .int number => if fitsWord number then accept (boolOfInt? number) else reject .notBool value
  | .text word => accept (boolOfWord? word)
  | .bytes content => accept ((textOfBytes? content).bind boolOfWord?)
  | .real number =>
    match number.toInt? with
    | some whole =>
      if fitsWord whole && whole ≠ -wordLimit then accept (boolOfInt? whole)
      else reject .notBool value
    | none => reject .notBool value
  | other => reject .notBool other

/-- One of some words, read as what it stands for. -/
def checkChoice {α : Type} (kind : List String → IssueKind) (choices : List (String × α))
    (value : Value) : Checked α :=
  let refused : Checked α := reject (kind (choices.map Prod.fst)) value
  match value with
  | .text word =>
    match Entries.lookUp? choices word with
    | some choice => .valid choice
    | none => refused
  | _ => refused

/-! ## Parts of a value -/

/-- A part of a value is smaller than the value. -/
abbrev Part (whole : Value) := { part : Value // sizeOf part < sizeOf whole }

/-- The value under a key, as a part of the entries. -/
def findPart? (name : String) :
    (entries : List (Key × Value)) → Option { part : Value // sizeOf part < sizeOf entries }
  | [] => none
  | (key, value) :: rest =>
    if key = .text name then
      some ⟨value, by simp only [List.cons.sizeOf_spec, Prod.mk.sizeOf_spec]; omega⟩
    else
      match findPart? name rest with
      | some ⟨part, smaller⟩ =>
        some ⟨part, by simp only [List.cons.sizeOf_spec, Prod.mk.sizeOf_spec]; omega⟩
      | none => none

/-- What is smaller than the entries of a map is smaller than the map. -/
theorem sizeOf_lt_map {entries : List (Key × Value)} {size : Nat}
    (smaller : size < sizeOf entries) : size < sizeOf (Value.map entries) := by
  rw [Value.map.sizeOf_spec]
  omega

/-- What is smaller than the items of a list is smaller than the list. -/
theorem sizeOf_lt_list {items : List Value} {size : Nat}
    (smaller : size < sizeOf items) : size < sizeOf (Value.list items) := by
  rw [Value.list.sizeOf_spec]
  omega

/-- What is smaller than the items of a tuple is smaller than the tuple. -/
theorem sizeOf_lt_tuple {items : List Value} {size : Nat}
    (smaller : size < sizeOf items) : size < sizeOf (Value.tuple items) := by
  rw [Value.tuple.sizeOf_spec]
  omega

/-- What is smaller than the items of a set is smaller than the set. -/
theorem sizeOf_lt_set {items : List Value} {size : Nat}
    (smaller : size < sizeOf items) : size < sizeOf (Value.set items) := by
  rw [Value.set.sizeOf_spec]
  omega

/-- What is smaller than a value written out once more is smaller than where it
stands. -/
theorem sizeOf_lt_enclosing {distance : Nat} {again : Value} {size : Nat}
    (smaller : size < sizeOf again) : size < sizeOf (Value.enclosing distance (some again)) := by
  rw [Value.enclosing.sizeOf_spec, Option.some.sizeOf_spec]
  omega

/-- The value under a key of a map. -/
def part? (whole : Value) (name : String) : Option (Part whole) :=
  match whole with
  | .map entries =>
    match findPart? name entries with
    | some ⟨part, smaller⟩ => some ⟨part, sizeOf_lt_map smaller⟩
    | none => none
  | .enclosing _ (some (.map entries)) =>
    match findPart? name entries with
    | some ⟨part, smaller⟩ => some ⟨part, sizeOf_lt_enclosing (sizeOf_lt_map smaller)⟩
    | none => none
  | _ => none

/-- The first of some keys that is present, with its value. -/
def firstPart? (whole : Value) : List String → Option (String × Part whole)
  | [] => none
  | name :: others =>
    match part? whole name with
    | some part => some (name, part)
    | none => firstPart? whole others

variable {α : Type}

/-- A field that has to be there, under the first of its names that is present. -/
def required (whole : Value) (names : List String)
    (check : (part : Value) → sizeOf part < sizeOf whole → Checked α) : Checked α :=
  match firstPart? whole names with
  | some (name, ⟨part, smaller⟩) => (check part smaller).under (.key name)
  | none => .invalid [⟨.missing, [.key (names.headD "")], whole⟩]

/-- A field that may be absent or null. -/
def optional (whole : Value) (names : List String)
    (check : (part : Value) → sizeOf part < sizeOf whole → Checked α) : Checked (Option α) :=
  match firstPart? whole names with
  | some (name, ⟨part, smaller⟩) =>
    match part, smaller with
    | .null, _ => .valid none
    | part, smaller => (some <$> check part smaller).under (.key name)
  | none => .valid none

/-- A field with a value of its own when it is absent. -/
def defaulted (whole : Value) (names : List String) (absent : α) (check : Value → Checked α) :
    Checked α :=
  match firstPart? whole names with
  | some (name, part) => (check part.1).under (.key name)
  | none => .valid absent

/-- The items of a list, each under its index. -/
def checkItems (position : Nat) :
    (items : List Value) → ((item : Value) → sizeOf item < sizeOf items → Checked α) →
      Checked (List α)
  | [], _ => .valid []
  | item :: rest, check =>
    List.cons <$>
      (check item (by simp only [List.cons.sizeOf_spec]; omega)).under (.index position) <*>
      checkItems (position + 1) rest fun inner smaller =>
        check inner (by simp only [List.cons.sizeOf_spec]; omega)

/-- A list of checked items.  Tuples and sets count as lists. -/
def checkList (whole : Value)
    (check : (item : Value) → sizeOf item < sizeOf whole → Checked α) : Checked (List α) :=
  match whole, check with
  | .list items, check =>
    checkItems 0 items fun item smaller => check item (sizeOf_lt_list smaller)
  | .tuple items, check =>
    checkItems 0 items fun item smaller => check item (sizeOf_lt_tuple smaller)
  | .set items, check =>
    checkItems 0 items fun item smaller => check item (sizeOf_lt_set smaller)
  | .enclosing _ (some (.list items)), check =>
    checkItems 0 items fun item smaller => check item (sizeOf_lt_enclosing (sizeOf_lt_list smaller))
  | other, _ => reject .notList other

/-- The place of an entry with a given key.  A number that fits into a word is an
index. -/
def placeOfKey : Key → Place
  | .text name => .key name
  | .int number => if fitsWord number then .index number else .key (toString number)
  | .bool truth => .index (if truth then 1 else 0)
  | other => .key other.display

/-- A key that has to be text. -/
def checkKey (key : Key) : Checked String :=
  match key with
  | .text name => .valid name
  | other => ((checkText other.toValue).under (.key "[key]")).under (placeOfKey other)

/-- The entries of a map, each value under its key. -/
def checkEntries :
    (entries : List (Key × Value)) →
      ((value : Value) → sizeOf value < sizeOf entries → Checked α) →
      Checked (List (String × α))
  | [], _ => .valid []
  | (key, value) :: rest, check =>
    List.cons <$>
      (Prod.mk <$> checkKey key <*>
        (check value
          (by simp only [List.cons.sizeOf_spec, Prod.mk.sizeOf_spec]; omega)).under
            (placeOfKey key)) <*>
      checkEntries rest fun inner smaller =>
        check inner (by simp only [List.cons.sizeOf_spec, Prod.mk.sizeOf_spec]; omega)

/-- A map with text keys and checked values. -/
def checkMap (whole : Value)
    (check : (value : Value) → sizeOf value < sizeOf whole → Checked α) :
    Checked (List (String × α)) :=
  match whole, check with
  | .map entries, check =>
    checkEntries entries fun value smaller => check value (sizeOf_lt_map smaller)
  | .enclosing _ (some (.map entries)), check =>
    checkEntries entries fun value smaller => check value (sizeOf_lt_enclosing (sizeOf_lt_map smaller))
  | other, _ => reject .notMap other

/-- A map with text keys and any values. -/
def checkFields (whole : Value) : Checked Fields :=
  checkMap whole fun value _ => .valid value

/-- A model, which is read from a map. -/
def checkModel (model : String) (whole : Value) (fields : Unit → Checked α) : Checked α :=
  match whole with
  | .map _ | .enclosing _ (some (.map _)) => fields ()
  | other => reject (.notModel model) other

end Schema
end ComponentCompiler
