import ComponentCompiler.Value.SameKey
import ComponentCompiler.Yaml.Node.Grammar
import ComponentCompiler.Yaml.Node.Scalar
import ComponentCompiler.Yaml.Token.List

namespace ComponentCompiler
namespace Yaml

/-!
# The value of a document

A node is made into a value by its tag.  A map takes over the entries of the
maps under its merge key; its own entries go over them.  A key has to be a
scalar.  An alias stands for the node of its name; inside that node it stands
for the value that is being made.

Of several faults the one nearest to the root is told, and of those at one level
the first.
-/

/-- A value, and the faults that were met on the way, each with its level. -/
structure Built where
  value : Value
  faults : List (Nat × ReadFault)

/-- Where a node is made into a value: its level, the names of the collections
around it from the inside out, and the names that have been written out again. -/
structure Place where
  level : Nat
  around : List (Option String)
  again : List String

namespace Built

/-- A fault at a level. -/
def failed (level : Nat) (fault : ReadFault) : Built :=
  ⟨.null, [(level, fault)]⟩

/-- A value or a fault at a level. -/
def ofExcept (level : Nat) : Except ReadFault Value → Built
  | .ok value => ⟨value, []⟩
  | .error fault => failed level fault

/-- Values put together. -/
def combine (parts : List Built) (whole : List Value → Value) : Built :=
  ⟨whole (parts.map Built.value), parts.flatMap Built.faults⟩

/-- The fault that is told: the first of those at the lowest level. -/
def fault? (built : Built) : Option ReadFault :=
  let lowest := built.faults.foldl
    (fun (found : Option (Nat × ReadFault)) fault =>
      match found with
      | some known => if fault.1 < known.1 then some fault else found
      | none => some fault)
    none
  lowest.map Prod.snd

end Built

/-- The place of the parts of a collection. -/
def Place.within (place : Place) (anchor : Option String) : Place :=
  { place with level := place.level + 1, around := anchor :: place.around }

/-- The place of the parts of a pair, which is told together with the list it is
in. -/
def Place.withinPair (place : Place) : Place :=
  { place with around := none :: place.around }

/-- The value as a key of a map. -/
def keyOf? : Value → Option Key
  | .text content => some (.text content)
  | .null => some .null
  | .bool value => some (.bool value)
  | .int value => some (.int value)
  | .real value => some (.real value)
  | .date value => some (.date value)
  | .moment value => some (.moment value)
  | .bytes content => some (.bytes content)
  | _ => none

/-- The node that a node stands for: an alias stands for the node of its name. -/
def Node.target (names : Entries String Node) : Node → Node
  | .alias name => (Entries.lookUp? names name).getD .empty
  | node => node

/-- The text of a node with the tag of a scalar.  A map has the text of its value
as a whole. -/
def scalarText (names : Entries String Node) : Nat → Node → Except ReadFault String
  | 0, _ => .error .malformed
  | fuel + 1, node =>
    match node.target names with
    | .scalar _ _ content => .ok content
    | .mapping _ _ entries =>
      match entries.find? fun entry => (entry.1.target names).tag = .whole with
      | some entry => scalarText names fuel entry.2
      | none => .error .malformed
    | _ => .error .malformed

/-- The entries of maps that a merge key takes over, as the given function finds
those of a map: of several maps the last one comes first. -/
def mergedEntries (names : Entries String Node)
    (entriesOf : Node → Except ReadFault (List (Node × Node))) (node : Node) :
    Except ReadFault (List (Node × Node)) :=
  match node.target names with
  | .mapping anchor tag entries => entriesOf (.mapping anchor tag entries)
  | .sequence _ _ items => do
    let parts ← items.mapM fun item =>
      match item.target names with
      | .mapping anchor tag entries => entriesOf (.mapping anchor tag entries)
      | _ => .error .malformed
    return parts.reverse.flatten
  | _ => .error .malformed

/-- The entries of a map with those that it takes over in front.  The names are
those of the maps whose entries are being gathered; such a map is not gathered
again. -/
def flatEntries (names : Entries String Node) :
    Nat → List String → Node → Except ReadFault (List (Node × Node))
  | 0, _, _ => .error .malformed
  | fuel + 1, gathering, node =>
    match node with
    | .mapping anchor _ entries => do
      let own := entries.filter fun entry => (entry.1.target names).tag ≠ .merge
      if (anchor.map gathering.contains).getD false then return own
      let merges := entries.filter fun entry => (entry.1.target names).tag = .merge
      let merged ← merges.mapM fun entry =>
        mergedEntries names (flatEntries names fuel (anchor.toList ++ gathering)) entry.2
      return merged.flatten ++ own
    | _ => .error .malformed

/-- The value of a key: the key of a value as a whole is a text.  A collection is
no key, whatever is in it. -/
def buildKey (names : Entries String Node) (level : Nat) (build : Node → Built) (node : Node) :
    Built :=
  match node.target names with
  | .scalar anchor .whole content => build (.scalar anchor .text content)
  | found => if found.tag.isCollection then .failed level .malformed else build node

/-- The keys and values of entries, made into values. -/
def buildEntries (names : Entries String Node) (level : Nat) (build : Node → Built)
    (entries : List (Node × Node)) : List (Built × Built) :=
  entries.map fun entry => (buildKey names level build entry.1, build entry.2)

/-- A map of entries.  Of equal keys the first gives the key and the last the
value. -/
def mapOf (entries : List (Built × Built)) : Entries Key Value :=
  entries.foldl
    (fun written entry => putSame written ((keyOf? entry.1.value).getD .null) entry.2.value) []

/-- The faults of entries. -/
def faultsOf (entries : List (Built × Built)) : List (Nat × ReadFault) :=
  entries.flatMap fun entry => entry.1.faults ++ entry.2.faults

/-- The items of a set.  Whole numbers are in order. -/
def setItems (keys : List Key) : List Value :=
  let sorted := keys.mergeSort fun first second =>
    match first, second with
    | .int smaller, .int greater => smaller ≤ greater
    | _, _ => true
  sorted.map Key.toValue

/-- The value of a node. -/
def Node.build (names : Entries String Node) : Nat → Place → Node → Built
  | 0, place, _ => .failed place.level .malformed
  | fuel + 1, place, node =>
    match node with
    | .alias name =>
      let found := Node.target names (.alias name)
      match place.around.findIdx? fun anchor => anchor = some name with
      | none => Node.build names fuel place found
      | some distance =>
        if place.again.contains name then ⟨.enclosing distance none, []⟩
        else
          let outside :=
            { place with around := place.around.drop (distance + 1), again := name :: place.again }
          ⟨.enclosing distance (some (Node.build names fuel outside found).value), []⟩
    | node =>
      let inner := place.level + 1
      let buildPair (anchor : Option String) (item : Node) : Built :=
        match item.target names with
        | .mapping _ _ [(key, value)] =>
          let below := (place.within anchor).withinPair
          .combine [Node.build names fuel below key, Node.build names fuel below value] .tuple
        | _ => .failed inner .malformed
      match node.tag, node with
      | .list, .sequence anchor _ items =>
        .combine (items.map (Node.build names fuel (place.within anchor))) .list
      | .orderedMap, .sequence anchor _ items => .combine (items.map (buildPair anchor)) .list
      | .pairs, .sequence anchor _ items => .combine (items.map (buildPair anchor)) .list
      | .map, .mapping anchor tag entries =>
        match flatEntries names fuel [] (.mapping anchor tag entries) with
        | .error fault => .failed inner fault
        | .ok all =>
          let built := buildEntries names inner (Node.build names fuel (place.within anchor)) all
          ⟨.map (mapOf built), faultsOf built⟩
      | .set, .mapping anchor tag entries =>
        match flatEntries names fuel [] (.mapping anchor tag entries) with
        | .error fault => .failed inner fault
        | .ok all =>
          let built := buildEntries names inner (Node.build names fuel (place.within anchor)) all
          ⟨.set (setItems (Entries.keys (mapOf built))), faultsOf built⟩
      | .list, _ | .orderedMap, _ | .pairs, _ | .map, _ | .set, _ => .failed inner .malformed
      | .moment, .mapping .. =>
        match scalarText names fuel node with
        | .ok _ => .failed place.level .mapAsMoment
        | .error fault => .failed place.level fault
      | tag, node =>
        .ofExcept place.level (scalarText names fuel node >>= scalarValue tag)

/-- The value of a tree. -/
def Node.toValue (node : Node) (size : Nat) : Except ReadFault Value :=
  let names := node.named
  let built := Node.build names ((size + 2) * (names.length + 2)) ⟨0, [], []⟩ node
  match built.fault? with
  | some fault => .error fault
  | none => .ok built.value

/-- Read a document.  An empty one is null. -/
def read (text : String) : Except ReadFault Value := do
  let tokens ← readTokens text.toList
  match ← readTree tokens with
  | none => return .null
  | some node => node.toValue (2 * tokens.length + 4)

end Yaml
end ComponentCompiler
