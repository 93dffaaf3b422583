import ComponentCompiler.Entries
import ComponentCompiler.Failure
import ComponentCompiler.Files.Path

namespace ComponentCompiler

/-!
# A tree of files

The files below the current directory, by the names that lead to them.  Reading
and writing fail the way they do on a file system: a name may be missing, be a
directory, be a file where a directory is needed, or be longer than names can be.
-/

/-- The most bytes that a name can have. -/
def longestName : Nat := 255

/-- The most bytes that a path can have. -/
def longestPath : Nat := 4095

/-- What is wrong with a path whatever files there are. -/
def Path.fault? (path : Path) : Option FileFault :=
  if path.text.toList.contains (Char.ofNat 0) then some .zeroCharacter
  else if longestPath < path.text.utf8ByteSize then some (.nameTooLong path.text)
  else none

/-- What a name leads to. -/
inductive FileEntry where
  | directory
  | file (content : ByteArray)

/-- The files and directories below the current directory. -/
abbrev FileTree := Entries (List String) FileEntry

namespace FileTree

/-- What is at a place.  The current directory is always there. -/
def entry? (tree : FileTree) (place : List String) : Option FileEntry :=
  if place.isEmpty then some .directory else Entries.lookUp? tree place

/-- Where a path leads, as names from the current directory on.  All but the
last name have to be directories. -/
def locate (tree : FileTree) (shown : String) :
    List String → List String → Except FileFault (List String)
  | place, [] => .ok place
  | place, part :: rest =>
    match tree.entry? place with
    | some .directory =>
      if longestName < part.utf8ByteSize then .error (.nameTooLong shown)
      else if part = ".." then tree.locate shown place.dropLast rest
      else tree.locate shown (place ++ [part]) rest
    | some (.file _) => .error (.notDirectory shown)
    | none => .error (.missing shown)

/-- Where a path leads.  Below an absolute root nothing is known but the root
itself. -/
def placeOf (tree : FileTree) (path : Path) : Except FileFault (List String) :=
  match path.fault? with
  | some fault => .error fault
  | none =>
    if path.isAbsolute then
      match path.parts with
      | [] => .ok []
      | part :: _ =>
        if longestName < part.utf8ByteSize then .error (.nameTooLong path.text)
        else .error (.missing path.text)
    else tree.locate path.text [] path.parts

/-- The content of a file. -/
def read (tree : FileTree) (path : Path) : Except FileFault ByteArray := do
  match tree.entry? (← tree.placeOf path) with
  | some (.file content) => return content
  | some .directory => .error (.directory path.text)
  | none => .error (.missing path.text)

/-- Whether a path leads to a directory. -/
def isDirectory (tree : FileTree) (path : Path) : Bool :=
  match tree.placeOf path with
  | .ok place =>
    match tree.entry? place with
    | some .directory => true
    | _ => false
  | .error _ => false

/-- Make a single directory. -/
def makeOne (tree : FileTree) (path : Path) : Except FileFault FileTree := do
  let place ← tree.placeOf path
  match tree.entry? place with
  | some _ => .error (.exists path.text)
  | none => return Entries.put tree place .directory

/-- Make a directory that may be there already, with as many directories above
it as are missing. -/
def makeDirectory (tree : FileTree) (root : String) : List String → Except FileFault FileTree
  | [] => .ok tree
  | parts =>
    let path : Path := ⟨root, parts⟩
    match tree.makeOne path with
    | .ok made => .ok made
    | .error (.missing fault) =>
      if _shorter : parts.dropLast.length < parts.length then do
        let above ← tree.makeDirectory root parts.dropLast
        if above.isDirectory path then return above else above.makeOne path
      else .error (.missing fault)
    | .error fault => if tree.isDirectory path then .ok tree else .error fault
termination_by parts => parts.length

/-- Write a file. -/
def write (tree : FileTree) (path : Path) (content : ByteArray) : Except FileFault FileTree := do
  let place ← tree.placeOf path
  match tree.entry? place with
  | some .directory => .error (.directory path.text)
  | _ => return Entries.put tree place (.file content)

/-- A tree with one more file, whose directories are made. -/
def withFile (tree : FileTree) (path : Path) (content : ByteArray) : Except FileFault FileTree := do
  let made ← tree.makeDirectory path.root path.parent.parts
  made.write path content

/-- The files of a tree. -/
def files (tree : FileTree) : List (List String × ByteArray) :=
  tree.filterMap fun entry =>
    match entry.2 with
    | .file content => some (entry.1, content)
    | .directory => none

end FileTree

/-- Every kind of line end as a line feed. -/
def unifyBreaks : List Char → List Char
  | [] => []
  | '\r' :: '\n' :: rest => '\n' :: unifyBreaks rest
  | '\r' :: rest => '\n' :: unifyBreaks rest
  | character :: rest => character :: unifyBreaks rest

/-- The text of a file. -/
def decodeText (content : ByteArray) : Except Failure String :=
  match String.fromUTF8? content with
  | some text => .ok (String.ofList (unifyBreaks text.toList))
  | none => .error .undecodable

end ComponentCompiler
