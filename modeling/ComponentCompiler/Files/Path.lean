import ComponentCompiler.Text.Casing
import ComponentCompiler.Text.Join

namespace ComponentCompiler

/-!
# Paths

A path is a list of names below a root or below the current directory.  Empty
names and single dots are left out; double dots stay, because what they lead to
depends on the files.  Joining an absolute path replaces what it is joined to.
-/

/-- A path.  The root is empty for a path below the current directory. -/
structure Path where
  root : String
  parts : List String
deriving DecidableEq, Repr

namespace Path

/-- The root that a text starts with.  Exactly two slashes are a root of their
own. -/
def rootOf (characters : List Char) : String :=
  match (characters.takeWhile fun character => character = '/').length with
  | 0 => ""
  | 2 => "//"
  | _ => "/"

/-- The path that a text denotes. -/
def ofText (text : String) : Path :=
  { root := rootOf text.toList
    parts := ((Text.piecesAt '/' text.toList).map String.ofList).filter fun part =>
      part ≠ "" && part ≠ "." }

/-- The text of a path.  The current directory is a dot. -/
def text (path : Path) : String :=
  if path.root = "" && path.parts.isEmpty then "."
  else path.root ++ Text.joinWith "/" path.parts

/-- Whether a path starts at a root. -/
def isAbsolute (path : Path) : Bool :=
  path.root ≠ ""

/-- A path as seen from another one. -/
def join (base path : Path) : Path :=
  if path.isAbsolute then path else { base with parts := base.parts ++ path.parts }

/-- The path of the directory that holds what the path leads to. -/
def parent (path : Path) : Path :=
  { path with parts := path.parts.dropLast }

/-- The last name of a path. -/
def name (path : Path) : String :=
  path.parts.getLast?.getD ""

/-- What follows the last dot of the name.  A dot at either end of the name
makes no extension. -/
def extensionChars (path : Path) : List Char :=
  let characters := path.name.toList
  let behind := (characters.reverse.takeWhile fun character => character ≠ '.').reverse
  if behind.length + 1 < characters.length then behind else []

/-- The extension in small letters. -/
def extension (path : Path) : String :=
  String.ofList (Text.lower path.extensionChars)

end Path
end ComponentCompiler
