import ComponentCompiler.Value.Basic

namespace ComponentCompiler

/-!
# Dependencies

A dependency says how an identifier of the emitted module is imported: from a
library, a package or a local file, by default or by name.  The path and the
version may stand in the import details instead; an empty text counts as none.
-/

/-- Where an import comes from. -/
inductive DependencyKind where
  | library
  | package
  | localFile
deriving DecidableEq, Repr

/-- The word for a kind in documents. -/
def DependencyKind.word : DependencyKind → String
  | .library => "library"
  | .package => "package"
  | .localFile => "local"

/-- All kinds. -/
def DependencyKind.all : List DependencyKind := [.library, .package, .localFile]

/-- How a name is imported. -/
structure ImportDetails where
  named : Option Bool
  exported : Option String
  path : Option String
  version : Option String
deriving DecidableEq, Repr

/-- How an identifier is imported. -/
structure Dependency where
  kind : DependencyKind
  path : Option String
  version : Option String
  details : Option ImportDetails
deriving DecidableEq, Repr

/-- A text that is there and not empty. -/
def given? (text : Option String) : Option String :=
  text.filter fun content => !content.isEmpty

namespace Dependency

/-- A library import of a path. -/
def ofLibrary (path : String) : Dependency :=
  ⟨.library, some path, none, none⟩

/-- The path of the import: the dependency's own, or else that of its details. -/
def importPath (dependency : Dependency) : Option String :=
  match given? dependency.path with
  | some path => some path
  | none => dependency.details.bind (·.path)

/-- The version of the import: the dependency's own, or else that of its details. -/
def importVersion (dependency : Dependency) : Option String :=
  match given? dependency.version with
  | some version => some version
  | none => dependency.details.bind (·.version)

/-- Whether the import is by name. -/
def isNamed (dependency : Dependency) : Bool :=
  match dependency.details with
  | some details => details.named = some true
  | none => false

end Dependency
end ComponentCompiler
