import ComponentCompiler.Content.Dependency
import ComponentCompiler.Naming
import ComponentCompiler.Script.Statement

namespace ComponentCompiler
namespace Imports

open Script

/-!
# Import lines

All imports of one module path stand together, in the order in which the paths
first appear.  The first line of a path has its first default name and all its
named ones; every further default name has a line of its own.
-/

/-- The module path of an identifier.  A local dependency without a path is
looked for in a file of the identifier's dashed name, any other in a module of
the identifier's name. -/
def modulePath (identifier : String) (dependency : Dependency) : String :=
  match given? dependency.importPath with
  | some path => path
  | none =>
    if dependency.kind = .localFile then "./" ++ Naming.dashCase identifier else identifier

/-- The paths in order, each at its first place. -/
def distinct : List String → List String
  | [] => []
  | path :: rest => path :: (distinct rest).filter (· ≠ path)

/-- The entries of a module path. -/
def entriesOf (path : String) (entries : List (String × Dependency)) :
    List (String × Dependency) :=
  entries.filter fun entry => modulePath entry.1 entry.2 = path

/-- The default names among the entries of a path. -/
def defaultNames (entries : List (String × Dependency)) : List String :=
  (entries.filter fun entry => !entry.2.isNamed).map Prod.fst

/-- The named imports among the entries of a path. -/
def namedImports (entries : List (String × Dependency)) : List NamedImport :=
  (entries.filter fun entry => entry.2.isNamed).map fun entry =>
    ⟨entry.1, entry.2.details.bind (·.exported)⟩

/-- The lines of one module path. -/
def linesOf (path : String) (entries : List (String × Dependency)) : List String :=
  let own := entriesOf path entries
  let defaults := defaultNames own
  importStatement path defaults.head? (namedImports own) ::
    defaults.tail.map fun name => importStatement path (some name) []

/-- The import lines of all entries. -/
def lines (entries : List (String × Dependency)) : List String :=
  (distinct (entries.map fun entry => modulePath entry.1 entry.2)).flatMap fun path =>
    linesOf path entries

end Imports
end ComponentCompiler
