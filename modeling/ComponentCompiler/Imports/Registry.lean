import ComponentCompiler.Content.Dependency
import ComponentCompiler.Log

namespace ComponentCompiler

/-!
# The registry of imports

Each identifier has one dependency.  Registering it again replaces the
dependency and keeps the place of the first registration.
-/

/-- The imports that a component needs, by identifier. -/
abbrev Registry := Entries String Dependency

namespace Registry

/-- The entry in the log for an identifier that is registered again. -/
def overwriteEntry (identifier : String) : Log.Entry :=
  { level := .debug
    source := "uidl_compiler.generators.component_gen.dependencies"
    component := none
    pass := none
    message := "Overwriting dependency " ++ identifier }

/-- The entries in the log that a registration leaves. -/
def registerNotes (registry : Registry) (identifier : String) : List Log.Entry :=
  if Entries.has registry identifier then [overwriteEntry identifier] else []

/-- Register the dependency of an identifier. -/
def register (registry : Registry) (identifier : String) (dependency : Dependency) : Registry :=
  Entries.put registry identifier dependency

/-- The path and version of a dependency that belongs into a package manifest. -/
def packageOf? (dependency : Dependency) : Option (String × String) :=
  match given? dependency.importPath, given? dependency.importVersion with
  | some path, some version =>
    if dependency.kind = .localFile then none else some (path, version)
  | _, _ => none

/-- The versions of the packages that are imported, by path.  The last version
of a path counts. -/
def packages (registry : Registry) : Entries String String :=
  Entries.update [] (registry.filterMap fun entry => packageOf? entry.2)

end Registry
end ComponentCompiler
