import ComponentCompiler.Script.Literal

namespace ComponentCompiler
namespace Script

/-!
# Statements of the emitted module

The module holds declarations of constants, imports and one default export.
-/

/-- A constant with its value. -/
structure Declaration where
  name : String
  value : Value

/-- The text of a declaration, a line or a block. -/
def Declaration.render (declaration : Declaration) : Except RenderFault String := do
  let value ← literal 0 false declaration.value
  return "const " ++ declaration.name ++ " = " ++ value ++ "\n"

/-- A name imported from a module, under its own name or another one. -/
structure NamedImport where
  localName : String
  exported : Option String
deriving DecidableEq, Repr

/-- The specifier of a named import.  The exported name is written only when it
differs from the local one. -/
def NamedImport.render (named : NamedImport) : String :=
  match named.exported with
  | some exported =>
    if exported.isEmpty || exported = named.localName then named.localName
    else exported ++ " as " ++ named.localName
  | none => named.localName

/-- The specifiers of an import: the default name, then the named ones in one
pair of braces. -/
def importSpecifiers (defaultName : Option String) (named : List NamedImport) : List String :=
  (match defaultName with
    | some name => if name.isEmpty then [] else [name]
    | none => []) ++
  (if named.isEmpty then []
    else ["\x7b " ++ Text.joinWith ", " (named.map NamedImport.render) ++ " \x7d"])

/-- One import line of a module path.  Without specifiers the module is only
loaded. -/
def importStatement (path : String) (defaultName : Option String) (named : List NamedImport) :
    String :=
  match importSpecifiers defaultName named with
  | [] => "import " ++ quote path
  | specifiers => "import " ++ Text.joinWith ", " specifiers ++ " from " ++ quote path

/-- The default export of a name. -/
def defaultExport (name : String) : String :=
  "export default " ++ name ++ "\n"

/-- The default export of a component wrapped by the style library. -/
def injectedExport (component style injector : String) : String :=
  "export default " ++ injector ++ "(" ++ style ++ ")(" ++ component ++ ")\n"

end Script
end ComponentCompiler
