import ComponentCompiler.Generator.Basic
import ComponentCompiler.Mapping.Builtin
import ComponentCompiler.Pass.ImportBlock
import ComponentCompiler.Pass.InjectedStyles
import ComponentCompiler.Pass.InlineStyles
import ComponentCompiler.Pass.ScopedClasses

namespace ComponentCompiler

/-!
# Style flavors

There is one generator for each way to style a component.  They differ in the
pass between the component pass and the import pass.
-/

/-- A way to style a component. -/
inductive Flavor where
  | scopedClasses
  | inlineStyles
  | injectedStyles
deriving DecidableEq, Repr

namespace Flavor

/-- The word for a flavor. -/
def word : Flavor → String
  | .scopedClasses => "CSSModules"
  | .inlineStyles => "InlineStyles"
  | .injectedStyles => "JSS"

/-- All flavors. -/
def all : List Flavor := [.scopedClasses, .inlineStyles, .injectedStyles]

/-- The flavor that a value names. -/
def ofValue (value : Value) : Except Failure Flavor :=
  match value.text?.bind fun word => all.find? fun flavor => flavor.word = word with
  | some flavor => .ok flavor
  | none => .error (.notChoice value "ReactStyleVariation")

end Flavor

/-- The choices of the style passes. -/
structure StyleSettings where
  classes : ScopedClasses := {}
  library : StyleLibrary := {}

/-- The style pass of a flavor. -/
def Flavor.pass (settings : StyleSettings) : Flavor → Pass
  | .scopedClasses => Pass.scopedClasses settings.classes
  | .inlineStyles => Pass.inlineStyles
  | .injectedStyles => Pass.injectedStyles { library := settings.library }

/-- The generator of a flavor.  A given table goes over the built-in ones. -/
def Generator.ofFlavor (flavor : Flavor) (table : Option MappingTable)
    (settings : StyleSettings) : Generator :=
  { passes := [Pass.componentTree {}, flavor.pass settings, Pass.importBlock "import"]
    table := MappingTable.merge [some MappingTable.markup, some MappingTable.react, table] }

end ComponentCompiler
