import ComponentCompiler.Pass.ComponentTree
import ComponentCompiler.Styling.Assignment
import ComponentCompiler.Stylesheet.Rule

namespace ComponentCompiler

open Script Styling

/-!
# Styling by scoped classes

The fixed entries of a styled element become one rule of a stylesheet, and the
element refers to its class through the imported object of classes.
-/

/-- The settings of the pass. -/
structure ScopedClasses extends ChunkNames where
  styleChunk : String := "css-modules"
  stylesObject : String := "styles"
  camelCase : Bool := false
deriving DecidableEq, Repr

namespace ScopedClasses

/-- The expression for a class of the object of classes. -/
def classReference (stylesObject : String) (camelCase : Bool) (className : String) : String :=
  if camelCase then stylesObject ++ "." ++ Naming.camelCase className
  else stylesObject ++ "['" ++ className ++ "']"

/-- How classes are given and their rules made. -/
def classPass : ClassPass String :=
  { source := "uidl_compiler.plugins.react_css_modules"
    pass := "react-css-modules"
    rule := fun name fixed => Stylesheet.rule ("." ++ name) (asEntries fixed) }

/-- The import of the stylesheet of a component. -/
def stylesheetDependency (component : Component) : Dependency :=
  ⟨.localFile, some ("./" ++ Naming.dashCase component.name ++ ".css"), none, none⟩

/-- The chunk of the stylesheet. -/
def stylesheetChunk (settings : ScopedClasses) (rules : List String) : Chunk :=
  ⟨settings.styleChunk, .stylesheet, .text (Text.joinWith "\n\n" rules ++ "\n"), [], []⟩

/-- Style the elements of an assembly that has a component. -/
def style (settings : ScopedClasses) (assembly : Assembly) : Run Assembly := do
  let assigned ← assignments classPass assembly
  let decorated := { assembly with
    chunks := decorateAll assigned
      (classReference settings.stylesObject settings.camelCase) assembly.chunks }
  match classRules assigned with
  | [] => return decorated
  | rules =>
    let registered ← decorated.register settings.stylesObject
      (stylesheetDependency assembly.component)
    let chunked := registered.addChunk
      (stylesheetChunk settings (rules.map ClassRule.rule))
    return { chunked with
      chunks := chunked.chunks.extendExport settings.exportChunk settings.styleChunk
        settings.importChunk none }

end ScopedClasses

/-- The pass that styles by scoped classes.  Without a component there is
nothing to style. -/
def Pass.scopedClasses (settings : ScopedClasses) : Pass :=
  { name := ScopedClasses.classPass.pass
    run := fun _ assembly =>
      if (assembly.chunks.chunk? settings.componentChunk).isNone then pure assembly
      else settings.style assembly }

end ComponentCompiler
