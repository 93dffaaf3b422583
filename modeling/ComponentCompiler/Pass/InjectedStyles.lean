import ComponentCompiler.Pass.ComponentTree
import ComponentCompiler.Styling.Assignment

namespace ComponentCompiler

open Script Styling

/-!
# Styling by injected styles

The fixed entries of the styled elements are collected in one style object,
keyed by class.  A library injects the object at run time and hands the classes
to the component.
-/

/-- How the library that injects styles is imported. -/
structure StyleLibrary where
  importName : String := "injectSheet"
  path : String := "react-jss"
  version : Option String := some "8.6.1"
deriving DecidableEq, Repr

/-- The settings of the pass. -/
structure InjectedStyles extends ChunkNames where
  styleChunk : String := "jss-style-definition"
  declarationName : String := "style"
  library : StyleLibrary := {}
deriving DecidableEq, Repr

namespace InjectedStyles

/-- How classes are given; the rule of a class is its entries as a map. -/
def classPass : ClassPass Value :=
  { source := "uidl_compiler.plugins.react_jss"
    pass := "react-jss"
    rule := fun _ fixed => .ok fixed.toValue }

/-- The expression for a class that the library hands over. -/
def classReference (className : String) : String :=
  member "props.classes" className

/-- The style object of some classes. -/
def styleObject (rules : List (ClassRule Value)) : Value :=
  .map (rules.map fun classRule => (.text classRule.name, classRule.rule))

/-- The chunk of the style object. -/
def styleObjectChunk (settings : InjectedStyles) (rules : List (ClassRule Value)) : Chunk :=
  ⟨settings.styleChunk, .script, .declaration ⟨settings.declarationName, styleObject rules⟩, [],
    [settings.importChunk]⟩

/-- The import of the library. -/
def libraryDependency (library : StyleLibrary) : Dependency :=
  ⟨.library, some library.path, library.version, none⟩

/-- Style the elements of an assembly that has a component. -/
def style (settings : InjectedStyles) (assembly : Assembly) : Run Assembly := do
  let assigned ← assignments classPass assembly
  let decorated := { assembly with
    chunks := decorateAll assigned classReference assembly.chunks }
  match classRules assigned with
  | [] => return decorated
  | rules =>
    let registered ← decorated.register settings.library.importName
      (libraryDependency settings.library)
    let chunked := registered.addChunk (styleObjectChunk settings rules)
    let wrapped := injectedExport (Naming.componentName assembly.component.name)
      settings.declarationName settings.library.importName
    return { chunked with
      chunks := chunked.chunks.extendExport settings.exportChunk settings.styleChunk
        settings.importChunk (some wrapped) }

end InjectedStyles

/-- The pass that styles by injected styles.  Without a component there is
nothing to style. -/
def Pass.injectedStyles (settings : InjectedStyles) : Pass :=
  { name := InjectedStyles.classPass.pass
    run := fun _ assembly =>
      if (assembly.chunks.chunk? settings.componentChunk).isNone then pure assembly
      else settings.style assembly }

end ComponentCompiler
