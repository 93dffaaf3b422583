import ComponentCompiler.Generator.Flavor
import ComponentCompiler.Settings

namespace ComponentCompiler

/-!
# The registry of generators

Generators are registered for targets.  A target has a single generator, which
serves every flavor, or one for each of its flavors and a flavor to fall back
on.
-/

/-- What components are compiled for. -/
inductive Target where
  | react
  | vue
  | preact
  | stencil
  | angular
deriving DecidableEq, Repr

namespace Target

/-- The word for a target. -/
def word : Target → String
  | .react => "React"
  | .vue => "Vue"
  | .preact => "Preact"
  | .stencil => "Stencil"
  | .angular => "Angular"

/-- All targets. -/
def all : List Target := [.react, .vue, .preact, .stencil, .angular]

/-- The target of a word. -/
def ofWord? (word : String) : Option Target :=
  all.find? fun target => target.word = word

/-- The target that a value names. -/
def ofValue? : Value → Option Target
  | .text word => ofWord? word
  | _ => none

end Target

/-- The generators of a target. -/
inductive GeneratorChoice where
  | single (generator : Generator)
  | flavors (generators : Entries String Generator) (fallback : String)

/-- The names of the flavors to choose from. -/
def GeneratorChoice.flavorNames : GeneratorChoice → List String
  | .single _ => []
  | .flavors generators _ => Entries.keys generators

/-- The generators of all targets. -/
abbrev GeneratorRegistry := Entries Target GeneratorChoice

namespace GeneratorRegistry

/-- Register the generators of the target that a value names. -/
def register (registry : GeneratorRegistry) (value : Value) (choice : GeneratorChoice) :
    Except Failure GeneratorRegistry :=
  match Target.ofValue? value with
  | some target => .ok (Entries.put registry target choice)
  | none => .error (.notChoice value "ComponentTarget")

/-- The generator of a target and a flavor.  The label is how messages name the
target; an empty flavor counts as none. -/
def find (registry : GeneratorRegistry) (target : Option Target) (label : String)
    (flavor : Option String) : Except Failure Generator :=
  match target.bind fun known => Entries.lookUp? registry known with
  | none => .error (.unknownTarget label)
  | some (.single generator) => .ok generator
  | some (.flavors generators fallback) =>
    let name := (given? flavor).getD fallback
    match Entries.lookUp? generators name with
    | some generator => .ok generator
    | none => .error (.unknownFlavor name label (Entries.keys generators))

/-- The targets with their flavors. -/
def targets (registry : GeneratorRegistry) : Entries String (List String) :=
  registry.map fun entry => (entry.1.word, entry.2.flavorNames)

end GeneratorRegistry

/-- The choices of the style passes that the settings make. -/
def Settings.styleSettings (settings : Settings) : StyleSettings :=
  { classes := { camelCase := settings.camelCaseClassNames }
    library :=
      { importName := settings.styleImportName
        path := settings.styleLibraryPath
        version := some settings.styleLibraryVersion } }

/-- The generators that come with the program. -/
def GeneratorRegistry.standard (settings : Settings) : GeneratorRegistry :=
  let generators := Flavor.all.map fun flavor =>
    (flavor.word, Generator.ofFlavor flavor none settings.styleSettings)
  [(.react, .flavors generators settings.defaultFlavor)]

end ComponentCompiler
