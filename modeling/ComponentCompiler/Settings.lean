import ComponentCompiler.Schema.Number
import ComponentCompiler.Text.Casing

namespace ComponentCompiler

open Number Schema

/-!
# Settings

Settings are read from environment variables that start with `uidl_` in any
spelling of their letters.  A setting that no variable gives has a value of its
own.  Numbers and truth values are read from the text of the variable.
-/

/-- The settings of the program. -/
structure Settings where
  appEnv : String := "dev"
  appName : String := "uidl-compiler"
  apiHost : String := "0.0.0.0"
  apiPort : Int := 8080
  logLevel : String := "INFO"
  defaultFlavor : String := "CSSModules"
  camelCaseClassNames : Bool := false
  styleImportName : String := "injectSheet"
  styleLibraryPath : String := "react-jss"
  styleLibraryVersion : String := "8.6.1"
  fetchTimeout : Binary64 := .ofDecimal false 30 0

namespace Settings

/-- The variables of the program, by their names in small letters. -/
def byName (environment : Entries String String) : Entries String String :=
  Entries.update [] (environment.map fun entry =>
    (String.ofList (Text.lower entry.1.toList), entry.2))

/-- A setting with its variable, or else its own value. -/
def setting {α : Type} (known : Entries String String) (name : String) (absent : α)
    (check : String → Checked α) : Checked α :=
  match Entries.lookUp? known ("uidl_" ++ name) with
  | some text => (check text).under (.key name)
  | none => .valid absent

/-- The names of all settings. -/
def names : List String :=
  ["app_env", "app_name", "api_host", "api_port", "log_level", "default_react_flavor",
   "camel_case_class_names", "jss_import_name", "jss_library_path", "jss_library_version",
   "mapping_fetch_timeout"]

/-- The usual spelling of the variable of a setting. -/
def variableName (name : String) : String :=
  String.ofList (Text.upper ("uidl_" ++ name).toList)

/-- Read the settings from environment variables. -/
def ofEnvironment (environment : Entries String String) : Checked Settings :=
  let known := byName environment
  let absent : Settings := {}
  mk
    <$> setting known "app_env" absent.appEnv .valid
    <*> setting known "app_name" absent.appName .valid
    <*> setting known "api_host" absent.apiHost .valid
    <*> setting known "api_port" absent.apiPort
      (fun text => checkIntText text (.text text))
    <*> setting known "log_level" absent.logLevel .valid
    <*> setting known "default_react_flavor" absent.defaultFlavor .valid
    <*> setting known "camel_case_class_names" absent.camelCaseClassNames
      (fun text => checkBool (.text text))
    <*> setting known "jss_import_name" absent.styleImportName .valid
    <*> setting known "jss_library_path" absent.styleLibraryPath .valid
    <*> setting known "jss_library_version" absent.styleLibraryVersion .valid
    <*> setting known "mapping_fetch_timeout" absent.fetchTimeout
      (fun text => checkNumberText text (.text text))

end Settings
end ComponentCompiler
