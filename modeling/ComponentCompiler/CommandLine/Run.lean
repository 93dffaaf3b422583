import ComponentCompiler.CommandLine.Arguments
import ComponentCompiler.Files.Output
import ComponentCompiler.Generator.Registry
import ComponentCompiler.Mapping.Source

namespace ComponentCompiler
namespace CommandLine

/-!
# A run of the command

A run reads a description, compiles it and prints the result or writes it below
a directory.  Without a readable description it ends with status two, and when
the compiler reports a failure with status one; nothing is printed or written
then.
-/

/-- What a run comes to. -/
inductive Result where
  /-- It ends early with a status. -/
  | stopped (status : Nat)
  /-- It prints a text. -/
  | printed (text : String)
  /-- It writes files below a directory. -/
  | files (files : List OutputFile) (directory : Path)

/-- An entry of the command in the log. -/
def logEntry (level : Log.Level) (message : String) : Log.Entry :=
  ⟨level, "generate_component", none, none, message⟩

/-- Why a description cannot be read. -/
inductive DescriptionFault where
  | file (fault : FileFault)
  | malformed

/-- The entry in the log for a description that cannot be read. -/
def DescriptionFault.entry (path : Path) (fault : DescriptionFault) : Log.Entry :=
  let reason :=
    match fault with
    | .file fault => ": " ++ fault.message
    | .malformed => ""
  logEntry .error ("Cannot read UIDL " ++ path.text ++ reason)

/-- Read a description. -/
def readDescription (surroundings : Surroundings) (path : Path) :
    Except Failure (Except DescriptionFault Value) :=
  match surroundings.readFile path with
  | .error fault => if fault.isFound then .ok (.error (.file fault)) else .error (.file fault)
  | .ok content => do
    let text ← decodeText content
    match Json.read text with
    | .ok document => return .ok document
    | .error .malformed => return .error .malformed
    | .error fault => .error (.unreadable fault)

/-- Compile a description with the generator and the mapping that are asked for. -/
def compileDescription (settings : Settings) (surroundings : Surroundings)
    (arguments : Arguments) (document : Value) : Run CompiledComponent := do
  let generator ← Traced.ofExcept
    ((GeneratorRegistry.standard settings).find (Target.ofWord? arguments.target) arguments.target
      arguments.flavor)
  let overrides ←
    match given? arguments.mapping with
    | some source => some <$> MappingTable.load surroundings source
    | none => pure none
  let component ← Traced.ofExcept (Generator.readComponent document)
  generator.compile overrides component

/-- Run the command up to its result. -/
def run (settings : Settings) (surroundings : Surroundings) (arguments : Arguments) :
    Run Result := do
  let path := Path.ofText arguments.description
  match ← Traced.ofExcept (readDescription surroundings path) with
  | .error fault =>
    Traced.note (fault.entry path)
    return .stopped 2
  | .ok document =>
    let compiled := compileDescription settings surroundings arguments document
    Traced.noteAll compiled.notes
    match compiled.outcome with
    | .error failure =>
      if failure.isReported then
        Traced.note (logEntry .error ("Generation failed: " ++ failure.text))
        return .stopped 1
      else Traced.fail failure
    | .ok component =>
      match arguments.out with
      | some directory => return .files component.files (Path.ofText directory)
      | none => return .printed (concatenate component.files ++ "\n")

/-- The entries in the log for written files. -/
def writtenEntries (paths : List Path) : List Log.Entry :=
  paths.map fun path => logEntry .info ("Wrote " ++ path.text)

/-- How a run ends: its status, what it prints, and the files after it. -/
structure Ending where
  status : Nat
  printed : String
  tree : FileTree

/-- Bring a result about in a tree of files. -/
def conclude (tree : FileTree) : Result → Run Ending
  | .stopped status => pure ⟨status, "", tree⟩
  | .printed text => pure ⟨0, text, tree⟩
  | .files files directory => do
    let written ← Traced.ofExcept ((tree.writeOutput files directory).mapError Failure.file)
    Traced.noteAll (writtenEntries (outputPaths files directory))
    return ⟨0, "", written⟩

/-- Run the command in a tree of files. -/
def runIn (tree : FileTree) (fetch : String → Fetched) (settings : Settings)
    (arguments : Arguments) : Run Ending := do
  let result ← run settings ⟨tree.read, fetch⟩ arguments
  conclude tree result

end CommandLine
end ComponentCompiler
