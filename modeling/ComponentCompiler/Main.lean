import ComponentCompiler.CommandLine.Run

namespace ComponentCompiler
namespace CommandLine

/-!
# The command

The outer layer of the command: it reads the environment and the files that the
arguments name, runs the command, and prints or writes what comes of it.  No
connection is at hand here, so an address cannot be fetched.
-/

/-- Read the environment variables of the settings. -/
def readEnvironment : IO (Entries String String) := do
  let found ← Settings.names.mapM fun name => do
    let variableName := Settings.variableName name
    return (← IO.getEnv variableName).map fun text => (variableName, text)
  return found.filterMap id

/-- Read a file. -/
def readContent (path : Path) : IO (Except FileFault ByteArray) := do
  match path.fault? with
  | some fault => return .error fault
  | none =>
    try
      return .ok (← IO.FS.readBinFile path.text)
    catch failure =>
      match failure with
      | .noFileOrDirectory .. => return .error (.missing path.text)
      | _ => return .error (.directory path.text)

/-- What the arguments of a run let the program reach. -/
def surroundingsOf (arguments : Arguments) : IO Surroundings := do
  let sources := arguments.description :: (given? arguments.mapping).toList
  let contents ← sources.mapM fun source => do
    let path := Path.ofText source
    return (path, ← readContent path)
  return {
    readFile := fun path =>
      (Entries.lookUp? contents path).getD (.error (.missing path.text))
    fetch := fun _ => .unreachable }

/-- Write output files below a directory. -/
def writeOutput (files : List OutputFile) (directory : Path) : IO Unit := do
  IO.FS.createDirAll directory.text
  for file in files do
    let place := file.place directory
    IO.FS.createDirAll place.parent.text
    IO.FS.writeFile place.text file.content

/-- Print the entries of the log that reach a rank. -/
def printLog (threshold : Nat) (entries : List Log.Entry) : IO Unit := do
  for line in Log.lines threshold entries do
    IO.println line

/-- Run the command with its arguments. -/
def execute (settings : Settings) (threshold : Nat) (arguments : Arguments) : IO UInt32 := do
  let done := run settings (← surroundingsOf arguments) arguments
  printLog threshold done.notes
  match done.outcome with
  | .error failure =>
    IO.eprintln failure.text
    return 1
  | .ok (.stopped status) => return status.toUInt32
  | .ok (.printed text) =>
    IO.print text
    return 0
  | .ok (.files files directory) =>
    writeOutput files directory
    printLog threshold (writtenEntries (outputPaths files directory))
    return 0

end CommandLine
end ComponentCompiler

open ComponentCompiler in
/-- Compile a component from the command line. -/
def main (texts : List String) : IO UInt32 := do
  match CommandLine.invocation texts with
  | .run arguments =>
    match (Settings.ofEnvironment (← CommandLine.readEnvironment)).toExcept with
    | .ok settings =>
      match Log.rankOfName settings.logLevel with
      | .ok threshold => CommandLine.execute settings threshold arguments
      | .error fault =>
        IO.eprintln fault.message
        return 1
    | .error issues =>
      for issue in issues do
        IO.eprintln issue.kind.message
      return 1
  | other => return other.status.toUInt32
