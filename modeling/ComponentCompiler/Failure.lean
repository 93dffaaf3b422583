import ComponentCompiler.Address.Basic
import ComponentCompiler.Log
import ComponentCompiler.Schema.Issue
import ComponentCompiler.Script.Literal
import ComponentCompiler.Text.Encoding

namespace ComponentCompiler

open Script Schema

/-!
# Failures

A failure is a cause; its wording is derived from it.  Some causes carry details,
which are told behind the message in brackets.
-/

/-- What went wrong with a file. -/
inductive FileFault where
  | missing (path : String)
  | directory (path : String)
  | notDirectory (path : String)
  | exists (path : String)
  | nameTooLong (path : String)
  | zeroCharacter
deriving DecidableEq, Repr

/-- The message about a file. -/
def FileFault.message : FileFault → String
  | .missing path => "[Errno 2] No such file or directory: " ++ displayQuoted path
  | .directory path => "[Errno 21] Is a directory: " ++ displayQuoted path
  | .notDirectory path => "[Errno 20] Not a directory: " ++ displayQuoted path
  | .exists path => "[Errno 17] File exists: " ++ displayQuoted path
  | .nameTooLong path => "[Errno 36] File name too long: " ++ displayQuoted path
  | .zeroCharacter => "embedded null byte"

/-- Whether the file system finds the fault.  A path with a zero character never
gets there. -/
def FileFault.isFound : FileFault → Bool
  | .zeroCharacter => false
  | _ => true

/-- A message with details. -/
structure Report where
  message : String
  details : List (String × Value)

/-- The text of a report.  Details are told only when there are some. -/
def Report.text (report : Report) : String :=
  if report.details.isEmpty then report.message
  else
    report.message ++ " (" ++
      Text.joinWith ", " (report.details.map fun detail => detail.1 ++ "=" ++ detail.2.display) ++
      ")"

/-- Why a run ends without a result. -/
inductive Failure where
  /-- An element type has no entry in the mapping table. -/
  | unmapped (type : String) (node : Option String)
  /-- No generator is registered for a target. -/
  | unknownTarget (target : String)
  /-- A target has no generator for a flavor. -/
  | unknownFlavor (flavor target : String) (available : List String)
  /-- A mapping file cannot be read. -/
  | unreadableMapping (source : String) (fault : FileFault)
  /-- A mapping cannot be fetched. -/
  | unfetchedMapping (source : String)
  /-- A mapping is no document. -/
  | malformedMapping (source : String)
  /-- A mapping document is no object. -/
  | shapelessMapping (source : String)
  /-- An entry of a mapping has issues. -/
  | invalidMapping (source : String) (issues : List Issue)
  /-- A document has issues. -/
  | invalid (issues : List Issue)
  /-- A value has no text in the emitted source. -/
  | unrenderable (fault : RenderFault)
  /-- A pass has no work of its own. -/
  | unimplemented
  /-- The default content of element types contains itself. -/
  | endlessDefaults
  /-- A value is none of the words of a choice. -/
  | notChoice (value : Value) (choice : String)
  /-- A mapping table was expected. -/
  | notTable (kind : String)
  /-- A file is not in the expected encoding. -/
  | undecodable
  /-- A file cannot be used. -/
  | file (fault : FileFault)
  /-- A document breaks off for another reason than its form. -/
  | unreadable (fault : ReadFault)
  /-- A text is no address. -/
  | invalidAddress (fault : AddressFault)
  /-- An answer comes from a place without a scheme. -/
  | schemeless (place : String)
  /-- An answer is not in the encoding that it names. -/
  | misencoded (fault : EncodingFault)
  /-- The log cannot be set up or a record cannot be written. -/
  | unlogged (fault : Log.Fault)

namespace Failure

/-- The message and the details of a failure. -/
def report : Failure → Report
  | .unmapped type node =>
    { message := "No element mapping found for type '" ++ type ++ "'"
      details := ("type", .text type) ::
        (match node with
          | some name => if name.isEmpty then [] else [("node", .text name)]
          | none => []) }
  | .unknownTarget target =>
    ⟨"No generator registered for target '" ++ target ++ "'", []⟩
  | .unknownFlavor flavor target available =>
    ⟨"Unknown flavor '" ++ flavor ++ "' for target '" ++ target ++ "'",
      [("available", .text (Text.joinWith ", " available))]⟩
  | .unreadableMapping source fault =>
    ⟨"Cannot read mapping file: " ++ fault.message, [("source", .text source)]⟩
  | .unfetchedMapping source => ⟨"Cannot fetch mapping", [("source", .text source)]⟩
  | .malformedMapping source => ⟨"Invalid mapping document", [("source", .text source)]⟩
  | .shapelessMapping source =>
    ⟨"Mapping document must be an object", [("source", .text source)]⟩
  | .invalidMapping source _ => ⟨"Invalid mapping entry", [("source", .text source)]⟩
  | .invalid _ => ⟨"", []⟩
  | .unrenderable fault => ⟨fault.message, []⟩
  | .unimplemented => ⟨"", []⟩
  | .endlessDefaults => ⟨"maximum recursion depth exceeded", []⟩
  | .notChoice value choice => ⟨value.displayInside ++ " is not a valid " ++ choice, []⟩
  | .notTable kind => ⟨"'" ++ kind ++ "' object has no attribute 'items'", []⟩
  | .undecodable => ⟨"", []⟩
  | .file fault => ⟨fault.message, []⟩
  | .unreadable fault => ⟨fault.message, []⟩
  | .invalidAddress fault => ⟨fault.message, []⟩
  | .schemeless place => ⟨"unknown url type: " ++ displayQuoted place, []⟩
  | .misencoded fault => ⟨fault.message, []⟩
  | .unlogged fault => ⟨fault.message, []⟩

/-- The text of a failure. -/
def text (failure : Failure) : String :=
  failure.report.text

/-- Whether the failure is one that the compiler itself reports, in contrast to
one that merely passes through it. -/
def isReported : Failure → Bool
  | .unmapped .. | .unknownTarget .. | .unknownFlavor .. | .unreadableMapping ..
  | .unfetchedMapping .. | .malformedMapping .. | .shapelessMapping .. | .invalidMapping .. => true
  | _ => false

end Failure
end ComponentCompiler
