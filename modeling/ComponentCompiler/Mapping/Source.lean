import ComponentCompiler.Address.Read
import ComponentCompiler.Files.Tree
import ComponentCompiler.Json.Reader
import ComponentCompiler.Mapping.Document
import ComponentCompiler.Mapping.Header
import ComponentCompiler.Pass.Basic
import ComponentCompiler.Text.Search
import ComponentCompiler.Yaml.Node.Value

namespace ComponentCompiler

/-!
# Sources of mappings

A mapping comes from a file or from the network, in the strict document form
or in the looser one.  The extension of the file, the kind of the answer or the
end of the address tell which.
-/

/-- What a request over the network brings.  The body is the text that was sent. -/
inductive Fetched where
  | answer (status : Nat) (headers : Entries String String) (body : String)
  | unreachable

/-- What the program can reach outside. -/
structure Surroundings where
  readFile : Path → Except FileFault ByteArray
  fetch : String → Fetched

/-- The form that a document is written in. -/
inductive DocumentForm where
  | strict
  | loose
deriving DecidableEq, Repr

/-- The form that a file extension stands for. -/
def DocumentForm.ofExtension (extension : String) : DocumentForm :=
  if extension = "yaml" || extension = "yml" then .loose else .strict

/-- The form of an answer from an address. -/
def DocumentForm.ofAnswer (address : String) (headers : Entries String String) : DocumentForm :=
  if Text.occursIn "yaml" (headerText headers "content-type") ||
      Text.isEndOf ".yaml" address || Text.isEndOf ".yml" address then .loose
  else .strict

namespace MappingTable

/-- The failure that a fault in a document is. -/
def documentFailure (source : String) : ReadFault → Failure
  | .malformed => .malformedMapping source
  | fault => .unreadable fault

/-- The failure that a fault with the file of a mapping is. -/
def fileFailure (source : String) (fault : FileFault) : Failure :=
  if fault.isFound then .unreadableMapping source fault else .file fault

/-- Read a document. -/
def readText (form : DocumentForm) (text source : String) : Except Failure Value :=
  match form with
  | .strict => (Json.read text).mapError (documentFailure source)
  | .loose => (Yaml.read text).mapError (documentFailure source)

/-- Read the mapping of a document. -/
def ofText (form : DocumentForm) (text source : String) : Except Failure MappingTable := do
  match ← readText form text source with
  | .map entries => (Schema.checkTable entries).mapError (.invalidMapping source)
  | _ => .error (.shapelessMapping source)

/-- Load a mapping from a file. -/
def ofFile (surroundings : Surroundings) (path : Path) : Except Failure MappingTable := do
  let content ← (surroundings.readFile path).mapError (fileFailure path.text)
  let text ← decodeText content
  ofText (.ofExtension path.extension) text path.text

/-- The entry in the log for a mapping that is fetched. -/
def fetchEntry (address : String) : Log.Entry :=
  { level := .info
    source := "uidl_compiler.generators.component_gen.mapping_loader"
    component := none
    pass := none
    message := "Fetching element mapping from " ++ address }

/-- Whether an answer is good: its status says so, and its body can be unpacked. -/
def isGood (status : Nat) (headers : Entries String String) (body : String) : Bool :=
  200 ≤ status && status < 300 && (body.isEmpty || !isPacked headers)

/-- The text of a body. -/
def bodyText (headers : Entries String String) (body : String) : Except Failure String :=
  let encoding := (encodingOf? (headerText headers "content-type")).getD .eight
  (encoding.reading body).mapError .misencoded

/-- Fetch a mapping from an address.  An answer is taken only from an address with
a scheme and a host. -/
def ofAddress (surroundings : Surroundings) (address : String) : Run MappingTable := do
  Traced.note (fetchEntry address)
  let known ← Traced.ofExcept ((Address.read address).mapError .invalidAddress)
  match surroundings.fetch known.place.text with
  | .answer status headers body =>
    if !known.isAbsolute then Traced.fail (.schemeless known.place.text)
    else if isGood status headers body then
      let text ← Traced.ofExcept (bodyText headers body)
      Traced.ofExcept (ofText (.ofAnswer address headers) text address)
    else Traced.fail (.unfetchedMapping address)
  | .unreachable => Traced.fail (.unfetchedMapping address)

/-- Load a mapping from an address or a file. -/
def load (surroundings : Surroundings) (source : String) : Run MappingTable :=
  if Text.isStartOf "http://" source || Text.isStartOf "https://" source then
    ofAddress surroundings source
  else Traced.ofExcept (ofFile surroundings (Path.ofText source))

end MappingTable
end ComponentCompiler
