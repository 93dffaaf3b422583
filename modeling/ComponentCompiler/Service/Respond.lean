import ComponentCompiler.Address.Read
import ComponentCompiler.Json.Reader
import ComponentCompiler.Mapping.Source
import ComponentCompiler.Service.Exchange

namespace ComponentCompiler
namespace Service

open Schema

/-!
# Answering requests

A request is decided step by step: the text of its body, its form, the generator it
asks for, the description and the mapping in it, a mapping to fetch, and at last the
compilation.  The first step that fails gives the answer.  An answer that holds
a number which is not finite cannot be sent.
-/

/-- A request to the service.  The path is an address, of which only the path
below the root of the service counts. -/
structure Request where
  method : String
  path : String
  body : Option Value

/-- A request as it is sent: its body is a text. -/
structure Message where
  method : String
  path : String
  body : Option String

/-- An answer of the service. -/
structure Response where
  status : Nat
  body : Value

/-- An answer that tells what is wrong. -/
def Response.detail (status : Nat) (detail : Value) : Response :=
  ⟨status, record [("detail", detail)]⟩

/-- The answer when something fails that no step answers for. -/
def Response.internal : Response :=
  ⟨500, .text "Internal Server Error"⟩

mutual

/-- Whether all numbers in a value are finite. -/
def hasFiniteNumbers : Value → Bool
  | .real number => number.isFinite
  | .list items => itemsHaveFiniteNumbers items
  | .map entries => entriesHaveFiniteNumbers entries
  | _ => true

/-- Whether all numbers in some values are. -/
def itemsHaveFiniteNumbers : List Value → Bool
  | [] => true
  | item :: rest => hasFiniteNumbers item && itemsHaveFiniteNumbers rest

/-- Whether all numbers in the values of some entries are. -/
def entriesHaveFiniteNumbers : List (Key × Value) → Bool
  | [] => true
  | (_, value) :: rest => hasFiniteNumbers value && entriesHaveFiniteNumbers rest

end

/-- The answer as it is sent. -/
def Response.sent (response : Response) : Response :=
  if hasFiniteNumbers response.body then response else .internal

/-- A step to a part of a document. -/
def formPlace : Place → Value
  | .index position => .int position
  | .key name => .text name

/-- An issue with the value that it is about. -/
def formIssue (issue : Issue) : Value :=
  record [("type", .text issue.kind.code), ("loc", .list (issue.path.map formPlace)),
    ("msg", .text issue.kind.message), ("input", issue.input)]

/-- An issue of the request itself, with the words that were expected. -/
def formRequestIssue (issue : Issue) : Value :=
  match issue.kind, formIssue issue with
  | .notMember choices, .map entries =>
    .map (entries ++ [(.text "ctx", record [("expected", .text (choicePhrase choices))])])
  | _, form => form

/-- The issue with a body that breaks the rules of its notation.  Where it does so is not
told here. -/
def malformedBody : Value :=
  record [("type", .text "json_invalid"), ("loc", .list [.text "body"]),
    ("msg", .text "JSON decode error"), ("input", .map [])]

/-- The answer to a body that cannot be read. -/
def unreadBody : ReadFault → Response
  | .malformed => .detail 422 (.list [malformedBody])
  | _ => .detail 400 (.text "There was an error parsing the body")

/-- The value of a body, when it is not empty. -/
def readBody (body : Option String) : Except ReadFault (Option Value) :=
  match given? body with
  | none => .ok none
  | some text => some <$> Json.read text

/-- The request that a body is.  Its issues are told from the body on. -/
def readRequest (body : Option Value) : Except (List Issue) GenerateRequest :=
  let checked : Checked GenerateRequest :=
    match body with
    | none | some .null => reject .missing .null
    | some (.map entries) => checkRequestFields (.map entries)
    | some other => reject .notObject other
  (checked.under (.key "body")).toExcept

/-- How a target is named in messages of the service. -/
def targetLabel (target : Target) : String :=
  "ComponentTarget." ++ String.ofList (Text.upper target.word.toList)

/-- The entry in the log for a component that is rejected. -/
def rejectedEntry (component : Component) (failure : Failure) : Log.Entry :=
  { level := .warning
    source := "uidl_compiler.api.routes_generate"
    component := some component.name
    pass := none
    message := "Generation rejected: " ++ failure.text }

/-- The description and the mapping of a request. -/
def readContents (request : GenerateRequest) : Except Failure (Component × MappingTable) := do
  let component ← Generator.readComponent request.description.toValue
  let table ← MappingTable.ofOptional ((request.mapping.map Fields.toValue).getD .null)
  return (component, table.getD [])

/-- The mapping of a request, over one that has to be fetched. -/
def completeTable (surroundings : Surroundings) (request : GenerateRequest)
    (table : MappingTable) : Run MappingTable :=
  match given? request.mappingAddress with
  | none => pure table
  | some address => do
    let fetched ← MappingTable.ofAddress surroundings address
    return MappingTable.merge [some fetched, some table]

/-- The answer to a failure, when it is answered for. -/
def answered (status : Nat) (failure : Failure) : Response :=
  match failure with
  | .invalid issues => .detail status (.list (issues.map formIssue))
  | failure => if failure.isReported then .detail status (.text failure.text) else .internal

/-- Compile the component of a request. -/
def generate (registry : GeneratorRegistry) (surroundings : Surroundings)
    (request : GenerateRequest) : Run Response :=
  match registry.find (some request.target) (targetLabel request.target) request.flavor with
  | .error failure => pure (answered 404 failure)
  | .ok generator =>
    match readContents request with
    | .error failure => pure (answered 422 failure)
    | .ok (component, table) => do
      let completed := completeTable surroundings request table
      Traced.noteAll completed.notes
      match completed.outcome with
      | .error failure => return answered 422 failure
      | .ok table =>
        let compiled := generator.compile (some table) component
        Traced.noteAll compiled.notes
        match compiled.outcome with
        | .ok result => return ⟨200, formAnswer (.ofCompiled result)⟩
        | .error failure =>
          if failure.isReported then Traced.note (rejectedEntry component failure)
          return answered 422 failure

/-- Compile the component of a body. -/
def compileBody (registry : GeneratorRegistry) (surroundings : Surroundings)
    (body : Except ReadFault (Option Value)) : Run Response :=
  match body with
  | .error fault => pure (unreadBody fault)
  | .ok value =>
    match readRequest value with
    | .error issues => pure (.detail 422 (.list (issues.map formRequestIssue)))
    | .ok request => generate registry surroundings request

/-- The places of the service and the methods they take. -/
def routes : List (String × String) :=
  [("/v1/health", "GET"), ("/v1/targets", "GET"), ("/v1/components/generate", "POST")]

/-- The places where the service describes itself, for reading only.  Their text
is not made here. -/
def pages : List String :=
  ["/openapi.json", "/docs", "/docs/oauth2-redirect", "/redoc"]

/-- The places of the service. -/
def places : List String :=
  routes.map Prod.fst ++ pages

/-- The path that an address asks for.  Escapes are read twice, once by whoever
sends the request and once by the service. -/
def requestedPath (address : String) : Except AddressFault String := do
  let read ← Address.read address
  let path := String.ofList (Address.normalPath read.place.path.toList)
  return if path.isEmpty then "/" else Address.unescaped (Address.unescaped path)

/-- The place of a path.  Slashes at its end are passed over when they do not
belong to it. -/
def placeOf (path : String) : String :=
  if places.contains path then path
  else String.ofList (path.toList.reverse.dropWhile fun character => character = '/').reverse

/-- Answer a request for a place with a method.  Whether its body can be read matters
only where something is compiled. -/
def respondAt (registry : GeneratorRegistry) (surroundings : Surroundings) (place method : String)
    (body : Except ReadFault (Option Value)) : Run Response :=
  match Entries.lookUp? routes place with
  | none =>
    if pages.contains place then
      if method = "GET" || method = "HEAD" then pure ⟨200, .text ""⟩
      else pure (.detail 405 (.text "Method Not Allowed"))
    else pure (.detail 404 (.text "Not Found"))
  | some expected =>
    if expected ≠ method then pure (.detail 405 (.text "Method Not Allowed"))
    else if place = "/v1/health" then pure ⟨200, record [("status", .text "ok")]⟩
    else if place = "/v1/targets" then pure ⟨200, formTargets registry.targets⟩
    else compileBody registry surroundings body

/-- Answer a request to an address.  An answer to a request for the head has no body. -/
def respondTo (registry : GeneratorRegistry) (surroundings : Surroundings)
    (method address : String) (body : Except ReadFault (Option Value)) : Run Response := do
  let path ← Traced.ofExcept ((requestedPath address).mapError .invalidAddress)
  let method := String.ofList (Text.upper method.toList)
  let response ← respondAt registry surroundings (placeOf path) method body
  let sent := response.sent
  return if method = "HEAD" then { sent with body := .text "" } else sent

/-- Answer a request whose body has been read. -/
def respond (registry : GeneratorRegistry) (surroundings : Surroundings) (request : Request) :
    Run Response :=
  respondTo registry surroundings request.method request.path (.ok request.body)

/-- Answer a request as it is sent. -/
def receive (registry : GeneratorRegistry) (surroundings : Surroundings) (message : Message) :
    Run Response :=
  respondTo registry surroundings message.method message.path (readBody message.body)

end Service
end ComponentCompiler
