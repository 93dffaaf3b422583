import ComponentCompiler.Chunk.Assemble
import ComponentCompiler.Generator.Registry
import ComponentCompiler.Schema.Form

namespace ComponentCompiler
namespace Service

open Schema

/-!
# What the service takes and gives

The models of requests and answers, with their checks and the objects they are
written as.
-/

/-- A request to compile a component. -/
structure GenerateRequest where
  description : Fields
  target : Target
  flavor : Option String
  mapping : Option Fields
  mappingAddress : Option String

/-- The targets by their words. -/
def targetChoices : List (String × Target) :=
  Target.all.map fun target => (target.word, target)

/-- The fields of a request. -/
def checkRequestFields (whole : Value) : Checked GenerateRequest :=
  GenerateRequest.mk
    <$> required whole ["uidl"] (fun part _ => checkFields part)
    <*> defaulted whole ["target"] .react (checkChoice .notMember targetChoices)
    <*> optional whole ["flavor"] (fun part _ => checkText part)
    <*> optional whole ["mapping"] (fun part _ => checkFields part)
    <*> optional whole ["mapping_url"] (fun part _ => checkText part)

/-- A request. -/
def checkRequest (whole : Value) : Checked GenerateRequest :=
  checkModel "GenerateRequest" whole fun _ => checkRequestFields whole

/-- A request as an object. -/
def formRequest (request : GenerateRequest) : Value :=
  record [("uidl", request.description.toValue), ("target", .text request.target.word),
    ("flavor", formText request.flavor), ("mapping", formOption Fields.toValue request.mapping),
    ("mapping_url", formText request.mappingAddress)]

/-- A file of an answer. -/
def checkFile (whole : Value) : Checked OutputFile :=
  checkModel "GeneratedFileResponse" whole fun _ =>
    OutputFile.mk
      <$> required whole ["name"] (fun part _ => checkText part)
      <*> required whole ["file_type"] (fun part _ => checkText part)
      <*> required whole ["content"] (fun part _ => checkText part)

/-- A file as an object. -/
def formFile (file : OutputFile) : Value :=
  record [("name", .text file.name), ("file_type", .text file.extension),
    ("content", .text file.content)]

/-- The answer to a request to compile a component. -/
structure GenerateAnswer where
  files : List OutputFile
  packages : Entries String String
  code : String

/-- An answer. -/
def checkAnswer (whole : Value) : Checked GenerateAnswer :=
  checkModel "GenerateResponse" whole fun _ =>
    GenerateAnswer.mk
      <$> required whole ["files"] (fun part _ => checkList part fun item _ => checkFile item)
      <*> defaulted whole ["dependencies"] []
        (fun part => checkMap part fun value _ => checkText value)
      <*> required whole ["code"] (fun part _ => checkText part)

/-- An answer as an object. -/
def formAnswer (answer : GenerateAnswer) : Value :=
  record [("files", formList formFile answer.files),
    ("dependencies",
      Fields.toValue (answer.packages.map fun entry => (entry.1, Value.text entry.2))),
    ("code", .text answer.code)]

/-- The answer with a compiled component. -/
def GenerateAnswer.ofCompiled (compiled : CompiledComponent) : GenerateAnswer :=
  ⟨compiled.files, compiled.packages, concatenate compiled.files⟩

/-- The flavors of the targets. -/
abbrev TargetList := Entries String (List String)

/-- A list of targets. -/
def checkTargets (whole : Value) : Checked TargetList :=
  checkModel "TargetsResponse" whole fun _ =>
    required whole ["targets"] fun part _ =>
      checkMap part fun value _ => checkList value fun item _ => checkText item

/-- A list of targets as an object. -/
def formTargets (targets : TargetList) : Value :=
  record [("targets",
    Fields.toValue (targets.map fun entry => (entry.1, Value.list (entry.2.map .text))))]

end Service
end ComponentCompiler
