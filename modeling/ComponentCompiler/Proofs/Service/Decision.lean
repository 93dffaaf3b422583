import ComponentCompiler.Proofs.Generator.Failure
import ComponentCompiler.Proofs.Schema.ReadBack
import ComponentCompiler.Service.Respond

namespace ComponentCompiler
namespace Service

open Schema Checked

/-!
# How a request to compile is decided

A text that asks for a component is decided in a fixed order: whether it can be read, whether
its body has the form of a request, whether there is a generator for it, whether the description
and the mapping are valid, and whether the build comes to an element type without an entry.  Each
of these has its own status, and only what passes all of them is compiled.

The answers about a body tell the values that they are about, and these come from the body
itself.  So they can be sent when all numbers of the body are finite.  No other failure is
left: a valid description over tables without circles is compiled or fails over an element
type.
-/

/-! ## Answers that can be sent -/

theorem itemsHaveFiniteNumbers_iff {items : List Value} :
    itemsHaveFiniteNumbers items = true ↔ ∀ item ∈ items, hasFiniteNumbers item = true := by
  induction items with
  | nil => exact ⟨fun _ _ impossible => absurd impossible List.not_mem_nil, fun _ => rfl⟩
  | cons item rest inductionHypothesis =>
      rw [itemsHaveFiniteNumbers, Bool.and_eq_true, List.forall_mem_cons, inductionHypothesis]

theorem entriesHaveFiniteNumbers_iff {entries : List (Key × Value)} :
    entriesHaveFiniteNumbers entries = true ↔
      ∀ entry ∈ entries, hasFiniteNumbers entry.2 = true := by
  induction entries with
  | nil => exact ⟨fun _ _ impossible => absurd impossible List.not_mem_nil, fun _ => rfl⟩
  | cons entry rest inductionHypothesis =>
      rw [entriesHaveFiniteNumbers, Bool.and_eq_true, List.forall_mem_cons, inductionHypothesis]

theorem hasFiniteNumbers_list {items : List Value} :
    hasFiniteNumbers (.list items) = true ↔ ∀ item ∈ items, hasFiniteNumbers item = true := by
  rw [hasFiniteNumbers, itemsHaveFiniteNumbers_iff]

theorem hasFiniteNumbers_toValue {fields : Fields} :
    hasFiniteNumbers fields.toValue = true ↔
      ∀ field ∈ fields, hasFiniteNumbers field.2 = true := by
  rw [Fields.toValue, hasFiniteNumbers, entriesHaveFiniteNumbers_iff]
  exact List.forall_mem_map

/-- A value of the stricter notation in which all numbers are finite. -/
structure IsFiniteJson (value : Value) : Prop where
  json : value.isJson = true
  finite : hasFiniteNumbers value = true

theorem hereditary_isFiniteJson : Hereditary IsFiniteJson where
  json holds := holds.json
  part {whole part} holds member := by
    refine ⟨Value.isJson_of_mem_parts holds.json member, ?_⟩
    rcases holds with ⟨json, finite⟩
    cases whole with
    | list items => exact hasFiniteNumbers_list.mp finite part member
    | map entries =>
        rcases List.mem_map.mp member with ⟨entry, listed, rfl⟩
        exact entriesHaveFiniteNumbers_iff.mp finite entry listed
    | tuple | set => cases json
    | _ => cases member

theorem Response.sent_of_finite {response : Response}
    (finite : hasFiniteNumbers response.body = true) : response.sent = response :=
  if_pos finite

theorem hasFiniteNumbers_detail {status : Nat} {detail : Value}
    (finite : hasFiniteNumbers detail = true) :
    hasFiniteNumbers (Response.detail status detail).body = true :=
  hasFiniteNumbers_toValue.mpr (List.forall_mem_singleton.mpr finite)

theorem hasFiniteNumbers_formIssue {issue : Issue} (finite : hasFiniteNumbers issue.input = true) :
    hasFiniteNumbers (formIssue issue) = true := by
  have path : hasFiniteNumbers (.list (issue.path.map formPlace)) = true := by
    rw [hasFiniteNumbers_list, List.forall_mem_map]
    intro place _
    cases place <;> rfl
  exact hasFiniteNumbers_toValue.mpr (List.forall_mem_cons.mpr ⟨rfl, List.forall_mem_cons.mpr
    ⟨path, List.forall_mem_cons.mpr ⟨rfl, List.forall_mem_singleton.mpr finite⟩⟩⟩)

theorem hasFiniteNumbers_formRequestIssue {issue : Issue}
    (finite : hasFiniteNumbers issue.input = true) :
    hasFiniteNumbers (formRequestIssue issue) = true := by
  have plain := hasFiniteNumbers_formIssue finite
  unfold formRequestIssue
  split
  · rename_i entries formed
    rw [formed, hasFiniteNumbers, entriesHaveFiniteNumbers_iff] at plain
    rw [hasFiniteNumbers, entriesHaveFiniteNumbers_iff]
    exact List.forall_mem_append.mpr ⟨plain, List.forall_mem_singleton.mpr rfl⟩
  · exact plain

theorem hasFiniteNumbers_formAnswer (answer : GenerateAnswer) :
    hasFiniteNumbers (formAnswer answer) = true := by
  have files : hasFiniteNumbers (formList formFile answer.files) = true := by
    exact hasFiniteNumbers_list.mpr (List.forall_mem_map.mpr fun file _ => rfl)
  have packages : hasFiniteNumbers (Fields.toValue (answer.packages.map fun entry =>
      (entry.1, Value.text entry.2))) = true :=
    hasFiniteNumbers_toValue.mpr (List.forall_mem_map.mpr fun _ _ => rfl)
  exact hasFiniteNumbers_toValue.mpr (List.forall_mem_cons.mpr ⟨files, List.forall_mem_cons.mpr
    ⟨packages, List.forall_mem_singleton.mpr rfl⟩⟩)

/-! ## What a body asks for -/

/-- What a field that may be left out gives: nothing when it is left out or null, and otherwise
what is written there. -/
def Gives {α : Type} (form : α → Value) (found : Option Value) : Option α → Prop
  | none => found.getD .null = .null
  | some value => found = some (form value)

/-- A body is written for a request. -/
structure Asks (body : Value) (request : GenerateRequest) : Prop where
  description : body.field? "uidl" = some request.description.toValue
  target : (body.field? "target" = none ∧ request.target = .react) ∨
    body.field? "target" = some (.text request.target.word)
  flavor : Gives .text (body.field? "flavor") request.flavor
  mapping : Gives Fields.toValue (body.field? "mapping") request.mapping
  address : Gives .text (body.field? "mapping_url") request.mappingAddress

section Requests

variable {body : Value} {request : GenerateRequest}

theorem checkText_eq_valid_iff {value : Value} (json : value.isJson = true) {content : String} :
    checkText value = .valid content ↔ value = .text content := by
  cases value with
  | text other => rw [checkText, Checked.valid.injEq, Value.text.injEq]
  | bytes => cases json
  | _ =>
      constructor
      · intro passed
        cases passed
      · intro same
        cases same

theorem checkEntries_eq_valid {entries : List (Key × Value)} {fields : Fields}
    (passed : (checkEntries entries fun part _ => .valid part) = .valid fields)
    (json : ∀ entry ∈ entries, Value.IsJsonEntry entry) :
    entries = fields.map fun field => (Key.text field.1, field.2) := by
  induction entries generalizing fields with
  | nil =>
      cases passed
      rfl
  | cons entry rest inductionHypothesis =>
      rcases entry with ⟨key, value⟩
      rw [List.forall_mem_cons] at json
      rcases json.1.1 with ⟨name, rfl⟩
      rcases seq_eq_valid_iff.mp passed with ⟨add, others, added, restPassed, rfl⟩
      cases added
      rw [List.map_cons, ← inductionHypothesis restPassed json.2]

theorem checkFields_eq_valid_iff {value : Value} (json : value.isJson = true) {fields : Fields} :
    checkFields value = .valid fields ↔ value = fields.toValue := by
  constructor
  · intro passed
    cases value with
    | map entries =>
        exact congrArg Value.map (checkEntries_eq_valid passed (Value.isJson_map.mp json))
    | enclosing => cases json
    | _ => cases passed
  · rintro rfl
    exact checkFields_toValue fields

theorem checkTarget_eq_valid_iff {value : Value} {target : Target} :
    checkChoice .notMember targetChoices value = .valid target ↔ value = .text target.word := by
  constructor
  · intro passed
    cases value with
    | text word =>
        unfold checkChoice at passed
        dsimp only at passed
        split at passed
        · rename_i choice found
          cases passed
          rcases List.mem_map.mp (Entries.mem_of_lookUp?_eq_some found) with ⟨other, _, same⟩
          cases same
          rfl
        · cases passed
    | _ => cases passed
  · rintro rfl
    cases target <;> rfl

/-- A field that may be left out is read as what it gives. -/
theorem optional_eq_valid_iff_gives {α : Type} (json : body.isJson = true) {name : String}
    {check : Value → Checked α} {form : α → Value} {given : Option α}
    (reads : ∀ {part}, part.isJson = true → ∀ {value},
      check part = .valid value ↔ part = form value)
    (visible : ∀ value, form value ≠ .null) :
    (optional body [name] fun part _ => check part) = .valid given ↔
      Gives form (body.field? name) given := by
  have partJson {part : Value} (found : body.field? name = some part) : part.isJson = true :=
    Value.isJson_of_mem_parts json (Value.mem_parts_of_field? found)
  rw [optional_eq_valid_iff json]
  constructor
  · rintro (⟨rfl, absent⟩ | ⟨part, value, rfl, _, found, passed⟩)
    · exact absent
    · rw [Gives, found, (reads (partJson found)).mp passed]
  · intro gives
    cases given with
    | none => exact .inl ⟨rfl, gives⟩
    | some value =>
        exact .inr ⟨form value, value, rfl, visible value, gives, (reads (partJson gives)).mpr rfl⟩

theorem checkRequestFields_eq_valid_iff (json : body.isJson = true) :
    checkRequestFields body = .valid request ↔ Asks body request := by
  have partJson {name : String} {part : Value} (found : body.field? name = some part) :
      part.isJson = true :=
    Value.isJson_of_mem_parts json (Value.mem_parts_of_field? found)
  have described {description : Fields} :
      (required body ["uidl"] fun part _ => checkFields part) = .valid description ↔
        body.field? "uidl" = some description.toValue := by
    rw [required_eq_valid_iff json]
    constructor
    · rintro ⟨part, found, passed⟩
      rw [found, (checkFields_eq_valid_iff (partJson found)).mp passed]
    · exact fun found => ⟨_, found, checkFields_toValue description⟩
  have targeted {target : Target} :
      defaulted body ["target"] .react (checkChoice .notMember targetChoices) = .valid target ↔
        (body.field? "target" = none ∧ target = .react) ∨
          body.field? "target" = some (.text target.word) := by
    simp only [defaulted_eq_valid_iff json, checkTarget_eq_valid_iff, exists_eq_right,
      eq_comm (a := Target.react)]
  have text (name : String) {given : Option String} :
      (optional body [name] fun part _ => checkText part) = .valid given ↔
        Gives .text (body.field? name) given :=
    optional_eq_valid_iff_gives json checkText_eq_valid_iff fun _ => Value.noConfusion
  have fields (name : String) {given : Option Fields} :
      (optional body [name] fun part _ => checkFields part) = .valid given ↔
        Gives Fields.toValue (body.field? name) given :=
    optional_eq_valid_iff_gives json checkFields_eq_valid_iff fun _ => Value.noConfusion
  constructor
  · intro passed
    rcases seq_eq_valid_iff.mp passed with ⟨_, address, upToMapping, addressPassed, rfl⟩
    rcases seq_eq_valid_iff.mp upToMapping with ⟨_, mapping, upToFlavor, mappingPassed, rfl⟩
    rcases seq_eq_valid_iff.mp upToFlavor with ⟨_, flavor, upToTarget, flavorPassed, rfl⟩
    rcases seq_eq_valid_iff.mp upToTarget with ⟨_, target, upToDescription, targetPassed, rfl⟩
    rcases map_eq_valid_iff.mp upToDescription with ⟨description, descriptionPassed, rfl⟩
    exact ⟨described.mp descriptionPassed, targeted.mp targetPassed, (text _).mp flavorPassed,
      (fields _).mp mappingPassed, (text _).mp addressPassed⟩
  · intro asks
    unfold checkRequestFields
    rw [described.mpr asks.description, targeted.mpr asks.target, (text _).mpr asks.flavor,
      (fields _).mpr asks.mapping, (text _).mpr asks.address]
    rfl

theorem readRequest_eq_ok_iff (json : body.isJson = true) :
    readRequest (some body) = .ok request ↔ Asks body request := by
  cases body with
  | map entries =>
      rw [← checkRequestFields_eq_valid_iff json, readRequest, toExcept_eq_ok_iff,
        under_eq_valid_iff]
  | _ =>
      constructor
      · intro read
        cases read
      · intro asks
        cases asks.description

/-- A body is written for one request only. -/
theorem Asks.unique (json : body.isJson = true) {other : GenerateRequest}
    (asks : Asks body request) (asksOther : Asks body other) : request = other := by
  have read := (readRequest_eq_ok_iff json).mpr asks
  rw [(readRequest_eq_ok_iff json).mpr asksOther] at read
  exact (Except.ok.inj read).symm

theorem checkRequestFields_follows (holds : IsFiniteJson body) :
    (checkRequestFields body).Follows IsFiniteJson fun _ => True := by
  have passes := hereditary_isFiniteJson
  exact Follows.also (Follows.also (Follows.also (Follows.also
    (required_follows passes holds fun _ _ => checkFields_follows passes).alone
    (defaulted_follows passes holds fun _ => checkChoice_follows))
    (optionalText_follows passes holds))
    (optional_follows passes holds fun _ _ => checkFields_follows passes))
    (optionalText_follows passes holds)

/-- The issues of a body that is no request are about values of the body. -/
theorem finite_of_readRequest {issues : List Issue} (holds : IsFiniteJson body)
    (failed : readRequest (some body) = .error issues) :
    ∀ issue ∈ issues, IsFiniteJson issue.input := by
  refine (Follows.under (?_ : Checked.Follows _ IsFiniteJson fun _ => True) _).of_toExcept failed
  split
  · contradiction
  · exact follows_reject ⟨rfl, rfl⟩
  · rename_i same
    cases same
    exact checkRequestFields_follows holds
  · rename_i same
    cases same
    exact follows_reject holds

end Requests

/-! ## What a request holds -/

namespace GenerateRequest

/-- The request is for a flavor of the one target that has generators. -/
def Chooses (settings : Settings) (request : GenerateRequest) (flavor : Flavor) : Prop :=
  request.target = .react ∧ (given? request.flavor).getD settings.defaultFlavor = flavor.word

/-- The description of the request is one of a component, and each entry of its mapping is one
of an element type. -/
structure Describes (request : GenerateRequest) (component : Component) (table : MappingTable) :
    Prop where
  component : checkComponent request.description.toValue = .valid component
  table : List.Forall₂ (fun field mapped => mapped.1 = Key.text field.1 ∧
    checkElementMapping field.2 = .valid mapped.2) (request.mapping.getD []) table

/-- The mapping of the request as a call takes it. -/
def overrides (request : GenerateRequest) : Value :=
  (request.mapping.map Fields.toValue).getD .null

end GenerateRequest

section Contents

variable {request : GenerateRequest} {component : Component} {table : MappingTable}

/-- The mapping of a request can be read when all its entries can; one that is left out or empty
has no entries. -/
theorem exists_ofOptional_iff (request : GenerateRequest) (table : MappingTable) :
    (∃ given, MappingTable.ofOptional request.overrides = .ok given ∧ given.getD [] = table) ↔
      List.Forall₂ (fun field mapped => mapped.1 = Key.text field.1 ∧
        checkElementMapping field.2 = .valid mapped.2) (request.mapping.getD []) table := by
  have absent : (∃ given, (.ok none : Except Failure (Option MappingTable)) = .ok given ∧
      given.getD [] = table) ↔ table = [] := by
    simp [eq_comm]
  unfold GenerateRequest.overrides
  rcases request.mapping with _ | fields
  · exact absent.trans List.forall₂_nil_left_iff.symm
  cases fields with
  | nil => exact absent.trans List.forall₂_nil_left_iff.symm
  | cons field rest =>
      have listed := (checkTable_eq_ok_iff.trans List.forall₂_map_left_iff :
        checkTable ((field :: rest).map fun field => (Key.text field.1, field.2)) = .ok table ↔ _)
      rw [Option.getD_some, ← listed]
      constructor
      · rintro ⟨given, read, rfl⟩
        rcases map_eq_ok_iff.mp read with ⟨listed, ofFields, rfl⟩
        exact ok_of_mapError_eq_ok ofFields
      · intro checked
        refine ⟨some table, ?_, rfl⟩
        change some <$> (checkTable _).mapError Failure.invalid = _
        rw [checked]
        rfl

theorem readComponent_eq_ok_iff {document : Value} :
    Generator.readComponent document = .ok component ↔
      checkComponent document = .valid component := by
  rw [← toExcept_eq_ok_iff]
  exact ⟨ok_of_mapError_eq_ok, fun passed => by rw [Generator.readComponent, passed]; rfl⟩

theorem readContents_eq_ok_iff :
    readContents request = .ok (component, table) ↔ request.Describes component table := by
  constructor
  · intro read
    rcases bind_eq_ok_iff.mp read with ⟨_, componentRead, onward⟩
    rcases bind_eq_ok_iff.mp onward with ⟨given, tableRead, last⟩
    cases last
    exact ⟨readComponent_eq_ok_iff.mp componentRead,
      (exists_ofOptional_iff request _).mp ⟨given, tableRead, rfl⟩⟩
  · intro describes
    rcases (exists_ofOptional_iff request table).mpr describes.table with ⟨given, tableRead, rfl⟩
    unfold readContents
    change (do
      let component ← Generator.readComponent request.description.toValue
      let table ← MappingTable.ofOptional request.overrides
      return (component, table.getD [])) = _
    rw [readComponent_eq_ok_iff.mpr describes.component, tableRead]
    rfl

theorem GenerateRequest.Describes.unique {other : Component} {others : MappingTable}
    (describes : request.Describes component table) (again : request.Describes other others) :
    component = other ∧ table = others := by
  have read := readContents_eq_ok_iff.mpr describes
  rw [readContents_eq_ok_iff.mpr again] at read
  cases read
  exact ⟨rfl, rfl⟩

/-- A call on the description and the mapping of a request compiles what they describe. -/
theorem outcome_direct (generator : Generator) (describes : request.Describes component table) :
    (generator.generate request.description.toValue request.overrides).outcome =
      (generator.compile (some table) component).outcome := by
  rcases (exists_ofOptional_iff request table).mpr describes.table with ⟨given, read, rfl⟩
  rw [Generator.outcome_generate generator (readComponent_eq_ok_iff.mpr describes.component) read]
  cases given <;> rfl

/-- The issues of the contents of a request are about values in it. -/
theorem finite_of_readContents {failure : Failure}
    (description : IsFiniteJson request.description.toValue)
    (mapping : ∀ fields, request.mapping = some fields → IsFiniteJson fields.toValue)
    (failed : readContents request = .error failure) :
    ∃ issues, failure = .invalid issues ∧ ∀ issue ∈ issues, IsFiniteJson issue.input := by
  have passes := hereditary_isFiniteJson
  rcases bind_eq_error_iff.mp failed with invalid | ⟨component, _, onward⟩
  · rcases error_of_mapError_eq_error invalid with ⟨issues, found, named⟩
    exact ⟨issues, named, (checkComponent_follows passes description).of_toExcept found⟩
  rcases bind_eq_error_iff.mp onward with invalid | ⟨given, _, last⟩
  · cases asked : request.mapping with
    | none =>
        rw [asked] at invalid
        cases invalid
    | some fields =>
        rw [asked] at invalid
        unfold MappingTable.ofOptional at invalid
        split at invalid
        · cases invalid
        rcases error_of_mapError_eq_error (error_of_map_eq_error invalid) with
          ⟨issues, found, named⟩
        refine ⟨issues, named, about_of_checkTable passes (fun entry member => ?_) found⟩
        exact passes.part (mapping fields asked) (List.mem_map_of_mem member)
  · cases last

end Contents

section Values

variable {body : Value} {request : GenerateRequest} (holds : IsFiniteJson body)
include holds

theorem Asks.finite_description (asks : Asks body request) :
    IsFiniteJson request.description.toValue :=
  hereditary_isFiniteJson.part holds (Value.mem_parts_of_field? asks.description)

theorem Asks.finite_mapping (asks : Asks body request) {fields : Fields}
    (given : request.mapping = some fields) : IsFiniteJson fields.toValue := by
  have mapping := asks.mapping
  rw [given] at mapping
  exact hereditary_isFiniteJson.part holds (Value.mem_parts_of_field? mapping)

theorem Asks.json_overrides (asks : Asks body request) : request.overrides.isJson = true := by
  unfold GenerateRequest.overrides
  cases given : request.mapping with
  | none => rfl
  | some fields => exact (asks.finite_mapping holds given).json

end Values

/-! ## The steps of a decision -/

section Steps

variable {settings : Settings} {surroundings : Surroundings} {body : Value}
  {request : GenerateRequest} {flavor : Flavor} {component : Component} {table : MappingTable}

theorem answered_of_isReported {failure : Failure} (status : Nat)
    (reported : failure.isReported = true) :
    answered status failure = .detail status (.text failure.text) := by
  unfold answered
  split
  · cases reported
  · rw [if_pos reported]

/-- A request to compile a component. -/
def compileRequest (body : Value) : Request :=
  ⟨"POST", "/v1/components/generate", some body⟩

/-- The same as it is sent, with the text of a body. -/
def compileMessage (text : String) : Message :=
  ⟨"POST", "/v1/components/generate", some text⟩

theorem outcome_respondTo (registry : GeneratorRegistry) (surroundings : Surroundings)
    (body : Except ReadFault (Option Value)) :
    (respondTo registry surroundings "POST" "/v1/components/generate" body).outcome =
      Except.map Response.sent (compileBody registry surroundings body).outcome := by
  have path : requestedPath "/v1/components/generate" = .ok "/v1/components/generate" :=
    eq_ok_of_toOption_eq_some (by decide +kernel)
  have place : placeOf "/v1/components/generate" = "/v1/components/generate" := by decide +kernel
  have method : String.ofList (Text.upper "POST".toList) = "POST" := by decide +kernel
  have route : Entries.lookUp? routes "/v1/components/generate" = some "POST" := by decide +kernel
  unfold respondTo
  dsimp only
  rw [path, method, Traced.outcome_bind]
  change (respondAt registry surroundings (placeOf "/v1/components/generate") "POST" body >>=
    fun response => pure response.sent : Run Response).outcome = _
  rw [place, Traced.outcome_bind]
  have notHealth : "/v1/components/generate" ≠ "/v1/health" := by decide
  have notTargets : "/v1/components/generate" ≠ "/v1/targets" := by decide
  unfold respondAt
  rw [route]
  dsimp only
  rw [if_neg (not_not_intro rfl), if_neg notHealth, if_neg notTargets]
  cases (compileBody registry surroundings body).outcome <;> rfl

theorem outcome_respond (registry : GeneratorRegistry) (surroundings : Surroundings)
    (body : Value) :
    (respond registry surroundings (compileRequest body)).outcome =
      Except.map Response.sent (match readRequest (some body) with
        | .error issues => .ok (.detail 422 (.list (issues.map formRequestIssue)))
        | .ok request => (generate registry surroundings request).outcome) := by
  refine (outcome_respondTo registry surroundings (.ok (some body))).trans ?_
  unfold compileBody
  dsimp only
  cases readRequest (some body) <;> rfl

/-- A request without a mapping to fetch, with contents that can be read, is answered as they are
compiled. -/
theorem outcome_generate {registry : GeneratorRegistry} {generator : Generator}
    (found : registry.find (some request.target) (targetLabel request.target) request.flavor =
      .ok generator) (unfetched : given? request.mappingAddress = none)
    (describes : request.Describes component table) :
    (generate registry surroundings request).outcome =
      match (generator.compile (some table) component).outcome with
      | .ok compiled => .ok ⟨200, formAnswer (.ofCompiled compiled)⟩
      | .error failure => .ok (answered 422 failure) := by
  have complete : completeTable surroundings request table = pure table := by
    unfold completeTable
    rw [unfetched]
  unfold generate
  rw [found]
  dsimp only
  rw [readContents_eq_ok_iff.mpr describes]
  dsimp only
  rw [complete, Traced.outcome_noteAll_bind]
  dsimp only [Traced.pure_eq]
  rw [Traced.outcome_noteAll_bind]
  cases (generator.compile (some table) component).outcome with
  | ok compiled => rfl
  | error failure =>
      dsimp only
      split <;> rfl

theorem outcome_respond_of_unasked {registry : GeneratorRegistry} (holds : IsFiniteJson body)
    (unasked : ∀ request, ¬ Asks body request) :
    ∃ detail, (respond registry surroundings (compileRequest body)).outcome =
      .ok (.detail 422 detail) := by
  cases read : readRequest (some body) with
  | ok request => exact absurd ((readRequest_eq_ok_iff holds.json).mp read) (unasked request)
  | error issues =>
      have finite : hasFiniteNumbers (.list (issues.map formRequestIssue)) = true :=
        hasFiniteNumbers_list.mpr (List.forall_mem_map.mpr fun issue member =>
          hasFiniteNumbers_formRequestIssue (finite_of_readRequest holds read issue member).finite)
      refine ⟨.list (issues.map formRequestIssue), ?_⟩
      rw [outcome_respond, read]
      exact congrArg Except.ok (Response.sent_of_finite (hasFiniteNumbers_detail finite))

theorem outcome_respond_of_asks {registry : GeneratorRegistry} (json : body.isJson = true)
    (asks : Asks body request) {response : Response}
    (found : (generate registry surroundings request).outcome = .ok response)
    (finite : hasFiniteNumbers response.body = true) :
    (respond registry surroundings (compileRequest body)).outcome = .ok response := by
  rw [outcome_respond, (readRequest_eq_ok_iff json).mpr asks]
  dsimp only
  rw [found]
  exact congrArg Except.ok (Response.sent_of_finite finite)

theorem outcome_respond_of_unchosen (json : body.isJson = true) (asks : Asks body request)
    (unchosen : ∀ flavor, ¬ request.Chooses settings flavor) :
    ∃ detail, (respond (.standard settings) surroundings (compileRequest body)).outcome =
      .ok (.detail 404 detail) := by
  have unknown (flavor : Flavor) : ¬ (some request.target = some .react ∧
      (given? request.flavor).getD settings.defaultFlavor = flavor.word) :=
    fun ⟨known, named⟩ => unchosen flavor ⟨Option.some.inj known, named⟩
  rcases @GeneratorRegistry.find_standard_of_unchosen _ _ (targetLabel request.target) _ unknown
    with ⟨failure, missing, reported⟩
  refine ⟨.text failure.text, outcome_respond_of_asks json asks ?_ (hasFiniteNumbers_detail rfl)⟩
  unfold generate
  rw [missing]
  exact congrArg Except.ok (answered_of_isReported 404 reported)

theorem find_of_chooses (chooses : request.Chooses settings flavor) :
    (GeneratorRegistry.standard settings).find (some request.target) (targetLabel request.target)
      request.flavor = .ok (Generator.ofFlavor flavor none settings.styleSettings) :=
  GeneratorRegistry.find_standard (congrArg some chooses.1) chooses.2

theorem GenerateRequest.Chooses.unique {other : Flavor} (chooses : request.Chooses settings flavor)
    (again : request.Chooses settings other) : flavor = other := by
  have words : flavor.word = other.word := chooses.2.symm.trans again.2
  revert words
  cases flavor <;> cases other <;> decide

theorem outcome_respond_of_undescribed (holds : IsFiniteJson body) (asks : Asks body request)
    (chooses : request.Chooses settings flavor)
    (undescribed : ∀ component table, ¬ request.Describes component table) :
    ∃ detail, (respond (.standard settings) surroundings (compileRequest body)).outcome =
      .ok (.detail 422 detail) := by
  cases read : readContents request with
  | ok contents => exact absurd (readContents_eq_ok_iff.mp read) (undescribed _ _)
  | error failure =>
      rcases finite_of_readContents (asks.finite_description holds)
        (fun fields given => asks.finite_mapping holds given) read with ⟨issues, rfl, inputs⟩
      have finite : hasFiniteNumbers (.list (issues.map formIssue)) = true :=
        hasFiniteNumbers_list.mpr (List.forall_mem_map.mpr fun issue member =>
          hasFiniteNumbers_formIssue (inputs issue member).finite)
      refine ⟨.list (issues.map formIssue),
        outcome_respond_of_asks holds.json asks ?_ (hasFiniteNumbers_detail finite)⟩
      unfold generate
      rw [find_of_chooses chooses]
      dsimp only
      rw [read]
      rfl

/-- A described component is compiled as by a direct call, or the build comes to an element type
without an entry. -/
theorem outcome_respond_of_described (holds : IsFiniteJson body) (asks : Asks body request)
    (unfetched : given? request.mappingAddress = none) (chooses : request.Chooses settings flavor)
    (describes : request.Describes component table)
    (acyclic : ((Generator.ofFlavor flavor none settings.styleSettings).tableFor
      (some table)).Acyclic) :
    let generator := Generator.ofFlavor flavor none settings.styleSettings
    let merged := generator.tableFor (some table)
    (∃ compiled,
      (generator.generate request.description.toValue request.overrides).outcome = .ok compiled ∧
      (respond (.standard settings) surroundings (compileRequest body)).outcome =
        .ok ⟨200, formAnswer (.ofCompiled compiled)⟩ ∧
      ∀ place node, merged.Reaches component.content place node → ¬ merged.IsUnmapped node) ∨
    ∃ detail place node,
      (respond (.standard settings) surroundings (compileRequest body)).outcome =
        .ok (.detail 422 detail) ∧
      merged.Reaches component.content place node ∧ merged.IsUnmapped node := by
  intro generator merged
  have writable := Generator.writable_of_readComponent (asks.finite_description holds).json
    (readComponent_eq_ok_iff.mpr describes.component)
  have tableWritable : table.Writable := by
    rcases (exists_ofOptional_iff request table).mpr describes.table with ⟨given, read, rfl⟩
    exact MappingTable.writable_of_ofOptional (asks.json_overrides holds) read
  have found := @outcome_generate surroundings _ _ _ _ _ (find_of_chooses chooses) unfetched
    describes
  rcases @compile_cases settings flavor _ (some table) writable tableWritable acyclic with
    ⟨compiled, succeeded, mapped⟩ | ⟨_, failed, place, node, reached, unmapped, rfl⟩
  · rw [succeeded] at found
    exact .inl ⟨compiled, (outcome_direct generator describes).trans succeeded,
      outcome_respond_of_asks holds.json asks found (hasFiniteNumbers_formAnswer _), mapped⟩
  · rw [failed] at found
    exact .inr ⟨_, place, node, outcome_respond_of_asks holds.json asks found
      (hasFiniteNumbers_detail rfl), reached, unmapped⟩

end Steps

/-! ## The decision -/

/-- The response to a body is decided in order.  A body that does not have the form of a request
is refused first.  Then comes what it asks for: without a generator it is not found.  Then come the
description and the entries of the mapping, which have to be valid, and then the element types that
the build reaches, which have to be in the tables.  What is left is compiled, and the answer holds
what a direct call returns. -/
def Decided (settings : Settings) (body : Value) (response : Response) : Prop :=
  response.status ∈ [200, 404, 422] ∧
  ((∀ request, ¬ Asks body request) → response.status = 422) ∧
  ∀ request, Asks body request →
    (response.status = 404 ↔ ∀ flavor, ¬ request.Chooses settings flavor) ∧
    ∀ flavor, request.Chooses settings flavor →
      ((∀ component table, ¬ request.Describes component table) → response.status = 422) ∧
      ∀ component table, request.Describes component table →
        let generator := Generator.ofFlavor flavor none settings.styleSettings
        let merged := generator.tableFor (some table)
        (response.status = 422 ↔ ∃ place node,
          merged.Reaches component.content place node ∧ merged.IsUnmapped node) ∧
        ((∀ place node, merged.Reaches component.content place node → ¬ merged.IsUnmapped node) →
          ∃ compiled,
            (generator.generate request.description.toValue request.overrides).outcome =
              .ok compiled ∧
            response = ⟨200, formAnswer
              ⟨compiled.files, compiled.packages, concatenate compiled.files⟩⟩)

/-- A body that has been read, with finite numbers and without a mapping to fetch, is decided. -/
theorem exists_decided {settings : Settings} {surroundings : Surroundings} {body : Value}
    (holds : IsFiniteJson body)
    (unfetched : ∀ request, Asks body request → given? request.mappingAddress = none)
    (acyclic : ∀ request flavor component table, Asks body request →
      request.Chooses settings flavor → request.Describes component table →
      ((Generator.ofFlavor flavor none settings.styleSettings).tableFor (some table)).Acyclic) :
    ∃ response,
      (respond (.standard settings) surroundings (compileRequest body)).outcome = .ok response ∧
      Decided settings body response := by
  unfold Decided
  have json := holds.json
  -- Each case gives the response; a body has one request, with one flavor and one description.
  by_cases asked : ∃ request, Asks body request
  case neg =>
    have unasked := not_exists.mp asked
    rcases @outcome_respond_of_unasked surroundings _ (.standard settings) holds unasked with
      ⟨detail, found⟩
    exact ⟨_, found, .tail _ (.tail _ (.head _)), fun _ => rfl,
      fun request asks => absurd asks (unasked request)⟩
  rcases asked with ⟨request, asks⟩
  by_cases chosen : ∃ flavor, request.Chooses settings flavor
  case neg =>
    have unchosen := not_exists.mp chosen
    rcases @outcome_respond_of_unchosen _ surroundings _ _ json asks unchosen with ⟨detail, found⟩
    refine ⟨_, found, .tail _ (.head _), fun unasked => absurd asks (unasked request), ?_⟩
    intro other asksOther
    obtain rfl := asks.unique json asksOther
    exact ⟨⟨fun _ => unchosen, fun _ => rfl⟩,
      fun flavor chooses => absurd chooses (unchosen flavor)⟩
  rcases chosen with ⟨flavor, chooses⟩
  by_cases described : ∃ component table, request.Describes component table
  case neg =>
    have undescribed (component table) : ¬ request.Describes component table :=
      fun describes => described ⟨component, table, describes⟩
    rcases @outcome_respond_of_undescribed _ surroundings _ _ _ holds asks chooses undescribed with
      ⟨detail, found⟩
    refine ⟨_, found, .tail _ (.tail _ (.head _)), fun unasked => absurd asks (unasked request), ?_⟩
    intro other asksOther
    obtain rfl := asks.unique json asksOther
    exact ⟨⟨nofun, fun unchosen => absurd chooses (unchosen flavor)⟩, fun _ _ => ⟨fun _ => rfl,
      fun component table describes => absurd describes (undescribed component table)⟩⟩
  rcases described with ⟨component, table, describes⟩
  rcases @outcome_respond_of_described _ surroundings _ _ _ _ _ holds asks (unfetched request asks)
      chooses describes (acyclic _ _ _ _ asks chooses describes) with
    ⟨compiled, direct, found, mapped⟩ | ⟨detail, place, node, found, reached, unmapped⟩
  · refine ⟨_, found, .head _, fun unasked => absurd asks (unasked request), ?_⟩
    intro other asksOther
    obtain rfl := asks.unique json asksOther
    refine ⟨⟨nofun, fun unchosen => absurd chooses (unchosen flavor)⟩, ?_⟩
    intro otherFlavor choosesOther
    obtain rfl := chooses.unique choosesOther
    refine ⟨fun undescribed => absurd describes (undescribed component table), ?_⟩
    intro otherComponent otherTable again
    obtain ⟨rfl, rfl⟩ := describes.unique again
    refine ⟨⟨nofun, ?_⟩, fun _ => ⟨compiled, direct, rfl⟩⟩
    rintro ⟨place, node, reached, unmapped⟩
    exact absurd unmapped (mapped place node reached)
  · refine ⟨_, found, .tail _ (.tail _ (.head _)), fun unasked => absurd asks (unasked request), ?_⟩
    intro other asksOther
    obtain rfl := asks.unique json asksOther
    refine ⟨⟨nofun, fun unchosen => absurd chooses (unchosen flavor)⟩, ?_⟩
    intro otherFlavor choosesOther
    obtain rfl := chooses.unique choosesOther
    refine ⟨fun _ => rfl, ?_⟩
    intro otherComponent otherTable again
    obtain ⟨rfl, rfl⟩ := describes.unique again
    exact ⟨⟨fun _ => ⟨place, node, reached, unmapped⟩, fun _ => rfl⟩,
      fun mapped => absurd unmapped (mapped place node reached)⟩

theorem readBody_some {text : String} (filled : text ≠ "") :
    readBody (some text) = some <$> Json.read text := by
  have given : given? (some text) = some text :=
    Option.filter_eq_some_iff.mpr ⟨rfl, by simpa using filled⟩
  unfold readBody
  rw [given]

/-- A text that reads as a value is answered as the value is. -/
theorem outcome_receive_of_read {registry : GeneratorRegistry} {surroundings : Surroundings}
    {text : String} {body : Value} (read : Json.read text = .ok body) :
    (receive registry surroundings (compileMessage text)).outcome =
      (respond registry surroundings (compileRequest body)).outcome := by
  have filled : text ≠ "" := by
    rintro rfl
    cases read
  unfold receive respond compileMessage compileRequest
  rw [readBody_some filled, read]
  rfl

/-- A text that cannot be read is refused, and how tells whether it breaks the rules of the
notation or goes beyond the limits of the reader. -/
theorem outcome_receive_of_fault {registry : GeneratorRegistry} {surroundings : Surroundings}
    {text : String} {fault : ReadFault} (read : Json.read text = .error fault) :
    ∃ detail, (receive registry surroundings (compileMessage text)).outcome =
      .ok (.detail (if fault = .malformed then 422 else 400) detail) := by
  unfold receive compileMessage
  rw [outcome_respondTo]
  by_cases empty : text = ""
  · subst empty
    cases read
    have absent : readBody (some "") = .ok none := by
      unfold readBody
      rw [show given? (some "") = none by decide]
    have missing : readRequest none = .error [⟨.missing, [.key "body"], .null⟩] :=
      congrArg Except.error (List.mergeSort_singleton _)
    rw [absent, compileBody, missing]
    exact ⟨_, congrArg Except.ok (Response.sent_of_finite (by decide))⟩
  · rw [readBody_some empty, read]
    cases fault with
    | malformed => exact ⟨_, rfl⟩
    | _ => exact ⟨_, rfl⟩

/-- A request for a parcel, which brings its label along. -/
def parcelRequest : GenerateRequest where
  description := [("name", .text "Parcel"),
    ("content", .map [(.text "type", .text "parcel"), (.text "name", .text "box")])]
  target := .react
  flavor := none
  mapping := some [
    ("parcel", .map [(.text "type", .text "div"), (.text "children",
      .list [.map [(.text "type", .text "label"), (.text "name", .text "sender")]])]),
    ("label", .map [(.text "type", .text "span")])]
  mappingAddress := none

/-- A body that asks for the parcel. -/
def parcelBody : Value :=
  record [("uidl", parcelRequest.description.toValue), ("mapping", parcelRequest.overrides)]

/-- The text of the body. -/
def parcelText : String :=
  "\x7b\"uidl\": \x7b\"name\": \"Parcel\", " ++
    "\"content\": \x7b\"type\": \"parcel\", \"name\": \"box\"\x7d\x7d, " ++
  "\"mapping\": \x7b\"parcel\": \x7b\"type\": \"div\", " ++
    "\"children\": [\x7b\"type\": \"label\", \"name\": \"sender\"\x7d]\x7d, " ++
    "\"label\": \x7b\"type\": \"span\"\x7d\x7d\x7d"

set_option maxRecDepth 4000 in
theorem read_parcelText : Json.read parcelText = .ok parcelBody := by
  unfold Json.read parcelText
  simp only [String.reduceAppend]
  rw [String.toList_ofList]
  rfl

/-- The parcel as it is read. -/
def parcel : Component :=
  ⟨"Parcel", .ofType "parcel" "box", none, none, none⟩

/-- The mapping of the parcel as it is read. -/
def parcelTable : MappingTable :=
  [(.text "parcel", ⟨"div", none, none, some [.node (.ofType "label" "sender")], none⟩),
    (.text "label", ⟨"span", none, none, none, none⟩)]

theorem parcelBody_asks : Asks parcelBody parcelRequest :=
  ⟨rfl, .inl ⟨rfl, rfl⟩, rfl, rfl, rfl⟩

theorem parcelRequest_describes : parcelRequest.Describes parcel parcelTable where
  component := by
    change checkComponent (.map [(.text "name", .text "Parcel"), (.text "content",
      .map [(.text "type", .text "parcel"), (.text "name", .text "box")])]) = .valid parcel
    cbv
  table := .cons ⟨rfl, by dsimp only; cbv⟩ (.cons ⟨rfl, by dsimp only; cbv⟩ .nil)

/-- The label brings nothing along. -/
theorem acyclic_parcelTable (settings : StyleSettings) (flavor : Flavor) :
    ((Generator.ofFlavor flavor none settings).tableFor (some parcelTable)).Acyclic := by
  apply MappingTable.acyclic_merge_of_rank fun type => if type = "parcel" then 1 else 0
  rintro type entry (inOwn | inGiven) root isRoot node walked
  · cases inOwn
  · rcases List.mem_pair.mp inGiven with same | same
    · cases same
      rw [List.mem_singleton.mp isRoot, ContentNode.walk_ofType] at walked
      rw [List.mem_singleton.mp walked]
      decide
    · cases same
      cases isRoot

/-- The parcel and its label are in the tables. -/
theorem parcel_mapped (settings : StyleSettings) (flavor : Flavor) :
    let merged := (Generator.ofFlavor flavor none settings).tableFor (some parcelTable)
    ∀ place node, merged.Reaches parcel.content place node → ¬ merged.IsUnmapped node := by
  intro merged place node reached unmapped
  have brought : merged.below parcel.content = [(.child 0, .ofType "label" "sender")] := rfl
  have leaf : merged.below (.ofType "label" "sender") = [] := rfl
  cases reached with
  | here => exact absurd unmapped.2 (Option.some_ne_none _)
  | onward led further =>
      rw [brought, List.mem_singleton] at led
      cases led
      cases further with
      | here => exact absurd unmapped.2 (Option.some_ne_none _)
      | onward impossible _ =>
          rw [leaf] at impossible
          cases impossible

/-- A request in which all is wrong but its form: there is no such flavor, the description is
empty, and the entry of the mapping is none. -/
def misnamedRequest : GenerateRequest :=
  ⟨[], .react, some "Tailwind", some [("card", .null)], none⟩

def misnamedBody : Value :=
  record [("uidl", .map []), ("flavor", .text "Tailwind"),
    ("mapping", .map [(.text "card", .null)])]

def misnamedText : String :=
  "\x7b\"uidl\": \x7b\x7d, \"flavor\": \"Tailwind\", \"mapping\": \x7b\"card\": null\x7d\x7d"

theorem read_misnamedText : Json.read misnamedText = .ok misnamedBody := by
  unfold Json.read misnamedText
  rw [String.toList_ofList]
  rfl

theorem misnamedBody_asks : Asks misnamedBody misnamedRequest :=
  ⟨rfl, .inl ⟨rfl, rfl⟩, rfl, rfl, rfl⟩

theorem misnamedRequest_unchosen (flavor : Flavor) : ¬ misnamedRequest.Chooses {} flavor := by
  rintro ⟨_, named⟩
  revert named
  cases flavor <;> decide

end Service
end ComponentCompiler
