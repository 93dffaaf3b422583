import ComponentCompiler.CommandLine.Run
import ComponentCompiler.Proofs.Generator.Failure

namespace ComponentCompiler
namespace CommandLine

/-!
# How a run of the command ends

A run ends with a status or by a failure that passes through it.  The status is two when
there is no document to compile, one when the target, the flavor, the mapping or an element
type is rejected, and zero otherwise.  With a status other than zero nothing is printed and
no file is changed.

Not everything that is rejected gets a status.  A document that is no component fails in
the check of the description, and that failure is none of those that the command reports.
So it passes through, as do the failures that come from reading bytes and numbers, from
values of a looser notation and from the file system.

The account is for texts without escapes of half characters.  Such a text has no value here, and
where a run stops over it is not told.
-/

/-! ## Descriptions -/

section Descriptions

variable (surroundings : Surroundings) (path : Path)

/-- The file at a path holds a text. -/
def HoldsText (text : String) : Prop :=
  ∃ content, surroundings.readFile path = .ok content ∧ decodeText content = .ok text

/-- The file at a path holds a document. -/
def HoldsDocument (document : Value) : Prop :=
  ∃ text, HoldsText surroundings path text ∧ Json.read text = .ok document

/-- There is no document at a path: the file system has no file there to read, or the text
of the file breaks the rules of the notation. -/
def LacksDocument : Prop :=
  (∃ fault, surroundings.readFile path = .error fault ∧ fault.isFound = true) ∨
    ∃ text, HoldsText surroundings path text ∧ Json.read text = .error .malformed

/-- The failures that end the reading of a description without half characters. -/
inductive Unreadable : Failure → Prop
  | path (zero : surroundings.readFile path = .error .zeroCharacter) :
      Unreadable (.file .zeroCharacter)
  | bytes {content : ByteArray} (read : surroundings.readFile path = .ok content)
      (noText : String.fromUTF8? content = none) : Unreadable .undecodable
  | limits {text : String} {fault : ReadFault} (held : HoldsText surroundings path text)
      (stopped : Json.read text = .error fault) (wellFormed : fault ≠ .malformed)
      (whole : fault ≠ .halfCharacter) : Unreadable (.unreadable fault)

variable {surroundings path}

theorem HoldsText.unique {text other : String} (held : HoldsText surroundings path text)
    (heldToo : HoldsText surroundings path other) : text = other := by
  rcases held with ⟨content, read, decoded⟩
  rcases heldToo with ⟨_, readToo, decodedToo⟩
  cases read.symm.trans readToo
  exact Except.ok.inj (decoded.symm.trans decodedToo)

/-- What reading a description comes to when the file holds a text. -/
theorem readDescription_of_holdsText {text : String} (held : HoldsText surroundings path text) :
    readDescription surroundings path =
      match Json.read text with
      | .ok document => .ok (.ok document)
      | .error .malformed => .ok (.error .malformed)
      | .error fault => .error (.unreadable fault) := by
  rcases held with ⟨content, read, decoded⟩
  unfold readDescription
  rw [read]
  dsimp only
  rw [decoded]
  simp only [bind, Except.bind]
  cases Json.read text with
  | ok document => rfl
  | error fault => cases fault <;> rfl

theorem readDescription_of_holds {document : Value}
    (holds : HoldsDocument surroundings path document) :
    readDescription surroundings path = .ok (.ok document) := by
  rcases holds with ⟨text, held, parsed⟩
  rw [readDescription_of_holdsText held, parsed]

theorem readDescription_of_lacks (lacks : LacksDocument surroundings path) :
    ∃ fault, readDescription surroundings path = .ok (.error fault) := by
  rcases lacks with ⟨fault, read, found⟩ | ⟨text, held, malformed⟩
  · refine ⟨.file fault, ?_⟩
    unfold readDescription
    rw [read]
    exact if_pos found
  · rw [readDescription_of_holdsText held, malformed]
    exact ⟨.malformed, rfl⟩

theorem readDescription_of_unreadable {failure : Failure}
    (unreadable : Unreadable surroundings path failure) :
    readDescription surroundings path = .error failure := by
  cases unreadable with
  | path zero =>
      unfold readDescription
      rw [zero]
      rfl
  | bytes read noText =>
      unfold readDescription decodeText
      rw [read]
      dsimp only
      rw [noText]
      rfl
  | @limits _ fault held stopped wellFormed _ =>
      rw [readDescription_of_holdsText held, stopped]
      cases fault with
      | malformed => exact absurd rfl wellFormed
      | _ => rfl

/-- At every path without half characters there is a document, or none, or something that cannot
be read. -/
theorem description_cases
    (whole : ∀ text, HoldsText surroundings path text → Json.read text ≠ .error .halfCharacter) :
    (∃ document, HoldsDocument surroundings path document) ∨ LacksDocument surroundings path ∨
      ∃ failure, Unreadable surroundings path failure := by
  cases read : surroundings.readFile path with
  | error fault =>
      cases found : fault.isFound with
      | true => exact .inr (.inl (.inl ⟨fault, read, found⟩))
      | false =>
          cases fault with
          | zeroCharacter => exact .inr (.inr ⟨_, .path read⟩)
          | _ => cases found
  | ok content =>
      cases bytes : String.fromUTF8? content with
      | none => exact .inr (.inr ⟨_, .bytes read bytes⟩)
      | some text =>
          have held : HoldsText surroundings path (String.ofList (unifyBreaks text.toList)) := by
            refine ⟨content, read, ?_⟩
            unfold decodeText
            rw [bytes]
          cases parsed : Json.read (String.ofList (unifyBreaks text.toList)) with
          | ok document => exact .inl ⟨document, _, held, parsed⟩
          | error fault =>
              by_cases malformed : fault = .malformed
              · exact .inr (.inl (.inr ⟨_, held, malformed ▸ parsed⟩))
              · exact .inr (.inr ⟨_, .limits held parsed malformed
                  fun half => whole _ held (half ▸ parsed)⟩)

end Descriptions

/-! ## What is asked for -/

/-- The arguments ask for a flavor of the target that there is. -/
def Arguments.Chooses (settings : Settings) (arguments : Arguments) (flavor : Flavor) : Prop :=
  arguments.target = "React" ∧
    (given? arguments.flavor).getD settings.defaultFlavor = flavor.word

/-- The mapping of a run: none is asked for, or it is loaded. -/
inductive Maps (surroundings : Surroundings) (arguments : Arguments) : Option MappingTable → Prop
  | unasked (absent : given? arguments.mapping = none) : Maps surroundings arguments none
  | loaded {source : String} {table : MappingTable} (asked : given? arguments.mapping = some source)
      (found : (MappingTable.load surroundings source).outcome = .ok table) :
      Maps surroundings arguments (some table)

/-- The texts that a run reads escape no half of a character. -/
structure ReadsWhole (surroundings : Surroundings) (arguments : Arguments) : Prop where
  description : ∀ text, HoldsText surroundings (Path.ofText arguments.description) text →
    Json.read text ≠ .error .halfCharacter
  mapping : ∀ source, given? arguments.mapping = some source →
    (MappingTable.load surroundings source).outcome ≠ .error (.unreadable .halfCharacter)

/-- The built-in tables with a mapping over them. -/
def tableWith (overrides : Option MappingTable) : MappingTable :=
  MappingTable.merge
    [some (MappingTable.merge [some MappingTable.markup, some MappingTable.react, none]), overrides]

/-- A component as a run compiles it. -/
def compiledWith (settings : Settings) (flavor : Flavor) (overrides : Option MappingTable)
    (component : Component) : Run CompiledComponent :=
  (Generator.ofFlavor flavor none settings.styleSettings).compile overrides component

section Choices

variable {settings : Settings} {arguments : Arguments}

theorem find_of_chooses {flavor : Flavor} (chooses : arguments.Chooses settings flavor) :
    (GeneratorRegistry.standard settings).find (Target.ofWord? arguments.target) arguments.target
      arguments.flavor = .ok (Generator.ofFlavor flavor none settings.styleSettings) :=
  GeneratorRegistry.find_standard (Target.ofWord?_eq_some_iff.mpr chooses.1.symm) chooses.2

theorem find_of_unchosen (unchosen : ∀ flavor, ¬ arguments.Chooses settings flavor) :
    ∃ failure, (GeneratorRegistry.standard settings).find (Target.ofWord? arguments.target)
      arguments.target arguments.flavor = .error failure ∧ failure.isReported = true :=
  GeneratorRegistry.find_standard_of_unchosen fun flavor ⟨known, named⟩ =>
    unchosen flavor ⟨(Target.ofWord?_eq_some_iff.mp known).symm, named⟩

end Choices

/-! ## Mappings -/

/-- The form in which a source gives its mapping. -/
def formOf (surroundings : Surroundings) (source : String) : DocumentForm :=
  if Text.isStartOf "http://" source || Text.isStartOf "https://" source then
    match Address.read source with
    | .ok known =>
      match surroundings.fetch known.place.text with
      | .answer _ headers _ => .ofAnswer source headers
      | .unreachable => .strict
    | .error _ => .strict
  else .ofExtension (Path.ofText source).extension

theorem exists_ofText_of_load {surroundings : Surroundings} {source : String}
    {table : MappingTable} (found : (MappingTable.load surroundings source).outcome = .ok table) :
    ∃ text name, MappingTable.ofText (formOf surroundings source) text name = .ok table := by
  unfold MappingTable.load at found
  unfold formOf
  split at found
  · rename_i isAddress
    rw [if_pos isAddress]
    rcases Traced.outcome_bind_eq_ok.mp found with ⟨_, _, afterNote⟩
    rcases Traced.outcome_bind_eq_ok.mp afterNote with ⟨known, read, afterRead⟩
    rw [ok_of_mapError_eq_ok read]
    dsimp only
    cases fetched : surroundings.fetch known.place.text with
    | answer status headers body =>
        rw [fetched] at afterRead
        dsimp only at afterRead
        split at afterRead
        · cases afterRead
        split at afterRead
        · rcases Traced.outcome_bind_eq_ok.mp afterRead with ⟨text, _, made⟩
          exact ⟨text, source, made⟩
        · cases afterRead
    | unreachable =>
        rw [fetched] at afterRead
        cases afterRead
  · rename_i isFile
    rw [if_neg isFile]
    rcases bind_eq_ok_iff.mp found with ⟨content, _, afterRead⟩
    rcases bind_eq_ok_iff.mp afterRead with ⟨text, _, made⟩
    exact ⟨text, _, made⟩

/-- A mapping in the stricter notation can be written. -/
theorem writable_of_strict {surroundings : Surroundings} {source : String} {table : MappingTable}
    (found : (MappingTable.load surroundings source).outcome = .ok table)
    (strict : formOf surroundings source = .strict) : table.Writable := by
  rcases exists_ofText_of_load found with ⟨text, name, made⟩
  rw [strict] at made
  rcases bind_eq_ok_iff.mp made with ⟨document, read, checked⟩
  have json := Json.isJson_of_read (ok_of_mapError_eq_ok read)
  split at checked
  · exact Schema.writable_of_checkTable (Value.isJson_map.mp json) (ok_of_mapError_eq_ok checked)
  · cases checked

/-- The built-in tables bring no content along. -/
theorem acyclic_tableWith_none : (tableWith none).Acyclic := by
  apply MappingTable.acyclic_merge_of_rank fun _ => 0
  rintro type entry (inOwn | inGiven)
  · cases inOwn
  · cases inGiven

/-! ## Rejections -/

section Calls

variable (settings : Settings) (surroundings : Surroundings) (arguments : Arguments)
  (document : Value)

/-- What is asked for is rejected, and the command reports it: there is no such generator, the
mapping is refused, or the build comes to an element type without an entry. -/
inductive Rejected : Prop
  | generator (unchosen : ∀ flavor, ¬ arguments.Chooses settings flavor)
  | mapping {flavor : Flavor} {source : String} {failure : Failure}
      (chosen : arguments.Chooses settings flavor) (asked : given? arguments.mapping = some source)
      (failed : (MappingTable.load surroundings source).outcome = .error failure)
      (reported : failure.isReported = true)
  | element {flavor : Flavor} {overrides : Option MappingTable} {component : Component}
      {place : List Step} {node : ContentNode} (chosen : arguments.Chooses settings flavor)
      (mapped : Maps surroundings arguments overrides)
      (described : Generator.readComponent document = .ok component)
      (reached : (tableWith overrides).Reaches component.content place node)
      (unmapped : (tableWith overrides).IsUnmapped node)
      (writable : ∀ fault, (compiledWith settings flavor overrides component).outcome ≠
        .error (.unrenderable fault))

/-- The failures that the command does not report: those of a mapping that cannot be read at
all, the issues of a document that is no component, and values of a looser notation that
cannot be written. -/
inductive Unreported : Failure → Prop
  | mapping {flavor : Flavor} {source : String} {failure : Failure}
      (chosen : arguments.Chooses settings flavor) (asked : given? arguments.mapping = some source)
      (failed : (MappingTable.load surroundings source).outcome = .error failure)
      (unreported : failure.isReported = false) (whole : failure ≠ .unreadable .halfCharacter) :
      Unreported failure
  | document {flavor : Flavor} {overrides : Option MappingTable} {issues : List Schema.Issue}
      (chosen : arguments.Chooses settings flavor) (mapped : Maps surroundings arguments overrides)
      (invalid : Generator.readComponent document = .error (.invalid issues)) :
      Unreported (.invalid issues)
  | value {flavor : Flavor} {source : String} {table : MappingTable} {component : Component}
      {fault : Script.RenderFault} (chosen : arguments.Chooses settings flavor)
      (asked : given? arguments.mapping = some source)
      (loose : formOf surroundings source = .loose)
      (loaded : (MappingTable.load surroundings source).outcome = .ok table)
      (described : Generator.readComponent document = .ok component)
      (failed : (compiledWith settings flavor (some table) component).outcome =
        .error (.unrenderable fault)) : Unreported (.unrenderable fault)

variable {settings surroundings arguments document}

/-! ### The steps of a call -/

theorem compileDescription_of_unchosen
    (unchosen : ∀ flavor, ¬ arguments.Chooses settings flavor) :
    ∃ failure, (compileDescription settings surroundings arguments document).outcome =
      .error failure ∧ failure.isReported = true := by
  rcases find_of_unchosen unchosen with ⟨failure, missing, reported⟩
  refine ⟨failure, ?_, reported⟩
  unfold compileDescription
  rw [missing]
  rfl

theorem compileDescription_of_failed {flavor : Flavor} {source : String} {failure : Failure}
    (chosen : arguments.Chooses settings flavor) (asked : given? arguments.mapping = some source)
    (failed : (MappingTable.load surroundings source).outcome = .error failure) :
    (compileDescription settings surroundings arguments document).outcome = .error failure := by
  unfold compileDescription
  rw [find_of_chooses chosen, asked, Traced.outcome_bind]
  change (some <$> MappingTable.load surroundings source >>= _ : Run _).outcome = _
  rw [← bind_pure_comp, bind_assoc, Traced.outcome_bind, failed]
  rfl

theorem compileDescription_of_maps {flavor : Flavor} {overrides : Option MappingTable}
    (chosen : arguments.Chooses settings flavor) (mapped : Maps surroundings arguments overrides) :
    (compileDescription settings surroundings arguments document).outcome =
      Generator.readComponent document >>= fun component =>
        (compiledWith settings flavor overrides component).outcome := by
  unfold compileDescription
  rw [find_of_chooses chosen, Traced.outcome_bind]
  cases mapped with
  | unasked absent =>
      rw [absent]
      change (Traced.ofExcept (Generator.readComponent document) >>= _ : Run _).outcome = _
      rw [Traced.outcome_bind]
      rfl
  | loaded asked found =>
      rw [asked]
      change (some <$> MappingTable.load surroundings _ >>= _ : Run _).outcome = _
      rw [← bind_pure_comp, bind_assoc, Traced.outcome_bind, found]
      change (Traced.ofExcept (Generator.readComponent document) >>= _ : Run _).outcome = _
      rw [Traced.outcome_bind]
      rfl

theorem issues_of_readComponent {failure : Failure}
    (failed : Generator.readComponent document = .error failure) :
    ∃ issues, failure = .invalid issues := by
  rcases error_of_mapError_eq_error failed with ⟨issues, _, named⟩
  exact ⟨issues, named⟩

/-- What is asked for is not there, or its mapping cannot be loaded, or both are at hand. -/
theorem choice_cases (settings : Settings) (surroundings : Surroundings) (arguments : Arguments) :
    (∀ flavor, ¬ arguments.Chooses settings flavor) ∨
    (∃ flavor source failure, arguments.Chooses settings flavor ∧
      given? arguments.mapping = some source ∧
      (MappingTable.load surroundings source).outcome = .error failure) ∨
    ∃ flavor overrides, arguments.Chooses settings flavor ∧
      Maps surroundings arguments overrides := by
  by_cases chosen : ∃ flavor, arguments.Chooses settings flavor
  · rcases chosen with ⟨flavor, chooses⟩
    cases asked : given? arguments.mapping with
    | none => exact .inr (.inr ⟨flavor, none, chooses, .unasked asked⟩)
    | some source =>
        cases loaded : (MappingTable.load surroundings source).outcome with
        | error failure => exact .inr (.inl ⟨flavor, source, failure, chooses, rfl, loaded⟩)
        | ok table => exact .inr (.inr ⟨flavor, some table, chooses, .loaded asked loaded⟩)
  · exact .inl (not_exists.mp chosen)

/-! ### The failures of a call -/

theorem compiledWith_failsWithin {flavor : Flavor} {overrides : Option MappingTable}
    (acyclic : (tableWith overrides).Acyclic) (component : Component) :
    (compiledWith settings flavor overrides component).FailsWithin fun failure =>
      failure.IsUnrenderable ∨ (tableWith overrides).FailsUnmapped component.content failure :=
  compile_failsWithin flavor "styles" settings.camelCaseClassNames settings.styleSettings.library
    component rfl acyclic

/-- What can be written is never a reason to fail. -/
theorem compiledWith_ne_unrenderable {flavor : Flavor} {overrides : Option MappingTable}
    {component : Component} (acyclic : (tableWith overrides).Acyclic) (writable : component.Writable)
    (tableWritable : MappingTable.Writable (overrides.getD [])) (fault : Script.RenderFault) :
    (compiledWith settings flavor overrides component).outcome ≠ .error (.unrenderable fault) := by
  intro failed
  rcases compile_cases settings flavor writable tableWritable acyclic with
    ⟨_, succeeded, _⟩ | ⟨_, unmapped, _, _, _, _, rfl⟩
  · cases succeeded.symm.trans failed
  · cases unmapped.symm.trans failed

theorem outcome_of_rejected
    (acyclic : ∀ overrides, Maps surroundings arguments overrides → (tableWith overrides).Acyclic)
    (rejected : Rejected settings surroundings arguments document) :
    ∃ failure, (compileDescription settings surroundings arguments document).outcome =
      .error failure ∧ failure.isReported = true := by
  cases rejected with
  | generator unchosen => exact compileDescription_of_unchosen unchosen
  | mapping chosen asked failed reported =>
      exact ⟨_, compileDescription_of_failed chosen asked failed, reported⟩
  | @element flavor overrides component _ _ chosen mapped described reached unmapped writable =>
      rw [compileDescription_of_maps chosen mapped, described]
      change ∃ failure, (compiledWith settings flavor overrides component).outcome = _ ∧ _
      cases ended : (compiledWith settings flavor overrides component).outcome with
      | ok compiled => exact absurd unmapped (mapped_of_compile ended _ _ reached)
      | error failure =>
          rcases compiledWith_failsWithin (acyclic _ mapped) component failure ended with
            ⟨fault, rfl⟩ | ⟨_, _, _, _, rfl⟩
          · exact absurd ended (writable fault)
          · exact ⟨_, rfl, rfl⟩

theorem outcome_of_unreported {failure : Failure}
    (unreported : Unreported settings surroundings arguments document failure) :
    (compileDescription settings surroundings arguments document).outcome = .error failure ∧
      failure.isReported = false := by
  cases unreported with
  | mapping chosen asked failed unreported _ =>
      exact ⟨compileDescription_of_failed chosen asked failed, unreported⟩
  | document chosen mapped invalid =>
      rw [compileDescription_of_maps chosen mapped, invalid]
      exact ⟨rfl, rfl⟩
  | value chosen asked _ loaded described failed =>
      rw [compileDescription_of_maps chosen (.loaded asked loaded), described]
      exact ⟨failed, rfl⟩

/-- Every failure of a call on a document is reported with a rejection, or it is one of those
that are not. -/
theorem failure_cases {failure : Failure} (json : document.isJson = true)
    (whole : ReadsWhole surroundings arguments)
    (acyclic : ∀ overrides, Maps surroundings arguments overrides → (tableWith overrides).Acyclic)
    (failed : (compileDescription settings surroundings arguments document).outcome =
      .error failure) :
    (failure.isReported = true ∧ Rejected settings surroundings arguments document) ∨
      failure.isReported = false ∧
        Unreported settings surroundings arguments document failure := by
  rcases choice_cases settings surroundings arguments with
    unchosen | ⟨flavor, source, early, chosen, asked, unloaded⟩ | ⟨flavor, overrides, chosen, mapped⟩
  · rcases compileDescription_of_unchosen unchosen with ⟨other, same, reported⟩
    cases same.symm.trans failed
    exact .inl ⟨reported, .generator unchosen⟩
  · cases (compileDescription_of_failed chosen asked unloaded).symm.trans failed
    cases reported : failure.isReported with
    | true => exact .inl ⟨rfl, .mapping chosen asked unloaded reported⟩
    | false =>
        exact .inr ⟨rfl, .mapping chosen asked unloaded reported
          fun half => whole.mapping _ asked (half ▸ unloaded)⟩
  · rw [compileDescription_of_maps chosen mapped] at failed
    cases described : Generator.readComponent document with
    | error early =>
        rw [described] at failed
        cases failed
        rcases issues_of_readComponent described with ⟨issues, rfl⟩
        exact .inr ⟨rfl, .document chosen mapped described⟩
    | ok component =>
        rw [described] at failed
        replace failed : (compiledWith settings flavor overrides component).outcome =
          .error failure := failed
        rcases compiledWith_failsWithin (acyclic _ mapped) component failure failed with
          ⟨fault, rfl⟩ | ⟨place, node, reached, unmapped, rfl⟩
        · -- only a mapping in a looser notation can hold such a value
          have strict (tableWritable : MappingTable.Writable (overrides.getD [])) :
              (compiledWith settings flavor overrides component).outcome ≠
                .error (.unrenderable fault) :=
            compiledWith_ne_unrenderable (acyclic _ mapped)
              (Generator.writable_of_readComponent json described) tableWritable fault
          cases mapped with
          | unasked absent =>
              exact absurd failed (strict fun _ member => absurd member List.not_mem_nil)
          | @loaded source _ asked found =>
              cases form : formOf surroundings source with
              | strict => exact absurd failed (strict (writable_of_strict found form))
              | loose => exact .inr ⟨rfl, .value chosen asked form found described failed⟩
        · refine .inl ⟨rfl, .element chosen mapped described reached unmapped fun fault other => ?_⟩
          cases failed.symm.trans other

end Calls

/-! ## Runs -/

section Runs

variable (tree : FileTree) (fetch : String → Fetched) (settings : Settings) (arguments : Arguments)

/-- The failures that pass through a run. -/
inductive Escapes : Failure → Prop
  | description {failure : Failure}
      (unreadable : Unreadable ⟨tree.read, fetch⟩ (Path.ofText arguments.description) failure) :
      Escapes failure
  | call {document : Value} {failure : Failure}
      (holds : HoldsDocument ⟨tree.read, fetch⟩ (Path.ofText arguments.description) document)
      (unreported : Unreported settings ⟨tree.read, fetch⟩ arguments document failure) :
      Escapes failure
  | output {document : Value} {compiled : CompiledComponent} {directory : String} {fault : FileFault}
      (holds : HoldsDocument ⟨tree.read, fetch⟩ (Path.ofText arguments.description) document)
      (compiles : (compileDescription settings ⟨tree.read, fetch⟩ arguments document).outcome =
        .ok compiled)
      (asked : arguments.out = some directory)
      (failed : tree.writeOutput compiled.files (Path.ofText directory) = .error fault) :
      Escapes (.file fault)

/-- What a run leaves of the files of a component: their text is printed, or they are written
below the directory that is asked for. -/
inductive Delivers (files : List OutputFile) : Ending → Prop
  | printed (unasked : arguments.out = none) : Delivers files ⟨0, concatenate files ++ "\n", tree⟩
  | written {directory : String} {left : FileTree} (asked : arguments.out = some directory)
      (made : tree.writeOutput files (Path.ofText directory) = .ok left) :
      Delivers files ⟨0, "", left⟩

/-- The ways in which a run ends. -/
inductive Ended : Except Failure Ending → Prop
  | lacking (lacks : LacksDocument ⟨tree.read, fetch⟩ (Path.ofText arguments.description)) :
      Ended (.ok ⟨2, "", tree⟩)
  | rejected {document : Value}
      (holds : HoldsDocument ⟨tree.read, fetch⟩ (Path.ofText arguments.description) document)
      (rejected : Rejected settings ⟨tree.read, fetch⟩ arguments document) :
      Ended (.ok ⟨1, "", tree⟩)
  | delivered {document : Value} {compiled : CompiledComponent} {ending : Ending}
      (holds : HoldsDocument ⟨tree.read, fetch⟩ (Path.ofText arguments.description) document)
      (compiles : (compileDescription settings ⟨tree.read, fetch⟩ arguments document).outcome =
        .ok compiled)
      (delivers : Delivers tree arguments compiled.files ending) : Ended (.ok ending)
  | escaped {failure : Failure} (escapes : Escapes tree fetch settings arguments failure) :
      Ended (.error failure)

variable {tree fetch settings arguments}

theorem runIn_of_lacks
    (lacks : LacksDocument ⟨tree.read, fetch⟩ (Path.ofText arguments.description)) :
    (runIn tree fetch settings arguments).outcome = .ok ⟨2, "", tree⟩ := by
  rcases readDescription_of_lacks lacks with ⟨fault, read⟩
  unfold runIn run
  dsimp only
  rw [read]
  rfl

theorem runIn_of_unreadable {failure : Failure}
    (unreadable : Unreadable ⟨tree.read, fetch⟩ (Path.ofText arguments.description) failure) :
    (runIn tree fetch settings arguments).outcome = .error failure := by
  unfold runIn run
  dsimp only
  rw [readDescription_of_unreadable unreadable]
  rfl

section Documents

variable {document : Value}
  (holds : HoldsDocument ⟨tree.read, fetch⟩ (Path.ofText arguments.description) document)
include holds

theorem runIn_of_failed {failure : Failure}
    (failed : (compileDescription settings ⟨tree.read, fetch⟩ arguments document).outcome =
      .error failure) :
    (runIn tree fetch settings arguments).outcome =
      if failure.isReported then .ok ⟨1, "", tree⟩ else .error failure := by
  unfold runIn run
  dsimp only
  rw [readDescription_of_holds holds]
  simp only [Traced.ofExcept, Traced.noteAll, Traced.bind_ok, failed]
  cases failure.isReported <;> rfl

/-- What a run brings about once a component is compiled. -/
theorem runIn_of_compiled {compiled : CompiledComponent}
    (compiles : (compileDescription settings ⟨tree.read, fetch⟩ arguments document).outcome =
      .ok compiled) :
    (runIn tree fetch settings arguments).outcome =
      match arguments.out with
      | none => .ok ⟨0, concatenate compiled.files ++ "\n", tree⟩
      | some directory =>
        ((tree.writeOutput compiled.files (Path.ofText directory)).mapError Failure.file).map
          fun written => ⟨0, "", written⟩ := by
  unfold runIn run
  dsimp only
  rw [readDescription_of_holds holds]
  simp only [Traced.ofExcept, Traced.noteAll, Traced.bind_ok, compiles]
  cases arguments.out with
  | none => rfl
  | some directory =>
      change (conclude tree (.files compiled.files (Path.ofText directory))).outcome = _
      unfold conclude
      rw [Traced.outcome_bind, Traced.ofExcept]
      dsimp only
      cases tree.writeOutput compiled.files (Path.ofText directory) <;> rfl

theorem runIn_of_delivers {compiled : CompiledComponent} {ending : Ending}
    (compiles : (compileDescription settings ⟨tree.read, fetch⟩ arguments document).outcome =
      .ok compiled) (delivers : Delivers tree arguments compiled.files ending) :
    (runIn tree fetch settings arguments).outcome = .ok ending := by
  rw [runIn_of_compiled holds compiles]
  cases delivers with
  | printed unasked => rw [unasked]
  | written asked made =>
      rw [asked]
      dsimp only
      rw [made]
      rfl

end Documents

theorem Delivers.status_eq_zero {files : List OutputFile} {ending : Ending}
    (delivers : Delivers tree arguments files ending) : ending.status = 0 := by
  cases delivers with
  | printed | written => rfl

/-- A failure that escapes is what the run ends by. -/
theorem runIn_of_escapes {failure : Failure}
    (escapes : Escapes tree fetch settings arguments failure) :
    (runIn tree fetch settings arguments).outcome = .error failure := by
  cases escapes with
  | description unreadable => exact runIn_of_unreadable unreadable
  | call holds unreported =>
      rcases outcome_of_unreported unreported with ⟨failed, unreportedFailure⟩
      rw [runIn_of_failed holds failed, unreportedFailure]
      rfl
  | output holds compiles asked failed =>
      rw [runIn_of_compiled holds compiles, asked]
      dsimp only
      rw [failed]
      rfl

theorem ended (whole : ReadsWhole ⟨tree.read, fetch⟩ arguments)
    (acyclic : ∀ overrides, Maps ⟨tree.read, fetch⟩ arguments overrides →
      (tableWith overrides).Acyclic) :
    Ended tree fetch settings arguments (runIn tree fetch settings arguments).outcome := by
  rcases description_cases whole.description with
    ⟨document, holds⟩ | lacks | ⟨failure, unreadable⟩
  · cases ran : (compileDescription settings ⟨tree.read, fetch⟩ arguments document).outcome with
    | error failure =>
        have json : document.isJson = true := by
          rcases holds with ⟨text, _, parsed⟩
          exact Json.isJson_of_read parsed
        rw [runIn_of_failed holds ran]
        rcases failure_cases json whole acyclic ran with ⟨reported, rejected⟩ | ⟨unreported, kind⟩
        · rw [reported]
          exact .rejected holds rejected
        · rw [unreported]
          exact .escaped (.call holds kind)
    | ok compiled =>
        rw [runIn_of_compiled holds ran]
        cases asked : arguments.out with
        | none => exact .delivered holds ran (.printed asked)
        | some directory =>
            dsimp only
            cases written : tree.writeOutput compiled.files (Path.ofText directory) with
            | ok left => exact .delivered holds ran (.written asked written)
            | error fault => exact .escaped (.output holds ran asked written)
  · rw [runIn_of_lacks lacks]
    exact .lacking lacks
  · rw [runIn_of_unreadable unreadable]
    exact .escaped (.description unreadable)

end Runs

/-- A run over tables whose default content has no circle, and over texts that escape no half of a
character, ends with status two exactly when there is no document, with status one exactly when
the target, the flavor, the mapping or an element type is rejected, with status zero exactly when
the component is compiled and delivered, and by a failure exactly when one escapes; the issues of
a document that is no component are among these, and so are a whole number of more than
`mostDigits` digits in a text and collections nested deeper than `Json.deepest`.  With another
status than zero nothing is printed, and all files are as before.

How deep a description may nest is bounded here by its reader alone.  The bounds of its check
and of the stages behind it are not modelled. -/
theorem run_ends_with_status_or_escapes {tree : FileTree} {fetch : String → Fetched}
    {settings : Settings} {arguments : Arguments}
    (whole : ReadsWhole ⟨tree.read, fetch⟩ arguments)
    (acyclic : ∀ source table, given? arguments.mapping = some source →
      (MappingTable.load ⟨tree.read, fetch⟩ source).outcome = .ok table →
        (tableWith (some table)).Acyclic) :
    let surroundings : Surroundings := ⟨tree.read, fetch⟩
    let path := Path.ofText arguments.description
    let outcome := (runIn tree fetch settings arguments).outcome
    (∀ ending, outcome = .ok ending → ending.status ∈ [0, 1, 2] ∧
      (ending.status ≠ 0 → ending.printed = "" ∧ ending.tree = tree)) ∧
    ((∃ ending, outcome = .ok ending ∧ ending.status = 2) ↔ LacksDocument surroundings path) ∧
    ((∃ ending, outcome = .ok ending ∧ ending.status = 1) ↔
      ∃ document, HoldsDocument surroundings path document ∧
        Rejected settings surroundings arguments document) ∧
    (∀ ending, outcome = .ok ending ∧ ending.status = 0 ↔
      ∃ document compiled, HoldsDocument surroundings path document ∧
        (compileDescription settings surroundings arguments document).outcome = .ok compiled ∧
        Delivers tree arguments compiled.files ending) ∧
    ∀ failure, outcome = .error failure ↔ Escapes tree fetch settings arguments failure := by
  intro surroundings path outcome
  have withoutCircle : ∀ overrides, Maps surroundings arguments overrides →
      (tableWith overrides).Acyclic := by
    intro overrides mapped
    cases mapped with
    | unasked _ => exact acyclic_tableWith_none
    | loaded asked found => exact acyclic _ _ asked found
  have ends : Ended tree fetch settings arguments outcome := ended whole withoutCircle
  refine ⟨fun ending found => ?_, ⟨?_, fun lacks => ?_⟩, ⟨?_, ?_⟩, fun ending => ⟨?_, ?_⟩,
    fun failure => ⟨fun failed => ?_, runIn_of_escapes⟩⟩
  · rw [found] at ends
    cases ends with
    | lacking => exact ⟨(by decide : 2 ∈ [0, 1, 2]), fun _ => ⟨rfl, rfl⟩⟩
    | rejected => exact ⟨(by decide : 1 ∈ [0, 1, 2]), fun _ => ⟨rfl, rfl⟩⟩
    | delivered _ _ delivers =>
        rw [delivers.status_eq_zero]
        exact ⟨List.mem_cons_self, fun other => absurd rfl other⟩
  · rintro ⟨ending, found, two⟩
    rw [found] at ends
    cases ends with
    | lacking lacks => exact lacks
    | rejected => cases two
    | delivered _ _ delivers => cases delivers.status_eq_zero.symm.trans two
  · exact ⟨_, runIn_of_lacks lacks, rfl⟩
  · rintro ⟨ending, found, one⟩
    rw [found] at ends
    cases ends with
    | lacking => cases one
    | rejected holds rejected => exact ⟨_, holds, rejected⟩
    | delivered _ _ delivers => cases delivers.status_eq_zero.symm.trans one
  · rintro ⟨document, holds, rejected⟩
    rcases outcome_of_rejected withoutCircle rejected with ⟨failure, failed, reported⟩
    refine ⟨⟨1, "", tree⟩, ?_, rfl⟩
    exact (runIn_of_failed holds failed).trans (if_pos reported)
  · rintro ⟨found, zero⟩
    rw [found] at ends
    cases ends with
    | lacking => cases zero
    | rejected => cases zero
    | delivered holds compiles delivers => exact ⟨_, _, holds, compiles, delivers⟩
  · rintro ⟨document, compiled, holds, compiles, delivers⟩
    exact ⟨runIn_of_delivers holds compiles delivers, delivers.status_eq_zero⟩
  · rw [failed] at ends
    cases ends with
    | escaped escapes => exact escapes

/-- A tree with a single file, which holds an empty object. -/
def emptyObjectTree : FileTree :=
  [(["card.json"], .file "\x7b\x7d".toUTF8)]

/-- Arguments that name the file and a target. -/
def argumentsFor (target : String) : Arguments :=
  ⟨"card.json", target, none, none, none⟩

/-- An empty object is no component.  A run for the target that there is ends by its issues and
without a status, while a run for another target is rejected with status one. -/
theorem emptyObject_escapes :
    let fetch : String → Fetched := fun _ => .unreachable
    HoldsDocument ⟨emptyObjectTree.read, fetch⟩ (Path.ofText "card.json") (.map []) ∧
    (∃ issues, (runIn emptyObjectTree fetch {} (argumentsFor "React")).outcome =
      .error (.invalid issues)) ∧
    ∃ ending, (runIn emptyObjectTree fetch {} (argumentsFor "Vue")).outcome = .ok ending ∧
      ending.status = 1 := by
  intro fetch
  have read : Json.read "\x7b\x7d" = .ok (.map []) := rfl
  have held : HoldsText ⟨emptyObjectTree.read, fetch⟩ (Path.ofText "card.json") "\x7b\x7d" :=
    ⟨"\x7b\x7d".toUTF8, rfl, rfl⟩
  have holds : HoldsDocument ⟨emptyObjectTree.read, fetch⟩ (Path.ofText "card.json") (.map []) :=
    ⟨_, held, read⟩
  have unmapped (target source : String) :
      given? (argumentsFor target).mapping ≠ some source := nofun
  have whole (target : String) :
      ReadsWhole ⟨emptyObjectTree.read, fetch⟩ (argumentsFor target) := by
    refine ⟨fun text other half => ?_, fun source asked => absurd asked (unmapped target source)⟩
    cases held.unique other
    cases read.symm.trans half
  obtain ⟨issues, invalid⟩ :
      ∃ issues, Generator.readComponent (.map []) = .error (.invalid issues) := ⟨_, rfl⟩
  have chosen : (argumentsFor "React").Chooses {} .scopedClasses := ⟨rfl, rfl⟩
  refine ⟨holds, ⟨issues, ?_⟩, ?_⟩
  · have ends := @run_ends_with_status_or_escapes emptyObjectTree fetch {} (argumentsFor "React")
      (whole "React") fun source _ asked => absurd asked (unmapped _ source)
    exact (ends.2.2.2.2 _).mpr (.call holds (.document chosen (.unasked rfl) invalid))
  · have ends := @run_ends_with_status_or_escapes emptyObjectTree fetch {} (argumentsFor "Vue")
      (whole "Vue") fun source _ asked => absurd asked (unmapped _ source)
    have other (flavor : Flavor) : ¬ (argumentsFor "Vue").Chooses {} flavor :=
      fun chooses => absurd chooses.1 (by decide)
    exact ends.2.2.1.mpr ⟨_, holds, .generator other⟩

end CommandLine
end ComponentCompiler
