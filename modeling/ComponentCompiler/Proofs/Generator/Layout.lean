import ComponentCompiler.Proofs.Generator.Stages
import ComponentCompiler.Proofs.Pass.Styles

namespace ComponentCompiler

/-!
# How the chunks of a call are laid out

The chunks of a flavor are the component, its export and the imports, and those of
the classes when there are some.  Linking puts the imports before all other parts
of the script.  The script is the first file, and each of its parts ends in a line
feed.
-/

/-! ## Linked chunks -/

section Linked

variable (component exported styles imports : ChunkContent)

theorem link_without_classes :
    link [⟨"react-component", .script, component, [], ["import"]⟩,
        ⟨"export", .script, exported, [], ["react-component"]⟩,
        ⟨"import", .script, imports, [], []⟩] =
      [⟨"import", .script, imports, [], []⟩,
        ⟨"react-component", .script, component, [], ["import"]⟩,
        ⟨"export", .script, exported, [], ["react-component"]⟩] := by
  simp [link, linkedNames, emitFrom, isReady, predecessors, Chunk.precedes, lastNamed?]

/-- A stylesheet waits for nothing, so it comes before the script. -/
theorem link_with_stylesheet :
    link [⟨"react-component", .script, component, [], ["import"]⟩,
        ⟨"export", .script, exported, [], ["react-component", "css-modules"]⟩,
        ⟨"css-modules", .stylesheet, styles, [], []⟩,
        ⟨"import", .script, imports, [], []⟩] =
      [⟨"css-modules", .stylesheet, styles, [], []⟩, ⟨"import", .script, imports, [], []⟩,
        ⟨"react-component", .script, component, [], ["import"]⟩,
        ⟨"export", .script, exported, [], ["react-component", "css-modules"]⟩] := by
  simp [link, linkedNames, emitFrom, isReady, predecessors, Chunk.precedes, lastNamed?]

/-- A style object stands between the component and its export. -/
theorem link_with_styleObject :
    link [⟨"react-component", .script, component, [], ["import"]⟩,
        ⟨"export", .script, exported, [], ["react-component", "jss-style-definition"]⟩,
        ⟨"jss-style-definition", .script, styles, [], ["import"]⟩,
        ⟨"import", .script, imports, [], []⟩] =
      [⟨"import", .script, imports, [], []⟩,
        ⟨"react-component", .script, component, [], ["import"]⟩,
        ⟨"jss-style-definition", .script, styles, [], ["import"]⟩,
        ⟨"export", .script, exported, [], ["react-component", "jss-style-definition"]⟩] := by
  simp [link, linkedNames, emitFrom, isReady, predecessors, Chunk.precedes, lastNamed?]

end Linked

/-- Whatever a flavor leaves, the imports are the first part of the script. -/
theorem Flavor.Leaves.imports_first {flavor : Flavor} {stylesObject : String}
    {library : StyleLibrary} {component : Component} {parts : List Markup} {hooks : List String}
    {built styled : Assembly} {worn : List Worn} {edit : Edit}
    (leaves : flavor.Leaves stylesObject library built styled worn edit)
    (left : built.chunks = component.chunks parts hooks) (registry : Registry) :
    ∃ others, ((link (styled.chunks.add (importChunk "import" registry))).filter fun chunk =>
      chunk.kind = .script) = importChunk "import" registry :: others := by
  by_cases empty : worn = []
  · rw [(leaves.idle empty).2, left]
    exact ⟨_, congrArg (List.filter _) (link_without_classes _ _ _)⟩
  · rcases (leaves.busy empty).2 with ⟨content, chunks⟩
    rw [chunks, left]
    cases flavor with
    | injectedStyles => exact ⟨_, congrArg (List.filter _) (link_with_styleObject _ _ _ _)⟩
    | scopedClasses => exact ⟨_, congrArg (List.filter _) (link_with_stylesheet _ _ _ _)⟩
    | inlineStyles => exact ⟨_, congrArg (List.filter _) (link_with_stylesheet _ _ _ _)⟩

/-! ## Files -/

/-- The file of a kind has the texts of its chunks. -/
theorem assembleKind_eq_ok_iff {name : String} {kind : ChunkKind} {chunks : List Chunk}
    {files : List OutputFile} :
    assembleKind name kind chunks = .ok files ↔
      ∃ texts, List.Forall₂ (fun chunk text => chunk.content.render = .ok text)
          (chunks.filter fun chunk => chunk.kind = kind) texts ∧
        (if ((texts.filter fun text => !text.isEmpty).map withFinalBreak).isEmpty then []
          else [⟨name, kind.extension, Text.joinWith "\n"
            ((texts.filter fun text => !text.isEmpty).map withFinalBreak)⟩]) = files := by
  unfold assembleKind
  rw [bind_eq_ok_iff]
  constructor
  · rintro ⟨texts, written, made⟩
    exact ⟨texts, mapM_eq_ok_iff.mp written, Except.ok.inj made⟩
  · rintro ⟨texts, written, made⟩
    exact ⟨texts, mapM_eq_ok_iff.mpr written, congrArg Except.ok made⟩

theorem eq_of_mem_assembleKind {name : String} {kind : ChunkKind} {chunks : List Chunk}
    {files : List OutputFile} (made : assembleKind name kind chunks = .ok files) {file : OutputFile}
    (member : file ∈ files) : ∃ content, file = ⟨name, kind.extension, content⟩ := by
  rcases assembleKind_eq_ok_iff.mp made with ⟨texts, _, rfl⟩
  split at member
  · cases member
  · exact ⟨_, List.mem_singleton.mp member⟩

/-- The text ends in a line feed. -/
def EndsInBreak (text : String) : Prop :=
  ∃ line, text = line ++ "\n"

namespace EndsInBreak

variable {text : String}

theorem withFinalBreak_eq (closed : EndsInBreak text) : withFinalBreak text = text := by
  rcases closed with ⟨line, rfl⟩
  unfold withFinalBreak
  rw [String.toList_append, List.getLast?_append]
  rfl

theorem isEmpty_eq_false (closed : EndsInBreak text) : text.isEmpty = false := by
  rcases closed with ⟨line, rfl⟩
  refine Bool.eq_false_iff.mpr fun empty => ?_
  have characters := congrArg String.toList (String.isEmpty_iff.mp empty)
  rw [String.toList_append] at characters
  exact List.cons_ne_nil _ _ (List.append_eq_nil_iff.mp characters).2

end EndsInBreak

/-- Whatever the text of a content is, it ends in a line feed. -/
def ChunkContent.Closed (content : ChunkContent) : Prop :=
  ∀ text, content.render = .ok text → EndsInBreak text

namespace ChunkContent

theorem closed_text (line : String) : (ChunkContent.text (line ++ "\n")).Closed := by
  intro text rendered
  exact ⟨line, (Except.ok.inj rendered).symm⟩

theorem closed_declaration (constant : Script.Declaration) :
    (ChunkContent.declaration constant).Closed := by
  intro text rendered
  rcases bind_eq_ok_iff.mp rendered with ⟨value, _, last⟩
  exact ⟨_, (Except.ok.inj last).symm⟩

theorem closed_component (function : ComponentFunction) :
    (ChunkContent.component function).Closed := by
  intro text rendered
  rcases bind_eq_ok_iff.mp rendered with ⟨root, _, last⟩
  cases last
  exact ⟨_, (@String.append_assoc _ "\n\x7d" "\n").symm⟩

end ChunkContent

/-- The file of some texts, when there are any. -/
def fileOf (name : String) (kind : ChunkKind) : List String → List OutputFile
  | [] => []
  | texts => [⟨name, kind.extension, Text.joinWith "\n" texts⟩]

/-- When all contents of a kind are closed, the file of the kind has their texts with a
line feed between neighbours. -/
theorem assembleKind_of_closed {name : String} {kind : ChunkKind} {chunks : List Chunk}
    {files : List OutputFile} (made : assembleKind name kind chunks = .ok files)
    (closed : ∀ chunk ∈ chunks.filter fun chunk => chunk.kind = kind, chunk.content.Closed) :
    ∃ texts, List.Forall₂ (fun chunk text => chunk.content.render = .ok text)
        (chunks.filter fun chunk => chunk.kind = kind) texts ∧
      (∀ text ∈ texts, EndsInBreak text) ∧ files = fileOf name kind texts := by
  rcases assembleKind_eq_ok_iff.mp made with ⟨texts, written, rfl⟩
  have ends : ∀ text ∈ texts, EndsInBreak text := by
    intro text member
    rcases exists_related_of_mem written member with ⟨chunk, listed, rendered⟩
    exact closed chunk listed text rendered
  have kept : (texts.filter fun text => !text.isEmpty) = texts :=
    List.filter_eq_self.mpr fun text member => by rw [(ends text member).isEmpty_eq_false]; rfl
  have broken : texts.map withFinalBreak = texts :=
    (List.map_congr_left fun text member => (ends text member).withFinalBreak_eq).trans
      (List.map_id' texts)
  refine ⟨texts, written, ends, ?_⟩
  rw [kept, broken]
  cases texts <;> rfl

theorem files_of_assemble {chunks : List Chunk} {name : String} {files : List OutputFile}
    (succeeded : (assemble chunks name).outcome = .ok files) :
    ∃ script stylesheet, assembleKind name .script (link chunks) = .ok script ∧
      assembleKind name .stylesheet (link chunks) = .ok stylesheet ∧
      files = script ++ stylesheet := by
  rcases Traced.outcome_bind_eq_ok.mp succeeded with ⟨_, _, afterNotes⟩
  have made := ok_of_mapError_eq_ok afterNotes
  rcases bind_eq_ok_iff.mp made with ⟨script, scriptMade, afterScript⟩
  rcases bind_eq_ok_iff.mp afterScript with ⟨stylesheet, stylesheetMade, last⟩
  exact ⟨script, stylesheet, scriptMade, stylesheetMade, (Except.ok.inj last).symm⟩

/-- Closed contents are written in the order of the link, the script before the
stylesheet. -/
theorem files_of_linked {chunks linked : List Chunk} {name : String} {files : List OutputFile}
    (succeeded : (assemble chunks name).outcome = .ok files) (order : link chunks = linked)
    (closed : ∀ chunk ∈ linked, chunk.content.Closed) :
    ∃ scripts stylesheets,
      List.Forall₂ (fun chunk text => chunk.content.render = .ok text)
        (linked.filter fun chunk => chunk.kind = .script) scripts ∧
      List.Forall₂ (fun chunk text => chunk.content.render = .ok text)
        (linked.filter fun chunk => chunk.kind = .stylesheet) stylesheets ∧
      (∀ text ∈ scripts, EndsInBreak text) ∧
      files = fileOf name .script scripts ++ fileOf name .stylesheet stylesheets := by
  rcases files_of_assemble succeeded with ⟨script, stylesheet, scriptMade, stylesheetMade, rfl⟩
  rw [order] at scriptMade stylesheetMade
  have listed : ∀ kind, ∀ chunk ∈ linked.filter (fun chunk => chunk.kind = kind),
      chunk.content.Closed :=
    fun kind chunk member => closed chunk (List.mem_of_mem_filter member)
  rcases assembleKind_of_closed scriptMade (listed _) with ⟨scripts, written, ends, rfl⟩
  rcases assembleKind_of_closed stylesheetMade (listed _) with ⟨stylesheets, writtenToo, _, rfl⟩
  exact ⟨scripts, stylesheets, written, writtenToo, ends, rfl⟩

/-- The script is the first file and the only one of its kind.  Text that comes first
among its chunks and ends in a line feed comes first in the file. -/
theorem script_of_assemble {chunks : List Chunk} {name text : String} {files : List OutputFile}
    {first : Chunk} {others : List Chunk}
    (succeeded : (assemble chunks name).outcome = .ok files)
    (listed : ((link chunks).filter fun chunk => chunk.kind = .script) = first :: others)
    (isText : first.content = .text (text ++ "\n")) :
    ∃ blocks later, files =
        ⟨name, "js", Text.joinWith "\n" ((text ++ "\n") :: blocks)⟩ :: later ∧
      ∀ file ∈ later, file.extension ≠ "js" := by
  rcases files_of_assemble succeeded with ⟨script, stylesheet, scriptMade, stylesheetMade, rfl⟩
  rcases assembleKind_eq_ok_iff.mp scriptMade with ⟨texts, written, rfl⟩
  rw [listed] at written
  rcases List.forall₂_cons_left_iff.mp written with ⟨head, rest, rendered, _, rfl⟩
  rw [isText] at rendered
  cases rendered
  have closed : EndsInBreak (text ++ "\n") := ⟨text, rfl⟩
  refine ⟨(rest.filter fun text => !text.isEmpty).map withFinalBreak, stylesheet, ?_, ?_⟩
  · simp only [List.filter_cons, closed.isEmpty_eq_false, Bool.not_false, if_true, List.map_cons,
      closed.withFinalBreak_eq]
    rfl
  · intro file member same
    rcases eq_of_mem_assembleKind stylesheetMade member with ⟨content, rfl⟩
    have extensions : ChunkKind.stylesheet.extension = "js" := same
    exact absurd extensions (by decide)

end ComponentCompiler
