import ComponentCompiler.Generator.Flavor
import ComponentCompiler.Proofs.Generator.Stages
import ComponentCompiler.Proofs.Linking.Circles
import ComponentCompiler.Proofs.Pass.ComponentTree
import ComponentCompiler.Proofs.Pass.Styles

namespace ComponentCompiler

open Styling

/-!
# Passes in any sequence

The component pass can be followed by style passes and import passes in any order
and as often as one likes.  Each of them does one of three things to the chunks: it
restyles the components, or it also adds the chunk of its styles and makes the
export stand behind it, or it adds the imports.

What all these stores have in common is that every chunk only waits for chunks of a
lower rank, and that the export waits for the component and for all styles that are
there.  Each step keeps this, and so does a run.  Ranks rise along the constraints,
so linking never meets a circle.
-/

/-- A pass that can follow the component pass, with the usual names of the chunks. -/
inductive LaterPass where
  | scopedClasses (stylesObject : String) (camelCase : Bool)
  | injectedStyles (declarationName : String) (library : StyleLibrary)
  | inlineStyles
  | imports

def LaterPass.pass : LaterPass → Pass
  | .scopedClasses stylesObject camelCase =>
    Pass.scopedClasses { stylesObject := stylesObject, camelCase := camelCase }
  | .injectedStyles declarationName library =>
    Pass.injectedStyles { declarationName := declarationName, library := library }
  | .inlineStyles => Pass.inlineStyles
  | .imports => Pass.importBlock "import"

/-- The component pass and some passes behind it. -/
def pipeline (later : List LaterPass) : List Pass :=
  Pass.componentTree {} :: later.map LaterPass.pass

/-! ## What a pass does to the chunks -/

/-- A chunk that holds styles. -/
def Chunk.HoldsStyles (chunk : Chunk) : Prop :=
  chunk.before = [] ∧
    (chunk.name = "css-modules" ∧ chunk.after = [] ∨
      chunk.name = "jss-style-definition" ∧ chunk.after = ["import"])

/-- What a later pass can do to the chunks. -/
inductive ChunkStep (store : ChunkStore) : ChunkStore → Prop
  | restyled (edit : Edit) : ChunkStep store (store.restyle edit)
  | styled (edit : Edit) {styles : Chunk} (holds : styles.HoldsStyles) (content : Option String) :
      ChunkStep store
        (((store.restyle edit).add styles).extendExport "export" styles.name "import" content)
  | imported (registry : Registry) : ChunkStep store (store.add (importChunk "import" registry))

theorem ScopedClasses.chunkStep_of_style {stylesObject : String} {camelCase : Bool}
    {assembly next : Assembly}
    (ran : (ScopedClasses.style { stylesObject := stylesObject, camelCase := camelCase }
      assembly).outcome = .ok next) :
    ChunkStep assembly.chunks next.chunks := by
  unfold ScopedClasses.style at ran
  rcases Traced.outcome_bind_eq_ok.mp ran with ⟨assigned, _, onward⟩
  simp only [decorateAll_eq_restyle] at onward
  cases rules : classRules assigned with
  | nil =>
      rw [rules] at onward
      cases onward
      exact .restyled _
  | cons rule others =>
      rw [rules] at onward
      cases onward
      exact .styled _ ⟨rfl, Or.inl ⟨rfl, rfl⟩⟩ none

theorem InjectedStyles.chunkStep_of_style {declarationName : String} {library : StyleLibrary}
    {assembly next : Assembly}
    (ran : (InjectedStyles.style { declarationName := declarationName, library := library }
      assembly).outcome = .ok next) :
    ChunkStep assembly.chunks next.chunks := by
  unfold InjectedStyles.style at ran
  rcases Traced.outcome_bind_eq_ok.mp ran with ⟨assigned, _, onward⟩
  simp only [decorateAll_eq_restyle] at onward
  cases rules : classRules assigned with
  | nil =>
      rw [rules] at onward
      cases onward
      exact .restyled _
  | cons rule others =>
      rw [rules] at onward
      cases onward
      exact .styled _ ⟨rfl, Or.inr ⟨rfl, rfl⟩⟩ (some _)

theorem ChunkStep.unchanged (store : ChunkStore) : ChunkStep store store := by
  have step : ChunkStep store (store.restyle Edit.none) := .restyled Edit.none
  rw [store.restyle_none] at step
  exact step

theorem LaterPass.chunkStep {later : LaterPass} {table : MappingTable} {assembly next : Assembly}
    (ran : (later.pass.run table assembly).outcome = .ok next) :
    ChunkStep assembly.chunks next.chunks := by
  cases later with
  | scopedClasses stylesObject camelCase =>
      simp only [LaterPass.pass, Pass.scopedClasses] at ran
      split at ran
      · cases ran
        exact .unchanged _
      · exact ScopedClasses.chunkStep_of_style ran
  | injectedStyles declarationName library =>
      simp only [LaterPass.pass, Pass.injectedStyles] at ran
      split at ran
      · cases ran
        exact .unchanged _
      · exact InjectedStyles.chunkStep_of_style ran
  | inlineStyles =>
      cases (run_inlineStyles table assembly).symm.trans ran
      exact .restyled _
  | imports =>
      simp only [LaterPass.pass, Pass.importBlock] at ran
      cases ran
      split
      · exact .unchanged _
      · exact .imported _

/-! ## The order that all steps keep -/

/-- The ranks of the chunks: each comes behind those that it can wait for. -/
def chunkRank (name : String) : Nat :=
  ["import", "css-modules", "react-component", "jss-style-definition", "export"].idxOf name

/-- A chunk waits for chunks of a lower rank only, and what uses imports waits for
them. -/
structure Chunk.Fits (chunk : Chunk) : Prop where
  before : chunk.before = []
  rising : ∀ other ∈ chunk.after, chunkRank other < chunkRank chunk.name
  importing : chunk.name = "react-component" ∨ chunk.name = "jss-style-definition" →
    "import" ∈ chunk.after

/-- What is exported has to be there before. -/
def awaited : List String := ["react-component", "jss-style-definition", "css-modules"]

/-- The chunks of a pipeline at any of its steps. -/
structure ChunkStore.InOrder (store : ChunkStore) : Prop where
  distinct : store.names.Nodup
  component : "react-component" ∈ store.names
  fits : ∀ chunk ∈ store, chunk.Fits
  exported : ∃ chunk, store.chunk? "export" = some chunk ∧ chunk.after.Nodup ∧
    ∀ other ∈ awaited, other ∈ store.names → other ∈ chunk.after

/-- The export still waits for all that it waited for, in the same order. -/
def ChunkStore.ExtendsExport (store next : ChunkStore) : Prop :=
  ∃ before after, store.chunk? "export" = some before ∧ next.chunk? "export" = some after ∧
    before.after <+: after.after

namespace ChunkStore

variable {store next : ChunkStore}

theorem InOrder.restyle (inOrder : store.InOrder) (edit : Edit) :
    (store.restyle edit).InOrder ∧ store.ExtendsExport (store.restyle edit) := by
  rcases inOrder.exported with ⟨chunk, found, distinct, awaits⟩
  have foundNext := chunk?_restyle store edit "export"
  rw [found, Option.map_some] at foundNext
  constructor
  · constructor
    case distinct => rw [names_restyle]; exact inOrder.distinct
    case component => rw [names_restyle]; exact inOrder.component
    case fits =>
      intro other member
      rcases List.mem_map.mp member with ⟨original, listed, rfl⟩
      rcases inOrder.fits original listed with ⟨before, rising, importing⟩
      exact ⟨before, rising, importing⟩
    case exported =>
      rw [names_restyle]
      exact ⟨_, foundNext, distinct, awaits⟩
  · exact ⟨chunk, _, found, foundNext, List.prefix_refl _⟩

/-- Chunks that fit stay so when one more is added. -/
theorem fits_add {chunk : Chunk} (fits : ∀ other ∈ store, other.Fits) (here : chunk.Fits) :
    ∀ other ∈ store.add chunk, other.Fits := by
  intro other member
  rcases eq_or_mem_of_mem_add member with rfl | old
  · exact here
  · exact fits other old

theorem InOrder.addImports (inOrder : store.InOrder) (registry : Registry) :
    (store.add (importChunk "import" registry)).InOrder ∧
      store.ExtendsExport (store.add (importChunk "import" registry)) := by
  rcases inOrder.exported with ⟨chunk, found, distinct, awaits⟩
  have named : (importChunk "import" registry).name = "import" := rfl
  have notExport : "import" ≠ "export" := by decide
  have foundNext : (store.add (importChunk "import" registry)).chunk? "export" = some chunk :=
    (chunk?_add_of_ne notExport).trans found
  refine ⟨⟨nodup_names_add inOrder.distinct _, mem_names_add_iff.mpr (Or.inr inOrder.component), ?_, ?_⟩,
    chunk, chunk, found, foundNext, List.prefix_refl _⟩
  · refine fits_add inOrder.fits ⟨rfl, fun _ impossible => absurd impossible List.not_mem_nil, ?_⟩
    rw [named]
    intro impossible
    exact absurd impossible (by decide)
  · refine ⟨chunk, foundNext, distinct, fun other waitedFor present => ?_⟩
    rcases mem_names_add_iff.mp present with same | old
    · rw [same, named] at waitedFor
      exact absurd waitedFor (by decide)
    · exact awaits other waitedFor old

end ChunkStore

theorem Chunk.HoldsStyles.fits {styles : Chunk} (holds : styles.HoldsStyles) : styles.Fits := by
  rcases holds with ⟨before, ⟨named, after⟩ | ⟨named, after⟩⟩
  · refine ⟨before, ?_, ?_⟩
    · rw [after]
      exact fun _ impossible => absurd impossible List.not_mem_nil
    · rw [named]
      exact fun impossible => absurd impossible (by decide)
  · refine ⟨before, ?_, fun _ => after ▸ List.mem_singleton.mpr rfl⟩
    rw [named, after]
    decide

theorem Chunk.HoldsStyles.rank_lt {styles : Chunk} (holds : styles.HoldsStyles) :
    chunkRank styles.name < chunkRank "export" := by
  rcases holds with ⟨_, ⟨named, _⟩ | ⟨named, _⟩⟩ <;> rw [named] <;> decide

namespace ChunkStore

variable {store next : ChunkStore}

/-- The export that stands behind the styles waits for all that the old one waited
for. -/
theorem InOrder.addStyles (inOrder : store.InOrder) {styles : Chunk} (holds : styles.HoldsStyles)
    (content : Option String) :
    ((store.add styles).extendExport "export" styles.name "import" content).InOrder ∧
      store.ExtendsExport
        ((store.add styles).extendExport "export" styles.name "import" content) := by
  rcases inOrder.exported with ⟨chunk, found, distinct, awaits⟩
  have notExport : styles.name ≠ "export" := by
    intro same
    have below := holds.rank_lt
    rw [same] at below
    exact Nat.lt_irrefl _ below
  have kept : (store.add styles).chunk? "export" = some chunk := by
    rw [chunk?_add_of_ne notExport, found]
  obtain ⟨extended, replaced, named, before, after⟩ :=
    extendExport_of_some kept styles.name "import" content
  have foundNext : ((store.add styles).add extended).chunk? "export" = some extended :=
    named ▸ chunk?_add_self (store.add styles) extended
  have extendedFits : extended.Fits := by
    have chunkFits := inOrder.fits chunk (List.mem_of_find?_eq_some found)
    have chunkNamed := name_of_chunk? found
    refine ⟨before.trans chunkFits.before, fun other listed => ?_, fun impossible => ?_⟩
    · rw [after, mem_after_placeAfter_iff] at listed
      rw [named]
      rcases listed with old | rfl
      · exact chunkNamed ▸ chunkFits.rising other old
      · exact holds.rank_lt
    · rw [named] at impossible
      exact absurd impossible (by decide)
  rw [replaced]
  have allFit := fits_add (fits_add inOrder.fits holds.fits) extendedFits
  refine ⟨⟨?_, ?_, allFit, extended, foundNext, ?_, ?_⟩, chunk, extended, found, foundNext,
    after ▸ after_prefix_placeAfter chunk styles.name⟩
  · exact nodup_names_add (nodup_names_add inOrder.distinct _) _
  · exact mem_names_add_iff.mpr (Or.inr (mem_names_add_iff.mpr (Or.inr inOrder.component)))
  · exact after ▸ nodup_after_placeAfter distinct styles.name
  · intro other waitedFor present
    rw [after, mem_after_placeAfter_iff]
    rcases mem_names_add_iff.mp present with same | earlier
    · rw [same, named] at waitedFor
      exact absurd waitedFor (by decide)
    · rcases mem_names_add_iff.mp earlier with isStyles | old
      · exact Or.inr isStyles
      · exact Or.inl (awaits other waitedFor old)

/-- Extending the export twice extends it. -/
theorem ExtendsExport.trans {last : ChunkStore} (first : store.ExtendsExport next)
    (second : next.ExtendsExport last) : store.ExtendsExport last := by
  rcases first with ⟨before, between, found, foundBetween, grows⟩
  rcases second with ⟨same, after, foundSame, foundAfter, growsAgain⟩
  cases foundBetween.symm.trans foundSame
  exact ⟨before, after, found, foundAfter, grows.trans growsAgain⟩

theorem InOrder.extendsExport_refl (inOrder : store.InOrder) : store.ExtendsExport store := by
  rcases inOrder.exported with ⟨chunk, found, _⟩
  exact ⟨chunk, chunk, found, found, List.prefix_refl _⟩

theorem InOrder.step (inOrder : store.InOrder) (step : ChunkStep store next) :
    next.InOrder ∧ store.ExtendsExport next := by
  cases step with
  | restyled edit => exact inOrder.restyle edit
  | imported registry => exact inOrder.addImports registry
  | styled edit holds content =>
      obtain ⟨restyled, same⟩ := inOrder.restyle edit
      obtain ⟨styled, grows⟩ := restyled.addStyles holds content
      exact ⟨styled, same.trans grows⟩

end ChunkStore

/-! ## Runs -/

theorem runPasses_append {table : MappingTable} {first second : List Pass}
    {assembly next : Assembly} :
    (runPasses table (first ++ second) assembly).outcome = .ok next ↔
      ∃ reached, (runPasses table first assembly).outcome = .ok reached ∧
        (runPasses table second reached).outcome = .ok next := by
  induction first generalizing assembly with
  | nil => simp only [List.nil_append, runPasses, Traced.pure_eq, Except.ok.injEq, exists_eq_left']
  | cons pass rest inductionHypothesis =>
      simp only [List.cons_append, runPasses, Traced.outcome_bind_eq_ok, inductionHypothesis]
      constructor
      · rintro ⟨started, ran, reached, before, behind⟩
        exact ⟨reached, ⟨started, ran, before⟩, behind⟩
      · rintro ⟨reached, ⟨started, ran, before⟩, behind⟩
        exact ⟨started, ran, reached, before, behind⟩

/-- Later passes keep the chunks in order and only extend the export. -/
theorem inOrder_of_runPasses {table : MappingTable} {later : List LaterPass}
    {assembly next : Assembly} (inOrder : assembly.chunks.InOrder)
    (ran : (runPasses table (later.map LaterPass.pass) assembly).outcome = .ok next) :
    next.chunks.InOrder ∧ assembly.chunks.ExtendsExport next.chunks := by
  induction later generalizing assembly with
  | nil =>
      cases ran
      exact ⟨inOrder, inOrder.extendsExport_refl⟩
  | cons pass rest inductionHypothesis =>
      rw [List.map_cons, runPasses, Traced.outcome_bind_eq_ok] at ran
      rcases ran with ⟨reached, here, onward⟩
      rw [Pass.outcome_perform] at here
      obtain ⟨reachedInOrder, grows⟩ := inOrder.step (LaterPass.chunkStep here)
      obtain ⟨nextInOrder, growsOn⟩ := inductionHypothesis reachedInOrder onward
      exact ⟨nextInOrder, grows.trans growsOn⟩

theorem inOrder_of_componentTree {component : Component} {table : MappingTable} {built : Assembly}
    (ran : ((Pass.componentTree {}).run table (Assembly.start component)).outcome = .ok built) :
    built.chunks.InOrder := by
  obtain ⟨_, parts, hooks, _, _, builtFrom⟩ := builtFrom_of_assembleTree ran
  have names : (component.chunks parts hooks).names = ["react-component", "export"] := rfl
  rw [builtFrom.chunks]
  refine ⟨names ▸ by decide, names ▸ by decide, ?_, exportChunk {} _, rfl, ?_, ?_⟩
  · refine List.forall_mem_cons.mpr ⟨⟨rfl, ?_, fun _ => List.mem_singleton.mpr rfl⟩,
      List.forall_mem_singleton.mpr ⟨rfl, ?_, ?_⟩⟩
    · show ∀ other ∈ ["import"], chunkRank other < chunkRank "react-component"
      decide
    · show ∀ other ∈ ["react-component"], chunkRank other < chunkRank "export"
      decide
    · show "export" = _ ∨ "export" = _ → "import" ∈ ["react-component"]
      decide
  · exact List.pairwise_singleton _ _
  · show ∀ other ∈ awaited, other ∈ ["react-component", "export"] → other ∈ ["react-component"]
    decide

/-! ## Linking -/

namespace ChunkStore

variable {store : ChunkStore}

theorem InOrder.uncircled (inOrder : store.InOrder) : Uncircled store := by
  refine uncircled_of_rank chunkRank fun first _ second _ precedes => ?_
  rcases precedes.2.2.2 with ⟨chunk, member, named, listed⟩ | ⟨chunk, member, named, listed⟩
  · exact named ▸ (inOrder.fits chunk member).rising first listed
  · rw [(inOrder.fits chunk member).before] at listed
    cases listed

/-- The chunks that stand one before the other wherever both are there. -/
def emissionPairs : List (String × String) :=
  [("import", "react-component"), ("import", "jss-style-definition"),
    ("react-component", "export"), ("jss-style-definition", "export"), ("css-modules", "export")]

theorem InOrder.precedes (inOrder : store.InOrder) {first second : String}
    (pair : (first, second) ∈ emissionPairs) (firstPresent : first ∈ store.names)
    (secondPresent : second ∈ store.names) : Precedes store first second := by
  have different : ∀ pair ∈ emissionPairs, pair.1 ≠ pair.2 := by decide
  have reasons : ∀ pair ∈ emissionPairs,
      pair.1 = "import" ∧ (pair.2 = "react-component" ∨ pair.2 = "jss-style-definition") ∨
        pair.1 ∈ awaited ∧ pair.2 = "export" := by decide
  refine ⟨different _ pair, firstPresent, secondPresent, Or.inl ?_⟩
  rcases reasons _ pair with ⟨isImport, uses⟩ | ⟨waitedFor, isExport⟩
  · rcases List.mem_map.mp secondPresent with ⟨chunk, member, named⟩
    have importing := (inOrder.fits chunk member).importing (named ▸ uses)
    have isFirst : first = "import" := isImport
    exact ⟨chunk, member, named, isFirst ▸ importing⟩
  · rcases inOrder.exported with ⟨chunk, found, _, awaits⟩
    exact ⟨chunk, List.mem_of_find?_eq_some found, (name_of_chunk? found).trans isExport.symm,
      awaits first waitedFor firstPresent⟩

end ChunkStore

/-- The component pass followed by any later passes: the chunks have distinct names
behind every pass, the export never stops to wait for a chunk and never waits for one
twice, and linking what the passes leave meets no circle and puts the imports first and
the export last. -/
theorem pipeline_keeps_chunks_linkable (table : MappingTable) (component : Component)
    (later : List LaterPass) {final : Assembly}
    (ran : (runPasses table (pipeline later) (Assembly.start component)).outcome = .ok final) :
    (∀ first second rest, later = first ++ second ++ rest → ∃ reached next,
      (runPasses table (pipeline first) (Assembly.start component)).outcome = .ok reached ∧
      (runPasses table (pipeline (first ++ second)) (Assembly.start component)).outcome = .ok next ∧
      reached.chunks.names.Nodup ∧
      ∃ before after, reached.chunks.chunk? "export" = some before ∧
        next.chunks.chunk? "export" = some after ∧ before.after <+: after.after ∧
        after.after.Nodup) ∧
    "react-component" ∈ final.chunks.names ∧ "export" ∈ final.chunks.names ∧
    (¬ ∃ name, (LinkNotice.cycle name).entry ∈ (linkNotices final.chunks).map LinkNotice.entry) ∧
    ∀ first second, (first, second) ∈ ChunkStore.emissionPairs → first ∈ final.chunks.names →
      second ∈ final.chunks.names →
      ((link final.chunks).map Chunk.name).idxOf first <
        ((link final.chunks).map Chunk.name).idxOf second := by
  have built : ∀ some {reached : Assembly},
      (runPasses table (pipeline some) (Assembly.start component)).outcome = .ok reached →
        reached.chunks.InOrder := by
    intro some reached ranSome
    rw [pipeline, runPasses, Traced.outcome_bind_eq_ok] at ranSome
    rcases ranSome with ⟨tree, first, onward⟩
    rw [Pass.outcome_perform] at first
    exact (inOrder_of_runPasses (inOrder_of_componentTree first) onward).1
  have finalInOrder := built later ran
  refine ⟨?_, finalInOrder.component, ?_, ?_, ?_⟩
  · intro first second rest split
    have apart : pipeline later =
        pipeline first ++ (second.map LaterPass.pass ++ rest.map LaterPass.pass) := by
      simp only [pipeline, split, List.map_append, List.append_assoc, List.cons_append]
    rw [apart, runPasses_append] at ran
    rcases ran with ⟨reached, ranFirst, onward⟩
    rcases runPasses_append.mp onward with ⟨next, ranSecond, _⟩
    have reachedInOrder := built first ranFirst
    obtain ⟨nextInOrder, before, after, found, foundNext, grows⟩ :=
      inOrder_of_runPasses reachedInOrder ranSecond
    have joined : pipeline (first ++ second) = pipeline first ++ second.map LaterPass.pass := by
      simp only [pipeline, List.map_append, List.cons_append]
    refine ⟨reached, next, ranFirst, ?_, reachedInOrder.distinct, before, after, found, foundNext,
      grows, ?_⟩
    · rw [joined]
      exact runPasses_append.mpr ⟨reached, ranFirst, ranSecond⟩
    · rcases nextInOrder.exported with ⟨chunk, same, distinct, _⟩
      cases same.symm.trans foundNext
      exact distinct
  · rcases finalInOrder.exported with ⟨chunk, found, _⟩
    exact ChunkStore.name_of_chunk? found ▸ List.mem_map_of_mem (List.mem_of_find?_eq_some found)
  · rw [exists_cycle_entry_iff finalInOrder.distinct]
    rintro ⟨name, circle⟩
    exact finalInOrder.uncircled name circle
  · intro first second pair firstPresent secondPresent
    exact link_honours finalInOrder.distinct finalInOrder.uncircled first second
      (finalInOrder.precedes pair firstPresent secondPresent)

/-- A styled stamp. -/
def stamp : Component :=
  ⟨"Stamp", ⟨"text", "stamp", some [("color", .text "red"), ("width", .text "$props.width")], none,
    none, none, none, none, none⟩, none, none, none⟩

def stampTable : MappingTable := [(.text "text", ⟨"span", none, none, none, none⟩)]

/-- Imports before the styles and behind them, and the same styles injected twice. -/
def stampPasses : List LaterPass :=
  [.imports, .injectedStyles "look" {}, .inlineStyles, .scopedClasses "styles" true,
    .injectedStyles "style" { importName := "inject" }, .imports]

theorem stampPasses_linkable :
    ∃ final, (runPasses stampTable (pipeline stampPasses) (Assembly.start stamp)).outcome =
        .ok final ∧
      final.chunks.names =
        ["react-component", "export", "import", "jss-style-definition", "css-modules"] ∧
      (¬ ∃ name,
        (LinkNotice.cycle name).entry ∈ (linkNotices final.chunks).map LinkNotice.entry) ∧
      ∀ pair ∈ ChunkStore.emissionPairs, ((link final.chunks).map Chunk.name).idxOf pair.1 <
        ((link final.chunks).map Chunk.name).idxOf pair.2 := by
  have chunks : (runPasses stampTable (pipeline stampPasses)
      (Assembly.start stamp)).outcome.toOption.map (fun final => final.chunks.names) =
        some ["react-component", "export", "import", "jss-style-definition", "css-modules"] := by
    decide +kernel
  rcases Option.map_eq_some_iff.mp chunks with ⟨final, found, names⟩
  have ran := eq_ok_of_toOption_eq_some found
  obtain ⟨_, _, _, uncircled, ordered⟩ :=
    pipeline_keeps_chunks_linkable stampTable stamp stampPasses ran
  refine ⟨final, ran, names, uncircled, fun pair listed => ?_⟩
  have present : ∀ pair ∈ ChunkStore.emissionPairs,
      pair.1 ∈ final.chunks.names ∧ pair.2 ∈ final.chunks.names := by
    rw [names]
    decide
  exact ordered pair.1 pair.2 listed (present pair listed).1 (present pair listed).2

end ComponentCompiler
