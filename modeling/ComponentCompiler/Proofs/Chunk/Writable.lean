import ComponentCompiler.Chunk.Assemble
import ComponentCompiler.Proofs.Chunk.Store
import ComponentCompiler.Proofs.Markup.Writable
import ComponentCompiler.Proofs.Traced

namespace ComponentCompiler

open Script

/-!
# Chunks that can be written

A chunk is written when its values have literals.  Linking only orders the chunks,
so a store of chunks that can be written becomes files.
-/

/-- The values in a content have literals. -/
def ChunkContent.Writable : ChunkContent → Prop
  | .text _ => True
  | .declaration constant => constant.value.HasLiteral
  | .component function => function.root.Writable

/-- The values in all chunks of a store have literals. -/
def ChunkStore.Writable (store : ChunkStore) : Prop :=
  ∀ chunk ∈ store, chunk.content.Writable

theorem ChunkContent.exists_render {content : ChunkContent} (writable : content.Writable) :
    ∃ text, content.render = .ok text := by
  cases content with
  | text content => exact ⟨content, rfl⟩
  | declaration constant =>
      rcases Value.exists_blockLiteral writable 0 with ⟨text, written⟩
      exact ⟨_, bind_eq_ok_iff.mpr ⟨text, written, rfl⟩⟩
  | component function =>
      rcases function.root.exists_render writable 2 with ⟨text, written⟩
      exact ⟨_, bind_eq_ok_iff.mpr ⟨text, written, rfl⟩⟩

theorem ChunkContent.Writable.restyle {edit : Edit} {content : ChunkContent}
    (writable : content.Writable) (keeps : edit.KeepsLiterals) : (content.restyle edit).Writable := by
  cases content with
  | text content => trivial
  | declaration constant => exact writable
  | component function => exact function.root.writable_restyle keeps writable

namespace ChunkStore

variable {store : ChunkStore}

theorem Writable.add (writable : store.Writable) {chunk : Chunk}
    (chunkWritable : chunk.content.Writable) : (store.add chunk).Writable := by
  induction store with
  | nil => exact List.forall_mem_singleton.mpr chunkWritable
  | cons existing rest inductionHypothesis =>
      rcases List.forall_mem_cons.mp writable with ⟨here, later⟩
      rw [ChunkStore.add]
      split
      · exact List.forall_mem_cons.mpr ⟨chunkWritable, later⟩
      · exact List.forall_mem_cons.mpr ⟨here, inductionHypothesis later⟩

theorem Writable.restyle (writable : store.Writable) {edit : Edit} (keeps : edit.KeepsLiterals) :
    (store.restyle edit).Writable := by
  intro chunk member
  rcases List.mem_map.mp member with ⟨original, listed, rfl⟩
  exact (writable original listed).restyle keeps

theorem Writable.extendExport (writable : store.Writable)
    (exportName styleName importName : String) (content : Option String) :
    (store.extendExport exportName styleName importName content).Writable := by
  unfold ChunkStore.extendExport
  cases found : store.chunk? exportName with
  | none => exact writable.add trivial
  | some chunk =>
      have sameContent : ∀ changed : Chunk,
          (placeAfter changed styleName).content = changed.content := by
        intro changed
        unfold placeAfter
        split <;> rfl
      refine writable.add ?_
      rw [sameContent]
      cases content with
      | none => exact writable chunk (List.mem_of_find?_eq_some found)
      | some text => trivial

end ChunkStore

/-! ## Files -/

/-- Linking invents no chunk. -/
theorem mem_of_mem_link {chunks : List Chunk} {chunk : Chunk} (member : chunk ∈ link chunks) :
    chunk ∈ chunks := by
  rcases List.mem_filterMap.mp member with ⟨emitted, _, found⟩
  exact List.mem_reverse.mp (List.mem_of_find?_eq_some found)

theorem exists_assembleKind {chunks : List Chunk}
    (writable : ∀ chunk ∈ chunks, chunk.content.Writable) (name : String) (kind : ChunkKind) :
    ∃ files, assembleKind name kind chunks = .ok files := by
  obtain ⟨texts, written⟩ := exists_mapM_eq_ok_iff.mpr
    fun (chunk : Chunk) (member : chunk ∈ chunks.filter fun chunk => chunk.kind = kind) =>
      ChunkContent.exists_render (writable chunk (List.mem_of_mem_filter member))
  exact ⟨_, bind_eq_ok_iff.mpr ⟨texts, written, rfl⟩⟩

/-- Chunks that can be written become files. -/
theorem assemble_meets {store : ChunkStore} (writable : store.Writable) (name : String) :
    (assemble store name).Meets none fun _ => True := by
  have linked : ∀ chunk ∈ link store, chunk.content.Writable :=
    fun chunk member => writable chunk (mem_of_mem_link member)
  rcases exists_assembleKind linked name .script with ⟨script, scriptWritten⟩
  rcases exists_assembleKind linked name .stylesheet with ⟨stylesheet, stylesheetWritten⟩
  refine (Traced.noteAll_meets _).andThen fun _ _ => ?_
  dsimp only
  rw [scriptWritten, stylesheetWritten]
  exact Traced.Meets.ofResult rfl trivial

end ComponentCompiler
