import ComponentCompiler.Chunk.Basic
import ComponentCompiler.Proofs.Markup.Restyle
import Mathlib.Data.List.Nodup

namespace ComponentCompiler

/-!
# Looking up and restyling chunks

A store is read by the contents under its names.  Adding a chunk changes what is
under its own name only, and so does extending the export.  Changing the
elements of an origin restyles every component of the store.
-/

/-- Edit the attributes in a content. -/
def ChunkContent.restyle (edit : Edit) : ChunkContent → ChunkContent
  | .text content => .text content
  | .declaration constant => .declaration constant
  | .component function => .component { function with root := function.root.restyle edit }

theorem ChunkContent.restyle_restyle (first second : Edit) (content : ChunkContent) :
    (content.restyle first).restyle second = content.restyle (first.andThen second) := by
  cases content with
  | text content => rfl
  | declaration constant => rfl
  | component function =>
      simp only [ChunkContent.restyle]
      rw [function.root.restyle_restyle first second]

theorem ChunkContent.restyle_none (content : ChunkContent) : content.restyle Edit.none = content := by
  cases content with
  | text content => rfl
  | declaration constant => rfl
  | component function =>
      simp only [ChunkContent.restyle]
      rw [function.root.restyle_none]

namespace ChunkStore

/-- The content under a name. -/
def content? (store : ChunkStore) (name : String) : Option ChunkContent :=
  (store.chunk? name).map Chunk.content

def restyle (store : ChunkStore) (edit : Edit) : ChunkStore :=
  store.map fun chunk => { chunk with content := chunk.content.restyle edit }

/-! ## Contents after a change -/

theorem chunk?_add_self (store : ChunkStore) (chunk : Chunk) :
    (store.add chunk).chunk? chunk.name = some chunk := by
  induction store with
  | nil => simp only [add, chunk?, List.find?_cons, decide_true]
  | cons existing rest inductionHypothesis =>
      rw [add]
      split
      · simp only [chunk?, List.find?_cons, decide_true]
      · rename_i different
        simp only [chunk?, List.find?_cons, different, decide_false]
        exact inductionHypothesis

theorem chunk?_add_of_ne {store : ChunkStore} {chunk : Chunk} {name : String}
    (other : chunk.name ≠ name) : (store.add chunk).chunk? name = store.chunk? name := by
  induction store with
  | nil => simp only [add, chunk?, List.find?_cons, other, decide_false, List.find?_nil]
  | cons existing rest inductionHypothesis =>
      rw [add]
      split
      · rename_i same
        rw [← same] at other
        simp only [chunk?, List.find?_cons, other, same ▸ other, decide_false]
      · simp only [chunk?, List.find?_cons]
        split
        · rfl
        · exact inductionHypothesis

/-- Adding a chunk keeps the names and appends a new one at the end. -/
theorem names_add (store : ChunkStore) (chunk : Chunk) :
    (store.add chunk).names =
      if chunk.name ∈ store.names then store.names else store.names ++ [chunk.name] := by
  induction store with
  | nil => rfl
  | cons existing rest inductionHypothesis =>
      rw [add]
      by_cases same : existing.name = chunk.name
      · have present : chunk.name ∈ names (existing :: rest) := same ▸ List.mem_cons_self
        rw [if_pos same, if_pos present]
        exact congrArg (· :: names rest) same.symm
      · have elsewhere : chunk.name ∈ names (existing :: rest) ↔ chunk.name ∈ names rest := by
          simp only [names, List.map_cons, List.mem_cons, Ne.symm same, false_or]
        rw [if_neg same]
        simp only [elsewhere]
        have later := congrArg (existing.name :: ·) inductionHypothesis
        split at later <;> rename_i known <;> simp only [known, if_true, if_false] <;> exact later

theorem mem_names_add_iff {store : ChunkStore} {chunk : Chunk} {name : String} :
    name ∈ (store.add chunk).names ↔ name = chunk.name ∨ name ∈ store.names := by
  rw [names_add]
  split
  · rename_i present
    constructor
    · exact Or.inr
    · rintro (rfl | member)
      · exact present
      · exact member
  · rw [List.mem_append, List.mem_singleton, or_comm]

theorem nodup_names_add {store : ChunkStore} (distinct : store.names.Nodup) (chunk : Chunk) :
    (store.add chunk).names.Nodup := by
  rw [names_add]
  split
  · exact distinct
  · rename_i absent
    rw [← List.concat_eq_append]
    exact distinct.concat absent

theorem eq_or_mem_of_mem_add {store : ChunkStore} {chunk other : Chunk}
    (member : other ∈ store.add chunk) : other = chunk ∨ other ∈ store := by
  induction store with
  | nil => exact Or.inl (List.mem_singleton.mp member)
  | cons existing rest inductionHypothesis =>
      rw [add] at member
      split at member
      · exact (List.mem_cons.mp member).imp_right (List.mem_cons_of_mem _)
      · rcases List.mem_cons.mp member with here | later
        · exact Or.inr (here ▸ List.mem_cons_self)
        · exact (inductionHypothesis later).imp_right (List.mem_cons_of_mem _)

theorem name_of_chunk? {store : ChunkStore} {name : String} {chunk : Chunk}
    (found : store.chunk? name = some chunk) : chunk.name = name := by
  have passes := List.find?_some found
  exact of_decide_eq_true passes

theorem placeAfter_eq (chunk : Chunk) (name : String) :
    placeAfter chunk name =
      { chunk with after := if name ∈ chunk.after then chunk.after else chunk.after ++ [name] } := by
  unfold placeAfter
  split <;> rfl

theorem after_prefix_placeAfter (chunk : Chunk) (name : String) :
    chunk.after <+: (placeAfter chunk name).after := by
  unfold placeAfter
  split
  · exact List.prefix_refl _
  · exact List.prefix_append _ _

theorem mem_after_placeAfter_iff {chunk : Chunk} {name other : String} :
    other ∈ (placeAfter chunk name).after ↔ other ∈ chunk.after ∨ other = name := by
  unfold placeAfter
  split
  · rename_i present
    exact ⟨Or.inl, fun known => known.elim id fun same => same ▸ present⟩
  · exact List.mem_append.trans (or_congr_right List.mem_singleton)

theorem nodup_after_placeAfter {chunk : Chunk} (distinct : chunk.after.Nodup) (name : String) :
    (placeAfter chunk name).after.Nodup := by
  unfold placeAfter
  split
  · exact distinct
  · rename_i absent
    rw [← List.concat_eq_append]
    exact distinct.concat absent

/-- An export that is there is replaced by one that also stands behind the styles. -/
theorem extendExport_of_some {store : ChunkStore} {exportName : String} {chunk : Chunk}
    (found : store.chunk? exportName = some chunk) (styleName importName : String)
    (content : Option String) :
    ∃ extended, store.extendExport exportName styleName importName content = store.add extended ∧
      extended.name = exportName ∧ extended.before = chunk.before ∧
      extended.after = (placeAfter chunk styleName).after := by
  have named := name_of_chunk? found
  simp only [extendExport, found, placeAfter_eq]
  cases content <;> exact ⟨_, rfl, named, rfl, rfl⟩

theorem chunk?_extendExport_of_ne {store : ChunkStore} {exportName styleName importName : String}
    {content : Option String} {name : String} (other : exportName ≠ name) :
    (store.extendExport exportName styleName importName content).chunk? name =
      store.chunk? name := by
  cases found : store.chunk? exportName with
  | none =>
      unfold extendExport
      rw [found]
      exact chunk?_add_of_ne other
  | some chunk =>
      rcases extendExport_of_some found styleName importName content with
        ⟨extended, replaced, named, _⟩
      rw [replaced]
      exact chunk?_add_of_ne (named ▸ other)

theorem names_restyle (store : ChunkStore) (edit : Edit) :
    (store.restyle edit).names = store.names :=
  List.map_map

theorem chunk?_restyle (store : ChunkStore) (edit : Edit) (name : String) :
    (store.restyle edit).chunk? name =
      (store.chunk? name).map fun chunk => { chunk with content := chunk.content.restyle edit } := by
  unfold chunk? restyle
  rw [List.find?_map]
  rfl

theorem content?_restyle (store : ChunkStore) (edit : Edit) (name : String) :
    (store.restyle edit).content? name = (store.content? name).map (ChunkContent.restyle edit) := by
  unfold content?
  rw [chunk?_restyle, Option.map_map, Option.map_map]
  rfl

/-! ## Changes as edits -/

theorem restyle_restyle (store : ChunkStore) (first second : Edit) :
    (store.restyle first).restyle second = store.restyle (first.andThen second) := by
  unfold restyle
  rw [List.map_map]
  refine List.map_congr_left fun chunk _ => ?_
  simp only [Function.comp_apply, ChunkContent.restyle_restyle]

theorem restyle_none (store : ChunkStore) : store.restyle Edit.none = store := by
  unfold restyle
  simp only [ChunkContent.restyle_none]
  exact List.map_id' store

/-- Changing the attributes of an origin restyles the store. -/
theorem changeAt_eq_restyle {change : Element → Element} {edit : Fields → Fields}
    (edits : EditsAttributes change edit) (store : ChunkStore) (origin : Origin) :
    store.changeAt origin change = store.restyle (Edit.single origin edit) := by
  unfold changeAt restyle
  refine List.map_congr_left fun chunk _ => ?_
  rcases chunk with ⟨name, kind, content, before, after⟩
  cases content with
  | text content => rfl
  | declaration constant => rfl
  | component function =>
      simp only [ChunkContent.restyle]
      rw [Markup.changeAt_eq_restyle edits origin function.root]

end ChunkStore
end ComponentCompiler
