import ComponentCompiler.Proofs.Linking.Precedence
import Mathlib.Data.List.Lex

namespace ComponentCompiler

/-!
# The linked order is the least one

Among all orders that honour the constraints, linking finds the one that comes
first when orders are compared by the places at which their chunks were
registered.  It only ever looks one step ahead, and that is enough: the first
name of any order that honours the constraints is ready, and linking takes the
ready name that was registered first.  Where the two agree, both go on with the
same names waiting.
-/

/-- The places at which the chunks of an order were registered. -/
def registration (chunks order : List Chunk) : List Nat :=
  order.map fun chunk => (chunks.map Chunk.name).idxOf chunk.name

theorem pairwise_idxOf_lt {names : List String} (distinct : names.Nodup) :
    names.Pairwise fun first second => names.idxOf first < names.idxOf second := by
  rw [List.pairwise_iff_getElem]
  intro first second firstBound secondBound earlier
  rw [distinct.idxOf_getElem, distinct.idxOf_getElem]
  exact earlier

/-- The first item that passes a test comes no later than any other one that
passes it. -/
theorem eq_or_rel_of_find? {α : Type} {relation : α → α → Prop} {test : α → Bool}
    {items : List α} {found item : α} (ordered : items.Pairwise relation)
    (first : items.find? test = some found) (member : item ∈ items) (passes : test item = true) :
    found = item ∨ relation found item := by
  rcases List.find?_eq_some_iff_append.mp first with ⟨_, before, after, split, refused⟩
  subst split
  rcases List.mem_append.mp member with inBefore | inRest
  · have fails := refused item inBefore
    rw [passes] at fails
    cases fails
  · rcases List.mem_cons.mp inRest with same | inAfter
    · exact Or.inl same.symm
    · exact Or.inr ((List.pairwise_cons.mp (List.pairwise_append.mp ordered).2.1).1 item inAfter)

/-- Emitting is least among all ways to emit the waiting names in order. -/
theorem emitFrom_least {chunks : List Chunk} {emitted waiting : List String}
    (known : ∀ name ∈ waiting, name ∈ chunks.map Chunk.name)
    (ordered : waiting.Pairwise fun first second =>
      (chunks.map Chunk.name).idxOf first < (chunks.map Chunk.name).idxOf second)
    (other : List String) (rearranged : other.Perm waiting)
    (inOrder : EmittedInOrder chunks emitted other) :
    ((emitFrom chunks emitted waiting).map fun name => (chunks.map Chunk.name).idxOf name.1) ≤
      other.map (chunks.map Chunk.name).idxOf := by
  revert other
  fun_induction emitFrom chunks emitted waiting with
  | case1 emitted =>
      intro other rearranged _
      rw [rearranged.eq_nil]
      exact le_refl _
  | case2 emitted first others ready name inductionHypothesis =>
      intro other rearranged inOrder
      cases other with
      | nil => exact absurd rearranged.symm.eq_nil (List.cons_ne_nil _ _)
      | cons rival rest =>
          rcases inOrder with ⟨rivalReady, restInOrder⟩
          have rivalWaits : rival ∈ first :: others := rearranged.mem_iff.mp List.mem_cons_self
          have rivalPasses : isReady chunks emitted rival = true :=
            (isReady_iff chunks emitted (known rival rivalWaits)).mpr rivalReady
          obtain ⟨chosen, chosenFound⟩ : ∃ chosen, ready = some chosen :=
            Option.isSome_iff_exists.mp (List.find?_isSome.mpr ⟨rival, rivalWaits, rivalPasses⟩)
          have same : name = chosen := by simp only [name, chosenFound, Option.getD_some]
          -- The head of the other order is ready too, and the first ready name was taken.
          rcases eq_or_rel_of_find? ordered chosenFound rivalWaits rivalPasses with agree | earlier
          · have rivalIsName : name = rival := same.trans agree
            rw [List.map_cons, List.map_cons, rivalIsName]
            apply List.cons_le_cons
            rw [← rivalIsName]
            apply inductionHypothesis
            · intro inner member
              exact known inner (List.mem_of_mem_erase member)
            · exact ordered.sublist (List.erase_sublist)
            · have removed := rearranged.erase rival
              rw [List.erase_cons_head] at removed
              rw [rivalIsName]
              exact removed
            · rw [rivalIsName]
              exact restInOrder
          · apply le_of_lt
            rw [List.map_cons, List.map_cons, same]
            exact List.Lex.rel earlier

/-! ## From names to chunks -/

theorem lastNamed?_eq_some {chunks : List Chunk} (distinct : (chunks.map Chunk.name).Nodup)
    {chunk : Chunk} (member : chunk ∈ chunks) : lastNamed? chunks chunk.name = some chunk := by
  unfold lastNamed?
  cases found : chunks.reverse.find? fun other => other.name = chunk.name with
  | none =>
      have refused := List.find?_eq_none.mp found chunk (List.mem_reverse.mpr member)
      exact absurd (decide_eq_true rfl) refused
  | some other =>
      have passes := List.find?_some found
      have named : other.name = chunk.name := of_decide_eq_true passes
      have otherMember := List.mem_reverse.mp (List.mem_of_find?_eq_some found)
      exact congrArg some (List.inj_on_of_nodup_map distinct otherMember member named)

/-- Every present name has a chunk, which bears this name. -/
theorem exists_lastNamed? {chunks : List Chunk} {name : String}
    (present : name ∈ chunks.map Chunk.name) :
    ∃ chunk, lastNamed? chunks name = some chunk ∧ chunk.name = name := by
  rcases List.mem_map.mp present with ⟨bearer, member, named⟩
  have found : (lastNamed? chunks name).isSome = true :=
    List.find?_isSome.mpr ⟨bearer, List.mem_reverse.mpr member, decide_eq_true named⟩
  rcases Option.isSome_iff_exists.mp found with ⟨chunk, isChunk⟩
  have passes := List.find?_some isChunk
  exact ⟨chunk, isChunk, of_decide_eq_true passes⟩

/-- The linked chunks bear the linked names, in order. -/
theorem map_name_link (chunks : List Chunk) :
    (link chunks).map Chunk.name = (linkedNames chunks).map Prod.fst := by
  have named : ∀ emitted ∈ linkedNames chunks,
      ∃ chunk, lastNamed? chunks emitted.1 = some chunk ∧ chunk.name = emitted.1 := by
    intro emitted member
    apply exists_lastNamed?
    exact (emitFrom_perm chunks [] _).mem_iff.mp (List.mem_map_of_mem member)
  unfold link
  revert named
  induction linkedNames chunks with
  | nil => exact fun _ => rfl
  | cons emitted rest inductionHypothesis =>
      intro named
      rcases named emitted List.mem_cons_self with ⟨chunk, found, same⟩
      simp only [List.filterMap_cons, found, List.map_cons, same]
      rw [inductionHypothesis fun other member => named other (List.mem_cons_of_mem _ member)]

/-- Chunks of distinct names are found by their names, in order. -/
theorem filterMap_lastNamed? {chunks : List Chunk} (distinct : (chunks.map Chunk.name).Nodup) :
    (chunks.map Chunk.name).filterMap (lastNamed? chunks) = chunks := by
  have found : ∀ chunk ∈ chunks, (lastNamed? chunks ∘ Chunk.name) chunk = some chunk :=
    fun chunk member => lastNamed?_eq_some distinct member
  rw [List.filterMap_map, List.filterMap_congr found]
  exact List.filterMap_some

theorem link_perm {chunks : List Chunk} (distinct : (chunks.map Chunk.name).Nodup) :
    (link chunks).Perm chunks := by
  have emitted := (emitFrom_perm chunks [] (chunks.map Chunk.name)).filterMap (lastNamed? chunks)
  rw [filterMap_lastNamed? distinct, List.filterMap_map] at emitted
  exact emitted

/-- For distinct names without a circle of constraints, linking rearranges the
chunks, honours every constraint, and is the least order that does so: no other
rearrangement that honours them has smaller places of registration, compared
from the front. -/
theorem link_honours_and_least (chunks : List Chunk)
    (distinct : (chunks.map Chunk.name).Nodup) (uncircled : Uncircled chunks) :
    (link chunks).Perm chunks ∧ Honours chunks ((link chunks).map Chunk.name) ∧
      ∀ other : List Chunk, other.Perm chunks → Honours chunks (other.map Chunk.name) →
        registration chunks (link chunks) ≤ registration chunks other := by
  have known : ∀ name ∈ chunks.map Chunk.name, name ∈ chunks.map Chunk.name := fun _ member => member
  have covered : ∀ name ∈ chunks.map Chunk.name, name ∈ [] ∨ name ∈ chunks.map Chunk.name :=
    fun _ member => Or.inr member
  have names := map_name_link chunks
  refine ⟨link_perm distinct, ?_, ?_⟩
  · rw [honours_iff_emittedInOrder distinct ((link_perm distinct).map Chunk.name), names]
    exact emitFrom_inOrder uncircled known covered
  · intro other rearranged honoured
    have inOrder := (honours_iff_emittedInOrder distinct (rearranged.map Chunk.name)).mp honoured
    have least := emitFrom_least known (pairwise_idxOf_lt distinct) _ (rearranged.map Chunk.name) inOrder
    have ours : registration chunks (link chunks) =
        (linkedNames chunks).map fun name => (chunks.map Chunk.name).idxOf name.1 := by
      have mapped := congrArg (List.map (chunks.map Chunk.name).idxOf) names
      rw [List.map_map, List.map_map] at mapped
      exact mapped
    rw [List.map_map] at least
    rw [ours]
    exact least

/-- The chunks of a module with injected styles, registered before the imports
that they stand after. -/
def unlinkedModule : List Chunk :=
  [⟨"component", .script, .text "", [], ["import"]⟩,
   ⟨"export", .script, .text "", [], ["component", "style", "missing"]⟩,
   ⟨"style", .script, .text "", ["export", "style"], ["import"]⟩,
   ⟨"import", .script, .text "", [], []⟩]

theorem unlinkedModule_linked_least :
    (unlinkedModule.map Chunk.name).Nodup ∧ Uncircled unlinkedModule ∧
      (link unlinkedModule).Perm unlinkedModule ∧
      Honours unlinkedModule ((link unlinkedModule).map Chunk.name) ∧
      ∀ other : List Chunk, other.Perm unlinkedModule →
        Honours unlinkedModule (other.map Chunk.name) →
        registration unlinkedModule (link unlinkedModule) ≤ registration unlinkedModule other := by
  have distinct : (unlinkedModule.map Chunk.name).Nodup := by decide
  have uncircled : Uncircled unlinkedModule :=
    uncircled_of_rank (["import", "component", "style", "export"].idxOf ·) (by decide)
  exact ⟨distinct, uncircled, link_honours_and_least unlinkedModule distinct uncircled⟩

end ComponentCompiler
