import ComponentCompiler.Proofs.Linking.Circles
import Mathlib.Data.List.Find

namespace ComponentCompiler

/-!
# Linking what is linked

An order is settled when each of its names either is ready at its place or stands
where nothing behind it is ready either.  Linking leaves such an order as it is:
the first name that waits is taken in both cases.  What linking emits is settled,
also where it breaks a circle, for then no waiting name was ready.  So linking a
second time changes nothing, though the circles are met in another order of
registration.

A chunk is asked only whether all that precede it have been emitted.  Two lists
with the same names and the same precedence are therefore linked in the same way,
whichever chunks declare the constraints and however often.
-/

/-- Each name of the order is ready when the names before it have been emitted, or
else neither it nor any name behind it is. -/
def Settled (chunks : List Chunk) : List String → List String → Prop
  | _, [] => True
  | emitted, name :: rest =>
    (isReady chunks emitted name = true ∨
      ∀ other ∈ name :: rest, isReady chunks emitted other = false) ∧
      Settled chunks (name :: emitted) rest

/-! ## Settled orders are kept -/

/-- Linking emits the waiting names in a settled order. -/
theorem emitFrom_settled (chunks : List Chunk) (emitted waiting : List String) :
    Settled chunks emitted ((emitFrom chunks emitted waiting).map Prod.fst) := by
  fun_induction emitFrom chunks emitted waiting with
  | case1 emitted => trivial
  | case2 emitted first others ready name inductionHypothesis =>
      rw [List.map_cons]
      refine ⟨?_, inductionHypothesis⟩
      have taken : Taken chunks emitted (first :: others) name ready.isNone :=
        taken_next chunks emitted first others
      cases found : ready.isNone with
      | false =>
          rw [found] at taken
          exact Or.inl taken
      | true =>
          rw [found] at taken
          right
          intro other member
          apply taken.1
          -- the names that are left are those that waited
          have rearranged := emitFrom_perm chunks emitted (first :: others)
          rw [emitFrom, List.map_cons] at rearranged
          exact rearranged.mem_iff.mp member

/-- The head of a settled order is taken next. -/
theorem next_of_settled {chunks : List Chunk} {emitted rest : List String} {name : String}
    (settled : Settled chunks emitted (name :: rest)) :
    ((name :: rest).find? (isReady chunks emitted)).getD name = name := by
  rcases settled.1 with ready | noneReady
  · rw [List.find?_cons_of_pos ready]
    rfl
  · have absent : (name :: rest).find? (isReady chunks emitted) = none := by
      apply List.find?_eq_none.mpr
      intro other member ready
      rw [noneReady other member] at ready
      cases ready
    rw [absent]
    rfl

theorem emitFrom_of_settled {chunks : List Chunk} {emitted order : List String}
    (settled : Settled chunks emitted order) :
    (emitFrom chunks emitted order).map Prod.fst = order := by
  induction order generalizing emitted with
  | nil => simp only [emitFrom, List.map_nil]
  | cons name rest inductionHypothesis =>
      simp only [emitFrom, next_of_settled settled, List.map_cons, List.erase_cons_head]
      rw [inductionHypothesis settled.2]

/-- Linking leaves chunks of distinct names as they are exactly when their order is
settled. -/
theorem link_eq_self_iff {chunks : List Chunk} (distinct : (chunks.map Chunk.name).Nodup) :
    link chunks = chunks ↔ Settled chunks [] (chunks.map Chunk.name) := by
  constructor
  · intro kept
    have names := map_name_link chunks
    rw [kept] at names
    rw [names]
    exact emitFrom_settled chunks [] (chunks.map Chunk.name)
  · intro settled
    calc
      link chunks = ((linkedNames chunks).map Prod.fst).filterMap (lastNamed? chunks) := by
        rw [List.filterMap_map]
        rfl
      _ = (chunks.map Chunk.name).filterMap (lastNamed? chunks) := by
        rw [linkedNames, emitFrom_of_settled settled]
      _ = chunks := filterMap_lastNamed? distinct

/-! ## Only the precedence counts -/

section Congruence

variable {left right : List Chunk}

/-- With the same names and the same precedence a name is ready in both or in none. -/
theorem isReady_congr {name : String}
    (presentLeft : name ∈ left.map Chunk.name) (presentRight : name ∈ right.map Chunk.name)
    (same : ∀ first second, Precedes left first second ↔ Precedes right first second)
    (emitted : List String) : isReady left emitted name = isReady right emitted name := by
  rw [Bool.eq_iff_iff, isReady_iff left emitted presentLeft, isReady_iff right emitted presentRight]
  constructor
  · intro ready other before
    exact ready other ((same other name).mpr before)
  · intro ready other before
    exact ready other ((same other name).mp before)

theorem settled_congr {emitted order : List String}
    (same : ∀ name ∈ order, ∀ emitted, isReady left emitted name = isReady right emitted name)
    (settled : Settled left emitted order) : Settled right emitted order := by
  induction order generalizing emitted with
  | nil => trivial
  | cons name rest inductionHypothesis =>
      rcases settled with ⟨here, later⟩
      refine ⟨?_, inductionHypothesis (fun other member => same other (by simp [member])) later⟩
      rcases here with ready | noneReady
      · left
        rw [← same name List.mem_cons_self]
        exact ready
      · right
        intro other member
        rw [← same other member]
        exact noneReady other member

theorem emitFrom_congr {emitted waiting : List String}
    (same : ∀ name ∈ waiting, ∀ emitted, isReady left emitted name = isReady right emitted name) :
    emitFrom left emitted waiting = emitFrom right emitted waiting := by
  fun_induction emitFrom left emitted waiting with
  | case1 emitted => simp only [emitFrom]
  | case2 emitted first others ready name inductionHypothesis =>
      have sameNext : (first :: others).find? (isReady right emitted) = ready :=
        List.find?_congr fun other member => (same other member emitted).symm
      have onward := inductionHypothesis fun other member =>
        same other (List.mem_of_mem_erase member)
      rw [emitFrom, sameNext, onward]

theorem linkedNames_congr (names : left.map Chunk.name = right.map Chunk.name)
    (same : ∀ first second, Precedes left first second ↔ Precedes right first second) :
    linkedNames left = linkedNames right := by
  unfold linkedNames
  rw [← names]
  apply emitFrom_congr
  intro name member
  exact isReady_congr member (names ▸ member) same

/-- Rearranging chunks does not change which precede which. -/
theorem precedes_of_perm (rearranged : left.Perm right) (first second : String) :
    Precedes left first second ↔ Precedes right first second := by
  unfold Precedes
  simp only [(rearranged.map Chunk.name).mem_iff, rearranged.mem_iff]

end Congruence

/-- Chunks of distinct names are linked once: linking them again changes nothing,
whatever circles their constraints run in. -/
theorem link_link {chunks : List Chunk} (distinct : (chunks.map Chunk.name).Nodup) :
    link (link chunks) = link chunks := by
  have rearranged := link_perm distinct
  have linkedDistinct : ((link chunks).map Chunk.name).Nodup :=
    (rearranged.map Chunk.name).nodup_iff.mpr distinct
  rw [link_eq_self_iff linkedDistinct, map_name_link]
  refine settled_congr ?_ (emitFrom_settled chunks [] (chunks.map Chunk.name))
  intro name member
  have present : name ∈ chunks.map Chunk.name := (emitFrom_perm chunks [] _).mem_iff.mp member
  have stillPresent : name ∈ (link chunks).map Chunk.name :=
    (rearranged.map Chunk.name).mem_iff.mpr present
  exact isReady_congr present stillPresent (precedes_of_perm rearranged.symm)

/-- Linking is done once and for all, and it looks at nothing but the names and their
precedence.  Chunks of distinct names that are linked stay as they are when they are
linked again, circles or not.  Two lists with the same names in the same order, in
which the same names precede each other, are linked to the same order of names. -/
theorem link_settles_and_follows_precedence :
    (∀ chunks : List Chunk, (chunks.map Chunk.name).Nodup → link (link chunks) = link chunks) ∧
    ∀ left right : List Chunk, left.map Chunk.name = right.map Chunk.name →
      (∀ first second, Precedes left first second ↔ Precedes right first second) →
      (link left).map Chunk.name = (link right).map Chunk.name := by
  constructor
  · intro chunks distinct
    exact link_link distinct
  · intro left right names same
    rw [map_name_link, map_name_link, linkedNames_congr names same]

/-- The tangled module with its constraints declared by other chunks, some of them
twice, and with new ones on itself and on absent chunks. -/
def retangledModule : List Chunk :=
  [⟨"view", .script, .text "", ["style", "gone", "style"], []⟩,
   ⟨"style", .script, .text "", ["view", "export", "style"], ["gone"]⟩,
   ⟨"export", .script, .text "", [], ["export", "view"]⟩,
   ⟨"icons", .script, .text "", [], []⟩,
   ⟨"import", .script, .text "", ["icons", "icons"], ["import"]⟩]

theorem tangledModule_links_as_retangledModule :
    (tangledModule.map Chunk.name).Nodup ∧
      Relation.TransGen (Precedes tangledModule) "view" "view" ∧
      link (link tangledModule) = link tangledModule ∧
      tangledModule.map Chunk.name = retangledModule.map Chunk.name ∧
      (link tangledModule).map Chunk.name = (link retangledModule).map Chunk.name := by
  have distinct : (tangledModule.map Chunk.name).Nodup := by decide
  have circle : Relation.TransGen (Precedes tangledModule) "view" "view" :=
    .tail (.single (by decide : Precedes tangledModule "view" "style")) (by decide)
  have names : tangledModule.map Chunk.name = retangledModule.map Chunk.name := by decide
  have each : ∀ first ∈ tangledModule.map Chunk.name, ∀ second ∈ tangledModule.map Chunk.name,
      (Precedes tangledModule first second ↔ Precedes retangledModule first second) := by decide
  have same : ∀ first second,
      Precedes tangledModule first second ↔ Precedes retangledModule first second := by
    intro first second
    constructor
    · intro before
      exact (each first before.2.1 second before.2.2.1).mp before
    · intro before
      refine (each first ?_ second ?_).mpr before
      · rw [names]
        exact before.2.1
      · rw [names]
        exact before.2.2.1
  obtain ⟨settles, follows⟩ := link_settles_and_follows_precedence
  exact ⟨distinct, circle, settles tangledModule distinct, names,
    follows tangledModule retangledModule names same⟩

end ComponentCompiler
