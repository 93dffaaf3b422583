import ComponentCompiler.Chunk.Link
import Mathlib.Data.Fintype.Card
import Mathlib.Data.Fintype.EquivFin
import Mathlib.Data.Fintype.Sets
import Mathlib.Logic.Relation
import Mathlib.Order.WellFounded

namespace ComponentCompiler

/-!
# Precedence between chunks

The constraints of a list of chunks are one relation between names, whichever
of the two chunks declares them.  An order honours them when every name stands
behind all that precede it.

Linking emits one name after another, so the same condition is also stated step
by step: each name comes when all that precede it have been emitted.  For lists
without repetition the two say the same.  The emitted names are always a
rearrangement of the waiting ones.  When the relation has no circle, a name that
is ready is always found, and the emitted names are in order.
-/

/-- The first name has to stand before the second: both are present and
different, and the second is declared to come after the first or the first to
come before the second. -/
def Precedes (chunks : List Chunk) (first second : String) : Prop :=
  first ≠ second ∧ first ∈ chunks.map Chunk.name ∧ second ∈ chunks.map Chunk.name ∧
    ((∃ chunk ∈ chunks, chunk.name = second ∧ first ∈ chunk.after) ∨
      (∃ chunk ∈ chunks, chunk.name = first ∧ second ∈ chunk.before))

/-- No name has to stand before itself, not even by way of others. -/
def Uncircled (chunks : List Chunk) : Prop :=
  ∀ name, ¬ Relation.TransGen (Precedes chunks) name name

/-- Some name on a circle leads to the given one, which may be that name itself. -/
def BehindCircle (chunks : List Chunk) (name : String) : Prop :=
  ∃ start, Relation.TransGen (Precedes chunks) start start ∧
    Relation.ReflTransGen (Precedes chunks) start name

instance (chunks : List Chunk) (first second : String) : Decidable (Precedes chunks first second) :=
  inferInstanceAs (Decidable (_ ∧ _ ∧ _ ∧ _))

/-- Constraints that always lead to a greater rank run in no circle. -/
theorem uncircled_of_rank {chunks : List Chunk} (rank : String → Nat)
    (increasing : ∀ first ∈ chunks.map Chunk.name, ∀ second ∈ chunks.map Chunk.name,
      Precedes chunks first second → rank first < rank second) : Uncircled chunks := by
  have climbs : ∀ first second, Relation.TransGen (Precedes chunks) first second →
      rank first < rank second := by
    intro first second chain
    induction chain with
    | single before => exact increasing _ before.2.1 _ before.2.2.1 before
    | tail _ before inductionHypothesis =>
        exact Nat.lt_trans inductionHypothesis (increasing _ before.2.1 _ before.2.2.1 before)
  intro name circle
  exact Nat.lt_irrefl _ (climbs name name circle)

/-- Every name of the order stands behind those that precede it. -/
def Honours (chunks : List Chunk) (order : List String) : Prop :=
  ∀ first second, Precedes chunks first second → order.idxOf first < order.idxOf second

/-- Names are emitted in order when each comes after all that precede it; some
may have been emitted before. -/
def EmittedInOrder (chunks : List Chunk) : List String → List String → Prop
  | _, [] => True
  | emitted, name :: rest =>
    (∀ other, Precedes chunks other name → other ∈ emitted) ∧
      EmittedInOrder chunks (name :: emitted) rest

/-! ## The relation that linking computes -/

/-- The names collected for a present name are exactly those that precede it. -/
theorem mem_predecessors_iff (chunks : List Chunk) {name : String}
    (present : name ∈ chunks.map Chunk.name) (other : String) :
    other ∈ predecessors chunks name ↔ Precedes chunks other name := by
  unfold predecessors
  rw [List.mem_flatMap]
  constructor
  · rintro ⟨chunk, member, collected⟩
    rcases List.mem_append.mp collected with declared | declared
    · split at declared
      case isTrue same =>
        have conditions := List.mem_filter.mp declared
        have kept := Bool.and_eq_true_iff.mp conditions.2
        exact ⟨of_decide_eq_true kept.2, of_decide_eq_true kept.1, present,
          Or.inl ⟨chunk, member, same, conditions.1⟩⟩
      case isFalse => cases declared
    · split at declared
      case isTrue conditions =>
        have kept := Bool.and_eq_true_iff.mp conditions
        have named : other = chunk.name := List.mem_singleton.mp declared
        subst named
        exact ⟨of_decide_eq_true kept.2, List.mem_map_of_mem member, present,
          Or.inr ⟨chunk, member, rfl, of_decide_eq_true kept.1⟩⟩
      case isFalse => cases declared
  · rintro ⟨different, otherPresent, _, after | before⟩
    · rcases after with ⟨chunk, member, named, listed⟩
      refine ⟨chunk, member, List.mem_append_left _ ?_⟩
      rw [if_pos named]
      exact List.mem_filter.mpr ⟨listed, by simp only [otherPresent, different, decide_true,
        ne_eq, not_false_eq_true, Bool.and_self]⟩
    · rcases before with ⟨chunk, member, named, listed⟩
      subst named
      refine ⟨chunk, member, List.mem_append_right _ ?_⟩
      have conditions : (decide (name ∈ chunk.before) && decide (chunk.name ≠ name)) = true := by
        simp only [listed, different, decide_true, ne_eq, not_false_eq_true, Bool.and_self]
      rw [if_pos conditions]
      exact List.mem_singleton.mpr rfl

/-- A present name is ready when all that precede it have been emitted. -/
theorem isReady_iff (chunks : List Chunk) (emitted : List String) {name : String}
    (present : name ∈ chunks.map Chunk.name) :
    isReady chunks emitted name = true ↔
      ∀ other, Precedes chunks other name → other ∈ emitted := by
  unfold isReady
  rw [List.all_eq_true]
  constructor
  · intro allEmitted other before
    exact of_decide_eq_true (allEmitted other ((mem_predecessors_iff chunks present other).mpr before))
  · intro allEmitted other collected
    exact decide_eq_true (allEmitted other ((mem_predecessors_iff chunks present other).mp collected))

/-! ## Two readings of an order -/

/-- What is emitted in order stands behind all that precede it, unless these
were emitted before. -/
theorem idxOf_lt_of_emittedInOrder {chunks : List Chunk} {emitted order : List String}
    (inOrder : EmittedInOrder chunks emitted order) {first second : String}
    (before : Precedes chunks first second) (member : second ∈ order) :
    first ∈ emitted ∨ order.idxOf first < order.idxOf second := by
  induction order generalizing emitted with
  | nil => cases member
  | cons name rest inductionHypothesis =>
      rcases inOrder with ⟨headReady, restInOrder⟩
      by_cases atHead : second = name
      · subst atHead
        exact Or.inl (headReady first before)
      · have inRest : second ∈ rest := (List.mem_cons.mp member).resolve_left atHead
        by_cases firstAtHead : first = name
        · right
          subst firstAtHead
          rw [List.idxOf_cons_self, List.idxOf_cons_ne rest (Ne.symm atHead)]
          exact Nat.succ_pos _
        · rcases inductionHypothesis restInOrder inRest with known | earlier
          · exact Or.inl ((List.mem_cons.mp known).resolve_left firstAtHead)
          · right
            rw [List.idxOf_cons_ne rest (Ne.symm firstAtHead),
              List.idxOf_cons_ne rest (Ne.symm atHead)]
            exact Nat.succ_lt_succ earlier

/-- Names that stand behind all that precede them are emitted in order. -/
theorem emittedInOrder_of_idxOf_lt {chunks : List Chunk} {emitted order : List String}
    (distinct : order.Nodup)
    (placed : ∀ first second, Precedes chunks first second → second ∈ order →
      first ∈ emitted ∨ order.idxOf first < order.idxOf second) :
    EmittedInOrder chunks emitted order := by
  induction order generalizing emitted with
  | nil => trivial
  | cons name rest inductionHypothesis =>
      rcases List.nodup_cons.mp distinct with ⟨fresh, restDistinct⟩
      constructor
      · intro other before
        rcases placed other name before List.mem_cons_self with known | earlier
        · exact known
        · rw [List.idxOf_cons_self] at earlier
          exact absurd earlier (Nat.not_lt_zero _)
      · apply inductionHypothesis restDistinct
        intro first second before inRest
        have secondNotHead : name ≠ second := fun equal => fresh (equal ▸ inRest)
        rcases placed first second before (List.mem_cons_of_mem _ inRest) with known | earlier
        · exact Or.inl (List.mem_cons_of_mem _ known)
        · by_cases firstAtHead : name = first
          · exact Or.inl (firstAtHead ▸ List.mem_cons_self)
          · rw [List.idxOf_cons_ne rest firstAtHead, List.idxOf_cons_ne rest secondNotHead] at earlier
            exact Or.inr (Nat.lt_of_succ_lt_succ earlier)

/-- A rearrangement of the names honours the constraints exactly when its names
are emitted in order. -/
theorem honours_iff_emittedInOrder {chunks : List Chunk} {order : List String}
    (distinct : (chunks.map Chunk.name).Nodup) (rearranged : order.Perm (chunks.map Chunk.name)) :
    Honours chunks order ↔ EmittedInOrder chunks [] order := by
  constructor
  · intro honoured
    apply emittedInOrder_of_idxOf_lt (rearranged.nodup_iff.mpr distinct)
    intro first second before _
    exact Or.inr (honoured first second before)
  · intro inOrder first second before
    have member : second ∈ order := rearranged.mem_iff.mpr before.2.2.1
    exact (idxOf_lt_of_emittedInOrder inOrder before member).resolve_left List.not_mem_nil

/-! ## Emitting -/

theorem next_mem_waiting (chunks : List Chunk) (emitted : List String) (first : String)
    (others : List String) :
    ((first :: others).find? (isReady chunks emitted)).getD first ∈ first :: others := by
  cases found : (first :: others).find? (isReady chunks emitted) with
  | none => exact List.mem_cons_self
  | some name => exact List.mem_of_find?_eq_some found

/-- Every waiting name is emitted once, whatever the constraints are. -/
theorem emitFrom_perm (chunks : List Chunk) (emitted waiting : List String) :
    ((emitFrom chunks emitted waiting).map Prod.fst).Perm waiting := by
  fun_induction emitFrom chunks emitted waiting with
  | case1 emitted => exact List.Perm.refl []
  | case2 emitted first others ready name inductionHypothesis =>
      rw [List.map_cons]
      have member : name ∈ first :: others := next_mem_waiting chunks emitted first others
      exact (inductionHypothesis.cons name).trans (List.perm_cons_erase member).symm

/-- A name that no circle leads to waits for one that is ready: going back from it
along what precedes it ends at a name that no other waiting name precedes. -/
theorem exists_ready_upstream {chunks : List Chunk} {emitted waiting : List String} {name : String}
    (free : ¬ BehindCircle chunks name) (waits : name ∈ waiting)
    (known : ∀ other ∈ waiting, other ∈ chunks.map Chunk.name)
    (covered : ∀ other ∈ chunks.map Chunk.name, other ∈ emitted ∨ other ∈ waiting) :
    ∃ other ∈ waiting, isReady chunks emitted other = true := by
  let Upstream : Type :=
    { other // other ∈ waiting ∧ Relation.ReflTransGen (Precedes chunks) other name }
  let behind : Upstream → Upstream → Prop :=
    fun first second => Relation.TransGen (Precedes chunks) first.1 second.1
  have finite : Finite Upstream :=
    Finite.of_injective (fun other : Upstream => (⟨other.1, other.2.1⟩ : { other // other ∈ waiting }))
      fun _ _ same => Subtype.ext (congrArg (fun other => other.1) same)
  have transitive : IsTrans Upstream behind :=
    ⟨fun _ _ _ earlier later => Relation.TransGen.trans earlier later⟩
  have irreflexive : Std.Irrefl behind := ⟨fun other circle => free ⟨other.1, circle, other.2.2⟩⟩
  have wellFounded : WellFounded behind := Finite.wellFounded_of_trans_of_irrefl behind
  rcases wellFounded.has_min Set.univ ⟨⟨name, waits, .refl⟩, trivial⟩ with
    ⟨⟨source, sourceWaits, leads⟩, _, least⟩
  refine ⟨source, sourceWaits, (isReady_iff chunks emitted (known source sourceWaits)).mpr ?_⟩
  intro other before
  rcases covered other before.2.1 with done | otherWaits
  · exact done
  · exact absurd (Relation.TransGen.single before)
      (least ⟨other, otherWaits, .head before leads⟩ trivial)

/-- Without a circle some waiting name is ready. -/
theorem exists_ready {chunks : List Chunk} (uncircled : Uncircled chunks)
    {emitted waiting : List String} (waits : waiting ≠ [])
    (known : ∀ name ∈ waiting, name ∈ chunks.map Chunk.name)
    (covered : ∀ name ∈ chunks.map Chunk.name, name ∈ emitted ∨ name ∈ waiting) :
    ∃ name ∈ waiting, isReady chunks emitted name = true := by
  rcases List.exists_mem_of_ne_nil waiting waits with ⟨name, nameWaits⟩
  exact exists_ready_upstream (fun behind => uncircled behind.choose behind.choose_spec.1)
    nameWaits known covered

theorem covered_after_emitting {names emitted waiting : List String} (name : String)
    (covered : ∀ other ∈ names, other ∈ emitted ∨ other ∈ waiting) :
    ∀ other ∈ names, other ∈ name :: emitted ∨ other ∈ waiting.erase name := by
  intro other member
  by_cases same : other = name
  · exact Or.inl (same ▸ List.mem_cons_self)
  · rcases covered other member with done | waits
    · exact Or.inl (List.mem_cons_of_mem _ done)
    · exact Or.inr ((List.mem_erase_of_ne same).mpr waits)

/-- Without a circle the waiting names are emitted in order. -/
theorem emitFrom_inOrder {chunks : List Chunk} (uncircled : Uncircled chunks)
    {emitted waiting : List String}
    (known : ∀ name ∈ waiting, name ∈ chunks.map Chunk.name)
    (covered : ∀ name ∈ chunks.map Chunk.name, name ∈ emitted ∨ name ∈ waiting) :
    EmittedInOrder chunks emitted ((emitFrom chunks emitted waiting).map Prod.fst) := by
  fun_induction emitFrom chunks emitted waiting with
  | case1 emitted => trivial
  | case2 emitted first others ready name inductionHypothesis =>
      rcases exists_ready uncircled (List.cons_ne_nil first others) known covered with
        ⟨candidate, candidateWaits, candidateReady⟩
      have found : ∃ chosen, ready = some chosen :=
        Option.isSome_iff_exists.mp (List.find?_isSome.mpr ⟨candidate, candidateWaits, candidateReady⟩)
      rcases found with ⟨chosen, chosenFound⟩
      have nameReady : isReady chunks emitted name = true := by
        have same : name = chosen := by simp only [name, chosenFound, Option.getD_some]
        rw [same]
        exact List.find?_some chosenFound
      have nameKnown := known name (next_mem_waiting chunks emitted first others)
      rw [List.map_cons]
      refine ⟨(isReady_iff chunks emitted nameKnown).mp nameReady, ?_⟩
      exact inductionHypothesis (fun other member => known other (List.mem_of_mem_erase member))
        (covered_after_emitting name covered)

end ComponentCompiler
