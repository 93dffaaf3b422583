import ComponentCompiler.Proofs.Linking.LeastOrder

namespace ComponentCompiler

/-!
# Linking chunks whose constraints run in circles

Every emission is one of two kinds.  Either the name is ready, or no waiting name
is and the first of them is taken.  A run is read at any of its emissions: the
names before it have been emitted, it and the names behind it are waiting, and
these still stand in the order of registration.

The second kind needs a circle.  When no waiting name is ready, going back from
any of them along what precedes it never leaves the waiting names, so it is
behind a circle.  Names behind no circle are therefore emitted when they are
ready, however many circles are broken before.  Without an emission of the second
kind the whole order honours the constraints, and this leaves no room for a
circle.
-/

/-- How a name is taken out of the waiting ones: it is ready, or no waiting name is
and it is the first. -/
def Taken (chunks : List Chunk) (emitted waiting : List String) (name : String) : Bool → Prop
  | false => isReady chunks emitted name = true
  | true => (∀ other ∈ waiting, isReady chunks emitted other = false) ∧ waiting.head? = some name

/-! ## A run at one of its emissions -/

theorem taken_next (chunks : List Chunk) (emitted : List String) (first : String)
    (others : List String) :
    Taken chunks emitted (first :: others)
      (((first :: others).find? (isReady chunks emitted)).getD first)
      ((first :: others).find? (isReady chunks emitted)).isNone := by
  cases found : (first :: others).find? (isReady chunks emitted) with
  | none =>
      refine ⟨fun other member => ?_, rfl⟩
      exact Bool.eq_false_iff.mpr (List.find?_eq_none.mp found other member)
  | some name => exact List.find?_some found

/-- At each emission of a run the names behind it are waiting, in the order in which
they waited before, and the name is taken out of them. -/
theorem exists_waiting_of_emitFrom {chunks : List Chunk} {emitted waiting : List String}
    (earlier : List (String × Bool)) {later : List (String × Bool)} {name : String} {broken : Bool}
    (run : emitFrom chunks emitted waiting = earlier ++ (name, broken) :: later) :
    ∃ left, left.Sublist waiting ∧ left.Perm (name :: later.map Prod.fst) ∧
      Taken chunks ((earlier.map Prod.fst).reverse ++ emitted) left name broken := by
  revert earlier
  fun_induction emitFrom chunks emitted waiting with
  | case1 emitted =>
      intro earlier run
      cases earlier <;> cases run
  | case2 emitted first others ready chosen inductionHypothesis =>
      intro earlier run
      cases earlier with
      | nil =>
          rcases List.cons.inj run with ⟨here, rest⟩
          rcases Prod.mk.inj here with ⟨rfl, rfl⟩
          have whole := emitFrom_perm chunks emitted (first :: others)
          rw [emitFrom, List.map_cons] at whole
          refine ⟨first :: others, List.Sublist.refl _, ?_, taken_next chunks emitted first others⟩
          rw [← rest]
          exact whole.symm
      | cons entry before =>
          rcases List.cons.inj run with ⟨here, rest⟩
          rcases inductionHypothesis before rest with ⟨left, remaining, same, taken⟩
          refine ⟨left, remaining.trans List.erase_sublist, same, ?_⟩
          rw [← here, List.map_cons, List.reverse_cons, List.append_assoc]
          exact taken

section Runs

variable {chunks : List Chunk} {earlier later : List (String × Bool)} {name : String}
  {broken : Bool}

/-- What has been emitted before an emission of a run, and what waits there, are all
the names. -/
theorem covered_at_emission (run : linkedNames chunks = earlier ++ (name, broken) :: later)
    {left : List String} (same : left.Perm (name :: later.map Prod.fst)) :
    ∀ other ∈ chunks.map Chunk.name, other ∈ (earlier.map Prod.fst).reverse ++ [] ∨ other ∈ left := by
  intro other member
  have listed : other ∈ (linkedNames chunks).map Prod.fst :=
    (emitFrom_perm chunks [] (chunks.map Chunk.name)).mem_iff.mpr member
  rw [run, List.map_append, List.mem_append] at listed
  rw [List.append_nil, List.mem_reverse, same.mem_iff]
  exact listed

/-- A name for which a circle is broken is behind a circle. -/
theorem behindCircle_of_broken (listed : (name, true) ∈ linkedNames chunks) :
    BehindCircle chunks name := by
  rcases List.append_of_mem listed with ⟨earlier, later, run⟩
  obtain ⟨left, remaining, same, noneReady, _⟩ := exists_waiting_of_emitFrom _ run
  by_contra free
  have waits : name ∈ left := same.mem_iff.mpr List.mem_cons_self
  have known : ∀ other ∈ left, other ∈ chunks.map Chunk.name :=
    fun other member => remaining.subset member
  rcases exists_ready_upstream free waits known (covered_at_emission run same) with
    ⟨other, otherWaits, ready⟩
  rw [noneReady other otherWaits] at ready
  cases ready

/-- A name that was ready when it was emitted stands behind all that precede it. -/
theorem mem_earlier_of_ready (run : linkedNames chunks = earlier ++ (name, false) :: later)
    {other : String} (before : Precedes chunks other name) : other ∈ earlier.map Prod.fst := by
  obtain ⟨_, _, _, ready⟩ := exists_waiting_of_emitFrom _ run
  have emitted := (isReady_iff chunks _ before.2.2.1).mp ready other before
  rw [List.append_nil, List.mem_reverse] at emitted
  exact emitted

end Runs

/-! ## Linked chunks -/

section Linked

variable {chunks : List Chunk}

/-- A name stands behind what precedes it, unless a circle was broken for it. -/
theorem broken_or_idxOf_lt (distinct : (chunks.map Chunk.name).Nodup) {first second : String}
    (before : Precedes chunks first second) :
    (second, true) ∈ linkedNames chunks ∨
      ((link chunks).map Chunk.name).idxOf first < ((link chunks).map Chunk.name).idxOf second := by
  have emitted : second ∈ (linkedNames chunks).map Prod.fst :=
    (emitFrom_perm chunks [] _).mem_iff.mpr before.2.2.1
  obtain ⟨⟨_, broken⟩, listed, rfl⟩ := List.mem_map.mp emitted
  cases broken with
  | true => exact Or.inl listed
  | false =>
      right
      rcases List.append_of_mem listed with ⟨earlier, later, run⟩
      have firstEmitted := mem_earlier_of_ready run before
      have whole : ((linkedNames chunks).map Prod.fst).Nodup :=
        (emitFrom_perm chunks [] _).nodup_iff.mpr distinct
      rw [map_name_link chunks]
      rw [run, List.map_append, List.map_cons] at whole ⊢
      have fresh := (List.nodup_append.mp whole).2.2
      rw [List.idxOf_append_of_mem firstEmitted, List.idxOf_append_of_notMem
        fun again => fresh _ again _ List.mem_cons_self rfl]
      have inside := List.idxOf_lt_length_of_mem firstEmitted
      omega

/-- Without a circle the linked order honours all constraints. -/
theorem link_honours (distinct : (chunks.map Chunk.name).Nodup) (uncircled : Uncircled chunks) :
    Honours chunks ((link chunks).map Chunk.name) := by
  intro first second before
  rcases broken_or_idxOf_lt distinct before with broken | behind
  · rcases behindCircle_of_broken broken with ⟨start, circle, _⟩
    exact absurd circle (uncircled start)
  · exact behind

/-- When a chunk stands before one that precedes it, nothing was ready at its place
and it was the first of those that waited there. -/
theorem first_of_stuck (distinct : (chunks.map Chunk.name).Nodup) {earlier later : List Chunk}
    {chunk other : Chunk} (linked : link chunks = earlier ++ chunk :: later)
    (behind : other ∈ later) (before : Precedes chunks other.name chunk.name) :
    (∀ waiting ∈ chunk :: later, ∃ missing, Precedes chunks missing waiting.name ∧
        missing ∉ earlier.map Chunk.name) ∧
      ∀ waiting ∈ later, (chunks.map Chunk.name).idxOf chunk.name <
        (chunks.map Chunk.name).idxOf waiting.name := by
  have names := map_name_link chunks
  rw [linked, List.map_append, List.map_cons] at names
  rcases List.map_eq_append_iff.mp names.symm with ⟨emitted, rest, run, sameEarlier, sameRest⟩
  rcases List.map_eq_cons_iff.mp sameRest with ⟨⟨_, broken⟩, pending, rfl, rfl, sameLater⟩
  have whole : ((link chunks).map Chunk.name).Nodup :=
    ((link_perm distinct).map Chunk.name).nodup_iff.mpr distinct
  rw [linked, List.map_append, List.map_cons] at whole
  cases broken with
  | false =>
      have already := mem_earlier_of_ready run before
      rw [sameEarlier] at already
      exact absurd rfl ((List.nodup_append.mp whole).2.2 _ already _
        (List.mem_cons_of_mem _ (List.mem_map_of_mem behind)))
  | true =>
      obtain ⟨left, remaining, same, noneReady, leads⟩ := exists_waiting_of_emitFrom _ run
      rw [sameLater] at same
      rw [sameEarlier, List.append_nil] at noneReady
      constructor
      · intro waiting member
        have waits : waiting.name ∈ left := same.mem_iff.mpr (List.mem_map_of_mem member)
        have notReady := noneReady waiting.name waits
        by_contra complete
        have ready := (isReady_iff chunks (earlier.map Chunk.name).reverse
          (remaining.subset waits)).mpr fun missing precedes =>
            List.mem_reverse.mpr (by_contra fun absent => complete ⟨missing, precedes, absent⟩)
        rw [notReady] at ready
        cases ready
      · intro waiting member
        have ordered := (pairwise_idxOf_lt distinct).sublist remaining
        cases left with
        | nil => cases leads
        | cons first others =>
            cases leads
            exact (List.pairwise_cons.mp ordered).1 waiting.name
              (same.cons_inv.mem_iff.mpr (List.mem_map_of_mem member))

end Linked

/-! ## Warnings -/

theorem cycle_mem_linkNotices_iff {chunks : List Chunk} {name : String} :
    LinkNotice.cycle name ∈ linkNotices chunks ↔ (name, true) ∈ linkedNames chunks := by
  unfold linkNotices
  rw [List.mem_append, List.mem_filterMap]
  constructor
  · rintro (absent | ⟨⟨other, broken⟩, listed, noticed⟩)
    · rcases List.mem_flatMap.mp absent with ⟨chunk, _, ofChunk⟩
      rcases List.mem_append.mp ofChunk with after | before
      · rcases List.mem_map.mp after with ⟨_, _, impossible⟩
        cases impossible
      · rcases List.mem_map.mp before with ⟨_, _, impossible⟩
        cases impossible
    · cases broken with
      | false => cases noticed
      | true =>
          cases noticed
          exact listed
  · intro listed
    exact Or.inr ⟨(name, true), listed, rfl⟩

/-- Linking warns of a circle exactly when there is one. -/
theorem exists_cycle_entry_iff {chunks : List Chunk} (distinct : (chunks.map Chunk.name).Nodup) :
    (∃ name, (LinkNotice.cycle name).entry ∈ (linkNotices chunks).map LinkNotice.entry) ↔
      ∃ name, Relation.TransGen (Precedes chunks) name name := by
  constructor
  · rintro ⟨name, logged⟩
    rcases List.mem_map.mp logged with ⟨notice, noticed, same⟩
    cases notice with
    | cycle broken =>
        rcases behindCircle_of_broken (cycle_mem_linkNotices_iff.mp noticed) with ⟨start, circle, _⟩
        exact ⟨start, circle⟩
    | absentAfter chunk absent => cases congrArg Log.Entry.level same
    | absentBefore chunk absent => cases congrArg Log.Entry.level same
  · rintro ⟨name, circle⟩
    by_contra silent
    -- nothing was broken, so the places in the linked order rise along the circle
    have rises : ∀ first second, Relation.TransGen (Precedes chunks) first second →
        ((link chunks).map Chunk.name).idxOf first < ((link chunks).map Chunk.name).idxOf second := by
      intro first second chain
      have step : ∀ {first second}, Precedes chunks first second →
          ((link chunks).map Chunk.name).idxOf first <
            ((link chunks).map Chunk.name).idxOf second := by
        intro first second before
        refine (broken_or_idxOf_lt distinct before).resolve_left fun broken => silent ?_
        exact ⟨second, List.mem_map_of_mem (cycle_mem_linkNotices_iff.mpr broken)⟩
      induction chain with
      | single before => exact step before
      | tail _ before inductionHypothesis => exact Nat.lt_trans inductionHypothesis (step before)
    exact Nat.lt_irrefl _ (rises name name circle)

/-- For distinct names and any constraints, linking rearranges the chunks.  A chunk
behind no circle stands behind all that precede it.  Where a chunk stands before one
that precedes it, no chunk that was waiting had all its predecessors emitted, and it
was registered before all the others.  A circle is warned of exactly when there is
one. -/
theorem link_breaks_circles_only (chunks : List Chunk) (distinct : (chunks.map Chunk.name).Nodup) :
    (link chunks).Perm chunks ∧
    (∀ first second, Precedes chunks first second → ¬ BehindCircle chunks second →
      ((link chunks).map Chunk.name).idxOf first < ((link chunks).map Chunk.name).idxOf second) ∧
    (∀ earlier chunk later, link chunks = earlier ++ chunk :: later →
      (∃ other ∈ later, Precedes chunks other.name chunk.name) →
      (∀ waiting ∈ chunk :: later, ∃ missing, Precedes chunks missing waiting.name ∧
          missing ∉ earlier.map Chunk.name) ∧
        ∀ waiting ∈ later, (chunks.map Chunk.name).idxOf chunk.name <
          (chunks.map Chunk.name).idxOf waiting.name) ∧
    ((∃ name, (LinkNotice.cycle name).entry ∈ (linkNotices chunks).map LinkNotice.entry) ↔
      ∃ name, Relation.TransGen (Precedes chunks) name name) := by
  refine ⟨link_perm distinct, ?_, ?_, exists_cycle_entry_iff distinct⟩
  · intro first second before free
    exact (broken_or_idxOf_lt distinct before).resolve_left fun broken =>
      free (behindCircle_of_broken broken)
  · rintro earlier chunk later linked ⟨other, behind, before⟩
    exact first_of_stuck distinct linked behind before

/-- A name is behind no circle when ranks rise along all constraints that can lead to
it. -/
theorem not_behindCircle_of_rank {chunks : List Chunk} {name : String} (rank : String → Nat)
    (increasing : ∀ first ∈ chunks.map Chunk.name, ∀ second ∈ chunks.map Chunk.name,
      Precedes chunks first second → rank second ≤ rank name → rank first < rank second) :
    ¬ BehindCircle chunks name := by
  have low : ∀ start, Relation.ReflTransGen (Precedes chunks) start name →
      rank start ≤ rank name := by
    intro start leads
    induction leads using Relation.ReflTransGen.head_induction_on with
    | refl => exact Nat.le_refl _
    | head before _ inductionHypothesis =>
        have rises := increasing _ before.2.1 _ before.2.2.1 before inductionHypothesis
        omega
  rintro ⟨start, circle, leads⟩
  have startLow := low start leads
  have climbs : ∀ first, Relation.TransGen (Precedes chunks) first start →
      rank first < rank start := by
    intro first chain
    induction chain using Relation.TransGen.head_induction_on with
    | single before => exact increasing _ before.2.1 _ before.2.2.1 before startLow
    | head before _ inductionHypothesis =>
        have rises := increasing _ before.2.1 _ before.2.2.1 before (by omega)
        omega
  exact Nat.lt_irrefl _ (climbs start circle)

/-- A view and a style that each ask to stand behind the other, an export behind both,
and icons that only wait for the imports. -/
def tangledModule : List Chunk :=
  [⟨"view", .script, .text "", ["export"], ["style", "view"]⟩,
   ⟨"style", .script, .text "", [], ["view", "missing"]⟩,
   ⟨"export", .script, .text "", [], ["style"]⟩,
   ⟨"icons", .script, .text "", [], ["import"]⟩,
   ⟨"import", .script, .text "", [], []⟩]

theorem tangledModule_breaks_its_circle :
    (tangledModule.map Chunk.name).Nodup ∧ (link tangledModule).Perm tangledModule ∧
      ((link tangledModule).map Chunk.name).idxOf "import" <
        ((link tangledModule).map Chunk.name).idxOf "icons" ∧
      ∃ name, (LinkNotice.cycle name).entry ∈ (linkNotices tangledModule).map LinkNotice.entry := by
  have distinct : (tangledModule.map Chunk.name).Nodup := by decide
  obtain ⟨rearranged, behind, _, warned⟩ := link_breaks_circles_only tangledModule distinct
  have circle : Relation.TransGen (Precedes tangledModule) "view" "view" :=
    .tail (.single (by decide : Precedes tangledModule "view" "style")) (by decide)
  have free : ¬ BehindCircle tangledModule "icons" :=
    not_behindCircle_of_rank (["import", "icons"].idxOf ·) (by decide)
  exact ⟨distinct, rearranged, behind "import" "icons" (by decide) free, warned.mpr ⟨"view", circle⟩⟩

end ComponentCompiler
