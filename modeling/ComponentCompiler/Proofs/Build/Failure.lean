import ComponentCompiler.Proofs.Build.Nesting
import ComponentCompiler.Proofs.Content.Writable
import ComponentCompiler.Proofs.Markup.Writable

namespace ComponentCompiler

open Script

/-!
# When a build fails

Of content that can be written, a build fails only over an element whose type has
no entry.  It fails over the first of these in the order of its visits.  Whatever
it builds otherwise can be written.  Both are shown together, step by step along
the build: each step fails as its visits say, and its parts can be written.
-/

namespace MappingTable

/-- The failure over a node whose type has no entry. -/
def failureAt (table : MappingTable) (node : ContentNode) : Option Failure :=
  if table.IsUnmapped node then some (.unmapped node.type (some node.name)) else none

/-- The failure over the first of some visited nodes that has one. -/
def firstFailure (table : MappingTable) (visited : List (List Step × ContentNode)) :
    Option Failure :=
  visited.findSome? fun visit => table.failureAt visit.2

theorem firstFailure_append (table : MappingTable) (first second : List (List Step × ContentNode)) :
    table.firstFailure (first ++ second) =
      (table.firstFailure first).or (table.firstFailure second) :=
  List.findSome?_append

theorem firstFailure_visits (table : MappingTable) (depth : Nat) (node : ContentNode) :
    table.firstFailure (table.visits depth node) =
      (table.failureAt node).or (table.firstFailure (table.visitsBelow (table.belowAt depth node))) := by
  rw [visits_eq, firstFailure, List.findSome?_cons]
  cases table.failureAt node <;> rfl

/-- Where a node is does not matter for its failure. -/
theorem firstFailure_visitsBelow_single (table : MappingTable) (step : Step) (node : ContentNode)
    (depth : Nat) :
    table.firstFailure (table.visitsBelow [((step, node), depth)]) =
      table.firstFailure (table.visits depth node) := by
  unfold firstFailure visitsBelow
  rw [List.flatMap_singleton, List.findSome?_map]
  rfl

theorem firstFailure_visitsBelow_append (table : MappingTable)
    (first second : List ((Step × ContentNode) × Nat)) :
    table.firstFailure (table.visitsBelow (first ++ second)) =
      (table.firstFailure (table.visitsBelow first)).or
        (table.firstFailure (table.visitsBelow second)) := by
  rw [visitsBelow, List.flatMap_append]
  exact firstFailure_append table _ _

end MappingTable

/-! ## What elements are made of -/

theorem requireWritable_meets {scalars : List Scalar} (short : AllShort scalars) :
    (requireWritable scalars).Meets none fun _ => True := by
  have noFault : Scalar.writeFault? scalars = none := by
    unfold Scalar.writeFault?
    rw [if_neg]
    intro found
    rcases List.any_eq_true.mp found with ⟨scalar, member, tooLong⟩
    rw [short scalar member] at tooLong
    cases tooLong
  unfold requireWritable
  rw [noFault]
  exact Traced.Meets.ofResult rfl trivial

theorem hasLiteral_attributeValue {value : Value} (json : value.isJson = true) :
    (attributeValue value).HasLiteral := by
  unfold attributeValue
  split
  · exact Value.hasLiteral_code _
  · exact Value.hasLiteral_of_isJson json

theorem withAttributes_literal {element : Element} {attrs : Fields}
    (literals : AllLiteral element.attributes) (json : Fields.IsJson attrs) :
    AllLiteral (withAttributes element attrs).attributes := by
  unfold withAttributes
  induction attrs generalizing element with
  | nil => exact literals
  | cons attr rest inductionHypothesis =>
      rcases List.forall_mem_cons.mp json with ⟨here, later⟩
      exact inductionHypothesis (literals.put (hasLiteral_attributeValue here)) later

theorem withHandlers_literal {element : Element} (literals : AllLiteral element.attributes)
    (events : List (String × List Statement)) :
    AllLiteral (withHandlers element events).attributes := by
  unfold withHandlers
  induction events generalizing element with
  | nil => exact literals
  | cons event rest inductionHypothesis =>
      refine inductionHypothesis ?_
      dsimp only
      split
      · exact literals.put (Value.hasLiteral_code _)
      · exact literals

theorem ContentNode.started_literal {node : ContentNode} {entry : ElementMapping}
    (nodeWritable : node.Writable) (entryWritable : entry.Writable) (origin : Origin) :
    AllLiteral (node.started origin (entry.resolve node.attrs node.dependency)).attributes := by
  refine withHandlers_literal (withAttributes_literal ?_ ?_) _
  · exact fun field member => absurd member List.not_mem_nil
  · intro field member
    rcases Entries.mem_or_mem_of_mem_update member with ofEntry | ofNode
    · exact entryWritable.attrs field ofEntry
    · exact nodeWritable.attrs field ofNode

theorem Element.Writable.setAttribute {element : Element} {name : String} {value : Value}
    (writable : element.Writable) (literal : value.HasLiteral) :
    (element.setAttribute name value).Writable := by
  rcases element with ⟨own, tag, attributes, children⟩
  exact ⟨writable.1.put literal, writable.2⟩

theorem ofText_writable (content : String) : (Markup.ofText content).Writable := by
  unfold Markup.ofText
  split <;> trivial

theorem gathered_writable {parts : List Markup} (writable : AllWritable parts) :
    (gathered parts).Writable := by
  unfold gathered
  split
  · exact writable.1
  · exact ⟨fun field member => absurd member List.not_mem_nil, writable⟩

theorem repeatedElement_writable {parts : List Markup} (writable : AllWritable parts) :
    (repeatedElement parts).Writable := by
  unfold repeatedElement
  split
  · split
    · exact ⟨fun field member => absurd member List.not_mem_nil, writable⟩
    · exact writable.1
  · exact ⟨fun field member => absurd member List.not_mem_nil, writable⟩

/-! ## The steps of a build -/

namespace MappingTable

/-- A build of the node at a depth fails over the first visited node whose type has
no entry, and not otherwise; its parts can be written. -/
def Settled (table : MappingTable) (scope : Scope) (depth : Nat) (node : ContentNode) : Prop :=
  ∀ origin, (buildNode (table.siteAt scope depth) origin node).Meets
    (table.firstFailure (table.visits depth node)) AllWritable

section Steps

variable {table : MappingTable} {scope : Scope} {depth : Nat} {origin : Origin}

theorem meets_buildChild {mark : Nat → Step} {position : Nat} {child : Child}
    (settled : ∀ item ∈ placed mark position [child], table.Settled scope depth item.2) :
    (buildChild (table.siteAt scope depth) origin child).Meets
      (table.firstFailure (table.visitsBelow
        ((placed mark position [child]).map fun item => (item, depth)))) AllWritable := by
  cases child with
  | text content =>
      rw [buildChild]
      exact Traced.Meets.ofResult rfl ⟨ofText_writable content, trivial⟩
  | node node =>
      rw [buildChild]
      have here := settled _ (List.mem_singleton.mpr rfl) origin
      rw [← table.firstFailure_visitsBelow_single (mark position)] at here
      exact here

theorem meets_buildChildList {position : Nat} {children : List Child}
    (settled : ∀ item ∈ placed .child position children, table.Settled scope depth item.2) :
    (buildChildList (table.siteAt scope depth) origin position children).Meets
      (table.firstFailure (table.visitsBelow
        ((placed .child position children).map fun item => (item, depth)))) AllWritable := by
  induction children generalizing position with
  | nil =>
      rw [buildChildList]
      exact Traced.Meets.ofResult rfl trivial
  | cons child rest inductionHypothesis =>
      rw [placed_cons] at settled ⊢
      rw [buildChildList, List.map_append, firstFailure_visitsBelow_append]
      have here := @meets_buildChild table scope depth (origin.below (.child position)) .child
        position child fun item member => settled item (List.mem_append_left _ member)
      have later := inductionHypothesis fun item member =>
        settled item (List.mem_append_right _ member)
      exact here.bind fun parts writable => later.map fun others restWritable =>
        allWritable_append.mpr ⟨writable, restWritable⟩

theorem meets_buildBranch {subject : String} {mark : Nat → Step} {position : Nat} {branch : Branch}
    (short : AllShort branch.test.shown)
    (settled : ∀ item ∈ placed mark position [branch.content], table.Settled scope depth item.2) :
    (buildBranch (table.siteAt scope depth) origin subject branch).Meets
      (table.firstFailure (table.visitsBelow
        ((placed mark position [branch.content]).map fun item => (item, depth))))
      Markup.Writable := by
  rcases branch with ⟨test, content⟩
  rw [buildBranch]
  exact (requireWritable_meets short).andThen fun _ _ =>
    (meets_buildChild settled).map fun parts writable => gathered_writable writable

theorem meets_buildBranches {subject : String} {position : Nat} {branches : List Branch}
    (short : ∀ branch ∈ branches, AllShort branch.test.shown)
    (settled : ∀ item ∈ placed .branch position (branches.map Branch.content),
      table.Settled scope depth item.2) :
    (buildBranches (table.siteAt scope depth) origin subject position branches).Meets
      (table.firstFailure (table.visitsBelow
        ((placed .branch position (branches.map Branch.content)).map fun item => (item, depth))))
      AllWritable := by
  induction branches generalizing position with
  | nil =>
      rw [buildBranches]
      exact Traced.Meets.ofResult rfl trivial
  | cons branch rest inductionHypothesis =>
      rcases List.forall_mem_cons.mp short with ⟨testShort, restShort⟩
      rw [List.map_cons, placed_cons] at settled ⊢
      rw [buildBranches, List.map_append, firstFailure_visitsBelow_append]
      have here := @meets_buildBranch table scope depth (origin.below (.branch position)) subject
        .branch position branch testShort fun item member =>
          settled item (List.mem_append_left _ member)
      have later := inductionHypothesis restShort fun item member =>
        settled item (List.mem_append_right _ member)
      exact here.bind fun part writable => later.map fun others restWritable =>
        ⟨writable, restWritable⟩

theorem meets_buildRepeated {repetition : Repetition} (source : repetition.HasSource)
    (settled : table.Settled scope depth repetition.content) :
    (buildRepeated (table.siteAt scope depth) origin repetition).Meets
      (table.firstFailure (table.visitsBelow
        (repetition.placed.map fun item => (item, depth)))) Markup.Writable := by
  rcases repetition with ⟨content, items, annotations⟩
  have written : ∃ text, items.toValue.expression = .ok text := by
    unfold Value.expression
    split
    · exact ⟨_, rfl⟩
    · exact Value.exists_blockLiteral (Value.hasLiteral_of_isJson source) 0
  rcases written with ⟨text, expression⟩
  have here := settled (origin.below .repetition)
  rw [← table.firstFailure_visitsBelow_single .repetition] at here
  rw [buildRepeated, expression]
  exact here.map fun parts writable =>
    (repeatedElement_writable writable).setAttribute (Value.hasLiteral_code _)

variable {node : ContentNode} {entry : ElementMapping}

theorem meets_innerParts (known : table.entry? node.type = some entry)
    (enough : node.children = none → 0 < depth)
    (settled : ∀ item ∈ drawn depth node.ownChildren (table.defaultChildren node.type),
      table.Settled scope item.2 item.1.2) :
    ((table.siteAt scope depth).innerParts origin node
      (entry.resolve node.attrs node.dependency)).Meets
      (table.firstFailure (table.visitsBelow
        (drawn depth node.ownChildren (table.defaultChildren node.type)))) AllWritable := by
  unfold Site.innerParts
  unfold ContentNode.ownChildren at settled ⊢
  cases given : node.children with
  | some children =>
      simp only [given, Option.map_some, drawn] at settled ⊢
      exact meets_buildChildList fun item member =>
        settled (item, depth) (List.mem_map_of_mem member)
  | none =>
      rcases Nat.exists_eq_add_one.mpr (enough given) with ⟨smaller, rfl⟩
      have listed : table.defaultChildren node.type = placed .child 0 (entry.children.getD []) := by
        rw [defaultChildren, known]
        rfl
      simp only [given, Option.map_none, drawn, listed] at settled ⊢
      have built := @meets_buildChildList table scope smaller origin 0 (entry.children.getD [])
        fun item member => settled (item, smaller) (List.mem_map_of_mem member)
      unfold Site.defaultChildren ElementMapping.resolve
      cases supplied : entry.children with
      | none => exact Traced.Meets.ofResult rfl trivial
      | some children =>
          cases children with
          | nil => exact Traced.Meets.ofResult rfl trivial
          | cons child rest =>
              rw [supplied] at built
              exact (Traced.noteAll_meets _).andThen fun _ _ => built

theorem meets_repeatedParts (known : table.entry? node.type = some entry)
    (nodeSource : ∀ repetition, node.repetition = some repetition → repetition.HasSource)
    (entrySource : ∀ repetition, entry.repetition = some repetition → repetition.HasSource)
    (enough : node.repetition = none → 0 < depth)
    (settled : ∀ item ∈ drawn depth node.ownRepetition (table.defaultRepetition node.type),
      table.Settled scope item.2 item.1.2) :
    ((table.siteAt scope depth).repeatedParts origin node
      (entry.resolve node.attrs node.dependency)).Meets
      (table.firstFailure (table.visitsBelow
        (drawn depth node.ownRepetition (table.defaultRepetition node.type)))) AllWritable := by
  unfold Site.repeatedParts
  unfold ContentNode.ownRepetition at settled ⊢
  cases given : node.repetition with
  | some repetition =>
      simp only [given, Option.map_some, drawn] at settled ⊢
      have settledContent := settled ((.repetition, repetition.content), depth)
        (List.mem_singleton.mpr rfl)
      exact (meets_buildRepeated (nodeSource repetition given) settledContent).map
        fun part writable => ⟨writable, trivial⟩
  | none =>
      rcases Nat.exists_eq_add_one.mpr (enough given) with ⟨smaller, rfl⟩
      have listed : table.defaultRepetition node.type =
          (entry.repetition.map Repetition.placed).getD [] := by
        rw [defaultRepetition, known]
        rfl
      simp only [given, Option.map_none, drawn, listed] at settled ⊢
      unfold Site.defaultRepetition ElementMapping.resolve
      cases supplied : entry.repetition with
      | none => exact Traced.Meets.ofResult rfl trivial
      | some repetition =>
          rw [supplied] at settled
          have settledContent := settled ((.repetition, repetition.content), smaller)
            (List.mem_singleton.mpr rfl)
          exact (Traced.noteAll_meets [_]).andThen fun _ _ =>
            (meets_buildRepeated (entrySource repetition supplied) settledContent).map
              fun part writable => ⟨writable, trivial⟩

theorem meets_buildNode_of_entry (element : node.isElement = true)
    (known : table.entry? node.type = some entry) (nodeWritable : node.Writable)
    (entryWritable : entry.Writable) (enough : ∀ slot ∈ node.omitted, 0 < depth)
    (settled : ∀ item ∈ table.belowAt depth node, table.Settled scope item.2 item.1.2) :
    (buildNode (table.siteAt scope depth) origin node).Meets
      (table.firstFailure (table.visitsBelow (table.belowAt depth node))) AllWritable := by
  have led : table.belowAt depth node =
      drawn depth node.ownChildren (table.defaultChildren node.type) ++
        drawn depth node.ownRepetition (table.defaultRepetition node.type) := by
    rw [belowAt, element]
    rfl
  have omitted : node.omitted = (if node.children.isNone then [.children node.type] else []) ++
      (if node.repetition.isNone then [.repetition node.type] else []) := by
    rw [ContentNode.omitted, if_pos element]
  rw [omitted] at enough
  have inner := @meets_innerParts table scope depth origin node entry known
    (fun absent => enough (.children node.type) (by rw [absent]; exact List.mem_cons_self))
    fun item member => settled item (led ▸ List.mem_append_left _ member)
  have repeated := @meets_repeatedParts table scope depth origin node entry known
    nodeWritable.source entryWritable.source
    (fun absent => enough (.repetition node.type)
      (List.mem_append_right _ (by rw [absent]; exact List.mem_cons_self)))
    fun item member => settled item (led ▸ List.mem_append_right _ member)
  have resolves : (table.siteAt scope depth).table.entry? node.type = some entry := known
  rw [buildNode_of_element element, Site.resolve_eq, resolves, pure_bind, led,
    firstFailure_visitsBelow_append]
  have passed := (requireWritable_meets nodeWritable.handlers).of_outcome_eq
    (outcome_passStatements scope.component node.statements)
  refine passed.andThen fun _ _ => (Traced.noteAll_meets _).andThen fun _ _ =>
    inner.bind fun innerParts innerWritable =>
      repeated.finish fun repeatedParts repeatedWritable =>
        (Traced.noteAll_meets [_]).andThen fun _ _ => Traced.Meets.ofResult rfl ⟨?_, trivial⟩
  exact ⟨ContentNode.started_literal nodeWritable entryWritable origin,
    allWritable_append.mpr ⟨innerWritable, repeatedWritable⟩⟩

end Steps

theorem settled_of_unmapped {table : MappingTable} {scope : Scope} {depth : Nat}
    {node : ContentNode} (unmapped : table.IsUnmapped node) : table.Settled scope depth node := by
  intro origin
  rw [buildNode_of_element unmapped.1, Site.resolve_eq, firstFailure_visits, failureAt,
    if_pos unmapped]
  have unknown : (table.siteAt scope depth).table.entry? node.type = none := unmapped.2
  rw [unknown]
  exact ⟨rfl, fun result impossible => by cases impossible⟩

/-- Where default content does not nest and everything can be written, a build
fails over the first visited node whose type has no entry, and not otherwise. -/
theorem settled_of_entered {table : MappingTable} (scope : Scope) (unnested : table.Unnested)
    (tableWritable : table.Writable) {depth : Nat} {node : ContentNode} {taken : List Slot}
    (entered : table.Entered depth node taken)
    (writable : ∀ path found, table.Reaches node path found → found.Writable) :
    table.Settled scope depth node := by
  induction depth, node using table.belowAt_induction generalizing taken with
  | step depth node inductionHypothesis =>
      have settledBelow : ∀ item ∈ table.belowAt depth node,
          table.Settled scope item.2 item.1.2 := by
        intro item member
        rcases entered.below unnested member with ⟨inner, further⟩
        have led : item.1 ∈ table.below node :=
          (table.belowAt_sublist depth node).subset (List.mem_map_of_mem member)
        exact inductionHypothesis item member further fun path found reached =>
          writable _ found (Reaches.onward led reached)
      have nodeWritable := writable [] node (Reaches.here node)
      cases kind : node.isElement with
      | false =>
          intro origin
          have led : table.belowAt depth node = node.ownBranches.map fun item => (item, depth) := by
            rw [belowAt, kind]
            rfl
          have mapped : table.failureAt node = none := by
            rw [failureAt, if_neg fun unmapped => Bool.false_ne_true (kind.symm.trans unmapped.1)]
          rw [buildNode_of_branches kind, firstFailure_visits, mapped, led]
          rw [led] at settledBelow
          exact meets_buildBranches nodeWritable.tests fun item member =>
            settledBelow (item, depth) (List.mem_map_of_mem member)
      | true =>
          cases known : table.entry? node.type with
          | none => exact settled_of_unmapped ⟨kind, known⟩
          | some entry =>
              intro origin
              have entryWritable := tableWritable _ (Entries.mem_of_lookUp?_eq_some known)
              have mapped : table.failureAt node = none := by
                rw [failureAt, if_neg fun unmapped => by cases known.symm.trans unmapped.2]
              rw [firstFailure_visits, mapped, Option.none_or]
              -- What the node leaves to its entry is new, so there is depth left to build it.
              exact meets_buildNode_of_entry kind known nodeWritable entryWritable
                (fun slot omitted => entered.positive unnested
                  (mem_slots_of_known (type_of_mem_omitted omitted ▸ known)) omitted) settledBelow

/-! ## The first failure -/

/-- The node at a place has no entry for its type, and no such node is visited
before it. -/
def FirstUnmapped (table : MappingTable) (content : ContentNode) (place : List Step)
    (node : ContentNode) : Prop :=
  table.Reaches content place node ∧ table.IsUnmapped node ∧
    ∀ other found, table.Reaches content other found → table.IsUnmapped found →
      other = place ∨ VisitedBefore place other

section FirstFailure

variable {table : MappingTable} {depth : Nat} {content : ContentNode}

theorem failureAt_eq_some_iff {node : ContentNode} {failure : Failure} :
    table.failureAt node = some failure ↔
      table.IsUnmapped node ∧ failure = .unmapped node.type (some node.name) := by
  unfold failureAt
  split
  · rename_i unmapped
    simp only [unmapped, Option.some.injEq, true_and, eq_comm]
  · rename_i mapped
    simp only [mapped, reduceCtorEq, false_and]

theorem firstFailure_eq_none_iff (expanded : table.Expanded depth content) :
    table.firstFailure (table.visits depth content) = none ↔
      ∀ place node, table.Reaches content place node → ¬ table.IsUnmapped node := by
  unfold firstFailure
  rw [List.findSome?_eq_none_iff]
  constructor
  · intro none place node reached unmapped
    have found := failureAt_eq_some_iff.mpr ⟨unmapped, rfl⟩
    rw [none (place, node) (expanded.mem_visits reached)] at found
    cases found
  · intro mapped visit visited
    exact if_neg (mapped visit.1 visit.2 (reaches_of_mem_visits visited))

theorem firstFailure_eq_some_iff (expanded : table.Expanded depth content) {failure : Failure} :
    table.firstFailure (table.visits depth content) = some failure ↔
      ∃ place node, table.FirstUnmapped content place node ∧
        failure = .unmapped node.type (some node.name) := by
  have ordered := table.visits_pairwise depth content
  unfold firstFailure
  rw [List.findSome?_eq_some_iff]
  constructor
  · rintro ⟨earlier, ⟨place, node⟩, later, split, found, noneBefore⟩
    rcases failureAt_eq_some_iff.mp found with ⟨unmapped, rfl⟩
    have here : (place, node) ∈ table.visits depth content :=
      split ▸ List.mem_append_right _ List.mem_cons_self
    have reached := reaches_of_mem_visits here
    refine ⟨place, node, ⟨reached, unmapped, fun other found otherReached otherUnmapped => ?_⟩, rfl⟩
    have visited := expanded.mem_visits otherReached
    rw [split] at visited ordered
    rcases List.mem_append.mp visited with before | fromHere
    · have mapped := noneBefore _ before
      rw [failureAt_eq_some_iff.mpr ⟨otherUnmapped, rfl⟩] at mapped
      cases mapped
    · rcases List.mem_cons.mp fromHere with same | after
      · exact Or.inl (congrArg Prod.fst same)
      · have fromPlace := (List.pairwise_append.mp ordered).2.1
        exact Or.inr ((List.pairwise_cons.mp fromPlace).1 _ after)
  · rintro ⟨place, node, ⟨reached, unmapped, first⟩, rfl⟩
    rcases List.append_of_mem (expanded.mem_visits reached) with ⟨earlier, later, split⟩
    refine ⟨earlier, (place, node), later, split, failureAt_eq_some_iff.mpr ⟨unmapped, rfl⟩, ?_⟩
    intro visit before
    refine if_neg fun visitUnmapped => ?_
    have visited : visit ∈ table.visits depth content := split ▸ List.mem_append_left _ before
    rw [split] at ordered
    have beforePlace : VisitedBefore visit.1 place :=
      (List.pairwise_append.mp ordered).2.2 visit before _ List.mem_cons_self
    rcases first visit.1 visit.2 (reaches_of_mem_visits visited) visitUnmapped with same | after
    · exact VisitedBefore.irrefl place (same ▸ beforePlace)
    · exact beforePlace.asymm after

end FirstFailure

end MappingTable
end ComponentCompiler
