import ComponentCompiler.Proofs.Build.Element
import ComponentCompiler.Proofs.Build.Nesting
import Mathlib.Logic.Relation

namespace ComponentCompiler

open Script

/-!
# Builds over tables without circles

The default content of an element type can hold nodes whose types bring default
content again.  When this never leads back to the same type, a build comes to an
end: however much deeper default content were allowed to nest, the build would be
the same, notes and all.  So the bound on the depth never shows.

What such a build can still fail over is found at a single node that it reaches:
the node's type has no entry, or the node shows a value that has no literal.
-/

/-! ## Two runs side by side -/

namespace Traced

variable {σ ε α β : Type} {allowed : ε → Prop}

/-- Two computations are the same, and they fail as is allowed or not at all. -/
structure Coincides (first second : Traced σ ε α) (allowed : ε → Prop) : Prop where
  same : first = second
  fails : ∀ failure, first.outcome = .error failure → allowed failure

theorem coincides_pure (value : α) :
    (pure value : Traced σ ε α).Coincides (pure value) allowed :=
  ⟨rfl, nofun⟩

theorem coincides_noteAll (entries : List σ) :
    (noteAll entries : Traced σ ε Unit).Coincides (noteAll entries) allowed :=
  ⟨rfl, nofun⟩

theorem Coincides.bind {first second : Traced σ ε α} {next after : α → Traced σ ε β}
    (here : first.Coincides second allowed)
    (onward : ∀ value, (next value).Coincides (after value) allowed) :
    (first >>= next).Coincides (second >>= after) allowed where
  same := by
    rw [here.same]
    exact congrArg (second >>= ·) (funext fun value => (onward value).same)
  fails := FailsWithin.bind here.fails fun value => (onward value).fails

theorem Coincides.weaken {first second : Traced σ ε α} {more : ε → Prop}
    (here : first.Coincides second allowed) (within : ∀ failure, allowed failure → more failure) :
    first.Coincides second more :=
  ⟨here.same, fun failure failed => within failure (here.fails failure failed)⟩

end Traced

/-! ## Where a build can fail -/

namespace MappingTable

/-- The content that a node is repeated over, its own or that of its type. -/
def repetitionOf (table : MappingTable) (node : ContentNode) : Option Repetition :=
  node.repetition.or ((table.entry? node.type).bind ElementMapping.repetition)

/-- The failures over one node: its type has no entry, or a handler, the test of a
branch or the source of its repeated content cannot be written. -/
inductive FailsAt (table : MappingTable) (node : ContentNode) : Failure → Prop
  | unmapped (missing : table.IsUnmapped node) :
      FailsAt table node (.unmapped node.type (some node.name))
  | handlers {fault : RenderFault} (found : Scalar.writeFault? node.shown = some fault) :
      FailsAt table node (.unrenderable fault)
  | test {branch : Branch} {fault : RenderFault} (member : branch ∈ node.states.getD [])
      (found : Scalar.writeFault? branch.test.shown = some fault) :
      FailsAt table node (.unrenderable fault)
  | source {repetition : Repetition} {fault : RenderFault}
      (given : table.repetitionOf node = some repetition)
      (found : repetition.source.toValue.expression = .error fault) :
      FailsAt table node (.unrenderable fault)

/-- The failures over the nodes that a build reaches. -/
def FailsBelow (table : MappingTable) (node : ContentNode) (failure : Failure) : Prop :=
  ∃ place found, table.Reaches node place found ∧ table.FailsAt found failure

end MappingTable

theorem coincides_requireWritable {scalars : List Scalar} {allowed : Failure → Prop}
    (faults : ∀ fault, Scalar.writeFault? scalars = some fault → allowed (.unrenderable fault)) :
    (requireWritable scalars).Coincides (requireWritable scalars) allowed where
  same := rfl
  fails failure failed := by
    unfold requireWritable at failed
    split at failed
    · rename_i fault found
      exact Except.error.inj failed ▸ faults fault found
    · cases failed

theorem coincides_passStatements {component : String} {statements : List Statement}
    {allowed : Failure → Prop}
    (faults : ∀ fault, Scalar.writeFault? (statements.flatMap Statement.shown) = some fault →
      allowed (.unrenderable fault)) :
    (passStatements component statements).Coincides (passStatements component statements)
      allowed where
  same := rfl
  fails failure failed := (coincides_requireWritable faults).fails failure
    ((outcome_passStatements component statements).symm.trans failed)

/-! ## The steps of a build -/

namespace Site

/-- Two builders build a node in the same way, wherever it is. -/
def Agrees (site deeper : Site) (allowed : Failure → Prop) (node : ContentNode) : Prop :=
  ∀ origin, (buildNode site origin node).Coincides (buildNode deeper origin node) allowed

variable {site deeper : Site} {allowed : Failure → Prop}

theorem coincides_buildChild {child : Child}
    (agrees : ∀ node ∈ child.node?, site.Agrees deeper allowed node) (origin : Origin) :
    (buildChild site origin child).Coincides (buildChild deeper origin child) allowed := by
  cases child with
  | text content =>
      rw [buildChild, buildChild]
      exact Traced.coincides_pure _
  | node node =>
      rw [buildChild, buildChild]
      exact agrees node rfl origin

theorem coincides_buildChildList {children : List Child}
    (agrees : ∀ node ∈ children.filterMap Child.node?, site.Agrees deeper allowed node)
    (origin : Origin) (position : Nat) :
    (buildChildList site origin position children).Coincides
      (buildChildList deeper origin position children) allowed := by
  induction children generalizing position with
  | nil =>
      rw [buildChildList, buildChildList]
      exact Traced.coincides_pure _
  | cons child rest inductionHypothesis =>
      obtain ⟨inChild, inRest⟩ := List.forall_mem_cons.mp (List.forall_mem_filterMap.mp agrees)
      rw [buildChildList, buildChildList]
      apply (coincides_buildChild inChild _).bind
      intro parts
      apply (inductionHypothesis (List.forall_mem_filterMap.mpr inRest) (position + 1)).bind
      intro others
      exact Traced.coincides_pure _

theorem coincides_buildBranch {branch : Branch}
    (faults : ∀ fault, Scalar.writeFault? branch.test.shown = some fault →
      allowed (.unrenderable fault))
    (agrees : ∀ node ∈ branch.content.node?, site.Agrees deeper allowed node) (origin : Origin)
    (subject : String) :
    (buildBranch site origin subject branch).Coincides
      (buildBranch deeper origin subject branch) allowed := by
  rcases branch with ⟨test, content⟩
  rw [buildBranch, buildBranch]
  apply (coincides_requireWritable faults).bind
  intro _
  apply (coincides_buildChild agrees origin).bind
  intro parts
  exact Traced.coincides_pure _

theorem coincides_buildBranches {branches : List Branch}
    (faults : ∀ branch ∈ branches, ∀ fault, Scalar.writeFault? branch.test.shown = some fault →
      allowed (.unrenderable fault))
    (agrees : ∀ node ∈ branches.filterMap fun branch => branch.content.node?,
      site.Agrees deeper allowed node)
    (origin : Origin) (subject : String) (position : Nat) :
    (buildBranches site origin subject position branches).Coincides
      (buildBranches deeper origin subject position branches) allowed := by
  induction branches generalizing position with
  | nil =>
      rw [buildBranches, buildBranches]
      exact Traced.coincides_pure _
  | cons branch rest inductionHypothesis =>
      obtain ⟨here, later⟩ := List.forall_mem_cons.mp faults
      obtain ⟨inBranch, inRest⟩ := List.forall_mem_cons.mp (List.forall_mem_filterMap.mp agrees)
      rw [buildBranches, buildBranches]
      apply (coincides_buildBranch here inBranch _ _).bind
      intro part
      apply (inductionHypothesis later (List.forall_mem_filterMap.mpr inRest) (position + 1)).bind
      intro others
      exact Traced.coincides_pure _

theorem coincides_buildRepeated {repetition : Repetition}
    (faults : ∀ fault, repetition.source.toValue.expression = .error fault →
      allowed (.unrenderable fault))
    (agrees : site.Agrees deeper allowed repetition.content) (origin : Origin) :
    (buildRepeated site origin repetition).Coincides
      (buildRepeated deeper origin repetition) allowed := by
  rcases repetition with ⟨content, source, notes⟩
  rw [buildRepeated, buildRepeated]
  apply (agrees _).bind
  intro parts
  refine Traced.Coincides.bind ⟨rfl, fun failure failed => ?_⟩ fun _ => Traced.coincides_pure _
  cases expression : source.toValue.expression with
  | ok text =>
      rw [expression] at failed
      cases failed
  | error fault =>
      rw [expression] at failed
      exact Except.error.inj failed ▸ faults fault expression

end Site

namespace MappingTable

section Steps

variable {table : MappingTable} {scope : Scope} {depth more : Nat} {allowed : Failure → Prop}
  {node : ContentNode} {entry : ElementMapping}

/-- A node is built in the same way when default content may nest deeper. -/
def Steady (table : MappingTable) (scope : Scope) (more : Nat) (allowed : Failure → Prop)
    (depth : Nat) (node : ContentNode) : Prop :=
  (table.siteAt scope depth).Agrees (table.siteAt scope (depth + more)) allowed node

theorem coincides_placedChildren {children : List Child}
    (steady : ∀ item ∈ placed .child 0 children, table.Steady scope more allowed depth item.2)
    (origin : Origin) :
    (buildChildList (table.siteAt scope depth) origin 0 children).Coincides
      (buildChildList (table.siteAt scope (depth + more)) origin 0 children) allowed := by
  apply Site.coincides_buildChildList
  intro inner member
  rw [← map_snd_placed .child 0] at member
  rcases List.mem_map.mp member with ⟨item, inPlace, rfl⟩
  exact steady item inPlace

theorem coincides_innerParts (known : table.entry? node.type = some entry)
    (enough : node.children = none → 0 < depth)
    (steady : ∀ item ∈ drawn depth node.ownChildren (table.defaultChildren node.type),
      table.Steady scope more allowed item.2 item.1.2) (origin : Origin) :
    ((table.siteAt scope depth).innerParts origin node
      (entry.resolve node.attrs node.dependency)).Coincides
      ((table.siteAt scope (depth + more)).innerParts origin node
        (entry.resolve node.attrs node.dependency)) allowed := by
  unfold Site.innerParts
  unfold ContentNode.ownChildren at steady
  cases given : node.children with
  | some children =>
      rw [given] at steady
      apply coincides_placedChildren
      intro item inPlace
      exact steady (item, depth) (List.mem_map_of_mem inPlace)
  | none =>
      rcases Nat.exists_eq_add_one.mpr (enough given) with ⟨smaller, rfl⟩
      have listed : table.defaultChildren node.type = placed .child 0 (entry.children.getD []) := by
        rw [defaultChildren, known]
        rfl
      rw [given, listed] at steady
      have built := coincides_placedChildren
        (fun item inPlace => steady (item, smaller) (List.mem_map_of_mem inPlace)) origin
      rw [Nat.add_right_comm]
      unfold Site.defaultChildren ElementMapping.resolve
      cases supplied : entry.children with
      | none => exact Traced.coincides_pure _
      | some children =>
          cases children with
          | nil => exact Traced.coincides_pure _
          | cons child rest =>
              rw [supplied] at built
              exact (Traced.coincides_noteAll _).bind fun _ => built

theorem coincides_repeatedParts (known : table.entry? node.type = some entry)
    (faults : ∀ repetition, table.repetitionOf node = some repetition →
      ∀ fault, repetition.source.toValue.expression = .error fault → allowed (.unrenderable fault))
    (enough : node.repetition = none → 0 < depth)
    (steady : ∀ item ∈ drawn depth node.ownRepetition (table.defaultRepetition node.type),
      table.Steady scope more allowed item.2 item.1.2) (origin : Origin) :
    ((table.siteAt scope depth).repeatedParts origin node
      (entry.resolve node.attrs node.dependency)).Coincides
      ((table.siteAt scope (depth + more)).repeatedParts origin node
        (entry.resolve node.attrs node.dependency)) allowed := by
  unfold Site.repeatedParts
  unfold ContentNode.ownRepetition at steady
  unfold repetitionOf at faults
  cases given : node.repetition with
  | some repetition =>
      rw [given] at steady faults
      have content := steady ((.repetition, repetition.content), depth) (List.mem_singleton.mpr rfl)
      exact (Site.coincides_buildRepeated (faults repetition rfl) content origin).bind
        fun _ => Traced.coincides_pure _
  | none =>
      rcases Nat.exists_eq_add_one.mpr (enough given) with ⟨smaller, rfl⟩
      have listed : table.defaultRepetition node.type =
          (entry.repetition.map Repetition.placed).getD [] := by
        rw [defaultRepetition, known]
        rfl
      rw [given, listed] at steady
      rw [given, known] at faults
      rw [Nat.add_right_comm]
      unfold Site.defaultRepetition ElementMapping.resolve
      cases supplied : entry.repetition with
      | none => exact Traced.coincides_pure _
      | some repetition =>
          rw [supplied] at steady
          have content := steady ((.repetition, repetition.content), smaller)
            (List.mem_singleton.mpr rfl)
          apply (Traced.coincides_noteAll [_]).bind
          intro _
          exact (Site.coincides_buildRepeated (faults repetition supplied) content origin).bind
            fun _ => Traced.coincides_pure _

theorem steady_of_element (element : node.isElement = true)
    (fails : ∀ failure, table.FailsAt node failure → allowed failure)
    (enough : ∀ slot ∈ node.omitted, slot ∈ table.slots → 0 < depth)
    (steady : ∀ item ∈ table.belowAt depth node, table.Steady scope more allowed item.2 item.1.2) :
    table.Steady scope more allowed depth node := by
  intro origin
  have led : table.belowAt depth node =
      drawn depth node.ownChildren (table.defaultChildren node.type) ++
        drawn depth node.ownRepetition (table.defaultRepetition node.type) := by
    rw [belowAt, element]
    rfl
  rw [led] at steady
  rw [buildNode_of_element element, buildNode_of_element element, Site.resolve_eq, Site.resolve_eq]
  cases known : table.entry? node.type with
  | none =>
      have unknown : ∀ level, (table.siteAt scope level).table.entry? node.type = none :=
        fun _ => known
      rw [unknown, unknown]
      exact ⟨rfl, fun failure failed => Except.error.inj failed ▸
        fails _ (.unmapped ⟨element, known⟩)⟩
  | some entry =>
      have resolves : ∀ level, (table.siteAt scope level).table.entry? node.type = some entry :=
        fun _ => known
      have left : ∀ slot ∈ node.omitted, 0 < depth := fun slot omitted =>
        enough slot omitted (mem_slots_of_known (type_of_mem_omitted omitted ▸ known))
      have inner := @coincides_innerParts table scope depth more allowed node entry known
        (fun absent => left (.children node.type) (by
          rw [ContentNode.omitted, if_pos element, absent]
          exact List.mem_cons_self))
        (fun item member => steady item (List.mem_append_left _ member)) origin
      have repeated := @coincides_repeatedParts table scope depth more allowed node entry known
        (fun repetition given fault found => fails _ (.source given found))
        (fun absent => left (.repetition node.type) (by
          rw [ContentNode.omitted, if_pos element, absent]
          exact List.mem_append_right _ List.mem_cons_self))
        (fun item member => steady item (List.mem_append_right _ member)) origin
      rw [resolves, resolves, pure_bind, pure_bind]
      apply (coincides_passStatements fun fault found => fails _ (.handlers found)).bind
      intro _
      apply (Traced.coincides_noteAll _).bind
      intro _
      apply inner.bind
      intro innerParts
      apply repeated.bind
      intro repeatedParts
      exact (Traced.coincides_noteAll [_]).bind fun _ => Traced.coincides_pure _

theorem steady_of_branches (branched : node.isElement = false)
    (fails : ∀ failure, table.FailsAt node failure → allowed failure)
    (steady : ∀ item ∈ table.belowAt depth node, table.Steady scope more allowed item.2 item.1.2) :
    table.Steady scope more allowed depth node := by
  intro origin
  have led : table.belowAt depth node = node.ownBranches.map fun item => (item, depth) := by
    rw [belowAt, branched]
    rfl
  rw [led] at steady
  rw [buildNode_of_branches branched, buildNode_of_branches branched]
  apply Site.coincides_buildBranches
  · exact fun branch member fault found => fails _ (.test member found)
  · intro inner member
    have listed : inner ∈ ((node.states.getD []).map Branch.content).filterMap Child.node? := by
      rw [List.filterMap_map]
      exact member
    rw [← map_snd_placed .branch 0] at listed
    rcases List.mem_map.mp listed with ⟨item, inPlace, rfl⟩
    exact steady (item, depth) (List.mem_map_of_mem inPlace)

end Steps

/-- Where default content does not nest, more depth makes no difference, and a
build fails over a single node that it reaches or not at all. -/
theorem steady_of_entered {table : MappingTable} (scope : Scope) (more : Nat)
    (unnested : table.Unnested) {depth : Nat} {node : ContentNode} {taken : List Slot}
    (entered : table.Entered depth node taken) :
    table.Steady scope more (table.FailsBelow node) depth node := by
  induction depth, node using table.belowAt_induction generalizing taken with
  | step depth node inductionHypothesis =>
      have fails : ∀ failure, table.FailsAt node failure → table.FailsBelow node failure :=
        fun failure here => ⟨[], node, Reaches.here node, here⟩
      have steady : ∀ item ∈ table.belowAt depth node,
          table.Steady scope more (table.FailsBelow node) item.2 item.1.2 := by
        intro item member origin
        rcases entered.below unnested member with ⟨inner, further⟩
        have led : item.1 ∈ table.below node :=
          (table.belowAt_sublist depth node).subset (List.mem_map_of_mem member)
        apply (inductionHypothesis item member further origin).weaken
        rintro failure ⟨place, found, reached, failsThere⟩
        exact ⟨_, found, Reaches.onward led reached, failsThere⟩
      cases kind : node.isElement with
      | false => exact steady_of_branches kind fails steady
      | true =>
          -- What the node leaves to its entry is new, so there is depth left to build it.
          exact steady_of_element kind fails
            (fun slot omitted known => entered.positive unnested known omitted) steady

/-! ## Tables without circles -/

/-- The default content of the first element type holds, at any depth, a node of
the second one. -/
def Brings (table : MappingTable) (first second : String) : Prop :=
  ∃ entry, table.entry? first = some entry ∧
    ∃ root ∈ entry.roots, ∃ node ∈ root.walk, node.type = second

/-- Default content never leads back to the type that brings it. -/
def Acyclic (table : MappingTable) : Prop :=
  ∀ type, ¬ Relation.TransGen table.Brings type type

variable {table : MappingTable}

/-- A table has no circle when the types that are brought along come down in rank. -/
theorem acyclic_of_rank (rank : String → Nat)
    (falls : ∀ first second, table.Brings first second → rank second < rank first) :
    table.Acyclic := by
  have lower : ∀ {first second}, Relation.TransGen table.Brings first second →
      rank second < rank first := by
    intro first second led
    induction led with
    | single brings => exact falls _ _ brings
    | tail _ brings inductionHypothesis => exact Nat.lt_trans (falls _ _ brings) inductionHypothesis
  exact fun type led => Nat.lt_irrefl _ (lower led)

/-- A node lies in the default content of an element type, or in that of a type
which it leads to. -/
def Within (table : MappingTable) (type : String) (node : ContentNode) : Prop :=
  ∃ holder, Relation.ReflTransGen table.Brings type holder ∧
    ∃ entry, table.entry? holder = some entry ∧ ∃ root ∈ entry.roots, node ∈ root.walk

theorem Within.brings {type : String} {node : ContentNode} (within : table.Within type node) :
    Relation.TransGen table.Brings type node.type := by
  rcases within with ⟨holder, led, entry, known, root, isRoot, walked⟩
  exact Relation.TransGen.tail' led ⟨entry, known, root, isRoot, node, walked, rfl⟩

theorem within_of_supply {slot : Slot} {item : Step × ContentNode}
    (supplied : item ∈ table.supply slot) : table.Within slot.type item.2 := by
  rcases exists_entry_of_supply supplied with ⟨entry, known, isRoot⟩
  exact ⟨slot.type, .refl, entry, known, item.2, isRoot, item.2.self_mem_walk⟩

theorem Within.below {type : String} {node : ContentNode} (within : table.Within type node)
    {item : Step × ContentNode} (led : item ∈ table.below node) : table.Within type item.2 := by
  rcases mem_inner_or_supply_of_below led with own | ⟨slot, omitted, supplied⟩
  · rcases within with ⟨holder, through, entry, known, root, isRoot, walked⟩
    have inside := ContentNode.mem_walk_of_mem_inner own item.2.self_mem_walk
    exact ⟨holder, through, entry, known, root, isRoot, ContentNode.mem_walk_trans walked inside⟩
  · rcases within_of_supply supplied with ⟨holder, through, held⟩
    rw [type_of_mem_omitted omitted] at through
    exact ⟨holder, within.brings.to_reflTransGen.trans through, held⟩

theorem Within.reaches {type : String} {node found : ContentNode} {path : List Step}
    (within : table.Within type node) (reached : table.Reaches node path found) :
    table.Within type found := by
  induction reached with
  | here node => exact within
  | onward led _ inductionHypothesis => exact inductionHypothesis (within.below led)

theorem Acyclic.unnested (acyclic : table.Acyclic) : table.Unnested := by
  intro slot item supplied path node reached omitted
  have brings := ((within_of_supply supplied).reaches reached).brings
  rw [← type_of_mem_omitted omitted] at brings
  exact acyclic slot.type brings

end MappingTable

/-- A build over a table without circles fails over a node that it reaches. -/
theorem Component.build_failsWithin (component : Component) {table : MappingTable}
    (acyclic : table.Acyclic) (number : Nat) :
    (component.build table number).FailsWithin (table.FailsBelow component.content) :=
  (MappingTable.steady_of_entered component.scope 0 acyclic.unnested (.start table _)
    ⟨number, []⟩).fails

/-- Over a table whose default content has no circle every build comes to an end.
No deeper nesting of default content would change it, and it yields the parts of
the component or fails over one node that it reaches: the type of the node has no
entry, or a value that the node shows has no literal. -/
theorem acyclic_build_ends (component : Component) (table : MappingTable)
    (acyclic : table.Acyclic) (number : Nat) :
    (∀ depth, table.defaultDepth ≤ depth →
      buildNode (table.siteAt component.scope depth) ⟨number, []⟩ component.content =
        component.build table number) ∧
    ((∃ parts, (component.build table number).outcome = .ok parts) ∨
      ∃ failure place node, (component.build table number).outcome = .error failure ∧
        table.Reaches component.content place node ∧ table.FailsAt node failure) := by
  constructor
  · intro depth enough
    rcases Nat.exists_eq_add_of_le enough with ⟨more, rfl⟩
    exact (MappingTable.steady_of_entered component.scope more acyclic.unnested (.start table _)
      ⟨number, []⟩).same.symm
  · cases ended : (component.build table number).outcome with
    | ok parts => exact .inl ⟨parts, rfl⟩
    | error failure =>
        rcases component.build_failsWithin acyclic number failure ended with
          ⟨place, node, reached, failsThere⟩
        exact .inr ⟨failure, place, node, rfl, reached, failsThere⟩

/-- A shelf brings a book along, and a book its repeated pages. -/
def shelfTable : MappingTable :=
  [(.text "shelf", ⟨"section", none, none, some [.node (.ofType "book" "first")], none⟩),
    (.text "book", ⟨"ol", none, none, none, some ⟨.ofType "page" "sheet", .text "pages", none⟩⟩),
    (.text "page", ⟨"li", none, none, none, none⟩)]

/-- A room that is one shelf. -/
def shelfRoom : Component :=
  ⟨"Room", .ofType "shelf" "wall", none, none, none⟩

/-- Books are above their pages and shelves above books. -/
def shelfRank (type : String) : Nat :=
  if type = "shelf" then 2 else if type = "book" then 1 else 0

theorem acyclic_shelfTable : shelfTable.Acyclic := by
  apply MappingTable.acyclic_of_rank shelfRank
  rintro first second ⟨entry, known, root, isRoot, node, walked, rfl⟩
  have listed := Entries.mem_of_lookUp?_eq_some known
  simp only [shelfTable, List.mem_cons, List.not_mem_nil, or_false, Prod.mk.injEq,
    Key.text.injEq] at listed
  rcases listed with ⟨rfl, rfl⟩ | ⟨rfl, rfl⟩ | ⟨rfl, rfl⟩
  · rw [List.mem_singleton.mp isRoot, ContentNode.walk_ofType] at walked
    rw [List.mem_singleton.mp walked]
    decide
  · rw [List.mem_singleton.mp isRoot, ContentNode.walk_ofType] at walked
    rw [List.mem_singleton.mp walked]
    decide
  · cases isRoot

theorem shelf_build_ends :
    shelfTable.Acyclic ∧
    (∀ depth, 6 ≤ depth →
      buildNode (shelfTable.siteAt shelfRoom.scope depth) ⟨0, []⟩ shelfRoom.content =
        shelfRoom.build shelfTable 0) ∧
    ((∃ parts, (shelfRoom.build shelfTable 0).outcome = .ok parts) ∨
      ∃ failure place node, (shelfRoom.build shelfTable 0).outcome = .error failure ∧
        shelfTable.Reaches shelfRoom.content place node ∧ shelfTable.FailsAt node failure) :=
  ⟨acyclic_shelfTable, acyclic_build_ends shelfRoom shelfTable acyclic_shelfTable 0⟩

/-- A calendar brings its days along, repeated over a date. -/
def calendarTable : MappingTable :=
  [(.text "calendar", ⟨"ul", none, none, none,
    some ⟨.ofType "day" "entry", .items [.date ⟨2001, 1, 1⟩], none⟩⟩),
    (.text "day", ⟨"li", none, none, none, none⟩)]

/-- A year that is one calendar. -/
def calendarYear : Component :=
  ⟨"Year", .ofType "calendar" "year", none, none, none⟩

theorem acyclic_calendarTable : calendarTable.Acyclic := by
  apply MappingTable.acyclic_of_rank fun type => if type = "calendar" then 1 else 0
  rintro first second ⟨entry, known, root, isRoot, node, walked, rfl⟩
  have listed := Entries.mem_of_lookUp?_eq_some known
  simp only [calendarTable, List.mem_cons, List.not_mem_nil, or_false, Prod.mk.injEq,
    Key.text.injEq] at listed
  rcases listed with ⟨rfl, rfl⟩ | ⟨rfl, rfl⟩
  · rw [List.mem_singleton.mp isRoot, ContentNode.walk_ofType] at walked
    rw [List.mem_singleton.mp walked]
    decide
  · cases isRoot

/-- A date has no literal, so that a build over a table without a circle can end
without parts though every type has its entry. -/
theorem calendar_without_literal :
    calendarTable.Acyclic ∧
    (calendarYear.build calendarTable 0).outcome = .error (.unrenderable (.noLiteral "date")) :=
  ⟨acyclic_calendarTable, rfl⟩

end ComponentCompiler
