import ComponentCompiler.Proofs.Build.Visit
import ComponentCompiler.Proofs.Content.Occurrence
import Mathlib.Data.List.Perm.Basic

namespace ComponentCompiler

/-!
# The walk covers the visits

A build goes through the content and, where a node leaves content out, through
what the mapping table has instead.  The walk goes through the content alone, and
then through the default content that the build took.  At a single node the two
differ in one more way: a node with branches also has children and repeated
content, which the build never looks at.  So what the walk meets at a node, with
what the build takes there, is what the build visits there, with what the node
hides.  By induction the same is true of whole trees.
-/

namespace ContentNode

/-- What stands below a node with branches besides its branches. -/
def hiddenSteps (node : ContentNode) : List (Step × ContentNode) :=
  if node.isElement then [] else node.ownRepetition.getD [] ++ node.ownChildren.getD []

end ContentNode

namespace MappingTable

/-- The default content that a node takes. -/
def taken (table : MappingTable) (node : ContentNode) : List (Step × ContentNode) :=
  node.omitted.flatMap table.supply

/-- The occurrences below the default content that is taken on some visits. -/
def takenBelow (table : MappingTable) (visited : List (List Step × ContentNode)) :
    List (List Step × ContentNode) :=
  visited.flatMap fun visit =>
    relocate visit.1 (ContentNode.occurrencesBelow (table.taken visit.2))

end MappingTable

/-- The occurrences that are hidden at some visits. -/
def hiddenBelow (visited : List (List Step × ContentNode)) : List (List Step × ContentNode) :=
  visited.flatMap fun visit =>
    relocate visit.1 (ContentNode.occurrencesBelow visit.2.hiddenSteps)

namespace MappingTable

/-! ## One node -/

theorem taken_of_branches (table : MappingTable) {node : ContentNode}
    (hasBranches : node.isElement = false) : table.taken node = [] := by
  rw [taken, ContentNode.omitted, hasBranches]
  rfl

/-- An element takes the children and the repeated content that its node leaves
out. -/
theorem taken_of_element (table : MappingTable) {node : ContentNode}
    (becomesElement : node.isElement = true) :
    table.taken node =
      (if node.children.isNone then table.defaultChildren node.type else []) ++
        (if node.repetition.isNone then table.defaultRepetition node.type else []) := by
  rw [taken, ContentNode.omitted, if_pos becomesElement, List.flatMap_append]
  congr 1
  · cases node.children.isNone
    · rfl
    · exact List.append_nil _
  · cases node.repetition.isNone
    · rfl
    · exact List.append_nil _

theorem steps_taken_perm (table : MappingTable) (node : ContentNode) :
    (node.steps ++ table.taken node).Perm (table.below node ++ node.hiddenSteps) := by
  unfold ContentNode.steps below ContentNode.hiddenSteps
  cases kind : node.isElement with
  | false =>
      -- nothing is taken, and the branches are all that is built
      rw [table.taken_of_branches kind, List.append_nil, List.append_assoc]
      exact List.perm_append_comm_assoc _ _ _
  | true =>
      have noBranches : node.ownBranches = [] := by
        rw [ContentNode.ownBranches, List.isEmpty_iff.mp kind]
        rfl
      rw [table.taken_of_element kind, noBranches, List.append_nil]
      simp only [if_true, List.append_nil]
      unfold ContentNode.ownRepetition ContentNode.ownChildren
      -- what is written is met by the walk, and what is left out is taken
      cases node.children with
      | none =>
          cases node.repetition with
          | none => exact List.Perm.refl _
          | some repetition =>
              exact (List.append_nil (table.defaultChildren node.type)).symm ▸ List.perm_append_comm
      | some children =>
          cases node.repetition with
          | none => exact List.Perm.refl _
          | some repetition => exact (List.append_nil _).symm ▸ List.perm_append_comm

theorem below_hidden_distinct (table : MappingTable) (node : ContentNode) :
    ((table.below node ++ node.hiddenSteps).map Prod.fst).Nodup := by
  cases kind : node.isElement with
  | true =>
      have none : node.hiddenSteps = [] := by rw [ContentNode.hiddenSteps, kind]; rfl
      rw [none, List.append_nil]
      exact table.below_steps_nodup node
  | false =>
      have perm := (table.steps_taken_perm node).map Prod.fst
      rw [table.taken_of_branches kind, List.append_nil] at perm
      exact perm.nodup_iff.mp node.steps_distinct

/-! ## Whole trees -/

section Trees

variable {table : MappingTable} {depth : Nat} {node : ContentNode}

/-- What is found at each visit is found at the node, or else at a visit behind
one of its steps. -/
theorem flatMap_visits (table : MappingTable) (depth : Nat) (node : ContentNode)
    (found : ContentNode → List (List Step × ContentNode)) :
    (table.visits depth node).flatMap (fun visit => relocate visit.1 (found visit.2)) =
      found node ++ (table.belowAt depth node).flatMap fun item =>
        relocate [item.1.1] ((table.visits item.2 item.1.2).flatMap fun visit =>
          relocate visit.1 (found visit.2)) := by
  rw [visits_eq, List.flatMap_cons, relocate_nil, visitsBelow, List.flatMap_assoc]
  congr 1
  refine List.flatMap_congr fun item _ => ?_
  rw [relocate, List.map_flatMap, List.flatMap_map]
  refine List.flatMap_congr fun visit _ => ?_
  exact (relocate_relocate [item.1.1] visit.1 (found visit.2)).symm

/-- What the walk meets in a tree and in the default content that the build
takes is what the build visits and what the visited nodes hide. -/
theorem Expanded.occurrences_perm (expanded : table.Expanded depth node) :
    (node.occurrences ++ table.takenBelow (table.visits depth node)).Perm
      (table.visits depth node ++ hiddenBelow (table.visits depth node)) := by
  induction expanded with
  | @intro depth node complete inside inductionHypothesis =>
      have atNode : (ContentNode.occurrencesBelow node.steps ++
          ContentNode.occurrencesBelow (table.taken node)).Perm
          (ContentNode.occurrencesBelow (table.below node) ++
            ContentNode.occurrencesBelow node.hiddenSteps) := by
        have perm := (table.steps_taken_perm node).flatMap_right fun item =>
          relocate [item.1] item.2.occurrences
        rw [List.flatMap_append, List.flatMap_append] at perm
        exact perm
      -- behind the steps of the build the tree is covered already
      have behind : (ContentNode.occurrencesBelow (table.below node) ++
          (table.belowAt depth node).flatMap fun item =>
            relocate [item.1.1] (table.takenBelow (table.visits item.2 item.1.2))).Perm
          (table.visitsBelow (table.belowAt depth node) ++
            (table.belowAt depth node).flatMap fun item =>
              relocate [item.1.1] (hiddenBelow (table.visits item.2 item.1.2))) := by
        rw [← complete, ContentNode.occurrencesBelow, List.flatMap_map]
        refine (List.flatMap_append_perm _ _ _).trans
          (List.Perm.trans ?_ (List.flatMap_append_perm _ _ _).symm)
        refine List.Perm.flatMap_left _ fun item member => ?_
        have perm := (inductionHypothesis item member).map
          fun found => ([item.1.1] ++ found.1, found.2)
        rw [List.map_append, List.map_append] at perm
        exact perm
      unfold takenBelow hiddenBelow at *
      rw [flatMap_visits table depth node fun visited =>
          ContentNode.occurrencesBelow (table.taken visited),
        flatMap_visits table depth node fun visited =>
          ContentNode.occurrencesBelow visited.hiddenSteps,
        node.occurrences_eq, visits_eq, List.cons_append, List.cons_append]
      refine List.Perm.cons _ ?_
      generalize (table.belowAt depth node).flatMap (fun item => relocate [item.1.1]
        ((table.visits item.2 item.1.2).flatMap fun visit => relocate visit.1
          (ContentNode.occurrencesBelow (table.taken visit.2)))) = takenBehind at behind ⊢
      generalize (table.belowAt depth node).flatMap (fun item => relocate [item.1.1]
        ((table.visits item.2 item.1.2).flatMap fun visit => relocate visit.1
          (ContentNode.occurrencesBelow visit.2.hiddenSteps))) = hiddenBehind at behind ⊢
      calc ContentNode.occurrencesBelow node.steps ++
            (ContentNode.occurrencesBelow (table.taken node) ++ takenBehind)
          _ = (ContentNode.occurrencesBelow node.steps ++
              ContentNode.occurrencesBelow (table.taken node)) ++ takenBehind :=
            (List.append_assoc _ _ _).symm
          _ |>.Perm ((ContentNode.occurrencesBelow (table.below node) ++
              ContentNode.occurrencesBelow node.hiddenSteps) ++ takenBehind) :=
            atNode.append_right _
          _ |>.Perm (ContentNode.occurrencesBelow node.hiddenSteps ++
              (ContentNode.occurrencesBelow (table.below node) ++ takenBehind)) := by
            rw [List.append_assoc]
            exact List.perm_append_comm_assoc _ _ _
          _ |>.Perm (ContentNode.occurrencesBelow node.hiddenSteps ++
              (table.visitsBelow (table.belowAt depth node) ++ hiddenBehind)) :=
            behind.append_left _
          _ |>.Perm (table.visitsBelow (table.belowAt depth node) ++
              (ContentNode.occurrencesBelow node.hiddenSteps ++ hiddenBehind)) :=
            List.perm_append_comm_assoc _ _ _

/-- What is visited and what is hidden stands at places of its own. -/
theorem visits_hidden_places_nodup (table : MappingTable) (depth : Nat) (node : ContentNode) :
    ((table.visits depth node ++ hiddenBelow (table.visits depth node)).map Prod.fst).Nodup := by
  induction depth, node using table.belowAt_induction with
  | step depth node inductionHypothesis =>
      -- one group for each step of the build, and one for each step that is hidden
      let built := (table.belowAt depth node).map fun item =>
        (item.1.1, table.visits item.2 item.1.2 ++ hiddenBelow (table.visits item.2 item.1.2))
      let hidden := node.hiddenSteps.map fun item => (item.1, item.2.occurrences)
      have distinct : ((built ++ hidden).map Prod.fst).Nodup := by
        have steps := (((table.belowAt_sublist depth node).append
          (List.Sublist.refl node.hiddenSteps)).map Prod.fst).nodup
          (table.below_hidden_distinct node)
        simp only [built, hidden, List.map_append, List.map_map] at steps ⊢
        exact steps
      have each : ∀ group ∈ built ++ hidden, (group.2.map Prod.fst).Nodup := by
        intro group member
        rcases List.mem_append.mp member with inBuilt | inHidden
        · rcases List.mem_map.mp inBuilt with ⟨item, listed, rfl⟩
          exact inductionHypothesis item listed
        · rcases List.mem_map.mp inHidden with ⟨item, listed, rfl⟩
          exact item.2.occurrences_places_nodup
      have whole := relocated_places_nodup distinct each node
      refine (List.Perm.map Prod.fst ?_).nodup_iff.mp whole
      unfold hiddenBelow
      rw [flatMap_visits table depth node fun visited =>
        ContentNode.occurrencesBelow visited.hiddenSteps, visits_eq, List.cons_append]
      refine List.Perm.cons _ ?_
      simp only [built, hidden, List.flatMap_append, List.flatMap_map, relocate_append]
      refine ((List.flatMap_append_perm _ _ _).symm.append_right _).trans ?_
      rw [List.append_assoc]
      exact List.perm_append_comm.append_left _

end Trees

end MappingTable
end ComponentCompiler
