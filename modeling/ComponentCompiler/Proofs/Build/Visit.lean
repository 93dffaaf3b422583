import ComponentCompiler.Proofs.Build.Reach
import Mathlib.Data.List.Nodup

namespace ComponentCompiler

/-!
# The visits of a build of bounded depth

Content that a node gives itself is built at the depth of the node, and content
from the mapping table one level further down.  The visits of a build are listed
by recursion on what a node leads to; either the depth is smaller there, or it
is the same and the content is a part of the node.

At a depth that is too small some nodes are left out.  A node is expanded at a
depth when nothing below it is.  Then the visits are exactly the nodes that are
reached, in the order of their places.
-/

/-- What a node leads to, with the depth at which it is built: what the node
gives itself at the same depth, what it leaves out one level further down. -/
def drawn {α : Type} (depth : Nat) (own : Option (List α)) (others : List α) : List (α × Nat) :=
  match own, depth with
  | some items, depth => items.map fun item => (item, depth)
  | none, 0 => []
  | none, rest + 1 => others.map fun item => (item, rest)

namespace MappingTable

/-- The nodes that a node leads to at a depth, each with its own depth. -/
def belowAt (table : MappingTable) (depth : Nat) (node : ContentNode) :
    List ((Step × ContentNode) × Nat) :=
  if node.isElement then
    drawn depth node.ownChildren (table.defaultChildren node.type) ++
      drawn depth node.ownRepetition (table.defaultRepetition node.type)
  else drawn depth (some node.ownBranches) []

end MappingTable

/-! ## What is drawn -/

section Drawn

variable {α : Type} {depth : Nat} {own : Option (List α)} {others : List α}

/-- What is drawn is given by the node at the same depth, or else it comes from
the table and is built one level further down. -/
theorem mem_drawn_iff {item : α × Nat} :
    item ∈ drawn depth own others ↔
      (∃ items, own = some items ∧ item.1 ∈ items ∧ item.2 = depth) ∨
      (own = none ∧ item.1 ∈ others ∧ item.2 + 1 = depth) := by
  rcases item with ⟨value, rest⟩
  cases own with
  | some items =>
      simp only [drawn, List.mem_map, Prod.mk.injEq, Option.some.injEq, exists_eq_left',
        reduceCtorEq, false_and, or_false]
      constructor
      · rintro ⟨found, member, rfl, rfl⟩
        exact ⟨member, rfl⟩
      · rintro ⟨member, rfl⟩
        exact ⟨value, member, rfl, rfl⟩
  | none =>
      cases depth with
      | zero =>
          simp only [drawn, List.not_mem_nil, reduceCtorEq, false_and, exists_false,
            Nat.add_eq_zero_iff, and_false]
          simp
      | succ smaller =>
          simp only [drawn, List.mem_map, Prod.mk.injEq, reduceCtorEq, false_and, exists_false,
            true_and, false_or, Nat.add_right_cancel_iff]
          constructor
          · rintro ⟨found, member, rfl, rfl⟩
            exact ⟨member, rfl⟩
          · rintro ⟨member, rfl⟩
            exact ⟨value, member, rfl, rfl⟩

/-- Nothing is left out as long as a level is left for what comes from the table. -/
theorem drawn_complete (enough : own = none → others ≠ [] → 0 < depth) :
    (drawn depth own others).map Prod.fst = own.getD others := by
  cases own with
  | some items =>
      rw [drawn, List.map_map]
      exact List.map_id' items
  | none =>
      cases depth with
      | succ smaller =>
          rw [drawn, List.map_map]
          exact List.map_id' others
      | zero =>
          by_cases empty : others = []
          · rw [empty]
            rfl
          · exact absurd (enough rfl empty) (Nat.lt_irrefl 0)

theorem drawn_sublist : ((drawn depth own others).map Prod.fst).Sublist (own.getD others) := by
  cases own with
  | some items =>
      simp only [drawn, List.map_map, Option.getD_some]
      exact (List.map_id' items).symm ▸ List.Sublist.refl items
  | none =>
      cases depth with
      | zero => exact List.nil_sublist _
      | succ smaller =>
          simp only [drawn, List.map_map, Option.getD_none]
          exact (List.map_id' others).symm ▸ List.Sublist.refl others

end Drawn

namespace MappingTable

theorem belowAt_sublist (table : MappingTable) (depth : Nat) (node : ContentNode) :
    ((table.belowAt depth node).map Prod.fst).Sublist (table.below node) := by
  unfold belowAt below
  split
  · rw [List.map_append]
    exact drawn_sublist.append drawn_sublist
  · exact drawn_sublist

theorem mem_inner_of_mem_own {node : ContentNode} {items : List (Step × ContentNode)}
    {item : Step × ContentNode} (member : item ∈ items)
    (own : node.ownChildren = some items ∨ node.ownRepetition = some items ∨
      node.ownBranches = items) : item.2 ∈ node.inner := by
  unfold ContentNode.inner
  rcases own with children | repetition | branches
  · rcases Option.map_eq_some_iff.mp children with ⟨listed, given, rfl⟩
    apply List.mem_append_right
    rw [given]
    exact mem_of_mem_placed member
  · rcases Option.map_eq_some_iff.mp repetition with ⟨repeated, given, rfl⟩
    apply List.mem_append_left
    apply List.mem_append_left
    rw [given, List.mem_singleton.mp member]
    exact List.mem_singleton.mpr rfl
  · subst branches
    apply List.mem_append_left
    apply List.mem_append_right
    have found := mem_of_mem_placed member
    rw [List.filterMap_map] at found
    exact found

/-- Going down, the depth falls or it stays and the content becomes smaller. -/
theorem belowAt_decreases {table : MappingTable} {depth : Nat} {node : ContentNode}
    {item : (Step × ContentNode) × Nat} (member : item ∈ table.belowAt depth node) :
    item.2 < depth ∨ item.2 = depth ∧ item.1.2.count < node.count := by
  have ofDrawn : ∀ {own : Option (List (Step × ContentNode))} {others : List (Step × ContentNode)},
      item ∈ drawn depth own others →
      (∀ items, own = some items → ∀ found ∈ items, found.2 ∈ node.inner) →
      item.2 < depth ∨ item.2 = depth ∧ item.1.2.count < node.count := by
    intro own others taken inside
    rcases mem_drawn_iff.mp taken with ⟨items, given, found, same⟩ | ⟨_, _, smaller⟩
    · exact Or.inr ⟨same, ContentNode.count_lt_of_mem_inner (inside items given item.1 found)⟩
    · left; omega
  unfold belowAt at member
  split at member
  · rcases List.mem_append.mp member with children | repetition
    · exact ofDrawn children fun items given found inItems =>
        mem_inner_of_mem_own inItems (Or.inl given)
    · exact ofDrawn repetition fun items given found inItems =>
        mem_inner_of_mem_own inItems (Or.inr (Or.inl given))
  · exact ofDrawn member fun items given found inItems =>
      mem_inner_of_mem_own inItems (Or.inr (Or.inr (Option.some.inj given)))

theorem belowAt_induction (table : MappingTable) {motive : Nat → ContentNode → Prop}
    (step : ∀ depth node,
      (∀ item ∈ table.belowAt depth node, motive item.2 item.1.2) → motive depth node)
    (depth : Nat) (node : ContentNode) : motive depth node :=
  step depth node fun item member =>
    have := belowAt_decreases member
    belowAt_induction table step item.2 item.1.2
termination_by (depth, node.count)
decreasing_by
  rcases this with smaller | ⟨same, fewer⟩
  · exact Prod.Lex.left _ _ smaller
  · rw [same]
    exact Prod.Lex.right _ fewer

/-- The visits of a build at a depth: the places and nodes in order. -/
def visits (table : MappingTable) (depth : Nat) (node : ContentNode) :
    List (List Step × ContentNode) :=
  ([], node) :: (table.belowAt depth node).attach.flatMap fun item =>
    (visits table item.1.2 item.1.1.2).map fun visit => (item.1.1.1 :: visit.1, visit.2)
termination_by (depth, node.count)
decreasing_by
  rcases belowAt_decreases item.2 with smaller | ⟨same, fewer⟩
  · exact Prod.Lex.left _ _ smaller
  · rw [same]
    exact Prod.Lex.right _ fewer

/-- The visits of what a node leads to, seen from the node. -/
def visitsBelow (table : MappingTable) (items : List ((Step × ContentNode) × Nat)) :
    List (List Step × ContentNode) :=
  items.flatMap fun item =>
    (table.visits item.2 item.1.2).map fun visit => (item.1.1 :: visit.1, visit.2)

/-- A node is visited before all that it leads to. -/
theorem visits_eq (table : MappingTable) (depth : Nat) (node : ContentNode) :
    table.visits depth node = ([], node) :: table.visitsBelow (table.belowAt depth node) := by
  have attached := List.attach_map_val (l := table.belowAt depth node)
    (f := fun item => (table.visits item.2 item.1.2).map fun visit => (item.1.1 :: visit.1, visit.2))
  rw [visits, visitsBelow, List.flatMap_def, List.flatMap_def]
  exact congrArg (fun visited => ([], node) :: List.flatten visited) attached

theorem mem_visits_iff {table : MappingTable} {depth : Nat} {node found : ContentNode}
    {path : List Step} :
    (path, found) ∈ table.visits depth node ↔
      (path = [] ∧ found = node) ∨
      ∃ item ∈ table.belowAt depth node, ∃ rest,
        path = item.1.1 :: rest ∧ (rest, found) ∈ table.visits item.2 item.1.2 := by
  rw [visits_eq, List.mem_cons, Prod.mk.injEq, visitsBelow, List.mem_flatMap]
  constructor
  · rintro (here | ⟨item, member, visited⟩)
    · exact Or.inl here
    · rcases List.mem_map.mp visited with ⟨visit, inner, same⟩
      rcases Prod.mk.inj same with ⟨rfl, rfl⟩
      exact Or.inr ⟨item, member, visit.1, rfl, inner⟩
  · rintro (here | ⟨item, member, rest, rfl, inner⟩)
    · exact Or.inl here
    · exact Or.inr ⟨item, member, List.mem_map.mpr ⟨(rest, found), inner, rfl⟩⟩

/-! ## Visits and places -/

theorem reaches_of_mem_visits {table : MappingTable} {depth : Nat} {node found : ContentNode}
    {path : List Step} (visited : (path, found) ∈ table.visits depth node) :
    table.Reaches node path found := by
  induction depth, node using table.belowAt_induction generalizing path with
  | step depth node inductionHypothesis =>
      rcases mem_visits_iff.mp visited with ⟨rfl, rfl⟩ | ⟨item, member, rest, rfl, inner⟩
      · exact Reaches.here _
      · have led : item.1 ∈ table.below node :=
          (table.belowAt_sublist depth node).subset (List.mem_map_of_mem member)
        exact Reaches.onward led (inductionHypothesis item member inner)

/-- Nothing below a node is left out at a depth. -/
inductive Expanded (table : MappingTable) : Nat → ContentNode → Prop
  | intro {depth : Nat} {node : ContentNode}
      (complete : (table.belowAt depth node).map Prod.fst = table.below node)
      (inside : ∀ item ∈ table.belowAt depth node, Expanded table item.2 item.1.2) :
      Expanded table depth node

/-- At a depth at which nothing is left out, all nodes that are reached are
visited. -/
theorem Expanded.mem_visits {table : MappingTable} {depth : Nat} {node found : ContentNode}
    {path : List Step} (expanded : table.Expanded depth node)
    (reached : table.Reaches node path found) : (path, found) ∈ table.visits depth node := by
  induction reached generalizing depth with
  | here node => exact mem_visits_iff.mpr (Or.inl ⟨rfl, rfl⟩)
  | @onward node inner found step path first _ inductionHypothesis =>
      rcases expanded with ⟨complete, inside⟩
      rw [← complete] at first
      rcases List.mem_map.mp first with ⟨item, member, same⟩
      have onward := inductionHypothesis (same ▸ inside item member)
      refine mem_visits_iff.mpr (Or.inr ⟨item, member, path, ?_, ?_⟩)
      · rw [same]
      · rw [same]
        exact onward

theorem below_pairwise (table : MappingTable) (node : ContentNode) :
    (table.below node).Pairwise fun first second => Step.Before first.1 second.1 := by
  have children : ∀ listed : List Child, (placed .child 0 listed).Pairwise
      (fun first second => Step.Before first.1 second.1) ∧
      ∀ item ∈ placed .child 0 listed, ∃ index, item.1 = .child index := by
    intro listed
    rcases placed_pairwise (fun _ _ => Step.Before.children) 0 listed with ⟨ordered, marked⟩
    refine ⟨ordered, fun item member => ?_⟩
    rcases marked item member with ⟨index, _, same⟩
    exact ⟨index, same⟩
  have ofChildren : ∃ listed : List Child,
      node.ownChildren.getD (table.defaultChildren node.type) = placed .child 0 listed := by
    unfold ContentNode.ownChildren
    cases node.children with
    | some listed => exact ⟨listed, rfl⟩
    | none => exact ⟨_, rfl⟩
  have ofRepetition : (node.ownRepetition.getD (table.defaultRepetition node.type)).length ≤ 1 ∧
      ∀ item ∈ node.ownRepetition.getD (table.defaultRepetition node.type),
        item.1 = .repetition := by
    have single : ∀ repeated : Option Repetition,
        ((repeated.map Repetition.placed).getD []).length ≤ 1 ∧
        ∀ item ∈ (repeated.map Repetition.placed).getD [], item.1 = .repetition := by
      intro repeated
      cases repeated with
      | none => exact ⟨Nat.zero_le _, fun _ member => absurd member List.not_mem_nil⟩
      | some repetition =>
          exact ⟨Nat.le_refl _, fun item member => List.mem_singleton.mp member ▸ rfl⟩
    unfold ContentNode.ownRepetition
    cases given : node.repetition with
    | some repetition => exact single (some repetition)
    | none => exact single _
  unfold below
  split
  · rcases ofChildren with ⟨listed, same⟩
    rw [same, List.pairwise_append]
    refine ⟨(children listed).1, ?_, ?_⟩
    · generalize node.ownRepetition.getD (table.defaultRepetition node.type) = repeated at ofRepetition
      match repeated, ofRepetition.1 with
      | [], _ => exact List.Pairwise.nil
      | [item], _ => exact List.pairwise_singleton _ item
    · intro first firstMember second secondMember
      rcases (children listed).2 first firstMember with ⟨index, marked⟩
      rw [marked, ofRepetition.2 second secondMember]
      exact Step.Before.repetition index
  · exact (placed_pairwise (fun _ _ => Step.Before.branches) 0 _).1

theorem below_steps_nodup (table : MappingTable) (node : ContentNode) :
    ((table.below node).map Prod.fst).Nodup := by
  unfold List.Nodup
  rw [List.pairwise_map]
  refine (table.below_pairwise node).imp fun {earlier later} before same => ?_
  rw [same] at before
  exact Step.Before.irrefl later.1 before

/-- The steps of a place lead to one node only. -/
theorem Reaches.unique {table : MappingTable} {node first second : ContentNode} {path : List Step}
    (toFirst : table.Reaches node path first) (toSecond : table.Reaches node path second) :
    first = second := by
  induction toFirst with
  | here node =>
      cases toSecond
      rfl
  | @onward node inner found step path led onward inductionHypothesis =>
      cases toSecond with
      | @onward _ otherInner _ _ _ otherLed otherOnward =>
          have sameStep := List.inj_on_of_nodup_map (table.below_steps_nodup node) led otherLed rfl
          rcases Prod.mk.inj sameStep with ⟨_, rfl⟩
          exact inductionHypothesis otherOnward

/-- The visits of a build are in the order of their places. -/
theorem visits_pairwise (table : MappingTable) (depth : Nat) (node : ContentNode) :
    (table.visits depth node).Pairwise fun first second => VisitedBefore first.1 second.1 := by
  induction depth, node using table.belowAt_induction with
  | step depth node inductionHypothesis =>
      rw [visits_eq, List.pairwise_cons]
      constructor
      · intro visit member
        rcases List.mem_flatMap.mp member with ⟨item, _, visited⟩
        rcases List.mem_map.mp visited with ⟨inner, _, rfl⟩
        exact List.Lex.nil
      · have ordered : (table.belowAt depth node).Pairwise
            fun first second => Step.Before first.1.1 second.1.1 := by
          have sublist := (table.below_pairwise node).sublist (table.belowAt_sublist depth node)
          rw [List.pairwise_map] at sublist
          exact sublist
        unfold visitsBelow
        rw [List.pairwise_flatMap]
        constructor
        · intro item member
          rw [List.pairwise_map]
          exact (inductionHypothesis item member).imp List.Lex.cons
        · refine ordered.imp fun {first second} earlier => ?_
          intro firstVisit firstMember secondVisit secondMember
          rcases List.mem_map.mp firstMember with ⟨_, _, rfl⟩
          rcases List.mem_map.mp secondMember with ⟨_, _, rfl⟩
          exact List.Lex.rel earlier

theorem visits_paths_nodup (table : MappingTable) (depth : Nat) (node : ContentNode) :
    ((table.visits depth node).map Prod.fst).Nodup := by
  unfold List.Nodup
  rw [List.pairwise_map]
  refine (table.visits_pairwise depth node).imp fun {first second} before => ?_
  intro same
  rw [same] at before
  exact VisitedBefore.irrefl second.1 before

end MappingTable
end ComponentCompiler
