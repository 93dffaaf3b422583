import ComponentCompiler.Proofs.Build.Reach
import Mathlib.Data.List.Nodup

namespace ComponentCompiler

/-!
# Occurrences of nodes

Equal nodes can stand at several places of a content tree.  An occurrence is a
node with the steps that lead to it.  The walk goes through all occurrences, and
no two of them stand at one place: the steps that lead away from a node are all
different, whether they lead to repeated content, to a branch or to a child.
Following the steps of a place leads to its node, and steps that lead nowhere, or
to a text, are no place.
-/

/-- Occurrences below a place, seen from where the place is seen. -/
def relocate (place : List Step) (found : List (List Step × ContentNode)) :
    List (List Step × ContentNode) :=
  found.map fun item => (place ++ item.1, item.2)

@[simp] theorem relocate_nil (found : List (List Step × ContentNode)) : relocate [] found = found :=
  List.map_id' found

@[simp] theorem relocate_append (place : List Step) (first second : List (List Step × ContentNode)) :
    relocate place (first ++ second) = relocate place first ++ relocate place second :=
  List.map_append

theorem relocate_relocate (outer inner : List Step) (found : List (List Step × ContentNode)) :
    relocate outer (relocate inner found) = relocate (outer ++ inner) found := by
  simp only [relocate, List.map_map, Function.comp_def, List.append_assoc]

theorem map_snd_relocate (place : List Step) (found : List (List Step × ContentNode)) :
    (relocate place found).map Prod.snd = found.map Prod.snd := by
  simp only [relocate, List.map_map, Function.comp_def]

theorem mem_relocate_iff {place : List Step} {found : List (List Step × ContentNode)}
    {item : List Step × ContentNode} :
    item ∈ relocate place found ↔ ∃ rest, item.1 = place ++ rest ∧ (rest, item.2) ∈ found := by
  simp only [relocate, List.mem_map]
  constructor
  · rintro ⟨inner, member, rfl⟩
    exact ⟨inner.1, rfl, member⟩
  · rintro ⟨rest, same, member⟩
    exact ⟨(rest, item.2), member, Prod.ext same.symm rfl⟩

/-- Groups behind different steps share no place, and none of them has the place
in front of the steps. -/
theorem relocated_places_nodup {groups : List (Step × List (List Step × ContentNode))}
    (steps : (groups.map Prod.fst).Nodup)
    (each : ∀ group ∈ groups, (group.2.map Prod.fst).Nodup) (node : ContentNode) :
    ((([], node) :: groups.flatMap fun group => relocate [group.1] group.2).map Prod.fst).Nodup := by
  rw [List.map_cons, List.nodup_cons]
  constructor
  · intro member
    rcases List.mem_map.mp member with ⟨found, listed, empty⟩
    rcases List.mem_flatMap.mp listed with ⟨group, _, inGroup⟩
    rcases mem_relocate_iff.mp inGroup with ⟨rest, place, _⟩
    rw [empty] at place
    cases place
  · unfold List.Nodup at steps ⊢
    rw [List.map_flatMap, List.pairwise_flatMap]
    rw [List.pairwise_map] at steps
    constructor
    · intro group member
      have distinct : (group.2.map fun item => [group.1] ++ item.1).Nodup := by
        have places := (each group member).map (List.append_right_injective [group.1])
        rw [List.map_map] at places
        exact places
      rw [relocate, List.map_map]
      exact distinct
    · refine steps.imp fun {first second} different => ?_
      intro place inFirst other inSecond same
      rcases List.mem_map.mp inFirst with ⟨found, listed, rfl⟩
      rcases List.mem_map.mp inSecond with ⟨otherFound, otherListed, rfl⟩
      rcases mem_relocate_iff.mp listed with ⟨rest, place, _⟩
      rcases mem_relocate_iff.mp otherListed with ⟨otherRest, otherPlace, _⟩
      rw [place, otherPlace] at same
      exact different (List.cons.inj same).1

namespace ContentNode

/-- The nodes directly below a node, each with the step that leads to it. -/
def steps (node : ContentNode) : List (Step × ContentNode) :=
  node.ownRepetition.getD [] ++ node.ownBranches ++ node.ownChildren.getD []

theorem map_snd_steps (node : ContentNode) : node.steps.map Prod.snd = node.inner := by
  have repeated : (node.ownRepetition.getD []).map Prod.snd =
      (node.repetition.map Repetition.content).toList := by
    unfold ownRepetition
    cases node.repetition <;> rfl
  have listed : (node.ownChildren.getD []).map Prod.snd =
      (node.children.getD []).filterMap Child.node? := by
    unfold ownChildren
    cases node.children with
    | none => rfl
    | some children => exact map_snd_placed .child 0 children
  have branched : node.ownBranches.map Prod.snd =
      (node.states.getD []).filterMap fun branch => branch.content.node? := by
    rw [ownBranches, map_snd_placed, List.filterMap_map]
    rfl
  rw [steps, List.map_append, List.map_append, repeated, listed, branched, inner]

theorem count_lt_of_mem_steps {node : ContentNode} {item : Step × ContentNode}
    (member : item ∈ node.steps) : item.2.count < node.count := by
  apply count_lt_of_mem_inner
  rw [← map_snd_steps]
  exact List.mem_map_of_mem member

/-- All occurrences of nodes in a content tree, in the order of the walk. -/
def occurrences (node : ContentNode) : List (List Step × ContentNode) :=
  ([], node) :: node.steps.attach.flatMap fun item => relocate [item.1.1] (occurrences item.1.2)
termination_by node.count
decreasing_by exact count_lt_of_mem_steps item.2

/-- The occurrences behind some steps. -/
def occurrencesBelow (items : List (Step × ContentNode)) : List (List Step × ContentNode) :=
  items.flatMap fun item => relocate [item.1] item.2.occurrences

theorem occurrences_eq (node : ContentNode) :
    node.occurrences = ([], node) :: occurrencesBelow node.steps := by
  have attached := List.attach_map_val (l := node.steps)
    (f := fun item => relocate [item.1] item.2.occurrences)
  rw [occurrences, occurrencesBelow, List.flatMap_def, List.flatMap_def]
  exact congrArg (fun found => ([], node) :: List.flatten found) attached

theorem map_snd_occurrences (node : ContentNode) : node.occurrences.map Prod.snd = node.walk := by
  induction node using inner_induction with
  | step node inductionHypothesis =>
      have below : (occurrencesBelow node.steps).map Prod.snd = node.inner.flatMap walk := by
        rw [occurrencesBelow, List.map_flatMap, ← map_snd_steps, List.flatMap_map]
        simp only [map_snd_relocate, List.flatMap_def]
        refine congrArg List.flatten (List.map_congr_left fun item member => ?_)
        apply inductionHypothesis
        rw [← map_snd_steps]
        exact List.mem_map_of_mem member
      rw [occurrences_eq, List.map_cons, below, walk_eq]

theorem steps_distinct (node : ContentNode) : (node.steps.map Prod.fst).Nodup := by
  have marked : ∀ (mark : Nat → Step) (children : List Child),
      (∀ first second, first < second → Step.Before (mark first) (mark second)) →
      ((placed mark 0 children).map Prod.fst).Nodup ∧
        ∀ step ∈ (placed mark 0 children).map Prod.fst, ∃ index, step = mark index := by
    intro mark children increasing
    rcases placed_pairwise increasing 0 children with ⟨ordered, positions⟩
    constructor
    · unfold List.Nodup
      rw [List.pairwise_map]
      refine ordered.imp fun {first second} before same => ?_
      rw [same] at before
      exact Step.Before.irrefl _ before
    · intro step member
      rcases List.mem_map.mp member with ⟨item, listed, rfl⟩
      rcases positions item listed with ⟨index, _, same⟩
      exact ⟨index, same⟩
  have repeated : ∀ step ∈ (node.ownRepetition.getD []).map Prod.fst, step = .repetition := by
    unfold ownRepetition
    cases node.repetition with
    | none => exact fun _ member => absurd member List.not_mem_nil
    | some repetition => exact fun _ member => List.mem_singleton.mp member
  have single : ((node.ownRepetition.getD []).map Prod.fst).Nodup := by
    unfold ownRepetition
    cases node.repetition with
    | none => exact List.nodup_nil
    | some repetition => exact List.nodup_singleton _
  rcases marked .branch ((node.states.getD []).map Branch.content) (fun _ _ => Step.Before.branches)
    with ⟨branchesDistinct, branches⟩
  have children : ((node.ownChildren.getD []).map Prod.fst).Nodup ∧
      ∀ step ∈ (node.ownChildren.getD []).map Prod.fst, ∃ index, step = .child index := by
    unfold ownChildren
    cases node.children with
    | none => exact ⟨List.nodup_nil, fun _ member => absurd member List.not_mem_nil⟩
    | some listed => exact marked .child listed fun _ _ => Step.Before.children
  rw [steps, List.map_append, List.map_append, List.nodup_append, List.nodup_append]
  refine ⟨⟨single, branchesDistinct, ?_⟩, children.1, ?_⟩
  · intro first inRepetition second inBranches same
    rcases branches second inBranches with ⟨index, marked⟩
    rw [repeated first inRepetition, marked] at same
    cases same
  · intro first before second inChildren same
    rcases children.2 second inChildren with ⟨index, marked⟩
    rcases List.mem_append.mp before with inRepetition | inBranches
    · rw [repeated first inRepetition, marked] at same
      cases same
    · rcases branches first inBranches with ⟨other, otherMarked⟩
      rw [otherMarked, marked] at same
      cases same

/-- No two occurrences of a content tree stand at one place. -/
theorem occurrences_places_nodup (node : ContentNode) : (node.occurrences.map Prod.fst).Nodup := by
  induction node using inner_induction with
  | step node inductionHypothesis =>
      have distinct : ((node.steps.map fun item => (item.1, item.2.occurrences)).map
          Prod.fst).Nodup := by
        rw [List.map_map]
        exact node.steps_distinct
      have each : ∀ group ∈ node.steps.map (fun item => (item.1, item.2.occurrences)),
          (group.2.map Prod.fst).Nodup := by
        intro group member
        rcases List.mem_map.mp member with ⟨item, listed, rfl⟩
        apply inductionHypothesis
        rw [← map_snd_steps]
        exact List.mem_map_of_mem listed
      have whole := relocated_places_nodup distinct each node
      rw [List.flatMap_map] at whole
      rw [occurrences_eq]
      exact whole

/-! ## Places -/

/-- The node directly below that a step leads to. -/
def follow? (node : ContentNode) : Step → Option ContentNode
  | .repetition => node.repetition.map Repetition.content
  | .branch index => ((node.states.getD [])[index]?).bind fun branch => branch.content.node?
  | .child index => ((node.children.getD [])[index]?).bind Child.node?

/-- The node at a place, step by step. -/
def nodeAt? (node : ContentNode) : List Step → Option ContentNode
  | [] => some node
  | step :: rest => (node.follow? step).bind fun inner => inner.nodeAt? rest

theorem mem_placed_iff {mark : Nat → Step} {position : Nat} {children : List Child} {step : Step}
    {inner : ContentNode} :
    (step, inner) ∈ placed mark position children ↔
      ∃ index, step = mark (position + index) ∧ children[index]? = some (.node inner) := by
  induction children generalizing position with
  | nil => simp [placed]
  | cons child rest inductionHypothesis =>
      rw [placed_cons, List.mem_append, inductionHypothesis]
      constructor
      · rintro (here | ⟨index, marked, found⟩)
        · cases child with
          | text content => cases here
          | node node =>
              cases List.mem_singleton.mp here
              exact ⟨0, rfl, rfl⟩
        · exact ⟨index + 1, by rw [marked, Nat.add_right_comm, Nat.add_assoc], found⟩
      · rintro ⟨index, marked, found⟩
        cases index with
        | zero =>
            cases found
            exact .inl (List.mem_singleton.mpr (congrArg (·, inner) marked))
        | succ index =>
            exact .inr ⟨index, by rw [marked, Nat.add_right_comm, Nat.add_assoc], found⟩

theorem node?_bind_eq_some_iff {child : Option Child} {inner : ContentNode} :
    child.bind Child.node? = some inner ↔ child = some (.node inner) := by
  rcases child with _ | (node | content) <;> simp [Child.node?]

/-- The steps that lead away from a node are those that can be followed. -/
theorem mem_steps_iff {node : ContentNode} {step : Step} {inner : ContentNode} :
    (step, inner) ∈ node.steps ↔ node.follow? step = some inner := by
  have repeated : (step, inner) ∈ node.ownRepetition.getD [] ↔
      step = .repetition ∧ node.follow? .repetition = some inner := by
    unfold ownRepetition follow?
    cases node.repetition with
    | none => simp
    | some repetition => simp [Repetition.placed, eq_comm]
  have branched : (step, inner) ∈ node.ownBranches ↔
      ∃ index, step = .branch index ∧ node.follow? (.branch index) = some inner := by
    rw [ownBranches, mem_placed_iff]
    refine exists_congr fun index => and_congr (by rw [Nat.zero_add]) ?_
    rw [follow?, ← node?_bind_eq_some_iff, List.getElem?_map, Option.bind_map]
    rfl
  have listed : (step, inner) ∈ node.ownChildren.getD [] ↔
      ∃ index, step = .child index ∧ node.follow? (.child index) = some inner := by
    have same : node.ownChildren.getD [] = placed .child 0 (node.children.getD []) := by
      unfold ownChildren
      cases node.children <;> rfl
    rw [same, mem_placed_iff]
    refine exists_congr fun index => and_congr (by rw [Nat.zero_add]) ?_
    rw [follow?, node?_bind_eq_some_iff]
  rw [steps, List.mem_append, List.mem_append, repeated, branched, listed]
  cases step <;> simp

/-- The occurrences of nodes are exactly the nodes at the places of a tree. -/
theorem mem_occurrences_iff {node found : ContentNode} {place : List Step} :
    (place, found) ∈ node.occurrences ↔ node.nodeAt? place = some found := by
  induction place generalizing node with
  | nil =>
      rw [occurrences_eq, List.mem_cons, nodeAt?]
      constructor
      · rintro (same | below)
        · exact congrArg some (Prod.mk.inj same).2.symm
        · rcases List.mem_flatMap.mp below with ⟨item, _, relocated⟩
          rcases mem_relocate_iff.mp relocated with ⟨rest, empty, _⟩
          cases empty
      · exact fun same => .inl (congrArg (([] : List Step), ·) (Option.some.inj same).symm)
  | cons step rest inductionHypothesis =>
      rw [occurrences_eq, List.mem_cons, nodeAt?, Option.bind_eq_some_iff]
      constructor
      · rintro (same | below)
        · cases (Prod.mk.inj same).1
        · rcases List.mem_flatMap.mp below with ⟨⟨first, inner⟩, listed, relocated⟩
          rcases mem_relocate_iff.mp relocated with ⟨others, split, inside⟩
          cases split
          exact ⟨inner, mem_steps_iff.mp listed, inductionHypothesis.mp inside⟩
      · rintro ⟨inner, followed, inside⟩
        refine .inr (List.mem_flatMap.mpr ⟨(step, inner), mem_steps_iff.mpr followed, ?_⟩)
        exact mem_relocate_iff.mpr ⟨rest, rfl, inductionHypothesis.mpr inside⟩

/-- Turn after turn the walk takes nodes off its stack until none is left, and what it visits is
the pre-order of the tree.  Each node of the tree is visited once for every place at which it
stands: the visits go through all places, and through none of them twice. -/
theorem walk_visits_each_place_in_preorder (node : ContentNode) :
    Runs [node] node.preorder [] ∧ node.walk = node.preorder ∧
      ∃ places : List (List Step), places.Nodup ∧
        (∀ place, place ∈ places ↔ (node.nodeAt? place).isSome = true) ∧
        places.map node.nodeAt? = node.preorder.map some := by
  have walked := node.walk_eq_preorder
  refine ⟨walked ▸ runs_visit [node], walked, node.occurrences.map Prod.fst,
    node.occurrences_places_nodup, fun place => ?_, ?_⟩
  · rw [List.mem_map, Option.isSome_iff_exists]
    constructor
    · rintro ⟨⟨_, found⟩, listed, rfl⟩
      exact ⟨found, mem_occurrences_iff.mp listed⟩
    · rintro ⟨found, there⟩
      exact ⟨(place, found), mem_occurrences_iff.mpr there, rfl⟩
  · rw [← walked, ← map_snd_occurrences, List.map_map, List.map_map]
    exact List.map_congr_left fun item listed => mem_occurrences_iff.mp listed

end ContentNode
end ComponentCompiler
