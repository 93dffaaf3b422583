import ComponentCompiler.Content.Walk

namespace ComponentCompiler
namespace ContentNode

/-!
# The walk through content, node by node

The walk keeps a stack of nodes.  Read without that stack, the walk of a node is
the pre-order of its tree: the node itself, then the pre-orders of its repeated
content, of its branches and of its children.  The stack at any time stands for
the pre-orders of its nodes, one behind the other.  Facts about content follow by
induction on the nodes directly below, whether they are children, repeated content
or branches.
-/

/-! ## The pre-order of a tree -/

mutual

/-- The nodes of a content tree, each before those below it. -/
def preorder : ContentNode → List ContentNode
  | ⟨type, name, style, attrs, events, children, repetition, states, dependency⟩ =>
    ⟨type, name, style, attrs, events, children, repetition, states, dependency⟩ ::
      (preorderRepetition repetition ++ preorderBranches states ++ preorderChildren children)

/-- The nodes of repeated content. -/
def preorderRepetition : Option Repetition → List ContentNode
  | none => []
  | some ⟨content, _, _⟩ => content.preorder

/-- The nodes of branches. -/
def preorderBranches : Option (List Branch) → List ContentNode
  | none => []
  | some branches => preorderBranchList branches

/-- The nodes of listed branches. -/
def preorderBranchList : List Branch → List ContentNode
  | [] => []
  | ⟨_, content⟩ :: rest => preorderChild content ++ preorderBranchList rest

/-- The nodes of children. -/
def preorderChildren : Option (List Child) → List ContentNode
  | none => []
  | some children => preorderChildList children

/-- The nodes of listed children. -/
def preorderChildList : List Child → List ContentNode
  | [] => []
  | child :: rest => preorderChild child ++ preorderChildList rest

/-- The nodes of a child; text has none. -/
def preorderChild : Child → List ContentNode
  | .node node => node.preorder
  | .text _ => []

end

theorem preorderChildList_eq (children : List Child) :
    preorderChildList children = (children.filterMap Child.node?).flatMap preorder := by
  induction children with
  | nil => rw [preorderChildList, List.filterMap_nil, List.flatMap_nil]
  | cons child rest inductionHypothesis =>
      rw [preorderChildList, inductionHypothesis]
      cases child with
      | text content => rw [preorderChild, List.filterMap_cons, Child.node?, List.nil_append]
      | node node =>
          rw [preorderChild, List.filterMap_cons, Child.node?]
          exact List.flatMap_cons.symm

/-- Branches are walked like the children that they show. -/
theorem preorderBranchList_eq (branches : List Branch) :
    preorderBranchList branches = preorderChildList (branches.map Branch.content) := by
  induction branches with
  | nil => rw [preorderBranchList, List.map_nil, preorderChildList]
  | cons branch rest inductionHypothesis =>
      rcases branch with ⟨test, content⟩
      rw [preorderBranchList, inductionHypothesis, List.map_cons, preorderChildList]

/-- The pre-order of a tree is its root and the pre-orders of the trees directly below. -/
theorem preorder_eq (node : ContentNode) :
    node.preorder = node :: node.inner.flatMap preorder := by
  rcases node with ⟨type, name, style, attrs, events, children, repetition, states, dependency⟩
  have ofRepetition : preorderRepetition repetition =
      (repetition.map Repetition.content).toList.flatMap preorder := by
    cases repetition with
    | none => rw [preorderRepetition, Option.map_none, Option.toList_none, List.flatMap_nil]
    | some repetition =>
        rcases repetition with ⟨content, source, notes⟩
        rw [preorderRepetition, Option.map_some, Option.toList_some, List.flatMap_singleton]
  have ofBranches : preorderBranches states =
      ((states.getD []).filterMap fun branch => branch.content.node?).flatMap preorder := by
    cases states with
    | none => rw [preorderBranches, Option.getD_none, List.filterMap_nil, List.flatMap_nil]
    | some branches =>
        rw [preorderBranches, preorderBranchList_eq, preorderChildList_eq, List.filterMap_map]
        rfl
  have ofChildren : preorderChildren children =
      ((children.getD []).filterMap Child.node?).flatMap preorder := by
    cases children with
    | none => rw [preorderChildren, Option.getD_none, List.filterMap_nil, List.flatMap_nil]
    | some children => rw [preorderChildren, preorderChildList_eq, Option.getD_some]
  rw [preorder, ofRepetition, ofBranches, ofChildren, inner, List.flatMap_append,
    List.flatMap_append]

/-! ## Turns of the walk -/

/-- Turn after turn, the walk comes from one stack to another and visits some nodes. -/
inductive Runs : List ContentNode → List ContentNode → List ContentNode → Prop
  | rest (stack : List ContentNode) : Runs stack [] stack
  | turn {stack left last visited : List ContentNode} {node : ContentNode}
      (taken : turn stack = some (node, left)) (onward : Runs left visited last) :
      Runs stack (node :: visited) last

/-- The walk goes on until the stack is empty. -/
theorem runs_visit (stack : List ContentNode) : Runs stack (visit stack) [] := by
  fun_induction visit stack with
  | case1 stack ended =>
      cases stack with
      | nil => exact .rest []
      | cons node rest => cases ended
  | case2 stack node left taken inductionHypothesis => exact .turn taken inductionHypothesis

/-- What is visited from a stack on is the pre-orders of its nodes.  A turn puts the nodes
directly below a node in its place, and takes the node itself to the front. -/
theorem visit_eq_flatMap_preorder (stack : List ContentNode) :
    visit stack = stack.flatMap preorder := by
  fun_induction visit stack with
  | case1 stack ended =>
      cases stack with
      | nil => rw [List.flatMap_nil]
      | cons node rest => cases ended
  | case2 stack node left taken inductionHypothesis =>
      cases stack with
      | nil => cases taken
      | cons top rest =>
          rw [turn, push_reverse] at taken
          cases taken
          rw [inductionHypothesis, List.flatMap_append, List.flatMap_cons, preorder_eq,
            List.cons_append]

theorem walk_eq_preorder (node : ContentNode) : node.walk = node.preorder := by
  rw [walk, visit_eq_flatMap_preorder, List.flatMap_singleton]

/-- The walk of a node is the node and the walks of the nodes directly below. -/
theorem walk_eq (node : ContentNode) : node.walk = node :: node.inner.flatMap walk := by
  rw [walk_eq_preorder, preorder_eq, funext walk_eq_preorder]

theorem self_mem_walk (node : ContentNode) : node ∈ node.walk := by
  rw [walk_eq]
  exact List.mem_cons_self

theorem mem_walk_of_mem_inner {node inner found : ContentNode} (member : inner ∈ node.inner)
    (walked : found ∈ inner.walk) : found ∈ node.walk := by
  rw [walk_eq]
  exact List.mem_cons_of_mem _ (List.mem_flatMap.mpr ⟨inner, member, walked⟩)

theorem mem_inner_of_repetition {node : ContentNode} {repetition : Repetition}
    (present : repetition ∈ node.repetition) : repetition.content ∈ node.inner := by
  have repeated : node.repetition = some repetition := present
  simp [inner, repeated]

theorem mem_inner_of_branch {node found : ContentNode} {branches : List Branch} {branch : Branch}
    (present : branches ∈ node.states) (member : branch ∈ branches)
    (same : branch.content = .node found) : found ∈ node.inner := by
  have branched : node.states = some branches := present
  have listed : found ∈ branches.filterMap fun branch => branch.content.node? :=
    List.mem_filterMap.mpr ⟨branch, member, by rw [same]; rfl⟩
  simp only [inner, branched, List.mem_append]
  exact .inl (.inr listed)

theorem mem_inner_of_child {node found : ContentNode} {children : List Child}
    (present : children ∈ node.children) (member : .node found ∈ children) :
    found ∈ node.inner := by
  have parental : node.children = some children := present
  have listed : found ∈ children.filterMap Child.node? :=
    List.mem_filterMap.mpr ⟨.node found, member, rfl⟩
  simp only [inner, parental, List.mem_append]
  exact .inr listed

theorem count_le_countAll {nodes : List ContentNode} {node : ContentNode} (member : node ∈ nodes) :
    node.count ≤ countAll nodes := by
  induction nodes with
  | nil => cases member
  | cons head rest inductionHypothesis =>
      rw [countAll]
      rcases List.mem_cons.mp member with same | inRest
      · rw [same]
        exact Nat.le_add_right _ _
      · exact Nat.le_trans (inductionHypothesis inRest) (Nat.le_add_left _ _)

theorem count_lt_of_mem_inner {node inner : ContentNode} (member : inner ∈ node.inner) :
    inner.count < node.count := by
  rw [count_eq node]
  have bound := count_le_countAll member
  omega

theorem inner_induction {motive : ContentNode → Prop}
    (step : ∀ node, (∀ inner ∈ node.inner, motive inner) → motive node) (node : ContentNode) :
    motive node :=
  step node fun inner member =>
    have : inner.count < node.count := count_lt_of_mem_inner member
    inner_induction step inner
termination_by node.count

theorem mem_walk_trans {root node found : ContentNode} (visited : node ∈ root.walk)
    (walked : found ∈ node.walk) : found ∈ root.walk := by
  induction root using inner_induction with
  | step root inductionHypothesis =>
      rw [walk_eq] at visited
      rcases List.mem_cons.mp visited with same | below
      · exact same ▸ walked
      · rcases List.mem_flatMap.mp below with ⟨inner, member, inside⟩
        exact mem_walk_of_mem_inner member (inductionHypothesis inner member inside)

/-! ## Nodes that say little -/

/-- A node that declares no more than a style and children. -/
def plain (type name : String) (style : Option Fields) (children : Option (List Child)) :
    ContentNode :=
  ⟨type, name, style, none, none, children, none, none, none⟩

/-- A node of a type that says nothing else. -/
def ofType (type name : String) : ContentNode :=
  plain type name none none

theorem walk_plain (type name : String) (style : Option Fields) :
    (plain type name style none).walk = [plain type name style none] := by
  rw [walk_eq]
  rfl

theorem walk_ofType (type name : String) : (ofType type name).walk = [ofType type name] :=
  walk_plain type name none

end ContentNode
end ComponentCompiler
