import ComponentCompiler.Content.Basic

namespace ComponentCompiler

/-!
# Walking through content

The walk visits a node before the nodes below it.  Repeated content comes
first, then the branches, then the children; text is passed over.  It keeps the
nodes that are still to be visited on a stack and takes the next one from its
top.  The nodes directly below a node are pushed in reverse, so that the first of
them is the next one.
-/

/-- The node that a child is. -/
def Child.node? : Child → Option ContentNode
  | .node inner => some inner
  | .text _ => none

namespace ContentNode

/-- The nodes directly below a node, in the order of the walk. -/
def inner (node : ContentNode) : List ContentNode :=
  (node.repetition.map Repetition.content).toList ++
    (node.states.getD []).filterMap (fun branch => branch.content.node?) ++
    (node.children.getD []).filterMap Child.node?

mutual

/-- The number of nodes of a content tree. -/
def count : ContentNode → Nat
  | ⟨_, _, _, _, _, children, repetition, states, _⟩ =>
    1 + countRepetition repetition + countBranches states + countChildren children

/-- The number of nodes of repeated content. -/
def countRepetition : Option Repetition → Nat
  | none => 0
  | some ⟨content, _, _⟩ => content.count

/-- The number of nodes of branches. -/
def countBranches : Option (List Branch) → Nat
  | none => 0
  | some branches => countBranchList branches

/-- The number of nodes of listed branches. -/
def countBranchList : List Branch → Nat
  | [] => 0
  | ⟨_, content⟩ :: rest => countChild content + countBranchList rest

/-- The number of nodes of children. -/
def countChildren : Option (List Child) → Nat
  | none => 0
  | some children => countChildList children

/-- The number of nodes of listed children. -/
def countChildList : List Child → Nat
  | [] => 0
  | child :: rest => countChild child + countChildList rest

/-- The number of nodes of a child. -/
def countChild : Child → Nat
  | .node node => node.count
  | .text _ => 0

end

/-- The number of nodes of several content trees. -/
def countAll : List ContentNode → Nat
  | [] => 0
  | node :: rest => node.count + countAll rest

/-- The listed branches count the nodes among their contents. -/
theorem countBranchList_eq (branches : List Branch) :
    countBranchList branches
      = countAll (branches.filterMap fun branch => branch.content.node?) := by
  induction branches with
  | nil => simp [countBranchList, countAll]
  | cons branch rest inductionHypothesis =>
      obtain ⟨test, content⟩ := branch
      cases content with
      | text content =>
          simp [countBranchList, countChild, Child.node?, inductionHypothesis]
      | node node =>
          simp [countBranchList, countChild, Child.node?, inductionHypothesis, countAll]

/-- The listed children count the nodes among them. -/
theorem countChildList_eq (children : List Child) :
    countChildList children = countAll (children.filterMap Child.node?) := by
  induction children with
  | nil => simp [countChildList, countAll]
  | cons child rest inductionHypothesis =>
      cases child with
      | text content =>
          simp [countChildList, countChild, List.filterMap_cons, Child.node?, inductionHypothesis]
      | node node =>
          simp [countChildList, countChild, Child.node?, inductionHypothesis, countAll]

theorem countAll_append (first second : List ContentNode) :
    countAll (first ++ second) = countAll first + countAll second := by
  induction first with
  | nil => simp [countAll]
  | cons node rest inductionHypothesis =>
      simp [countAll, inductionHypothesis, Nat.add_assoc]

/-- A content tree is its root and the trees directly below. -/
theorem count_eq (node : ContentNode) : node.count = 1 + countAll node.inner := by
  obtain ⟨type, name, style, attrs, events, children, repetition, states, dependency⟩ := node
  have ofRepetition : countRepetition repetition
      = countAll (repetition.map Repetition.content).toList := by
    cases repetition with
    | none => simp [countRepetition, countAll]
    | some repetition =>
        obtain ⟨content, source, notes⟩ := repetition
        simp [countRepetition, countAll]
  have ofBranches : countBranches states
      = countAll ((states.getD []).filterMap fun branch => branch.content.node?) := by
    cases states with
    | none => simp [countBranches, countAll]
    | some branches => simp [countBranches, countBranchList_eq]
  have ofChildren : countChildren children
      = countAll ((children.getD []).filterMap Child.node?) := by
    cases children with
    | none => simp [countChildren, countAll]
    | some children => simp [countChildren, countChildList_eq]
  simp only [count, inner, countAll_append, ofRepetition, ofBranches, ofChildren]
  omega

/-- Push nodes onto a stack, one after the other. -/
def push (stack nodes : List ContentNode) : List ContentNode :=
  nodes.foldl (fun stack node => node :: stack) stack

/-- The last node of some is pushed first, so they come to lie in order. -/
theorem push_reverse (stack nodes : List ContentNode) :
    push stack nodes.reverse = nodes ++ stack := by
  induction nodes with
  | nil => rfl
  | cons node rest inductionHypothesis =>
      rw [push] at inductionHypothesis ⊢
      rw [List.reverse_cons, List.foldl_append, inductionHypothesis]
      rfl

/-- One turn of the walk: the node on top of the stack is taken off, and the nodes
directly below it are pushed. -/
def turn : List ContentNode → Option (ContentNode × List ContentNode)
  | [] => none
  | node :: stack => some (node, push stack node.inner.reverse)

/-- A turn takes one node away from those that are still to be visited. -/
theorem countAll_turn {stack left : List ContentNode} {node : ContentNode}
    (taken : turn stack = some (node, left)) : countAll stack = countAll left + 1 := by
  cases stack with
  | nil => cases taken
  | cons top rest =>
      rw [turn, push_reverse] at taken
      cases taken
      rw [countAll, countAll_append, count_eq]
      omega

/-- Visit the nodes on a stack and all below them. -/
def visit (stack : List ContentNode) : List ContentNode :=
  match _taken : turn stack with
  | none => []
  | some (node, left) => node :: visit left
termination_by countAll stack
decreasing_by
  have fewer := countAll_turn _taken
  omega

/-- All nodes of a content tree, in the order of the walk. -/
def walk (node : ContentNode) : List ContentNode :=
  visit [node]

end ContentNode
end ComponentCompiler
