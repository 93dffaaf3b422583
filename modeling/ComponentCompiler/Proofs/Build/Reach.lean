import ComponentCompiler.Build.Tree
import ComponentCompiler.Proofs.Content.Walk

namespace ComponentCompiler

/-!
# Which nodes a build reaches

A node with branches leads to the contents of its branches and to nothing else.
Any other node becomes an element and leads to its children and its repeated
content; what it leaves out is taken from the mapping entry of its type.  Each
node that is led to is told apart by the step that leads there.

A place below a root is the list of steps that lead to it, the first step first.
The nodes that a build reaches are compared by their places: a node comes before
all that it leads to, children come from left to right, and repeated content
comes behind them.  This is the order of lists of steps, compared from the
front.

The relation speaks of content and of the mapping table only.  That a build
visits exactly these nodes, in this order, is shown elsewhere.
-/

/-- Whether a node becomes an element: it has no branches. -/
def ContentNode.isElement (node : ContentNode) : Bool :=
  (node.states.getD []).isEmpty

/-- The nodes among some children, each with the step that leads to it. -/
def placed (mark : Nat → Step) : Nat → List Child → List (Step × ContentNode)
  | _, [] => []
  | position, .node node :: rest => (mark position, node) :: placed mark (position + 1) rest
  | position, .text _ :: rest => placed mark (position + 1) rest

def Repetition.placed (repetition : Repetition) : List (Step × ContentNode) :=
  [(.repetition, repetition.content)]

/-- Content that an element can leave to the mapping entry of its type. -/
inductive Slot where
  | children (type : String)
  | repetition (type : String)
deriving DecidableEq, Repr

/-- The element type whose entry is asked. -/
def Slot.type : Slot → String
  | .children type => type
  | .repetition type => type

namespace ContentNode

/-- The children that a node lists itself. -/
def ownChildren (node : ContentNode) : Option (List (Step × ContentNode)) :=
  node.children.map (placed .child 0)

/-- The repeated content that a node gives itself. -/
def ownRepetition (node : ContentNode) : Option (List (Step × ContentNode)) :=
  node.repetition.map Repetition.placed

/-- What an element leaves to the mapping table. -/
def omitted (node : ContentNode) : List Slot :=
  if node.isElement then
    (if node.children.isNone then [.children node.type] else []) ++
      (if node.repetition.isNone then [.repetition node.type] else [])
  else []

/-- The contents of the branches of a node. -/
def ownBranches (node : ContentNode) : List (Step × ContentNode) :=
  placed .branch 0 ((node.states.getD []).map Branch.content)

end ContentNode

namespace MappingTable

/-- The children that an element type brings along. -/
def defaultChildren (table : MappingTable) (type : String) : List (Step × ContentNode) :=
  placed .child 0 (((table.entry? type).bind ElementMapping.children).getD [])

/-- The repeated content that an element type brings along. -/
def defaultRepetition (table : MappingTable) (type : String) : List (Step × ContentNode) :=
  (((table.entry? type).bind ElementMapping.repetition).map Repetition.placed).getD []

/-- The nodes that a node leads to, in order. -/
def below (table : MappingTable) (node : ContentNode) : List (Step × ContentNode) :=
  if node.isElement then
    node.ownChildren.getD (table.defaultChildren node.type) ++
      node.ownRepetition.getD (table.defaultRepetition node.type)
  else node.ownBranches

/-- A build of the first node reaches the second one by the given steps. -/
inductive Reaches (table : MappingTable) : ContentNode → List Step → ContentNode → Prop
  | here (node : ContentNode) : Reaches table node [] node
  | onward {node inner found : ContentNode} {step : Step} {path : List Step}
      (first : (step, inner) ∈ table.below node) (rest : Reaches table inner path found) :
      Reaches table node (step :: path) found

/-- The element type of a node has no entry, though the node becomes an element. -/
def IsUnmapped (table : MappingTable) (node : ContentNode) : Prop :=
  node.isElement = true ∧ table.entry? node.type = none

instance (table : MappingTable) (node : ContentNode) : Decidable (table.IsUnmapped node) :=
  match known : table.entry? node.type with
  | none => decidable_of_iff (node.isElement = true) (by simp only [IsUnmapped, known, and_true])
  | some _ => isFalse (by simp only [IsUnmapped, known, reduceCtorEq, and_false, not_false_eq_true])

/-- The content that a table has for what is left to it. -/
def supply (table : MappingTable) : Slot → List (Step × ContentNode)
  | .children type => table.defaultChildren type
  | .repetition type => table.defaultRepetition type

/-- No default content leads back to an element that takes it. -/
def Unnested (table : MappingTable) : Prop :=
  ∀ slot, ∀ item ∈ table.supply slot, ∀ path node,
    table.Reaches item.2 path node → slot ∉ node.omitted

end MappingTable

/-- The order of the steps that lead away from one node. -/
inductive Step.Before : Step → Step → Prop
  | children {first second : Nat} (earlier : first < second) : Before (.child first) (.child second)
  | repetition (index : Nat) : Before (.child index) .repetition
  | branches {first second : Nat} (earlier : first < second) :
      Before (.branch first) (.branch second)

/-- The order in which places are visited. -/
def VisitedBefore : List Step → List Step → Prop :=
  List.Lex Step.Before

/-- The place that some steps lead to. -/
def Origin.descend (origin : Origin) (path : List Step) : Origin :=
  { origin with steps := path.reverse ++ origin.steps }

@[simp] theorem Origin.descend_nil (origin : Origin) : origin.descend [] = origin := rfl

theorem Origin.descend_cons (origin : Origin) (step : Step) (path : List Step) :
    origin.descend (step :: path) = (origin.below step).descend path := by
  simp only [descend, below, List.reverse_cons, List.append_assoc, List.singleton_append]

theorem Origin.descend_injective (origin : Origin) : Function.Injective origin.descend := by
  intro first second same
  have steps : first.reverse ++ origin.steps = second.reverse ++ origin.steps :=
    congrArg Origin.steps same
  exact List.reverse_inj.mp (List.append_cancel_right steps)

/-! ## The order of places -/

theorem Step.Before.asymm {first second : Step} (before : Step.Before first second) :
    ¬ Step.Before second first := by
  intro after
  cases before with
  | children earlier =>
      cases after with
      | children later => exact Nat.lt_asymm earlier later
  | repetition index => cases after
  | branches earlier =>
      cases after with
      | branches later => exact Nat.lt_asymm earlier later

theorem Step.Before.irrefl (step : Step) : ¬ Step.Before step step :=
  fun before => before.asymm before

theorem VisitedBefore.asymm {first second : List Step} (before : VisitedBefore first second) :
    ¬ VisitedBefore second first := by
  induction before with
  | nil => intro after; cases after
  | @cons step first second _ inductionHypothesis =>
      intro after
      cases after with
      | cons later => exact inductionHypothesis later
      | rel earlier => exact Step.Before.irrefl step earlier
  | rel earlier =>
      intro after
      cases after with
      | cons _ => exact Step.Before.irrefl _ earlier
      | rel later => exact earlier.asymm later

theorem VisitedBefore.irrefl (path : List Step) : ¬ VisitedBefore path path :=
  fun before => before.asymm before

/-- Positions from a given one on are marked in increasing order. -/
theorem placed_pairwise {mark : Nat → Step}
    (increasing : ∀ first second, first < second → Step.Before (mark first) (mark second))
    (position : Nat) (children : List Child) :
    (placed mark position children).Pairwise (fun first second => Step.Before first.1 second.1) ∧
      ∀ item ∈ placed mark position children, ∃ index, position ≤ index ∧ item.1 = mark index := by
  induction children generalizing position with
  | nil => exact ⟨List.Pairwise.nil, fun _ member => absurd member List.not_mem_nil⟩
  | cons child rest inductionHypothesis =>
      rcases inductionHypothesis (position + 1) with ⟨ordered, later⟩
      have restLater : ∀ item ∈ placed mark (position + 1) rest,
          ∃ index, position ≤ index ∧ item.1 = mark index := by
        intro item member
        rcases later item member with ⟨index, bound, marked⟩
        exact ⟨index, Nat.le_of_succ_le bound, marked⟩
      cases child with
      | text content => exact ⟨ordered, restLater⟩
      | node node =>
          constructor
          · refine List.pairwise_cons.mpr ⟨?_, ordered⟩
            intro item member
            rcases later item member with ⟨index, bound, marked⟩
            rw [marked]
            exact increasing position index bound
          · intro item member
            rcases List.mem_cons.mp member with same | inRest
            · exact ⟨position, Nat.le_refl _, same ▸ rfl⟩
            · exact restLater item inRest

theorem placed_cons (mark : Nat → Step) (position : Nat) (child : Child) (rest : List Child) :
    placed mark position (child :: rest) =
      placed mark position [child] ++ placed mark (position + 1) rest := by
  cases child <;> rfl

theorem map_snd_placed (mark : Nat → Step) (position : Nat) (children : List Child) :
    (placed mark position children).map Prod.snd = children.filterMap Child.node? := by
  induction children generalizing position with
  | nil => rfl
  | cons child rest inductionHypothesis =>
      cases child with
      | text content => exact inductionHypothesis (position + 1)
      | node node => exact congrArg (node :: ·) (inductionHypothesis (position + 1))

theorem mem_of_mem_placed {mark : Nat → Step} {position : Nat} {children : List Child}
    {item : Step × ContentNode} (member : item ∈ placed mark position children) :
    item.2 ∈ children.filterMap Child.node? := by
  rw [← map_snd_placed mark position]
  exact List.mem_map_of_mem member

end ComponentCompiler
