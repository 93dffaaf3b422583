import ComponentCompiler.Pass.InlineStyles
import ComponentCompiler.Proofs.Chunk.Store
import ComponentCompiler.Proofs.Styling.Assignment

namespace ComponentCompiler
namespace Styling

/-!
# What an element receives

An element receives entries for its inline style and a reference to a class, or
only one of these.  Receiving changes the attributes of the element and nothing
else.  All style passes hand out receipts, one origin after another; when no
origin comes twice, the elements of an origin end up with its receipt.
-/

/-- What an element receives: entries that are merged into its inline style, and
the expression for a class. -/
structure Receipt where
  merged : Fields
  reference : Option String

namespace Receipt

/-- The element with what it receives.  Without entries its inline style is not
touched. -/
def onElement (receipt : Receipt) (element : Element) : Element :=
  let styled :=
    if receipt.merged.isEmpty then element else element.mergeStyle (asEntries receipt.merged)
  match receipt.reference with
  | some expression => attachClass styled expression
  | none => styled

/-- The attributes of an element with what it receives. -/
def onAttributes (receipt : Receipt) (attributes : Fields) : Fields :=
  (receipt.onElement ⟨none, "", attributes, []⟩).attributes

/-- Receiving edits the attributes only. -/
theorem editsAttributes (receipt : Receipt) :
    EditsAttributes receipt.onElement receipt.onAttributes := by
  intro element
  rcases receipt with ⟨merged, reference⟩
  rcases element with ⟨own, tag, attributes, children⟩
  unfold onAttributes onElement
  cases merged <;> cases reference <;> rfl

end Receipt

/-- The edit that hands out receipts, one after another. -/
def editOf (receipts : List (Origin × Receipt)) : Edit :=
  receipts.foldl
    (fun edit receipt => edit.andThen (Edit.single receipt.1 receipt.2.onAttributes)) Edit.none

/-! ## Receipts of single origins -/

theorem foldl_receipts_of_absent {receipts : List (Origin × Receipt)} {origin : Origin}
    (absent : origin ∉ receipts.map Prod.fst) (edit : Edit) :
    receipts.foldl (fun edit receipt => edit.andThen (Edit.single receipt.1 receipt.2.onAttributes))
      edit origin = edit origin := by
  induction receipts generalizing edit with
  | nil => rfl
  | cons receipt rest inductionHypothesis =>
      rw [List.map_cons, List.mem_cons, not_or] at absent
      rw [List.foldl_cons, inductionHypothesis absent.2]
      funext attributes
      simp only [Edit.andThen, Edit.single, if_neg absent.1]

theorem editOf_of_absent {receipts : List (Origin × Receipt)} {origin : Origin}
    (absent : origin ∉ receipts.map Prod.fst) : editOf receipts origin = fun attributes => attributes :=
  foldl_receipts_of_absent absent Edit.none

/-- When no origin has two receipts, its elements get the one that it has. -/
theorem editOf_of_mem {receipts : List (Origin × Receipt)} {origin : Origin} {receipt : Receipt}
    (distinct : (receipts.map Prod.fst).Nodup) (member : (origin, receipt) ∈ receipts) :
    editOf receipts origin = receipt.onAttributes := by
  -- the receipts before this one leave the origin alone, and so do those behind it
  rcases List.append_of_mem member with ⟨before, after, rfl⟩
  rw [List.map_append, List.map_cons, List.nodup_middle, List.nodup_cons, List.mem_append,
    not_or] at distinct
  have untouched := foldl_receipts_of_absent distinct.1.1 Edit.none
  unfold editOf
  rw [List.foldl_append, List.foldl_cons, foldl_receipts_of_absent distinct.1.2]
  funext attributes
  simp only [Edit.andThen, Edit.single, if_true]
  rw [untouched]
  rfl

/-- What every receipt does to attributes, handing out receipts does as well, when
it may be done in any number of steps. -/
theorem editOf_relates (relation : Fields → Fields → Prop)
    (refl : ∀ attributes, relation attributes attributes)
    (trans : ∀ {first second third}, relation first second → relation second third →
      relation first third)
    {receipts : List (Origin × Receipt)}
    (each : ∀ receipt ∈ receipts, ∀ attributes,
      relation attributes (receipt.2.onAttributes attributes)) (origin : Origin)
    (attributes : Fields) : relation attributes (editOf receipts origin attributes) := by
  have general : ∀ edit : Edit, relation attributes (edit origin attributes) →
      relation attributes (receipts.foldl
        (fun edit receipt => edit.andThen (Edit.single receipt.1 receipt.2.onAttributes))
        edit origin attributes) := by
    induction receipts with
    | nil => exact fun edit related => related
    | cons receipt rest inductionHypothesis =>
        intro edit related
        rcases List.forall_mem_cons.mp each with ⟨here, later⟩
        refine inductionHypothesis later _ (trans related ?_)
        dsimp only [Edit.andThen, Edit.single]
        split
        · exact here _
        · exact refl _
  exact general Edit.none (refl attributes)

/-! ## The passes hand out receipts -/

section Passes

variable {ρ : Type}

/-- What an assignment hands to its element. -/
def Assignment.receipt (assignment : Assignment ρ) (reference : String → String) : Receipt :=
  ⟨boundStyle assignment.bound, assignment.classRule.map fun classRule => reference classRule.name⟩

theorem Assignment.decorate_eq (assignment : Assignment ρ) (reference : String → String) :
    assignment.decorate reference = (assignment.receipt reference).onElement := by
  rcases assignment with ⟨origin, bound, classRule⟩
  funext element
  unfold Assignment.decorate Assignment.receipt Receipt.onElement
  cases bound <;> cases classRule <;> rfl

theorem decorateAll_eq_restyle (assigned : List (Assignment ρ)) (reference : String → String)
    (chunks : ChunkStore) :
    decorateAll assigned reference chunks =
      chunks.restyle (editOf (assigned.map fun assignment =>
        (assignment.origin, assignment.receipt reference))) := by
  have general : ∀ edit : Edit, decorateAll assigned reference (chunks.restyle edit) =
      chunks.restyle ((assigned.map fun assignment =>
        (assignment.origin, assignment.receipt reference)).foldl
          (fun edit receipt => edit.andThen (Edit.single receipt.1 receipt.2.onAttributes)) edit) := by
    induction assigned with
    | nil => exact fun edit => rfl
    | cons assignment rest inductionHypothesis =>
        intro edit
        have first := ChunkStore.changeAt_eq_restyle (assignment.receipt reference).editsAttributes
          (chunks.restyle edit) assignment.origin
        rw [ChunkStore.restyle_restyle, ← assignment.decorate_eq] at first
        rw [List.map_cons, List.foldl_cons, ← inductionHypothesis, ← first]
        rfl
  have whole := general Edit.none
  rw [ChunkStore.restyle_none] at whole
  exact whole

end Passes

/-- The elements that the names of nodes lead to, with their nodes. -/
def located (nodes : Entries String Origin) (list : List ContentNode) :
    List (Origin × ContentNode) :=
  list.filterMap fun node =>
    (Entries.lookUp? nodes node.name).map fun origin => (origin, node)

theorem located_cons_of_none {nodes : Entries String Origin} {node : ContentNode}
    (absent : Entries.lookUp? nodes node.name = none) (rest : List ContentNode) :
    located nodes (node :: rest) = located nodes rest := by
  simp only [located, List.filterMap_cons, absent, Option.map_none]

theorem located_cons_of_some {nodes : Entries String Origin} {node : ContentNode} {origin : Origin}
    (found : Entries.lookUp? nodes node.name = some origin) (rest : List ContentNode) :
    located nodes (node :: rest) = (origin, node) :: located nodes rest := by
  simp only [located, List.filterMap_cons, found, Option.map_some]

/-- When no two nodes lead to one element, every node that leads to one claims it. -/
theorem claims_eq_located {nodes : Entries String Origin} {styled : List Origin}
    {list : List ContentNode} (distinct : ((located nodes list).map Prod.fst).Nodup)
    (free : ∀ origin ∈ (located nodes list).map Prod.fst, origin ∉ styled) :
    claims nodes styled list = located nodes list := by
  fun_induction claims nodes styled list with
  | case1 styled => rfl
  | case2 styled node rest absent inductionHypothesis =>
      rw [located_cons_of_none absent] at distinct free ⊢
      exact inductionHypothesis distinct free
  | case3 styled node rest origin found taken inductionHypothesis =>
      rw [located_cons_of_some found] at free
      exact absurd taken (free origin List.mem_cons_self)
  | case4 styled node rest origin found untaken inductionHypothesis =>
      rw [located_cons_of_some found] at distinct free ⊢
      rw [List.map_cons, List.nodup_cons] at distinct
      refine congrArg ((origin, node) :: ·) (inductionHypothesis distinct.2 fun other member => ?_)
      rw [List.mem_cons, not_or]
      exact ⟨fun equal => distinct.1 (equal ▸ member), free other (List.mem_cons_of_mem _ member)⟩

/-- The receipts that the inline pass hands out. -/
def inlineReceipts (items : List (Origin × ContentNode)) : List (Origin × Receipt) :=
  items.map fun item => (item.1, ⟨inlineStyle (item.2.style.getD []), none⟩)

/-- The inline pass restyles the chunks by one receipt for each node that leads
to an element. -/
theorem inlineStyle_outcome {component : Component} {nodes : Entries String Origin}
    {list : List ContentNode} {chunks : ChunkStore}
    (allStyled : ∀ node ∈ list, node.style.getD [] ≠ []) :
    (InlineStyles.style component nodes list chunks).outcome =
      .ok (chunks.restyle (editOf (inlineReceipts (located nodes list)))) := by
  -- The edits so far are carried along: a later receipt finds the chunks restyled by the earlier.
  have general : ∀ edit : Edit,
      (InlineStyles.style component nodes list (chunks.restyle edit)).outcome =
        .ok (chunks.restyle ((inlineReceipts (located nodes list)).foldl
          (fun edit receipt => edit.andThen (Edit.single receipt.1 receipt.2.onAttributes))
          edit)) := by
    induction list with
    | nil => exact fun edit => rfl
    | cons node rest inductionHypothesis =>
        intro edit
        have later := inductionHypothesis fun other member =>
          allStyled other (List.mem_cons_of_mem _ member)
        rw [InlineStyles.style]
        cases found : Entries.lookUp? nodes node.name with
        | none =>
            rw [located_cons_of_none found, ← later edit]
            rfl
        | some origin =>
            have merges : (fun element : Element =>
                element.mergeStyle (asEntries (inlineStyle (node.style.getD [])))) =
                (⟨inlineStyle (node.style.getD []), none⟩ : Receipt).onElement := by
              have someEntries : (inlineStyle (node.style.getD [])).isEmpty = false := by
                have styled := allStyled node List.mem_cons_self
                cases entries : node.style.getD [] with
                | nil => exact absurd entries styled
                | cons entry others => rfl
              funext element
              simp only [Receipt.onElement, someEntries, Bool.false_eq_true, if_false]
            have first := ChunkStore.changeAt_eq_restyle
              (⟨inlineStyle (node.style.getD []), none⟩ : Receipt).editsAttributes
              (chunks.restyle edit) origin
            rw [ChunkStore.restyle_restyle] at first
            simp only [merges]
            rw [located_cons_of_some found, inlineReceipts, List.map_cons, List.foldl_cons,
              ← inlineReceipts, ← later, ← first]
  have whole := general Edit.none
  rw [ChunkStore.restyle_none] at whole
  exact whole

end Styling
end ComponentCompiler
