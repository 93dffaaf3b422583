import ComponentCompiler.Proofs.Build.Element
import ComponentCompiler.Proofs.Entries
import ComponentCompiler.Proofs.Markup.Outline

namespace ComponentCompiler

/-!
# The attributes that elements are built with

A node declares attributes in its own list and through its type, and handlers
through its events.  They are set one after another, so the last value counts.  The
element of a node is built with exactly the attributes that the node declares; only
the key of a repeated element comes from elsewhere.

Every part of the builder passes this on from the nodes to what is built of them.
As for the shape of the tree, content of the node itself is smaller, and default
content is built at a smaller depth.
-/

/-- The attributes that are set on the element of a node, in order: those of the
resolved element, and then the handlers. -/
def ContentNode.settings (node : ContentNode) (resolved : ResolvedElement) : Fields :=
  (resolved.attrs.map fun attr => (attr.1, attributeValue attr.2)) ++
    (node.events.getD []).filterMap fun event =>
      (handler? event.2).map fun handler => (event.1, .code handler)

/-- The value that a node declares for an attribute. -/
def MappingTable.declared? (table : MappingTable) (node : ContentNode) (name : String) :
    Option Value :=
  (table.entry? node.type).bind fun entry =>
    Entries.lookUp? (node.settings (entry.resolve node.attrs node.dependency)).reverse name

/-! ## One element -/

theorem withAttributes_attributes (element : Element) (attrs : Fields) :
    (withAttributes element attrs).attributes =
      Entries.update element.attributes
        (attrs.map fun attr => (attr.1, attributeValue attr.2)) := by
  unfold withAttributes
  induction attrs generalizing element with
  | nil => rfl
  | cons attr rest inductionHypothesis =>
      rw [List.foldl_cons, inductionHypothesis]
      rfl

theorem withHandlers_attributes (element : Element) (events : List (String × List Statement)) :
    (withHandlers element events).attributes =
      Entries.update element.attributes (events.filterMap fun event =>
        (handler? event.2).map fun handler => (event.1, .code handler)) := by
  unfold withHandlers
  induction events generalizing element with
  | nil => rfl
  | cons event rest inductionHypothesis =>
      rw [List.foldl_cons, inductionHypothesis, List.filterMap_cons]
      cases handler? event.2 <;> rfl

theorem ContentNode.started_attributes (node : ContentNode) (origin : Origin)
    (resolved : ResolvedElement) :
    (node.started origin resolved).attributes = Entries.update [] (node.settings resolved) := by
  unfold started settings
  rw [withHandlers_attributes, withAttributes_attributes, Entries.update, Entries.update,
    Entries.update, List.foldl_append]
  rfl

/-- An element is started with what its node declares. -/
theorem lookUp?_started {table : MappingTable} {node : ContentNode} {entry : ElementMapping}
    (known : table.entry? node.type = some entry) (origin : Origin) (name : String) :
    Entries.lookUp? (node.started origin (entry.resolve node.attrs node.dependency)).attributes
      name = table.declared? node name := by
  rw [node.started_attributes, Entries.lookUp?_update, MappingTable.declared?, known,
    Option.bind_some]
  exact Option.or_none

/-! ## Parts -/

theorem compiledAll_append (first second : List Markup) :
    compiledAll (first ++ second) = compiledAll first ++ compiledAll second := by
  rw [compiledAll_eq, compiledAll_eq, compiledAll_eq, elementsAll_append, List.filterMap_append]

theorem compiledAll_ofText (content : String) : compiledAll [Markup.ofText content] = [] := by
  unfold Markup.ofText
  cases Binding.expression? (.text content) <;> rfl

theorem compiled_gathered (parts : List Markup) :
    (gathered parts).compiled = compiledAll parts := by
  unfold gathered
  split
  · exact (List.append_nil _).symm
  · rfl

/-- Setting a key leaves the other attributes of an element as they were. -/
theorem exists_of_mem_compiled_setAttribute {element : Element} {value : Value} {origin : Origin}
    {attributes : Fields}
    (member : (origin, attributes) ∈ (element.setAttribute "key" value).compiled) :
    ∃ built, (origin, built) ∈ element.compiled ∧
      ∀ name, name ≠ "key" → Entries.lookUp? attributes name = Entries.lookUp? built name := by
  rcases element with ⟨own, tag, before, children⟩
  rcases List.mem_append.mp member with itself | inside
  · cases own with
    | none => cases itself
    | some place =>
        rcases Prod.mk.inj (List.mem_singleton.mp itself) with ⟨rfl, rfl⟩
        refine ⟨before, List.mem_append_left _ (List.mem_singleton.mpr rfl), ?_⟩
        intro name noKey
        exact Entries.lookUp?_put_of_ne before value (Ne.symm noKey)
  · exact ⟨attributes, List.mem_append_right _ inside, fun _ _ => rfl⟩

theorem compiled_repeatedElement (parts : List Markup) :
    (repeatedElement parts).compiled = compiledAll parts := by
  unfold repeatedElement
  split
  · split
    · rfl
    · exact (List.append_nil _).symm
  · rfl

namespace MappingTable

/-- What an element was built with is what a node declares that is reached from here. -/
def Stems (table : MappingTable) (origin : Origin) (node : ContentNode)
    (compiled : Origin × Fields) : Prop :=
  ∃ place found, table.Reaches node place found ∧ compiled.1 = origin.descend place ∧
    ∀ name, name ≠ "key" → Entries.lookUp? compiled.2 name = table.declared? found name

/-- The same for the nodes that some steps lead to. -/
def StemsBelow (table : MappingTable) (origin : Origin) (items : List (Step × ContentNode))
    (compiled : Origin × Fields) : Prop :=
  ∃ item ∈ items, table.Stems (origin.below item.1) item.2 compiled

variable {table : MappingTable} {origin : Origin} {node : ContentNode}
  {items others : List (Step × ContentNode)} {compiled : Origin × Fields}

theorem StemsBelow.mono (stems : table.StemsBelow origin items compiled) (more : items ⊆ others) :
    table.StemsBelow origin others compiled := by
  rcases stems with ⟨item, member, stem⟩
  exact ⟨item, more member, stem⟩

theorem StemsBelow.stems (stems : table.StemsBelow origin (table.below node) compiled) :
    table.Stems origin node compiled := by
  rcases stems with ⟨item, member, place, found, reached, same, declared⟩
  refine ⟨item.1 :: place, found, .onward member reached, ?_, declared⟩
  rw [same, Origin.descend_cons]

end MappingTable

namespace Site

/-- A node is built to elements with the declared attributes, wherever it is. -/
def Faithful (site : Site) (node : ContentNode) : Prop :=
  ∀ origin, (buildNode site origin node).Yields fun parts =>
    ∀ compiled ∈ compiledAll parts, site.table.Stems origin node compiled

variable {site : Site}

theorem stemsBelow_buildChild {child : Child} (faithful : ∀ node ∈ child.node?, site.Faithful node)
    (mark : Nat → Step) (position : Nat) (origin : Origin) :
    (buildChild site (origin.below (mark position)) child).Yields fun parts =>
      ∀ compiled ∈ compiledAll parts,
        site.table.StemsBelow origin (placed mark position [child]) compiled := by
  cases child with
  | node node =>
      rw [buildChild]
      refine ⟨fun parts found compiled member => ⟨(mark position, node), List.mem_cons_self, ?_⟩⟩
      exact (faithful node rfl _).success parts found compiled member
  | text content =>
      rw [buildChild]
      apply Traced.yields_pure
      intro compiled member
      rw [compiledAll_ofText] at member
      cases member

theorem stemsBelow_buildChildList {children : List Child}
    (faithful : ∀ node ∈ children.filterMap Child.node?, site.Faithful node) (origin : Origin)
    (position : Nat) :
    (buildChildList site origin position children).Yields fun parts =>
      ∀ compiled ∈ compiledAll parts,
        site.table.StemsBelow origin (placed .child position children) compiled := by
  induction children generalizing position with
  | nil =>
      rw [buildChildList]
      exact Traced.yields_pure fun compiled member => absurd member List.not_mem_nil
  | cons child rest inductionHypothesis =>
      obtain ⟨inChild, inRest⟩ := List.forall_mem_cons.mp (List.forall_mem_filterMap.mp faithful)
      rw [buildChildList, placed_cons]
      apply (stemsBelow_buildChild inChild .child position origin).bind
      intro parts stems
      apply (inductionHypothesis (List.forall_mem_filterMap.mpr inRest) (position + 1)).bind
      intro others restStems
      apply Traced.yields_pure
      intro compiled member
      rw [compiledAll_append] at member
      rcases List.mem_append.mp member with here | later
      · exact (stems compiled here).mono (List.subset_append_left _ _)
      · exact (restStems compiled later).mono (List.subset_append_right _ _)

theorem stemsBelow_buildBranches {branches : List Branch}
    (faithful : ∀ node ∈ branches.filterMap fun branch => branch.content.node?,
      site.Faithful node) (origin : Origin) (subject : String) (position : Nat) :
    (buildBranches site origin subject position branches).Yields fun parts =>
      ∀ compiled ∈ compiledAll parts, site.table.StemsBelow origin
        (placed .branch position (branches.map Branch.content)) compiled := by
  induction branches generalizing position with
  | nil =>
      rw [buildBranches]
      exact Traced.yields_pure fun compiled member => absurd member List.not_mem_nil
  | cons branch rest inductionHypothesis =>
      obtain ⟨inBranch, inRest⟩ := List.forall_mem_cons.mp (List.forall_mem_filterMap.mp faithful)
      rcases branch with ⟨test, content⟩
      rw [buildBranches, buildBranch, List.map_cons, placed_cons]
      simp only [bind_assoc, pure_bind]
      apply Traced.yields_after
      intro _
      apply (stemsBelow_buildChild inBranch .branch position origin).bind
      intro parts stems
      apply (inductionHypothesis (List.forall_mem_filterMap.mpr inRest) (position + 1)).bind
      intro others restStems
      apply Traced.yields_pure
      intro compiled member
      rw [compiledAll, Markup.compiled, Markup.compiled, compiled_gathered] at member
      rcases List.mem_append.mp member with here | later
      · exact (stems compiled here).mono (List.subset_append_left _ _)
      · exact (restStems compiled later).mono (List.subset_append_right _ _)

theorem stemsBelow_buildRepeated {repetition : Repetition}
    (faithful : site.Faithful repetition.content) (origin : Origin) :
    (buildRepeated site origin repetition).Yields fun part =>
      ∀ compiled ∈ part.compiled, site.table.StemsBelow origin repetition.placed compiled := by
  rcases repetition with ⟨content, source, annotation⟩
  rw [buildRepeated]
  apply (faithful _).bind
  intro parts stems
  apply Traced.yields_after
  intro expression
  apply Traced.yields_pure
  rintro ⟨own, attributes⟩ member
  rcases exists_of_mem_compiled_setAttribute member with ⟨built, inParts, same⟩
  rw [compiled_repeatedElement] at inParts
  rcases stems _ inParts with ⟨place, found, reached, placed, declared⟩
  refine ⟨(.repetition, content), List.mem_cons_self, place, found, reached, placed, ?_⟩
  intro name noKey
  exact (same name noKey).trans (declared name noKey)

/-! ## Default content -/

/-- Default content is built to elements with the declared attributes. -/
structure DefaultsFaithful (site : Site) : Prop where
  children : ∀ origin children, (site.defaults.children origin children).Yields fun parts =>
    ∀ compiled ∈ compiledAll parts,
      site.table.StemsBelow origin (placed .child 0 children) compiled
  repetition : ∀ origin repetition,
    (site.defaults.repetition origin repetition).Yields fun part =>
      ∀ compiled ∈ part.compiled, site.table.StemsBelow origin repetition.placed compiled

section Elements

variable {node : ContentNode} {entry : ElementMapping}

theorem stemsBelow_innerParts (defaults : site.DefaultsFaithful)
    (known : site.table.entry? node.type = some entry)
    (faithful : ∀ inner ∈ node.inner, site.Faithful inner) (origin : Origin) :
    (site.innerParts origin node (entry.resolve node.attrs node.dependency)).Yields fun parts =>
      ∀ compiled ∈ compiledAll parts, site.table.StemsBelow origin
        (node.ownChildren.getD (site.table.defaultChildren node.type)) compiled := by
  unfold innerParts ContentNode.ownChildren
  cases given : node.children with
  | some children =>
      apply stemsBelow_buildChildList
      intro inner member
      apply faithful
      rw [ContentNode.inner, given]
      exact List.mem_append_right _ member
  | none =>
      have listed : site.table.defaultChildren node.type =
          placed .child 0 (entry.children.getD []) := by
        rw [MappingTable.defaultChildren, known]
        rfl
      rw [Option.map_none, Option.getD_none, listed]
      simp only [defaultChildren, ElementMapping.resolve]
      rcases entry.children with _ | _ | ⟨child, rest⟩
      · exact Traced.yields_pure fun compiled member => absurd member List.not_mem_nil
      · exact Traced.yields_pure fun compiled member => absurd member List.not_mem_nil
      · exact Traced.yields_after fun _ => defaults.children origin (child :: rest)

theorem stemsBelow_repeatedParts (defaults : site.DefaultsFaithful)
    (known : site.table.entry? node.type = some entry)
    (faithful : ∀ inner ∈ node.inner, site.Faithful inner) (origin : Origin) :
    (site.repeatedParts origin node (entry.resolve node.attrs node.dependency)).Yields fun parts =>
      ∀ compiled ∈ compiledAll parts, site.table.StemsBelow origin
        (node.ownRepetition.getD (site.table.defaultRepetition node.type)) compiled := by
  unfold repeatedParts ContentNode.ownRepetition
  cases given : node.repetition with
  | some repetition =>
      have inside : repetition.content ∈ node.inner := by
        rw [ContentNode.inner, given]
        exact List.mem_append_left _ (List.mem_append_left _ (List.mem_singleton.mpr rfl))
      apply (stemsBelow_buildRepeated (faithful _ inside) origin).bind
      intro part stems
      apply Traced.yields_pure
      rw [compiledAll, compiledAll, List.append_nil]
      exact stems
  | none =>
      have listed : site.table.defaultRepetition node.type =
          (entry.repetition.map Repetition.placed).getD [] := by
        rw [MappingTable.defaultRepetition, known]
        rfl
      rw [Option.map_none, Option.getD_none, listed]
      simp only [defaultRepetition, ElementMapping.resolve]
      cases entry.repetition with
      | none => exact Traced.yields_pure fun compiled member => absurd member List.not_mem_nil
      | some repetition =>
          apply Traced.yields_after
          intro _
          apply (defaults.repetition origin repetition).bind
          intro part stems
          apply Traced.yields_pure
          rw [compiledAll, compiledAll, List.append_nil]
          exact stems

/-- An element is built from what its node declares, and holds what stems from below. -/
theorem stems_buildNode_of_element (defaults : site.DefaultsFaithful)
    (element : node.isElement = true) (faithful : ∀ inner ∈ node.inner, site.Faithful inner) :
    site.Faithful node := by
  intro origin
  refine ⟨fun parts found compiled member => ?_⟩
  have built : buildNode site origin node = ⟨(buildNode site origin node).notes, .ok parts⟩ := by
    rw [← found]
  rcases buildNode_element_eq_ok element built with
    ⟨entry, innerNotes, inner, repeatedNotes, repeated, known, innerBuilt, repeatedBuilt, _, rfl⟩
  have below : site.table.below node =
      node.ownChildren.getD (site.table.defaultChildren node.type) ++
        node.ownRepetition.getD (site.table.defaultRepetition node.type) := by
    rw [MappingTable.below, if_pos element]
  have holds : (Element.compiled { node.started origin
      (entry.resolve node.attrs node.dependency) with children := inner ++ repeated }) =
      (origin, (node.started origin (entry.resolve node.attrs node.dependency)).attributes) ::
        (compiledAll inner ++ compiledAll repeated) := by
    rw [Element.compiled, node.started_origin, compiledAll_append]
    rfl
  rw [compiledAll, compiledAll, Markup.compiled, holds, List.append_nil] at member
  rcases List.mem_cons.mp member with rfl | inside
  · exact ⟨[], node, .here node, rfl, fun name _ => lookUp?_started known origin name⟩
  · apply MappingTable.StemsBelow.stems
    rw [below]
    rcases List.mem_append.mp inside with inInner | inRepeated
    · have stems := (stemsBelow_innerParts defaults known faithful origin).success inner
        (by rw [innerBuilt])
      exact (stems compiled inInner).mono (List.subset_append_left _ _)
    · have stems := (stemsBelow_repeatedParts defaults known faithful origin).success repeated
        (by rw [repeatedBuilt])
      exact (stems compiled inRepeated).mono (List.subset_append_right _ _)

/-- A node with branches becomes what stems from its branches. -/
theorem stems_buildNode_of_branches (hasBranches : node.isElement = false)
    (faithful : ∀ inner ∈ node.inner, site.Faithful inner) : site.Faithful node := by
  intro origin
  rw [buildNode_of_branches hasBranches]
  have inBranches : ∀ inner ∈ (node.states.getD []).filterMap fun branch => branch.content.node?,
      site.Faithful inner := by
    intro inner member
    apply faithful
    rw [ContentNode.inner]
    exact List.mem_append_left _ (List.mem_append_right _ member)
  have branches := stemsBelow_buildBranches inBranches origin (site.scope.subject node.name) 0
  refine ⟨fun parts found compiled member => ?_⟩
  apply MappingTable.StemsBelow.stems
  rw [MappingTable.below, hasBranches]
  exact branches.success parts found compiled member

end Elements

/-- The induction is on the content below the node; default content is not below it. -/
theorem faithful_of_defaults (defaults : site.DefaultsFaithful) (node : ContentNode) :
    site.Faithful node := by
  induction node using ContentNode.inner_induction with
  | step node inductionHypothesis =>
      cases kind : node.isElement with
      | true => exact stems_buildNode_of_element defaults kind inductionHypothesis
      | false => exact stems_buildNode_of_branches kind inductionHypothesis

end Site

/-- At every depth default content is built to elements with the declared attributes,
as far as it is built at all. -/
theorem MappingTable.defaultsFaithful (table : MappingTable) (scope : Scope) (depth : Nat) :
    (table.siteAt scope depth).DefaultsFaithful := by
  induction depth with
  | zero =>
      constructor <;> intro _ _ <;> constructor <;> intro _ built <;> cases built
  | succ smaller inductionHypothesis =>
      have faithful := Site.faithful_of_defaults inductionHypothesis
      constructor
      · intro origin children
        exact Site.stemsBelow_buildChildList (fun node _ => faithful node) origin 0
      · intro origin repetition
        exact Site.stemsBelow_buildRepeated (faithful repetition.content) origin

/-- Every compiled element of a component has the attributes that a node declares which
is reached at the place of the element. -/
theorem Component.stems_build (component : Component) (table : MappingTable) (number : Nat) :
    (component.build table number).Yields fun parts =>
      ∀ compiled ∈ compiledAll parts, table.Stems ⟨number, []⟩ component.content compiled :=
  Site.faithful_of_defaults (table.defaultsFaithful component.scope table.defaultDepth)
    component.content ⟨number, []⟩

end ComponentCompiler
