import ComponentCompiler.Proofs.Build.Element
import ComponentCompiler.Proofs.Content.Walk
import ComponentCompiler.Proofs.Markup.Shape

namespace ComponentCompiler

/-!
# The builder makes well-formed trees

Every part of the builder turns content into well-formed markup as soon as the
nodes in the content are built so.  A node is built from its own content and
from default content; the former is smaller, and the latter is built at a
smaller depth.  No property of the mapping table or of the component is needed.
-/

/-! ## Attributes -/

theorem nodup_withAttributes {element : Element} (attrs : Fields)
    (distinct : (Entries.keys element.attributes).Nodup) :
    (Entries.keys (withAttributes element attrs).attributes).Nodup := by
  unfold withAttributes
  induction attrs generalizing element with
  | nil => exact distinct
  | cons attr rest inductionHypothesis =>
      rw [List.foldl_cons]
      apply inductionHypothesis
      exact Entries.nodup_keys_put distinct

theorem nodup_withHandlers {element : Element} (events : List (String × List Statement))
    (distinct : (Entries.keys element.attributes).Nodup) :
    (Entries.keys (withHandlers element events).attributes).Nodup := by
  unfold withHandlers
  induction events generalizing element with
  | nil => exact distinct
  | cons event rest inductionHypothesis =>
      rw [List.foldl_cons]
      apply inductionHypothesis
      cases handler? event.2 with
      | none => exact distinct
      | some handler => exact Entries.nodup_keys_put distinct

/-- A compiled element is well formed as soon as its content is. -/
theorem ContentNode.wellFormed_started (node : ContentNode) (origin : Origin)
    (resolved : ResolvedElement) {children : List Markup} (wellFormed : AllWellFormed children) :
    Element.WellFormed { node.started origin resolved with children := children } := by
  rw [Element.wellFormed_iff]
  refine ⟨?_, ?_, wellFormed⟩
  · exact nodup_withHandlers _ (nodup_withAttributes _ List.nodup_nil)
  · intro held
    rw [started_origin] at held
    cases held

/-! ## Content -/

namespace Site

/-- A node is built to well-formed parts, wherever it is. -/
def Shapes (site : Site) (node : ContentNode) : Prop :=
  ∀ origin, (buildNode site origin node).Yields AllWellFormed

variable {site : Site}

theorem yields_buildChild {child : Child} (shapes : ∀ node ∈ child.node?, site.Shapes node)
    (origin : Origin) : (buildChild site origin child).Yields AllWellFormed := by
  cases child with
  | node node =>
      rw [buildChild]
      exact shapes node rfl origin
  | text content =>
      rw [buildChild]
      exact Traced.yields_pure ⟨Markup.wellFormed_ofText content, trivial⟩

theorem yields_buildChildList {children : List Child}
    (shapes : ∀ node ∈ children.filterMap Child.node?, site.Shapes node) (origin : Origin)
    (position : Nat) : (buildChildList site origin position children).Yields AllWellFormed := by
  induction children generalizing position with
  | nil =>
      rw [buildChildList]
      exact Traced.yields_pure trivial
  | cons child rest inductionHypothesis =>
      obtain ⟨inChild, inRest⟩ := List.forall_mem_cons.mp (List.forall_mem_filterMap.mp shapes)
      rw [buildChildList]
      apply (yields_buildChild inChild _).bind
      intro parts wellFormed
      apply (inductionHypothesis (List.forall_mem_filterMap.mpr inRest) (position + 1)).bind
      intro others restWellFormed
      exact Traced.yields_pure (allWellFormed_append.mpr ⟨wellFormed, restWellFormed⟩)

/-- A branch is guarded around a single element, whatever its parts are. -/
theorem yields_buildBranch {branch : Branch}
    (shapes : ∀ node ∈ branch.content.node?, site.Shapes node) (origin : Origin)
    (subject : String) : (buildBranch site origin subject branch).Yields Markup.WellFormed := by
  rcases branch with ⟨test, content⟩
  rw [buildBranch]
  apply Traced.yields_after
  intro _
  apply (yields_buildChild shapes origin).bind
  intro parts wellFormed
  exact Traced.yields_pure ⟨⟨_, rfl⟩, wellFormed_gathered wellFormed⟩

theorem yields_buildBranches {branches : List Branch}
    (shapes : ∀ node ∈ branches.filterMap fun branch => branch.content.node?, site.Shapes node)
    (origin : Origin) (subject : String) (position : Nat) :
    (buildBranches site origin subject position branches).Yields AllWellFormed := by
  induction branches generalizing position with
  | nil =>
      rw [buildBranches]
      exact Traced.yields_pure trivial
  | cons branch rest inductionHypothesis =>
      obtain ⟨inBranch, inRest⟩ := List.forall_mem_cons.mp (List.forall_mem_filterMap.mp shapes)
      rw [buildBranches]
      apply (yields_buildBranch inBranch _ _).bind
      intro part wellFormed
      apply (inductionHypothesis (List.forall_mem_filterMap.mpr inRest) (position + 1)).bind
      intro others restWellFormed
      exact Traced.yields_pure ⟨wellFormed, restWellFormed⟩

theorem yields_buildRepeated {repetition : Repetition} (shapes : site.Shapes repetition.content)
    (origin : Origin) : (buildRepeated site origin repetition).Yields Markup.WellFormed := by
  rcases repetition with ⟨content, source, annotation⟩
  rw [buildRepeated]
  apply (shapes _).bind
  intro parts wellFormed
  apply Traced.yields_after
  intro expression
  exact Traced.yields_pure (wellFormed_repeated wellFormed _ _ _)

/-! ## Default content -/

/-- Default content is built to well-formed parts. -/
structure DefaultsShaped (site : Site) : Prop where
  children : ∀ origin children, (site.defaults.children origin children).Yields AllWellFormed
  repetition : ∀ origin repetition,
    (site.defaults.repetition origin repetition).Yields Markup.WellFormed

theorem yields_innerParts (defaults : site.DefaultsShaped) {node : ContentNode}
    (shapes : ∀ inner ∈ node.inner, site.Shapes inner) (origin : Origin)
    (resolved : ResolvedElement) :
    (site.innerParts origin node resolved).Yields AllWellFormed := by
  unfold innerParts
  split
  · rename_i children given
    apply yields_buildChildList
    intro inner member
    apply shapes
    rw [ContentNode.inner, given]
    exact List.mem_append_right _ member
  · unfold defaultChildren
    split
    · exact Traced.yields_pure trivial
    · exact Traced.yields_after fun _ => defaults.children origin _

theorem yields_repeatedParts (defaults : site.DefaultsShaped) {node : ContentNode}
    (shapes : ∀ inner ∈ node.inner, site.Shapes inner) (origin : Origin)
    (resolved : ResolvedElement) :
    (site.repeatedParts origin node resolved).Yields AllWellFormed := by
  unfold repeatedParts
  split
  · rename_i repetition given
    have inside : repetition.content ∈ node.inner := by
      rw [ContentNode.inner, given]
      exact List.mem_append_left _ (List.mem_append_left _ (List.mem_singleton.mpr rfl))
    apply (yields_buildRepeated (shapes _ inside) origin).bind
    intro part wellFormed
    exact Traced.yields_pure ⟨wellFormed, trivial⟩
  · unfold defaultRepetition
    split
    · exact Traced.yields_pure trivial
    · apply Traced.yields_after
      intro _
      apply (defaults.repetition origin _).bind
      intro part wellFormed
      exact Traced.yields_pure ⟨wellFormed, trivial⟩

/-! ## Nodes -/

theorem yields_buildNode_of_element (defaults : site.DefaultsShaped) {node : ContentNode}
    (element : node.isElement = true) (shapes : ∀ inner ∈ node.inner, site.Shapes inner) :
    site.Shapes node := by
  intro origin
  rw [buildNode_of_element element]
  apply Traced.yields_after
  intro resolved
  apply Traced.yields_after
  intro _
  apply Traced.yields_after
  intro _
  apply (yields_innerParts defaults shapes origin resolved).bind
  intro inner innerWellFormed
  apply (yields_repeatedParts defaults shapes origin resolved).bind
  intro repeated repeatedWellFormed
  apply Traced.yields_after
  intro _
  have content := allWellFormed_append.mpr ⟨innerWellFormed, repeatedWellFormed⟩
  exact Traced.yields_pure ⟨node.wellFormed_started origin resolved content, trivial⟩

/-- The induction is on the content below the node; default content is not below it. -/
theorem shapes_of_defaults (defaults : site.DefaultsShaped) (node : ContentNode) :
    site.Shapes node := by
  induction node using ContentNode.inner_induction with
  | step node inductionHypothesis =>
      cases kind : node.isElement with
      | true => exact yields_buildNode_of_element defaults kind inductionHypothesis
      | false =>
          intro origin
          rw [buildNode_of_branches kind]
          apply yields_buildBranches
          intro inner member
          apply inductionHypothesis
          rw [ContentNode.inner]
          exact List.mem_append_left _ (List.mem_append_right _ member)

end Site

/-- At every depth default content is built to well-formed parts, as far as it is
built at all. -/
theorem MappingTable.defaultsShaped (table : MappingTable) (scope : Scope) (depth : Nat) :
    (table.siteAt scope depth).DefaultsShaped := by
  induction depth with
  | zero =>
      constructor <;> intro _ _ <;> constructor <;> intro _ built <;> cases built
  | succ smaller inductionHypothesis =>
      have shapes := Site.shapes_of_defaults inductionHypothesis
      constructor
      · intro origin children
        exact Site.yields_buildChildList (fun node _ => shapes node) origin 0
      · intro origin repetition
        exact Site.yields_buildRepeated (shapes repetition.content) origin

/-- The parts of every component are well formed. -/
theorem Component.yields_build (component : Component) (table : MappingTable) (number : Nat) :
    (component.build table number).Yields AllWellFormed :=
  Site.shapes_of_defaults (table.defaultsShaped component.scope table.defaultDepth)
    component.content ⟨number, []⟩

end ComponentCompiler
