import ComponentCompiler.Build.Tree
import ComponentCompiler.Proofs.Markup.Restyle

namespace ComponentCompiler

/-!
# The outline of a tree

The elements of a tree are compiled from nodes, or they only hold others
together.  The latter are the fragments that the builder puts around parts; they
have no origin.  The outline lists all other elements by origin and tag, so
putting a fragment around parts does not change it.
-/

mutual

/-- The elements of a part, each before those in it. -/
def Markup.elements : Markup → List Element
  | .text _ => []
  | .code _ => []
  | .guarded _ body => body.elements
  | .repeated _ body _ _ => body.elements
  | .element element => element.elements

def Element.elements : Element → List Element
  | ⟨own, tag, attributes, children⟩ => ⟨own, tag, attributes, children⟩ :: elementsAll children

def elementsAll : List Markup → List Element
  | [] => []
  | part :: rest => part.elements ++ elementsAll rest

end

/-- Whether an element is a fragment that the builder put around others. -/
def Element.isWrapper (element : Element) : Bool :=
  element.origin.isNone && (element.tag.isEmpty || element.tag = repeatedTag)

/-- The elements of some parts by origin and tag, without wrappers. -/
def outlineAll (parts : List Markup) : List (Option Origin × String) :=
  ((elementsAll parts).filter fun element => !element.isWrapper).map fun element =>
    (element.origin, element.tag)

theorem Element.elements_eq (element : Element) :
    element.elements = element :: elementsAll element.children := by
  cases element
  rfl

theorem elementsAll_append (first second : List Markup) :
    elementsAll (first ++ second) = elementsAll first ++ elementsAll second := by
  induction first with
  | nil => rfl
  | cons part rest inductionHypothesis =>
      rw [List.cons_append, elementsAll, elementsAll, inductionHypothesis, List.append_assoc]

theorem outlineAll_append (first second : List Markup) :
    outlineAll (first ++ second) = outlineAll first ++ outlineAll second := by
  simp only [outlineAll, elementsAll_append, List.filter_append, List.map_append]

/-! ## Wrapping keeps the outline -/

theorem outlineAll_singleton (element : Element) :
    outlineAll [.element element] =
      (if element.isWrapper then [] else [(element.origin, element.tag)]) ++
        outlineAll element.children := by
  simp only [outlineAll, elementsAll, Markup.elements, element.elements_eq, List.append_nil,
    List.filter_cons]
  cases element.isWrapper <;> rfl

theorem outlineAll_guarded (condition : String) (body : Markup) :
    outlineAll [.guarded condition body] = outlineAll [body] := rfl

theorem outlineAll_repeated (source item index : String) (body : Markup) :
    outlineAll [.repeated source body item index] = outlineAll [body] := rfl

theorem outlineAll_ofText (content : String) : outlineAll [Markup.ofText content] = [] := by
  unfold Markup.ofText
  cases Binding.expression? (.text content) <;> rfl

theorem outlineAll_gathered (parts : List Markup) :
    outlineAll [.element (gathered parts)] = outlineAll parts := by
  unfold gathered
  split
  · rfl
  · rw [outlineAll_singleton]
    rfl

theorem outlineAll_repeatedElement (parts : List Markup) (name : String) (value : Value) :
    outlineAll [.element ((repeatedElement parts).setAttribute name value)] = outlineAll parts := by
  have keeps : ∀ element : Element, outlineAll [.element (element.setAttribute name value)] =
      outlineAll [.element element] := by
    intro element
    rw [outlineAll_singleton, outlineAll_singleton]
    rfl
  rw [keeps]
  unfold repeatedElement
  split
  · split
    · rw [outlineAll_singleton]
      rfl
    · rfl
  · rw [outlineAll_singleton]
    rfl

/-! ## Outlines and compiled elements -/

mutual

theorem Markup.compiled_eq : ∀ part : Markup,
    part.compiled = part.elements.filterMap fun element =>
      element.origin.map fun origin => (origin, element.attributes)
  | .text _ => rfl
  | .code _ => rfl
  | .guarded _ body => body.compiled_eq
  | .repeated _ body _ _ => body.compiled_eq
  | .element element => element.compiled_eq

theorem Element.compiled_eq : ∀ element : Element,
    element.compiled = element.elements.filterMap fun element =>
      element.origin.map fun origin => (origin, element.attributes)
  | ⟨own, tag, attributes, children⟩ => by
      simp only [Element.compiled, Element.elements, List.filterMap_cons]
      rw [compiledAll_eq children]
      cases own <;> rfl

theorem compiledAll_eq : ∀ parts : List Markup,
    compiledAll parts = (elementsAll parts).filterMap fun element =>
      element.origin.map fun origin => (origin, element.attributes)
  | [] => rfl
  | part :: rest => by
      simp only [compiledAll, elementsAll, List.filterMap_append]
      rw [part.compiled_eq, compiledAll_eq rest]

end

/-- Wrappers have no origin, so the outline tells the origins of all compiled
elements. -/
theorem compiledAll_origins_eq (parts : List Markup) :
    (compiledAll parts).map Prod.fst = (outlineAll parts).filterMap Prod.fst := by
  rw [compiledAll_eq, List.map_filterMap, outlineAll, List.filterMap_map, List.filterMap_filter]
  congr 1
  funext element
  cases wraps : element.isWrapper with
  | false =>
      simp only [Bool.not_false, if_true, Function.comp_apply, Option.map_map]
      cases element.origin <;> rfl
  | true =>
      have unnamed := (Bool.and_eq_true_iff.mp wraps).1
      rw [Option.isNone_iff_eq_none.mp unnamed]
      rfl

theorem Markup.origins_eq (part : Markup) :
    part.origins = (outlineAll [part]).filterMap Prod.fst := by
  rw [← compiledAll_origins_eq, compiledAll, compiledAll, List.append_nil]
  rfl

end ComponentCompiler
