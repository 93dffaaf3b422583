import ComponentCompiler.Markup.Basic

namespace ComponentCompiler

/-!
# Editing the attributes of compiled elements

The elements made from content nodes remember their origin; the elements that
only hold others together have none.  A tree is restyled by an edit that says,
for each origin, what becomes of the attributes of the elements from there.
Everything else of the tree stays.

The style passes change one origin at a time.  Every such change is an edit, and
edits one after another are one edit.
-/

/-- What becomes of the attributes of an element, by its origin. -/
abbrev Edit := Origin → Fields → Fields

def Edit.none : Edit := fun _ attributes => attributes

def Edit.single (origin : Origin) (change : Fields → Fields) : Edit := fun other attributes =>
  if other = origin then change attributes else attributes

def Edit.andThen (first second : Edit) : Edit := fun origin attributes =>
  second origin (first origin attributes)

/-- The attributes of an element with or without an origin. -/
def Edit.apply (edit : Edit) (origin : Option Origin) (attributes : Fields) : Fields :=
  match origin with
  | some origin => edit origin attributes
  | Option.none => attributes

mutual

/-- Edit the attributes in a part. -/
def Markup.restyle (edit : Edit) : Markup → Markup
  | .text content => .text content
  | .code expression => .code expression
  | .guarded condition body => .guarded condition (body.restyle edit)
  | .repeated source body item index => .repeated source (body.restyle edit) item index
  | .element element => .element (element.restyle edit)

def Element.restyle (edit : Edit) : Element → Element
  | ⟨own, tag, attributes, children⟩ =>
    ⟨own, tag, edit.apply own attributes, restyleAll edit children⟩

def restyleAll (edit : Edit) : List Markup → List Markup
  | [] => []
  | part :: rest => part.restyle edit :: restyleAll edit rest

end

mutual

/-- The origins of the compiled elements of a part with their attributes, each
element before those in it. -/
def Markup.compiled : Markup → List (Origin × Fields)
  | .text _ => []
  | .code _ => []
  | .guarded _ body => body.compiled
  | .repeated _ body _ _ => body.compiled
  | .element element => element.compiled

def Element.compiled : Element → List (Origin × Fields)
  | ⟨own, _, attributes, children⟩ =>
    (own.map fun origin => (origin, attributes)).toList ++ compiledAll children

def compiledAll : List Markup → List (Origin × Fields)
  | [] => []
  | part :: rest => part.compiled ++ compiledAll rest

end

/-- The origins of the compiled elements of a part. -/
def Markup.origins (part : Markup) : List Origin :=
  part.compiled.map Prod.fst

/-! ## Edits one after another -/

theorem Edit.apply_andThen (first second : Edit) (origin : Option Origin) (attributes : Fields) :
    second.apply origin (first.apply origin attributes) =
      (first.andThen second).apply origin attributes := by
  cases origin <;> rfl

mutual

theorem Markup.restyle_restyle (first second : Edit) :
    ∀ part : Markup, (part.restyle first).restyle second = part.restyle (first.andThen second)
  | .text _ => rfl
  | .code _ => rfl
  | .guarded condition body => by
      simp only [Markup.restyle]
      rw [body.restyle_restyle first second]
  | .repeated source body item index => by
      simp only [Markup.restyle]
      rw [body.restyle_restyle first second]
  | .element element => by
      simp only [Markup.restyle]
      rw [element.restyle_restyle first second]

theorem Element.restyle_restyle (first second : Edit) :
    ∀ element : Element,
      (element.restyle first).restyle second = element.restyle (first.andThen second)
  | ⟨own, tag, attributes, children⟩ => by
      simp only [Element.restyle]
      rw [Edit.apply_andThen, restyleAll_restyleAll first second children]

theorem restyleAll_restyleAll (first second : Edit) :
    ∀ parts : List Markup,
      restyleAll second (restyleAll first parts) = restyleAll (first.andThen second) parts
  | [] => rfl
  | part :: rest => by
      simp only [restyleAll]
      rw [part.restyle_restyle first second, restyleAll_restyleAll first second rest]

end

/-! ## What an edit does to the compiled elements -/

mutual

theorem Markup.compiled_restyle (edit : Edit) :
    ∀ part : Markup, (part.restyle edit).compiled =
      part.compiled.map fun element => (element.1, edit element.1 element.2)
  | .text _ => rfl
  | .code _ => rfl
  | .guarded _ body => body.compiled_restyle edit
  | .repeated _ body _ _ => body.compiled_restyle edit
  | .element element => element.compiled_restyle edit

theorem Element.compiled_restyle (edit : Edit) :
    ∀ element : Element, (element.restyle edit).compiled =
      element.compiled.map fun element => (element.1, edit element.1 element.2)
  | ⟨own, tag, attributes, children⟩ => by
      simp only [Element.restyle, Element.compiled, List.map_append]
      rw [compiledAll_restyleAll edit children]
      cases own <;> rfl

theorem compiledAll_restyleAll (edit : Edit) :
    ∀ parts : List Markup, compiledAll (restyleAll edit parts) =
      (compiledAll parts).map fun element => (element.1, edit element.1 element.2)
  | [] => rfl
  | part :: rest => by
      simp only [restyleAll, compiledAll, List.map_append]
      rw [part.compiled_restyle edit, compiledAll_restyleAll edit rest]

end

mutual

theorem Markup.restyle_none : ∀ part : Markup, part.restyle Edit.none = part
  | .text _ => rfl
  | .code _ => rfl
  | .guarded condition body => by
      simp only [Markup.restyle]
      rw [body.restyle_none]
  | .repeated source body item index => by
      simp only [Markup.restyle]
      rw [body.restyle_none]
  | .element element => by
      simp only [Markup.restyle]
      rw [element.restyle_none]

theorem Element.restyle_none : ∀ element : Element, element.restyle Edit.none = element
  | ⟨own, tag, attributes, children⟩ => by
      simp only [Element.restyle]
      rw [restyleAll_none children]
      cases own <;> rfl

theorem restyleAll_none : ∀ parts : List Markup, restyleAll Edit.none parts = parts
  | [] => rfl
  | part :: rest => by
      simp only [restyleAll]
      rw [part.restyle_none, restyleAll_none rest]

end

/-! ## Changing the elements of one origin -/

/-- A change of elements that only edits their attributes. -/
def EditsAttributes (change : Element → Element) (edit : Fields → Fields) : Prop :=
  ∀ element, change element = { element with attributes := edit element.attributes }

mutual

theorem Markup.changeAt_eq_restyle {change : Element → Element} {edit : Fields → Fields}
    (edits : EditsAttributes change edit) (origin : Origin) :
    ∀ part : Markup, part.changeAt origin change = part.restyle (Edit.single origin edit)
  | .text _ => rfl
  | .code _ => rfl
  | .guarded condition body => by
      simp only [Markup.changeAt, Markup.restyle]
      rw [body.changeAt_eq_restyle edits origin]
  | .repeated source body item index => by
      simp only [Markup.changeAt, Markup.restyle]
      rw [body.changeAt_eq_restyle edits origin]
  | .element element => by
      simp only [Markup.changeAt, Markup.restyle]
      rw [element.changeAt_eq_restyle edits origin]

theorem Element.changeAt_eq_restyle {change : Element → Element} {edit : Fields → Fields}
    (edits : EditsAttributes change edit) (origin : Origin) :
    ∀ element : Element, element.changeAt origin change = element.restyle (Edit.single origin edit)
  | ⟨own, tag, attributes, children⟩ => by
      simp only [Element.changeAt, Element.restyle]
      rw [changeAllAt_eq_restyleAll edits origin children]
      by_cases here : own = some origin
      · subst here
        rw [if_pos rfl, edits]
        simp only [Edit.apply, Edit.single, if_true]
      · rw [if_neg here]
        cases own with
        | none => rfl
        | some other =>
            have different : ¬ other = origin := fun same => here (congrArg some same)
            simp only [Edit.apply, Edit.single, if_neg different]

theorem changeAllAt_eq_restyleAll {change : Element → Element} {edit : Fields → Fields}
    (edits : EditsAttributes change edit) (origin : Origin) :
    ∀ parts : List Markup,
      changeAllAt origin change parts = restyleAll (Edit.single origin edit) parts
  | [] => rfl
  | part :: rest => by
      simp only [changeAllAt, restyleAll]
      rw [part.changeAt_eq_restyle edits origin, changeAllAt_eq_restyleAll edits origin rest]

end
end ComponentCompiler
