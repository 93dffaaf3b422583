import ComponentCompiler.Markup.Render
import ComponentCompiler.Proofs.Entries
import ComponentCompiler.Proofs.Markup.Restyle

namespace ComponentCompiler

/-!
# Trees without their styles

Styles are in two attributes, the inline style and the class.  A tree without
them is what the style passes have in common: an edit that only writes these two
attributes does not show there.
-/

/-- The attributes that are not a style. -/
def plainAttributes (attributes : Fields) : Fields :=
  attributes.filter fun field => field.1 ≠ "style" && field.1 ≠ "className"

mutual

/-- A part without the styles of its elements. -/
def Markup.unstyled : Markup → Markup
  | .text content => .text content
  | .code expression => .code expression
  | .guarded condition body => .guarded condition body.unstyled
  | .repeated source body item index => .repeated source body.unstyled item index
  | .element element => .element element.unstyled

def Element.unstyled : Element → Element
  | ⟨own, tag, attributes, children⟩ => ⟨own, tag, plainAttributes attributes, unstyledAll children⟩

def unstyledAll : List Markup → List Markup
  | [] => []
  | part :: rest => part.unstyled :: unstyledAll rest

end

/-- A component without the styles of its elements. -/
def ComponentFunction.unstyled (function : ComponentFunction) : ComponentFunction :=
  { function with root := function.root.unstyled }

/-- An edit that only touches styles. -/
def Edit.StylesOnly (edit : Edit) : Prop :=
  ∀ origin attributes, plainAttributes (edit origin attributes) = plainAttributes attributes

theorem plainAttributes_put {name : String} (style : name = "style" ∨ name = "className")
    (attributes : Fields) (value : Value) :
    plainAttributes (Entries.put attributes name value) = plainAttributes attributes := by
  have dropped : ∀ other : Value, plainAttributes [(name, other)] = [] := by
    intro other
    rcases style with rfl | rfl <;> rfl
  induction attributes with
  | nil => exact dropped value
  | cons field rest inductionHypothesis =>
      rcases field with ⟨known, old⟩
      have apart : ∀ (first : String × Value) (others : Fields),
          plainAttributes (first :: others) = plainAttributes [first] ++ plainAttributes others :=
        fun first others => List.filter_append [first] others
      rw [Entries.put]
      by_cases same : known = name
      · rw [if_pos same, apart (known, value), apart (known, old) rest, same, dropped, dropped]
      · rw [if_neg same, apart (known, old) rest, apart (known, old), inductionHypothesis]

mutual

theorem Markup.unstyled_restyle {edit : Edit} (stylesOnly : edit.StylesOnly) :
    ∀ part : Markup, (part.restyle edit).unstyled = part.unstyled
  | .text _ => rfl
  | .code _ => rfl
  | .guarded condition body => by
      simp only [Markup.restyle, Markup.unstyled]
      rw [body.unstyled_restyle stylesOnly]
  | .repeated source body item index => by
      simp only [Markup.restyle, Markup.unstyled]
      rw [body.unstyled_restyle stylesOnly]
  | .element element => by
      simp only [Markup.restyle, Markup.unstyled]
      rw [element.unstyled_restyle stylesOnly]

theorem Element.unstyled_restyle {edit : Edit} (stylesOnly : edit.StylesOnly) :
    ∀ element : Element, (element.restyle edit).unstyled = element.unstyled
  | ⟨own, tag, attributes, children⟩ => by
      simp only [Element.restyle, Element.unstyled]
      rw [unstyledAll_restyleAll stylesOnly children]
      cases own with
      | none => rfl
      | some origin =>
          simp only [Edit.apply]
          rw [stylesOnly origin attributes]

theorem unstyledAll_restyleAll {edit : Edit} (stylesOnly : edit.StylesOnly) :
    ∀ parts : List Markup, unstyledAll (restyleAll edit parts) = unstyledAll parts
  | [] => rfl
  | part :: rest => by
      simp only [restyleAll, unstyledAll]
      rw [part.unstyled_restyle stylesOnly, unstyledAll_restyleAll stylesOnly rest]

end

/-! ## Restyled attributes -/

/-- Attributes that are the same up to styles, and have distinct names when those
before had. -/
def Restyled (before after : Fields) : Prop :=
  plainAttributes after = plainAttributes before ∧
    ((Entries.keys before).Nodup → (Entries.keys after).Nodup)

theorem Restyled.refl (attributes : Fields) : Restyled attributes attributes :=
  ⟨rfl, id⟩

theorem Restyled.trans {first second third : Fields} (early : Restyled first second)
    (late : Restyled second third) : Restyled first third :=
  ⟨late.1.trans early.1, fun distinct => late.2 (early.2 distinct)⟩

theorem Restyled.put {name : String} (style : name = "style" ∨ name = "className")
    (attributes : Fields) (value : Value) :
    Restyled attributes (Entries.put attributes name value) :=
  ⟨plainAttributes_put style attributes value, Entries.nodup_keys_put⟩

/-- An edit after which all attributes are restyled. -/
def Edit.Restyles (edit : Edit) : Prop :=
  ∀ origin attributes, Restyled attributes (edit origin attributes)

theorem Edit.Restyles.stylesOnly {edit : Edit} (restyles : edit.Restyles) : edit.StylesOnly :=
  fun origin attributes => (restyles origin attributes).1

end ComponentCompiler
