import ComponentCompiler.Build.Tree
import ComponentCompiler.Proofs.Entries
import ComponentCompiler.Proofs.Markup.Unstyled

namespace ComponentCompiler

/-!
# Well-formed trees

What is guarded or repeated is a single element, and a repeated element has a
tag and is told apart by its index.  No element has two attributes of one name.
The fragments that only hold parts together have no attributes at all.

The builder makes such trees from such parts.  An edit of the attributes keeps
the shape when it writes styles only and no name twice.
-/

/-- An element that can be repeated: it has a tag, and its one key is its index. -/
structure Element.Keyed (element : Element) : Prop where
  tagged : element.tag ≠ ""
  key : element.attributes.filter (fun field => field.1 = "key") = [("key", .code "index")]

mutual

/-- Guards and repetitions in a part are around elements that fit them, and the
elements have attributes that fit them. -/
def Markup.WellFormed : Markup → Prop
  | .text _ => True
  | .code _ => True
  | .guarded _ body => (∃ element, body = .element element) ∧ body.WellFormed
  | .repeated _ body _ _ =>
    (∃ element, body = .element element ∧ element.Keyed) ∧ body.WellFormed
  | .element element => element.WellFormed

def Element.WellFormed : Element → Prop
  | ⟨own, tag, attributes, children⟩ =>
    (Entries.keys attributes).Nodup ∧ (own = none → tag = "" → attributes = []) ∧
      AllWellFormed children

def AllWellFormed : List Markup → Prop
  | [] => True
  | part :: rest => part.WellFormed ∧ AllWellFormed rest

end

theorem Element.wellFormed_iff (element : Element) :
    element.WellFormed ↔ (Entries.keys element.attributes).Nodup ∧
      (element.origin = none → element.tag = "" → element.attributes = []) ∧
      AllWellFormed element.children := by
  cases element
  rfl

theorem allWellFormed_append {first second : List Markup} :
    AllWellFormed (first ++ second) ↔ AllWellFormed first ∧ AllWellFormed second := by
  induction first with
  | nil => simp only [List.nil_append, AllWellFormed, true_and]
  | cons part rest inductionHypothesis =>
      simp only [List.cons_append, AllWellFormed, inductionHypothesis, and_assoc]

/-! ## Building -/

theorem Markup.wellFormed_ofText (content : String) : (Markup.ofText content).WellFormed := by
  unfold Markup.ofText
  cases Binding.expression? (.text content) <;> trivial

/-- An element that only holds parts together. -/
theorem Element.wellFormed_holding {tag : String} {parts : List Markup}
    (wellFormed : AllWellFormed parts) : Element.WellFormed ⟨none, tag, [], parts⟩ :=
  ⟨List.nodup_nil, fun _ _ => rfl, wellFormed⟩

theorem wellFormed_gathered {parts : List Markup} (wellFormed : AllWellFormed parts) :
    (gathered parts).WellFormed := by
  unfold gathered
  split
  · exact wellFormed.1
  · exact Element.wellFormed_holding wellFormed

theorem repeatedElement_tagged (parts : List Markup) : (repeatedElement parts).tag ≠ "" := by
  have named : repeatedTag ≠ "" := by decide
  unfold repeatedElement
  split
  · rename_i element
    split
    · exact named
    · rename_i tagged
      intro empty
      rw [empty] at tagged
      exact tagged rfl
  · exact named

theorem wellFormed_repeatedElement {parts : List Markup} (wellFormed : AllWellFormed parts) :
    (repeatedElement parts).WellFormed := by
  unfold repeatedElement
  split
  · split
    · exact Element.wellFormed_holding wellFormed
    · exact wellFormed.1
  · exact Element.wellFormed_holding wellFormed

/-- An element with a tag stays well formed whatever attribute is set. -/
theorem Element.WellFormed.setAttribute {element : Element} (wellFormed : element.WellFormed)
    (tagged : element.tag ≠ "") (name : String) (value : Value) :
    (element.setAttribute name value).WellFormed := by
  rw [Element.wellFormed_iff] at wellFormed ⊢
  rcases wellFormed with ⟨distinct, _, children⟩
  exact ⟨Entries.nodup_keys_put distinct, fun _ empty => absurd empty tagged, children⟩

/-- The part that the builder repeats.  A key that the element had before gives way. -/
theorem wellFormed_repeated {parts : List Markup} (wellFormed : AllWellFormed parts)
    (source item index : String) :
    (Markup.repeated source
      (.element ((repeatedElement parts).setAttribute "key" (.code "index"))) item
      index).WellFormed := by
  have tagged := repeatedElement_tagged parts
  have whole := wellFormed_repeatedElement wellFormed
  have distinct := ((repeatedElement parts).wellFormed_iff.mp whole).1
  refine ⟨⟨_, rfl, tagged, ?_⟩, whole.setAttribute tagged "key" (.code "index")⟩
  exact Entries.filter_put_self distinct

/-! ## Edits -/

/-- The key is no style. -/
theorem Restyled.filter_key {before after : Fields} (restyled : Restyled before after) :
    after.filter (fun field => field.1 = "key") = before.filter (fun field => field.1 = "key") := by
  have plain : ∀ attributes : Fields, (plainAttributes attributes).filter
      (fun field => field.1 = "key") = attributes.filter (fun field => field.1 = "key") := by
    intro attributes
    unfold plainAttributes
    rw [List.filter_filter]
    congr 1
    funext field
    by_cases key : field.1 = "key"
    · rw [key]
      rfl
    · simp only [key, decide_false, Bool.false_and]
  rw [← plain after, restyled.1, plain before]

theorem Edit.Restyles.apply {edit : Edit} (restyles : edit.Restyles) (origin : Option Origin)
    (attributes : Fields) : Restyled attributes (edit.apply origin attributes) := by
  cases origin with
  | none => exact Restyled.refl attributes
  | some origin => exact restyles origin attributes

theorem Element.Keyed.restyle {edit : Edit} (restyles : edit.Restyles) {element : Element}
    (keyed : element.Keyed) : (element.restyle edit).Keyed := by
  rcases element with ⟨own, tag, attributes, children⟩
  refine ⟨keyed.tagged, ?_⟩
  rw [← keyed.key]
  exact (restyles.apply own attributes).filter_key

mutual

theorem Markup.wellFormed_restyle {edit : Edit} (restyles : edit.Restyles) :
    ∀ part : Markup, part.WellFormed → (part.restyle edit).WellFormed
  | .text _, _ => trivial
  | .code _, _ => trivial
  | .guarded _ body, ⟨⟨element, isElement⟩, wellFormed⟩ =>
      ⟨⟨element.restyle edit, by rw [isElement, Markup.restyle]⟩,
        body.wellFormed_restyle restyles wellFormed⟩
  | .repeated _ body _ _, ⟨⟨element, isElement, keyed⟩, wellFormed⟩ =>
      ⟨⟨element.restyle edit, by rw [isElement, Markup.restyle], keyed.restyle restyles⟩,
        body.wellFormed_restyle restyles wellFormed⟩
  | .element element, wellFormed => element.wellFormed_restyle restyles wellFormed

theorem Element.wellFormed_restyle {edit : Edit} (restyles : edit.Restyles) :
    ∀ element : Element, element.WellFormed → (element.restyle edit).WellFormed
  | ⟨own, tag, attributes, children⟩, ⟨distinct, bare, wellFormed⟩ => by
      refine ⟨(restyles.apply own attributes).2 distinct, ?_,
        allWellFormed_restyleAll restyles children wellFormed⟩
      -- without an origin nothing is edited
      intro held empty
      rw [held]
      exact bare held empty

theorem allWellFormed_restyleAll {edit : Edit} (restyles : edit.Restyles) :
    ∀ parts : List Markup, AllWellFormed parts → AllWellFormed (restyleAll edit parts)
  | [], _ => trivial
  | part :: rest, ⟨wellFormed, restWellFormed⟩ =>
      ⟨part.wellFormed_restyle restyles wellFormed,
        allWellFormed_restyleAll restyles rest restWellFormed⟩

end
end ComponentCompiler
