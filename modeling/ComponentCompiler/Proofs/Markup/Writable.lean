import ComponentCompiler.Markup.Render
import ComponentCompiler.Proofs.Entries
import ComponentCompiler.Proofs.Markup.Restyle
import ComponentCompiler.Proofs.Script.Literal

namespace ComponentCompiler

open Script

/-!
# Markup that can be written

Only the values of attributes can keep markup from being written.  Markup whose
attributes all have literals has a text at every level, and editing attributes
keeps this as long as the edited attributes have literals.
-/

/-- All attributes have literals. -/
def AllLiteral (attributes : Fields) : Prop :=
  ∀ field ∈ attributes, field.2.HasLiteral

mutual

/-- All attributes in a part have literals. -/
def Markup.Writable : Markup → Prop
  | .text _ => True
  | .code _ => True
  | .guarded _ body => body.Writable
  | .repeated _ body _ _ => body.Writable
  | .element element => element.Writable

def Element.Writable : Element → Prop
  | ⟨_, _, attributes, children⟩ => AllLiteral attributes ∧ AllWritable children

def AllWritable : List Markup → Prop
  | [] => True
  | part :: rest => part.Writable ∧ AllWritable rest

end

theorem allWritable_append {first second : List Markup} :
    AllWritable (first ++ second) ↔ AllWritable first ∧ AllWritable second := by
  induction first with
  | nil => simp only [List.nil_append, AllWritable, true_and]
  | cons part rest inductionHypothesis =>
      simp only [List.cons_append, AllWritable, inductionHypothesis, and_assoc]

theorem AllLiteral.put {attributes : Fields} {name : String} {value : Value}
    (literals : AllLiteral attributes) (literal : value.HasLiteral) :
    AllLiteral (Entries.put attributes name value) := by
  intro field member
  rcases Entries.mem_or_eq_of_mem_put member with before | written
  · exact literals field before
  · exact written ▸ literal

/-! ## Texts -/

theorem exists_renderAttributes {attributes : Fields} (literals : AllLiteral attributes) :
    ∃ text, renderAttributes attributes = .ok text := by
  induction attributes with
  | nil => exact ⟨"", rfl⟩
  | cons field rest inductionHypothesis =>
      rcases field with ⟨name, value⟩
      rcases List.forall_mem_cons.mp literals with ⟨⟨code, written⟩, restLiterals⟩
      rcases inductionHypothesis restLiterals with ⟨others, later⟩
      have here : ∃ text, renderAttribute name value = .ok text := by
        unfold renderAttribute
        split
        · exact ⟨name, rfl⟩
        · split <;> exact ⟨_, rfl⟩
        · exact ⟨_, bind_eq_ok_iff.mpr ⟨code, written, rfl⟩⟩
      rcases here with ⟨text, first⟩
      rw [renderAttributes, first, later]
      exact ⟨_, rfl⟩

mutual

theorem Markup.exists_render :
    ∀ part : Markup, part.Writable → ∀ level, ∃ text, part.render level = .ok text
  | .text content, _, _ => ⟨renderText content, by rw [Markup.render]⟩
  | .code expression, _, _ => ⟨braced expression, by rw [Markup.render]⟩
  | .guarded condition body, writable, level => by
      rcases body.exists_render writable (level + 1) with ⟨inner, written⟩
      rw [Markup.render, written]
      exact ⟨_, rfl⟩
  | .repeated source body item index, writable, level => by
      rcases body.exists_render writable (level + 1) with ⟨inner, written⟩
      rw [Markup.render, written]
      exact ⟨_, rfl⟩
  | .element element, writable, level => by
      rcases element.exists_render writable level with ⟨text, written⟩
      rw [Markup.render]
      exact ⟨text, written⟩

theorem Element.exists_render :
    ∀ element : Element, element.Writable → ∀ level, ∃ text, element.render level = .ok text
  | ⟨_, tag, attributes, children⟩, ⟨literals, childrenWritable⟩, level => by
      rcases exists_renderAttributes literals with ⟨attributeText, written⟩
      rcases exists_renderChildren children childrenWritable level with ⟨lines, childrenWritten⟩
      rw [Element.render, written, childrenWritten]
      cases children <;> exact ⟨_, rfl⟩

theorem exists_renderChildren :
    ∀ parts : List Markup, AllWritable parts → ∀ level,
      ∃ lines, renderChildren level parts = .ok lines
  | [], _, _ => ⟨[], by rw [renderChildren]⟩
  | part :: rest, ⟨writable, restWritable⟩, level => by
      rcases part.exists_render writable (level + 1) with ⟨text, written⟩
      rcases exists_renderChildren rest restWritable level with ⟨lines, restWritten⟩
      rw [renderChildren, written, restWritten]
      exact ⟨_, rfl⟩

end

/-! ## Edits -/

/-- An edit that keeps literals. -/
def Edit.KeepsLiterals (edit : Edit) : Prop :=
  ∀ origin attributes, AllLiteral attributes → AllLiteral (edit origin attributes)

mutual

theorem Markup.writable_restyle {edit : Edit} (keeps : edit.KeepsLiterals) :
    ∀ part : Markup, part.Writable → (part.restyle edit).Writable
  | .text _, _ => trivial
  | .code _, _ => trivial
  | .guarded _ body, writable => body.writable_restyle keeps writable
  | .repeated _ body _ _, writable => body.writable_restyle keeps writable
  | .element element, writable => element.writable_restyle keeps writable

theorem Element.writable_restyle {edit : Edit} (keeps : edit.KeepsLiterals) :
    ∀ element : Element, element.Writable → (element.restyle edit).Writable
  | ⟨own, tag, attributes, children⟩, ⟨literals, childrenWritable⟩ => by
      refine ⟨?_, allWritable_restyleAll keeps children childrenWritable⟩
      cases own with
      | none => exact literals
      | some origin => exact keeps origin attributes literals

theorem allWritable_restyleAll {edit : Edit} (keeps : edit.KeepsLiterals) :
    ∀ parts : List Markup, AllWritable parts → AllWritable (restyleAll edit parts)
  | [], _ => trivial
  | part :: rest, ⟨writable, restWritable⟩ =>
      ⟨part.writable_restyle keeps writable, allWritable_restyleAll keeps rest restWritable⟩

end
end ComponentCompiler
