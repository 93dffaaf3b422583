import ComponentCompiler.Build.Tree
import ComponentCompiler.Proofs.Entries
import ComponentCompiler.Proofs.Script.Path
import Mathlib.Data.List.Basic

namespace ComponentCompiler

open Script

/-!
# What bindings compile to

A binding can stand in an attribute, as text below an element, as the subject or
an operand of a condition, as an argument or the new value of a state, and as the
source of repeated content.  All these places ask for one expression, so what a
binding compiles to is settled by that expression.

The path of an input becomes a chain of accesses, from which the path is read back.
The path of the current item is written behind a dot as it is, and this is a chain of
accesses only when all its segments are identifiers.
-/

namespace Binding

/-- A value has a marker in front of a text when it is the marker and the text. -/
theorem afterMarker?_eq_some_iff {marker name : String} {value : Value} :
    afterMarker? marker value = some name ↔ value = .text (marker ++ name) ∧ name ≠ "" := by
  unfold afterMarker?
  constructor
  · intro bound
    split at bound
    · rename_i content
      split at bound
      · rename_i first rest found
        cases bound
        have whole := List.isPrefixOf?_eq_some_iff_append_eq.mp found
        refine ⟨congrArg Value.text (String.toList_inj.mp ?_), fun empty => ?_⟩
        · rw [String.toList_append, ← whole]
          exact congrArg (marker.toList ++ ·) String.toList_ofList.symm
        · have characters := congrArg String.toList empty
          rw [String.toList_ofList] at characters
          cases characters
      · cases bound
    · cases bound
  · rintro ⟨rfl, nonempty⟩
    have found : List.isPrefixOf? marker.toList (marker ++ name).toList = some name.toList :=
      List.isPrefixOf?_eq_some_iff_append_eq.mpr (String.toList_append ..).symm
    simp only [found]
    cases characters : name.toList with
    | nil => exact absurd (String.toList_inj.mp characters) nonempty
    | cons first rest =>
        simp only [Option.some.injEq]
        rw [← characters, String.ofList_toList]

theorem afterMarker?_eq_none {marker text : String} (apart : ∀ name, text ≠ marker ++ name) :
    afterMarker? marker (.text text) = none := by
  cases bound : afterMarker? marker (.text text) with
  | none => rfl
  | some name =>
      have whole := (afterMarker?_eq_some_iff.mp bound).1
      exact absurd (Value.text.inj whole) (apart name)

theorem expression?_prop {path : String} (written : path ≠ "") :
    expression? (.text ("$props." ++ path)) = some (memberPath "props" path) := by
  have bound : prop? (.text ("$props." ++ path)) = some path :=
    afterMarker?_eq_some_iff.mpr ⟨rfl, written⟩
  rw [expression?, bound]

theorem item?_path {path : String} (written : path ≠ "") :
    item? (.text ("$item." ++ path)) = some ("item." ++ path) := by
  have bound : afterMarker? "$item." (.text ("$item." ++ path)) = some path :=
    afterMarker?_eq_some_iff.mpr ⟨rfl, written⟩
  unfold item?
  split
  · rename_i same
    have lengths := congrArg String.length (Value.text.inj same)
    rw [String.length_append] at lengths
    have markers : "$item.".length = 6 ∧ "$item".length = 5 := by decide
    omega
  · rw [bound]
    rfl

theorem expression?_item {path : String} (written : path ≠ "") :
    expression? (.text ("$item." ++ path)) = some ("item." ++ path) := by
  -- the second character tells the three markers apart
  have apart : ∀ {marker : String} {second : Char} {others : List Char},
      marker.toList = '$' :: second :: others → second ≠ 'i' →
        afterMarker? marker (.text ("$item." ++ path)) = none := by
    intro marker second others spelled different
    refine afterMarker?_eq_none fun name same => ?_
    have characters := congrArg String.toList same
    rw [String.toList_append, String.toList_append, spelled] at characters
    exact different (List.cons.inj (List.cons.inj characters).2).1.symm
  have noProp : prop? (.text ("$item." ++ path)) = none := apart rfl (by decide)
  have noState : state? (.text ("$item." ++ path)) = none := apart rfl (by decide)
  rw [expression?, noProp, noState]
  exact item?_path written

end Binding

/-! ## The places of a binding -/

/-- Wherever the text can stand as a binding, it is compiled to the expression. -/
structure CompiledTo (text expression : String) : Prop where
  /-- The last attribute of a name counts. -/
  inAttribute : ∀ (element : Element) (attrs : Fields) (name : String),
    Entries.lookUp? attrs.reverse name = some (.text text) →
      (withAttributes element attrs).attribute? name = some (.code expression)
  asChild : ∀ (site : Site) (origin : Origin),
    buildChild site origin (.text text) = pure [.code expression]
  asSubject : ∀ scope : Scope, scope.subject text = expression
  asOperand : ∀ operation ∈ comparisons, ∀ subject : String,
    Condition.test ⟨operation, some (.text text)⟩ subject =
      subject ++ " " ++ operation ++ " " ++ expression
  asArgument : ∀ (statement : Statement) (earlier later : List Scalar),
    statement.args = some (earlier ++ .text text :: later) →
      statement.arguments = Text.joinWith ", "
        (earlier.map Scalar.expression ++ expression :: later.map Scalar.expression)
  asNewState : ∀ state : String,
    Statement.stateChange state (some (.text text)) =
      Naming.setterName state ++ "(" ++ expression ++ ")"
  asSource : ∀ (site : Site) (origin : Origin) (content : ContentNode) (notes : Option Fields),
    buildRepeated site origin ⟨content, .text text, notes⟩ = do
      let parts ← buildNode site (origin.below .repetition) content
      let element := (repeatedElement parts).setAttribute "key" (.code "index")
      return .repeated expression (.element element) "item" "index"

theorem attribute?_withAttributes (element : Element) (attrs : Fields) (name : String) :
    (withAttributes element attrs).attribute? name =
      ((Entries.lookUp? attrs.reverse name).map attributeValue).or (element.attribute? name) := by
  induction attrs generalizing element with
  | nil => rfl
  | cons attr rest inductionHypothesis =>
      have onward : withAttributes element (attr :: rest) =
          withAttributes (element.setAttribute attr.1 (attributeValue attr.2)) rest := rfl
      rw [onward, inductionHypothesis, List.reverse_cons, Entries.lookUp?_append]
      by_cases same : attr.1 = name
      · have written : (element.setAttribute attr.1 (attributeValue attr.2)).attribute? name =
            some (attributeValue attr.2) := by
          rw [← same]
          exact Entries.lookUp?_put_self _ _ _
        rw [written, Entries.lookUp?, if_pos same]
        cases Entries.lookUp? rest.reverse name <;> rfl
      · have kept : (element.setAttribute attr.1 (attributeValue attr.2)).attribute? name =
            element.attribute? name := Entries.lookUp?_put_of_ne _ _ same
        rw [kept, Entries.lookUp?, if_neg same]
        cases Entries.lookUp? rest.reverse name <;> rfl

theorem Scalar.expression_text {text expression : String}
    (bound : Binding.expression? (.text text) = some expression) :
    (Scalar.text text).expression = expression := by
  rw [Scalar.expression, Scalar.toValue, bound]
  rfl

/-- Every place asks for the same expression. -/
theorem compiledTo_of_expression? {text expression : String}
    (bound : Binding.expression? (.text text) = some expression) : CompiledTo text expression where
  inAttribute element attrs name found := by
    rw [attribute?_withAttributes, found, Option.map_some, attributeValue, bound]
    rfl
  asChild site origin := by
    rw [buildChild, Markup.ofText, bound]
  asSubject scope := by
    rw [Scope.subject, bound]
  asOperand operation known subject := by
    rw [Condition.test, if_pos known, Scalar.optionalExpression, Scalar.expression_text bound]
  asArgument statement earlier later given := by
    rw [Statement.arguments, given, Option.getD_some, List.map_append, List.map_cons,
      Scalar.expression_text bound]
  asNewState state := by
    have plain : ¬ some (Scalar.text text) = some (.text "$toggle") := by
      intro toggles
      cases toggles
      cases bound
    rw [Statement.stateChange, if_neg plain, Scalar.optionalExpression, Scalar.expression_text bound]
  asSource site origin content notes := by
    have written : (DataSource.text text).toValue.expression = .ok expression := by
      rw [DataSource.toValue, Value.expression, bound]
    rw [buildRepeated, written]
    rfl

theorem CompiledTo.unique {text first second : String} (one : CompiledTo text first)
    (other : CompiledTo text second) : first = second :=
  (one.asSubject ⟨"", [], []⟩).symm.trans (other.asSubject ⟨"", [], []⟩)

/-- In every place the path of an input is compiled to the chain of accesses over its
segments.  The path of the current item is compiled to itself behind a dot; this is
the chain of accesses exactly when each segment is an identifier. -/
theorem item_path_is_member_chain_iff (path : String) (written : path ≠ "") :
    CompiledTo ("$props." ++ path) (memberPath "props" path) ∧
      CompiledTo ("$item." ++ path) ("item." ++ path) ∧
      (CompiledTo ("$item." ++ path) (memberPath "item" path) ↔
        ∀ segment ∈ segments path, isIdentifier segment = true) := by
  have asWritten := compiledTo_of_expression? (Binding.expression?_item written)
  refine ⟨compiledTo_of_expression? (Binding.expression?_prop written), asWritten, ?_⟩
  rw [← memberPath_eq_append_iff "item" path]
  constructor
  · exact fun chained => chained.unique asWritten
  · intro plain
    rw [plain]
    exact asWritten

/-- The first name of an item is no identifier, so it is not accessed as it was written. -/
theorem first_name_of_item_is_no_chain :
    CompiledTo "$props.first-name" "props['first-name']" ∧
      CompiledTo "$item.first-name" "item.first-name" ∧
      ¬ CompiledTo "$item.first-name" "item['first-name']" := by
  rcases item_path_is_member_chain_iff "first-name" (by decide) with ⟨ofProps, ofItem, chained⟩
  refine ⟨ofProps, ofItem, fun accessed => ?_⟩
  have bare := chained.mp accessed "first-name" (by decide)
  exact absurd bare (by decide)

/-- Whatever a path holds, its segments are read back from the accesses that stand behind
the object, and the path is its segments with dots between them.  So two paths are never
accessed alike, and two bindings to inputs are never compiled to one expression. -/
theorem member_paths_read_back (object : String) :
    (∀ path, ∃ chain, memberPath object path = object ++ chain ∧
      readChain chain.toList = some (segments path)) ∧
    (∀ path, Text.joinWith "." (segments path) = path ∧
      ∀ segment ∈ segments path, '.' ∉ segment.toList) ∧
    (∀ first second, first ≠ second → memberPath object first ≠ memberPath object second) ∧
    ∀ first second, first ≠ "" → second ≠ "" → first ≠ second → ∀ expression,
      CompiledTo ("$props." ++ first) expression → ¬ CompiledTo ("$props." ++ second) expression := by
  refine ⟨exists_chain_of_memberPath object, fun path => ⟨joinWith_segments path, fun _ => not_mem_segment⟩,
    fun first second different same => different (memberPath_injective object same), ?_⟩
  intro first second firstWritten secondWritten different expression one other
  have ofFirst := compiledTo_of_expression? (Binding.expression?_prop firstWritten)
  have ofSecond := compiledTo_of_expression? (Binding.expression?_prop secondWritten)
  exact different (memberPath_injective "props" ((ofFirst.unique one).trans (other.unique ofSecond)))

/-- A segment can look like the end of its own access and the start of another one. -/
theorem imitated_access_reads_back :
    memberPath "props" "a'].b['c" = "props['a\\']']['b[\\'c']" ∧
      readChain "['a\\']']['b[\\'c']".toList = some ["a']", "b['c"] ∧
      memberPath "props" "a'].b['c" ≠ memberPath "props" "a'][.b['c" := by
  have spelled : memberPath "props" "a'].b['c" = "props" ++ "['a\\']']['b[\\'c']" := by decide
  have whole := member_paths_read_back "props"
  rcases whole.1 "a'].b['c" with ⟨chain, same, read⟩
  have sameChain : chain = "['a\\']']['b[\\'c']" := by
    have characters := congrArg String.toList (same.symm.trans spelled)
    rw [String.toList_append, String.toList_append] at characters
    exact String.toList_inj.mp (List.append_cancel_left characters)
  rw [sameChain] at read
  exact ⟨spelled.trans (by decide), read.trans (by decide), whole.2.2.1 _ _ (by decide)⟩

end ComponentCompiler
