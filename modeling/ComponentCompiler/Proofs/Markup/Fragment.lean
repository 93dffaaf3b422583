import ComponentCompiler.Markup.Render
import ComponentCompiler.Proofs.Outcome
import ComponentCompiler.Proofs.Script.Quoted
import ComponentCompiler.Proofs.Text.Join

namespace ComponentCompiler

open Script

/-!
# Texts keep to their places

A text is data, whatever it looks like.  As the value of an attribute it stands in
double quotes, when it has none itself, or else as a quoted literal in braces; as a
child it stands as it is, when it has no character of the markup, or else as a quoted
literal in braces.  In each form a reader of the place takes exactly this text and
stops where the place ends.  The forms are found unchanged in the text of the whole
tree.
-/

/-- The text up to the first double quote, and what stands behind the quote. -/
def readToDoubleQuote : List Char → Option (List Char × List Char)
  | [] => none
  | character :: rest =>
    if character = '"' then some ([], rest)
    else (readToDoubleQuote rest).map fun read => (character :: read.1, read.2)

/-- The code in a pair of braces is one literal of the text: a reader that is set at
its start takes the text and stops right before the closing brace. -/
def LiteralInBraces (code text : String) : Prop :=
  ∀ rest, readQuoted (code.toList ++ '\x7d' :: rest) = some (text, '\x7d' :: rest)

/-- How an attribute with a text is written. -/
inductive AttributeFragment (name value : String) : String → Prop
  | inQuotes (reads : ∀ rest,
      readToDoubleQuote (value.toList ++ '"' :: rest) = some (value.toList, rest)) :
      AttributeFragment name value (name ++ "=\"" ++ value ++ "\"")
  | inBraces {code : String} (reads : LiteralInBraces code value) :
      AttributeFragment name value (name ++ "=\x7b" ++ code ++ "\x7d")

/-- Whether a character belongs to the markup. -/
def isMarkupChar (character : Char) : Bool :=
  character = '\x7b' || character = '\x7d' || character = '<' || character = '>'

/-- How a text below an element is written. -/
inductive TextFragment (content : String) : String → Prop
  | asItIs (plain : ∀ character ∈ content.toList, isMarkupChar character = false) :
      TextFragment content content
  | inBraces {code : String} (reads : LiteralInBraces code content) :
      TextFragment content ("\x7b" ++ code ++ "\x7d")

/-! ## The two kinds of fragments -/

theorem literalInBraces_quote (text : String) : LiteralInBraces (quote text) text :=
  fun rest => readQuoted_quote text ('\x7d' :: rest)

theorem readToDoubleQuote_append {text : List Char} (single : '"' ∉ text) (rest : List Char) :
    readToDoubleQuote (text ++ '"' :: rest) = some (text, rest) := by
  induction text with
  | nil => rfl
  | cons character others inductionHypothesis =>
      rcases not_or.mp (List.mem_cons.not.mp single) with ⟨different, later⟩
      rw [List.cons_append, readToDoubleQuote, if_neg (Ne.symm different), inductionHypothesis later,
        Option.map_some]

theorem attributeFragment_renderAttribute (name value : String) :
    ∃ fragment, renderAttribute name (.text value) = .ok fragment ∧
      AttributeFragment name value fragment := by
  cases quoted : value.toList.contains '"' with
  | true =>
      have written : name ++ "=" ++ braced (quote value) =
          name ++ "=\x7b" ++ quote value ++ "\x7d" := by
        have opening : "=\x7b" = "=" ++ "\x7b" := by decide
        rw [opening, braced]
        simp only [String.append_assoc]
      refine ⟨_, if_pos quoted, ?_⟩
      rw [written]
      exact .inBraces (literalInBraces_quote value)
  | false =>
      have single : '"' ∉ value.toList := by
        intro member
        rw [List.contains_iff_mem.mpr member] at quoted
        cases quoted
      exact ⟨_, if_neg (Bool.eq_false_iff.mp quoted),
        .inQuotes (readToDoubleQuote_append single)⟩

theorem isMarkupChar_of_unmarked {content : String} (unmarked : ¬ hasMarkupChar content = true) :
    ∀ character ∈ content.toList, isMarkupChar character = false := by
  intro character member
  have none := List.any_eq_false.mp (Bool.eq_false_iff.mpr unmarked)
  exact Bool.eq_false_iff.mpr (none character member)

theorem textFragment_renderText (content : String) : TextFragment content (renderText content) := by
  unfold renderText
  by_cases marked : hasMarkupChar content = true
  · rw [if_pos marked]
    exact .inBraces (literalInBraces_quote content)
  · rw [if_neg marked]
    exact .asItIs (isMarkupChar_of_unmarked marked)

/-! ## Fragments in the text of a tree -/

/-- A text is found in another one. -/
def StandsIn (part whole : String) : Prop :=
  ∃ before after, whole = before ++ part ++ after

theorem StandsIn.trans {part middle whole : String} (inner : StandsIn part middle)
    (outer : StandsIn middle whole) : StandsIn part whole := by
  rcases inner with ⟨innerBefore, innerAfter, rfl⟩
  rcases outer with ⟨before, after, rfl⟩
  exact ⟨before ++ innerBefore, innerAfter ++ after, by simp only [String.append_assoc]⟩

theorem standsIn_refl (text : String) : StandsIn text text :=
  ⟨"", "", by rw [String.empty_append, String.append_empty]⟩

theorem StandsIn.behind {part whole : String} (inside : StandsIn part whole) (before : String) :
    StandsIn part (before ++ whole) :=
  inside.trans ⟨before, "", String.append_empty.symm⟩

theorem StandsIn.before {part whole : String} (inside : StandsIn part whole) (after : String) :
    StandsIn part (whole ++ after) :=
  inside.trans ⟨"", after, by rw [String.empty_append]⟩

/-- A part of a tree, at any depth. -/
inductive Markup.Within (part : Markup) : Markup → Prop
  | itself : Within part part
  | guarded {condition : String} {body : Markup} (inside : Within part body) :
      Within part (.guarded condition body)
  | repeated {source item index : String} {body : Markup} (inside : Within part body) :
      Within part (.repeated source body item index)
  | child {element : Element} {body : Markup} (listed : body ∈ element.children)
      (inside : Within part body) : Within part (.element element)

theorem standsIn_renderAttributes {attributes : Fields} {text name value : String}
    (rendered : renderAttributes attributes = .ok text) (listed : (name, .text value) ∈ attributes) :
    ∃ fragment, renderAttribute name (.text value) = .ok fragment ∧
      StandsIn (" " ++ fragment) text := by
  induction attributes generalizing text with
  | nil => cases listed
  | cons field rest inductionHypothesis =>
      rcases field with ⟨first, content⟩
      rw [renderAttributes] at rendered
      rcases bind_eq_ok_iff.mp rendered with ⟨here, written, onward⟩
      rcases bind_eq_ok_iff.mp onward with ⟨others, later, whole⟩
      cases whole
      rcases List.mem_cons.mp listed with same | further
      · cases same
        exact ⟨here, written, (standsIn_refl _).before others⟩
      · rcases inductionHypothesis later further with ⟨fragment, own, inside⟩
        exact ⟨fragment, own, inside.behind _⟩

theorem exists_mem_renderChildren {parts : List Markup} {part : Markup} {level : Int}
    {lines : List String} (rendered : renderChildren level parts = .ok lines)
    (listed : part ∈ parts) :
    ∃ text, part.render (level + 1) = .ok text ∧ Text.innerPadding level ++ text ∈ lines := by
  induction parts generalizing lines with
  | nil => cases listed
  | cons first rest inductionHypothesis =>
      rw [renderChildren] at rendered
      rcases bind_eq_ok_iff.mp rendered with ⟨here, written, onward⟩
      rcases bind_eq_ok_iff.mp onward with ⟨others, later, whole⟩
      cases whole
      rcases List.mem_cons.mp listed with rfl | further
      · exact ⟨here, written, List.mem_cons_self⟩
      · rcases inductionHypothesis later further with ⟨text, own, member⟩
        exact ⟨text, own, List.mem_cons_of_mem _ member⟩

/-- What an element is written as, from the texts of its attributes and children. -/
def Element.written (element : Element) (level : Int) (attributeText : String)
    (lines : List String) : String :=
  if element.children.isEmpty then
    if element.tag.isEmpty then "<></>" else "<" ++ element.tag ++ attributeText ++ " />"
  else
    Text.joinWith "\n" (("<" ++ element.tag ++ attributeText ++ ">") ::
      (lines ++ [Text.padding level ++ "</" ++ element.tag ++ ">"]))

theorem Element.render_eq (element : Element) (level : Int) :
    element.render level = do
      let attributeText ← renderAttributes element.attributes
      let lines ← renderChildren level element.children
      return element.written level attributeText lines := by
  rcases element with ⟨origin, tag, attributes, children⟩
  rw [Element.render]
  cases children <;> rfl

theorem Element.render_eq_ok {element : Element} {level : Int} {text : String}
    (rendered : element.render level = .ok text) :
    ∃ attributeText lines, renderAttributes element.attributes = .ok attributeText ∧
      renderChildren level element.children = .ok lines ∧
      text = element.written level attributeText lines := by
  rw [Element.render_eq] at rendered
  rcases bind_eq_ok_iff.mp rendered with ⟨attributeText, attributesWritten, onward⟩
  rcases bind_eq_ok_iff.mp onward with ⟨lines, childrenWritten, whole⟩
  exact ⟨attributeText, lines, attributesWritten, childrenWritten, (Except.ok.inj whole).symm⟩

/-- The attributes of an element are found in its text.  Only an empty fragment shows
none. -/
theorem Element.standsIn_of_attribute {element : Element} {level : Int} {text name value : String}
    (rendered : element.render level = .ok text) (shown : element.tag ≠ "" ∨ element.children ≠ [])
    (listed : (name, .text value) ∈ element.attributes) :
    ∃ fragment, renderAttribute name (.text value) = .ok fragment ∧
      StandsIn (" " ++ fragment) text := by
  rcases Element.render_eq_ok rendered with ⟨attributeText, lines, attributesWritten, _, rfl⟩
  rcases standsIn_renderAttributes attributesWritten listed with ⟨fragment, own, inside⟩
  refine ⟨fragment, own, ?_⟩
  have opening := inside.behind ("<" ++ element.tag)
  unfold Element.written
  by_cases childless : element.children.isEmpty = true
  · have tagged : ¬ element.tag.isEmpty = true := by
      intro untagged
      rcases shown with named | filled
      · exact named (String.isEmpty_iff.mp untagged)
      · exact filled (List.isEmpty_iff.mp childless)
    rw [if_pos childless, if_neg tagged]
    exact opening.before _
  · rw [if_neg childless, Text.joinWith_cons]
    exact (opening.before _).before _

theorem Element.standsIn_of_child {element : Element} {level : Int} {text : String} {part : Markup}
    (rendered : element.render level = .ok text) (listed : part ∈ element.children) :
    ∃ inner, part.render (level + 1) = .ok inner ∧ StandsIn inner text := by
  rcases Element.render_eq_ok rendered with ⟨attributeText, lines, _, childrenWritten, rfl⟩
  rcases exists_mem_renderChildren childrenWritten listed with ⟨inner, own, member⟩
  have filled : ¬ element.children.isEmpty = true := by
    intro empty
    rw [List.isEmpty_iff.mp empty] at listed
    cases listed
  refine ⟨inner, own, ?_⟩
  have inLine := (standsIn_refl inner).behind (Text.innerPadding level)
  rw [Element.written, if_neg filled, Text.joinWith_cons]
  exact (inLine.trans (Text.exists_separated_eq (List.mem_append_left _ member))).behind _

/-- The text of a part is found in the text of the tree. -/
theorem Markup.Within.standsIn {part whole : Markup} (within : part.Within whole) {level : Int}
    {text : String} (rendered : whole.render level = .ok text) :
    ∃ depth inner, part.render depth = .ok inner ∧ StandsIn inner text := by
  induction within generalizing level text with
  | itself => exact ⟨level, text, rendered, standsIn_refl text⟩
  | guarded inside inductionHypothesis =>
      rw [Markup.render] at rendered
      rcases bind_eq_ok_iff.mp rendered with ⟨body, written, whole⟩
      cases whole
      rcases inductionHypothesis written with ⟨depth, inner, own, nested⟩
      exact ⟨depth, inner, own, (((nested.behind _).before _).before _).before _⟩
  | repeated inside inductionHypothesis =>
      rw [Markup.render] at rendered
      rcases bind_eq_ok_iff.mp rendered with ⟨body, written, whole⟩
      cases whole
      rcases inductionHypothesis written with ⟨depth, inner, own, nested⟩
      exact ⟨depth, inner, own, (((nested.behind _).before _).before _).before _⟩
  | child listed inside inductionHypothesis =>
      rw [Markup.render] at rendered
      rcases Element.standsIn_of_child rendered listed with ⟨body, written, outer⟩
      rcases inductionHypothesis written with ⟨depth, inner, own, nested⟩
      exact ⟨depth, inner, own, nested.trans outer⟩

/-- Every attribute with a text is written in one of the two forms for attributes, and
every text in one of the two forms for children.  What is so written is found unchanged
in the text of a tree, for each attribute of each element that shows its attributes and
for each text. -/
theorem rendered_texts_keep_to_their_places :
    (∀ name value, ∃ fragment, renderAttribute name (.text value) = .ok fragment ∧
        AttributeFragment name value fragment) ∧
      (∀ content, TextFragment content (renderText content)) ∧
      ∀ (root : Markup) (level : Int) (text : String), root.render level = .ok text →
        (∀ element, (Markup.element element).Within root →
          element.tag ≠ "" ∨ element.children ≠ [] →
          ∀ name value, (name, .text value) ∈ element.attributes →
            ∃ fragment, renderAttribute name (.text value) = .ok fragment ∧
              StandsIn (" " ++ fragment) text) ∧
        ∀ content, (Markup.text content).Within root → StandsIn (renderText content) text := by
  refine ⟨attributeFragment_renderAttribute, textFragment_renderText, ?_⟩
  intro root level text rendered
  constructor
  · intro element within shown name value listed
    rcases within.standsIn rendered with ⟨depth, inner, own, outer⟩
    rw [Markup.render] at own
    rcases Element.standsIn_of_attribute own shown listed with ⟨fragment, written, inside⟩
    exact ⟨fragment, written, inside.trans outer⟩
  · intro content within
    rcases within.standsIn rendered with ⟨depth, inner, own, outer⟩
    rw [Markup.render, Except.ok.injEq] at own
    exact own ▸ outer

/-- An element whose texts try to leave their places: a title with both quotes and a
backslash at its end, and a child that opens a brace and closes a literal. -/
def trickyElement : Element :=
  ⟨none, "p", [("title", .text "\"it's\\")], [.text "\x7b\\'"]⟩

theorem trickyElement_keeps_its_texts :
    ∃ text fragment, (Markup.element trickyElement).render 0 = .ok text ∧
      renderAttribute "title" (.text "\"it's\\") = .ok fragment ∧
      AttributeFragment "title" "\"it's\\" fragment ∧ StandsIn (" " ++ fragment) text ∧
      TextFragment "\x7b\\'" (renderText "\x7b\\'") ∧ StandsIn (renderText "\x7b\\'") text := by
  rcases rendered_texts_keep_to_their_places with ⟨attributesKept, textsKept, found⟩
  obtain ⟨text, rendered⟩ : ∃ text, (Markup.element trickyElement).render 0 = .ok text := by
    rw [Markup.render, Element.render_eq]
    exact ⟨_, rfl⟩
  rcases found _ _ _ rendered with ⟨attributesFound, textsFound⟩
  rcases attributesKept "title" "\"it's\\" with ⟨fragment, written, kept⟩
  rcases attributesFound trickyElement .itself (Or.inr (List.cons_ne_nil _ _)) "title" "\"it's\\"
    List.mem_cons_self with ⟨same, again, inside⟩
  rw [written, Except.ok.injEq] at again
  refine ⟨text, fragment, rendered, written, kept, again ▸ inside, textsKept _, ?_⟩
  exact textsFound _ (.child List.mem_cons_self .itself)

end ComponentCompiler
