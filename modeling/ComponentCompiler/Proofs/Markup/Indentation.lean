import ComponentCompiler.Proofs.Markup.Fragment

namespace ComponentCompiler

open Script

/-!
# How markup is indented

The text of a part is made of lines.  The first line carries no blanks, so that it can
stand behind others; each following line is indented for the depth at which it is nested
in the part, over the level at which the part stands.  So the level shows only behind the
line feeds: to set a part some levels deeper is to put two blanks for each level behind
every line feed of its text.

This needs lines that are lines: what is written out must not break them.  The names of
an item and of its index are among what is written out.  Below level zero there are no
blanks to take away, so the law starts there.
-/

/-- A text with so many spaces behind every line feed. -/
def Text.indented (spaces : Nat) (text : String) : String :=
  String.ofList (text.toList.flatMap fun character =>
    if character = '\n' then '\n' :: List.replicate spaces ' ' else [character])

/-- The text has no line feed. -/
def Text.IsLine (text : String) : Prop :=
  '\n' ∉ text.toList

instance (text : String) : Decidable (Text.IsLine text) :=
  inferInstanceAs (Decidable (¬ '\n' ∈ text.toList))

/-! ## What is written out -/

mutual

/-- The texts that a part is written with: its tags, attributes, texts, expressions,
conditions and sources. -/
def Markup.pieces : Markup → List String
  | .text content => [renderText content]
  | .code expression => [expression]
  | .guarded condition body => condition :: body.pieces
  | .repeated source body _ _ => source :: body.pieces
  | .element element => element.pieces

def Element.pieces : Element → List String
  | ⟨_, tag, attributes, children⟩ =>
    tag :: (attributes.filterMap fun field => (renderAttribute field.1 field.2).toOption) ++
      piecesAll children

def piecesAll : List Markup → List String
  | [] => []
  | part :: rest => part.pieces ++ piecesAll rest

end

mutual

/-- The names that the repeated parts give to their items and indexes. -/
def Markup.itemNames : Markup → List String
  | .text _ => []
  | .code _ => []
  | .guarded _ body => body.itemNames
  | .repeated _ body item index => item :: index :: body.itemNames
  | .element element => element.itemNames

def Element.itemNames : Element → List String
  | ⟨_, _, _, children⟩ => itemNamesAll children

def itemNamesAll : List Markup → List String
  | [] => []
  | part :: rest => part.itemNames ++ itemNamesAll rest

end

/-! ## Lines and their depth -/

/-- A line and the depth at which it is nested. -/
structure Line where
  depth : Nat
  text : String

/-- A line one level deeper. -/
def Line.deeper (line : Line) : Line :=
  { line with depth := line.depth + 1 }

/-- The lines of a part.  The first one stands where the part stands. -/
structure Layout where
  first : String
  following : List Line

namespace Layout

/-- The lines of a part that starts a line of its own one level deeper. -/
def nested (layout : Layout) : List Line :=
  ⟨1, layout.first⟩ :: layout.following.map Line.deeper

/-- Parts between a line that opens and one that closes. -/
def enclosing (opening closing : String) (inner : List Layout) : Layout :=
  ⟨opening, inner.flatMap nested ++ [⟨0, closing⟩]⟩

/-- A line with the blanks for its depth in front. -/
def padded (level : Int) (line : Line) : String :=
  Text.padding (level + line.depth) ++ line.text

/-- The text of the lines from a level on. -/
def text (level : Int) (layout : Layout) : String :=
  layout.first ++ Text.separated "\n" (layout.following.map (padded level))

/-- No line has a line feed. -/
structure Unbroken (layout : Layout) : Prop where
  first : Text.IsLine layout.first
  following : ∀ line ∈ layout.following, Text.IsLine line.text

end Layout

mutual

/-- The lines of a part.  Parts in others are nested one level deeper. -/
def Markup.layout : Markup → Except RenderFault Layout
  | .text content => .ok ⟨renderText content, []⟩
  | .code expression => .ok ⟨braced expression, []⟩
  | .guarded condition body => do
    let inner ← body.layout
    return .enclosing ("\x7b" ++ condition ++ " && (") ")\x7d" [inner]
  | .repeated source body item index => do
    let inner ← body.layout
    return .enclosing ("\x7b" ++ source ++ ".map((" ++ item ++ ", " ++ index ++ ") => (") "))\x7d"
      [inner]
  | .element element => element.layout

def Element.layout : Element → Except RenderFault Layout
  | ⟨_, tag, attributes, children⟩ => do
    let attributeText ← renderAttributes attributes
    let inner ← layoutAll children
    if children.isEmpty then
      return ⟨if tag.isEmpty then "<></>" else "<" ++ tag ++ attributeText ++ " />", []⟩
    else
      return .enclosing ("<" ++ tag ++ attributeText ++ ">") ("</" ++ tag ++ ">") inner

def layoutAll : List Markup → Except RenderFault (List Layout)
  | [] => .ok []
  | part :: rest => do
    let layout ← part.layout
    return layout :: (← layoutAll rest)

end

/-! ## The text is that of the lines -/

namespace Layout

/-- A part that starts a line of its own inside something is laid out one level deeper. -/
theorem separated_nested {level : Int} (nonneg : 0 ≤ level) (layouts : List Layout) :
    Text.separated "\n" (layouts.map fun layout =>
        Text.innerPadding level ++ layout.text (level + 1)) =
      Text.separated "\n" ((layouts.flatMap nested).map (padded level)) := by
  have deeper (line : Line) : padded (level + 1) line = padded level line.deeper := by
    have depths : level + 1 + (line.depth : Int) = level + ((line.depth + 1 : Nat) : Int) := by omega
    rw [padded, padded, depths]
    rfl
  induction layouts with
  | nil => rfl
  | cons layout rest inductionHypothesis =>
      have first : padded level ⟨1, layout.first⟩ = Text.innerPadding level ++ layout.first := by
        rw [Text.innerPadding_eq nonneg]
        rfl
      have following : (layout.following.map Line.deeper).map (padded level) =
          layout.following.map (padded (level + 1)) := by
        rw [List.map_map]
        exact List.map_congr_left fun line _ => (deeper line).symm
      rw [List.map_cons, Text.separated_cons, inductionHypothesis, List.flatMap_cons,
        List.map_append, Text.separated_append, nested, List.map_cons, Text.separated_cons, first,
        following, text]
      simp only [String.append_assoc]

/-- The text between a line that opens and one that closes. -/
theorem text_enclosing {level : Int} (nonneg : 0 ≤ level) (opening closing : String)
    (inner : List Layout) :
    (enclosing opening closing inner).text level =
      opening ++ Text.separated "\n" ((inner.map fun layout =>
        Text.innerPadding level ++ layout.text (level + 1)) ++ [Text.padding level ++ closing]) := by
  have closed : padded level ⟨0, closing⟩ = Text.padding level ++ closing := by
    rw [padded]
    exact congrArg (Text.padding · ++ closing) (Int.add_zero level)
  rw [text, enclosing, List.map_append, Text.separated_append, ← separated_nested nonneg,
    List.map_singleton, closed, ← Text.separated_append]

/-- One part between a line that opens and one that closes. -/
theorem text_enclosing_singleton {level : Int} (nonneg : 0 ≤ level) (opening closing : String)
    (inner : Layout) :
    (enclosing opening closing [inner]).text level =
      opening ++ "\n" ++ Text.innerPadding level ++ inner.text (level + 1) ++ "\n" ++
        Text.padding level ++ closing := by
  rw [text_enclosing nonneg, Text.separated_append, List.map_singleton, Text.separated_singleton,
    Text.separated_singleton]
  simp only [String.append_assoc]

end Layout

mutual

theorem Markup.render_eq_text {level : Int} (nonneg : 0 ≤ level) :
    ∀ part : Markup, part.render level = part.layout.map (Layout.text level)
  | .text content => by
      rw [Markup.render, Markup.layout]
      exact congrArg Except.ok String.append_empty.symm
  | .code expression => by
      rw [Markup.render, Markup.layout]
      exact congrArg Except.ok String.append_empty.symm
  | .guarded condition body => by
      rw [Markup.render, Markup.layout, body.render_eq_text (Int.add_nonneg nonneg Int.one_nonneg)]
      cases body.layout with
      | error fault => rfl
      | ok inner =>
          have broken : " && (\n" = " && (" ++ "\n" := by decide
          refine congrArg Except.ok ?_
          rw [Layout.text_enclosing_singleton nonneg, broken]
          simp only [String.append_assoc]
  | .repeated source body item index => by
      rw [Markup.render, Markup.layout, body.render_eq_text (Int.add_nonneg nonneg Int.one_nonneg)]
      cases body.layout with
      | error fault => rfl
      | ok inner =>
          have broken : ") => (\n" = ") => (" ++ "\n" := by decide
          refine congrArg Except.ok ?_
          rw [Layout.text_enclosing_singleton nonneg, broken]
          simp only [String.append_assoc]
  | .element element => by
      rw [Markup.render, Markup.layout]
      exact element.render_eq_text nonneg

theorem Element.render_eq_text {level : Int} (nonneg : 0 ≤ level) :
    ∀ element : Element, element.render level = element.layout.map (Layout.text level)
  | ⟨origin, tag, attributes, children⟩ => by
      rw [Element.render, Element.layout, renderChildren_eq_text nonneg children]
      cases renderAttributes attributes with
      | error fault => rfl
      | ok attributeText =>
          cases layoutAll children with
          | error fault => rfl
          | ok inner =>
              cases children with
              | nil => exact congrArg Except.ok String.append_empty.symm
              | cons part rest =>
                  refine congrArg Except.ok ?_
                  rw [Layout.text_enclosing nonneg, Text.joinWith_cons]
                  simp only [String.append_assoc]

theorem renderChildren_eq_text {level : Int} (nonneg : 0 ≤ level) :
    ∀ parts : List Markup, renderChildren level parts =
      (layoutAll parts).map (List.map fun layout =>
        Text.innerPadding level ++ layout.text (level + 1))
  | [] => by rw [renderChildren, layoutAll]; rfl
  | part :: rest => by
      rw [renderChildren, layoutAll, part.render_eq_text (Int.add_nonneg nonneg Int.one_nonneg),
        renderChildren_eq_text nonneg rest]
      cases part.layout with
      | error fault => rfl
      | ok layout => cases layoutAll rest <;> rfl

end

/-! ## Lines stay lines -/

namespace Text

theorem IsLine.append {first second : String} (here : IsLine first) (later : IsLine second) :
    IsLine (first ++ second) := by
  unfold IsLine
  rw [String.toList_append, List.mem_append, not_or]
  exact ⟨here, later⟩

theorem isLine_padding (level : Int) : IsLine (padding level) :=
  fun member => absurd (mem_padding member) (by decide)

end Text

theorem isLine_renderAttributes {attributes : List (String × Value)} {text : String}
    (rendered : renderAttributes attributes = .ok text)
    (unbroken : ∀ piece ∈ attributes.filterMap fun field =>
      (renderAttribute field.1 field.2).toOption, Text.IsLine piece) : Text.IsLine text := by
  induction attributes generalizing text with
  | nil =>
      cases rendered
      exact List.not_mem_nil
  | cons field rest inductionHypothesis =>
      rcases field with ⟨name, value⟩
      rw [renderAttributes] at rendered
      rcases bind_eq_ok_iff.mp rendered with ⟨here, written, onward⟩
      rcases bind_eq_ok_iff.mp onward with ⟨others, later, whole⟩
      cases whole
      rw [List.filterMap_cons, written] at unbroken
      rcases List.forall_mem_cons.mp unbroken with ⟨hereLine, restLines⟩
      have blank : Text.IsLine " " := by decide
      exact (blank.append hereLine).append (inductionHypothesis later restLines)

namespace Layout

theorem Unbroken.nested {layout : Layout} (unbroken : layout.Unbroken) :
    ∀ line ∈ layout.nested, Text.IsLine line.text := by
  refine List.forall_mem_cons.mpr ⟨unbroken.first, fun line member => ?_⟩
  rcases List.mem_map.mp member with ⟨outer, listed, rfl⟩
  exact unbroken.following outer listed

theorem unbroken_enclosing {opening closing : String} {inner : List Layout}
    (opens : Text.IsLine opening) (closes : Text.IsLine closing)
    (within : ∀ layout ∈ inner, layout.Unbroken) : (enclosing opening closing inner).Unbroken where
  first := opens
  following line member := by
    rcases List.mem_append.mp member with inside | last
    · rcases List.mem_flatMap.mp inside with ⟨layout, listed, nested⟩
      exact (within layout listed).nested line nested
    · rw [List.mem_singleton.mp last]
      exact closes

end Layout

/-- Nothing that a part is written with has a line feed. -/
def Markup.Unbroken (part : Markup) : Prop :=
  (∀ piece ∈ part.pieces, Text.IsLine piece) ∧ ∀ name ∈ part.itemNames, Text.IsLine name

mutual

theorem Markup.unbroken_layout : ∀ part : Markup, part.Unbroken →
    ∀ layout, part.layout = .ok layout → layout.Unbroken
  | .text content, ⟨pieces, _⟩, layout, laidOut => by
      rw [Markup.layout] at laidOut
      cases laidOut
      exact ⟨pieces _ (by rw [Markup.pieces]; exact List.mem_cons_self), by simp⟩
  | .code expression, ⟨pieces, _⟩, layout, laidOut => by
      rw [Markup.layout] at laidOut
      cases laidOut
      rw [Markup.pieces] at pieces
      have opening : Text.IsLine "\x7b" := by decide
      have closing : Text.IsLine "\x7d" := by decide
      exact ⟨(opening.append (List.forall_mem_singleton.mp pieces)).append closing, by simp⟩
  | .guarded condition body, ⟨pieces, names⟩, layout, laidOut => by
      rw [Markup.pieces] at pieces
      rw [Markup.itemNames] at names
      rcases List.forall_mem_cons.mp pieces with ⟨conditionLine, inBody⟩
      rw [Markup.layout] at laidOut
      rcases bind_eq_ok_iff.mp laidOut with ⟨inner, innerLaidOut, whole⟩
      cases whole
      have unbroken := body.unbroken_layout ⟨inBody, names⟩ inner innerLaidOut
      have opening : Text.IsLine "\x7b" := by decide
      have shown : Text.IsLine " && (" := by decide
      exact Layout.unbroken_enclosing ((opening.append conditionLine).append shown) (by decide)
        (List.forall_mem_singleton.mpr unbroken)
  | .repeated source body item index, ⟨pieces, names⟩, layout, laidOut => by
      rw [Markup.pieces] at pieces
      rw [Markup.itemNames] at names
      rcases List.forall_mem_cons.mp pieces with ⟨sourceLine, inBody⟩
      rcases List.forall_mem_cons.mp names with ⟨itemLine, others⟩
      rcases List.forall_mem_cons.mp others with ⟨indexLine, namesInBody⟩
      rw [Markup.layout] at laidOut
      rcases bind_eq_ok_iff.mp laidOut with ⟨inner, innerLaidOut, whole⟩
      cases whole
      have unbroken := body.unbroken_layout ⟨inBody, namesInBody⟩ inner innerLaidOut
      have opening : Text.IsLine "\x7b" := by decide
      have mapping : Text.IsLine ".map((" := by decide
      have comma : Text.IsLine ", " := by decide
      have arrow : Text.IsLine ") => (" := by decide
      exact Layout.unbroken_enclosing ((((((opening.append sourceLine).append mapping).append
        itemLine).append comma).append indexLine).append arrow) (by decide)
        (List.forall_mem_singleton.mpr unbroken)
  | .element element, unbroken, layout, laidOut => by
      rw [Markup.Unbroken, Markup.pieces, Markup.itemNames] at unbroken
      rw [Markup.layout] at laidOut
      exact element.unbroken_layout unbroken.1 unbroken.2 layout laidOut

theorem Element.unbroken_layout : ∀ element : Element,
    (∀ piece ∈ element.pieces, Text.IsLine piece) →
    (∀ name ∈ element.itemNames, Text.IsLine name) →
    ∀ layout, element.layout = .ok layout → layout.Unbroken
  | ⟨origin, tag, attributes, children⟩, pieces, names, layout, laidOut => by
      rw [Element.pieces, List.cons_append] at pieces
      rw [Element.itemNames] at names
      rcases List.forall_mem_cons.mp pieces with ⟨tagLine, others⟩
      rcases List.forall_mem_append.mp others with ⟨inAttributes, inChildren⟩
      rw [Element.layout] at laidOut
      rcases bind_eq_ok_iff.mp laidOut with ⟨attributeText, written, onward⟩
      rcases bind_eq_ok_iff.mp onward with ⟨inner, innerLaidOut, whole⟩
      have attributeLine := isLine_renderAttributes written inAttributes
      have within := unbroken_layoutAll children inChildren names inner innerLaidOut
      have opening : Text.IsLine "<" := by decide
      have tagged := (opening.append tagLine).append attributeLine
      cases children with
      | nil =>
          cases whole
          refine ⟨?_, by simp⟩
          split
          · decide
          · exact tagged.append (by decide)
      | cons part rest =>
          cases whole
          have closing : Text.IsLine "</" := by decide
          exact Layout.unbroken_enclosing (tagged.append (by decide))
            ((closing.append tagLine).append (by decide)) within

theorem unbroken_layoutAll : ∀ parts : List Markup,
    (∀ piece ∈ piecesAll parts, Text.IsLine piece) →
    (∀ name ∈ itemNamesAll parts, Text.IsLine name) →
    ∀ layouts, layoutAll parts = .ok layouts → ∀ layout ∈ layouts, layout.Unbroken
  | [], _, _, layouts, laidOut => by
      rw [layoutAll] at laidOut
      cases laidOut
      exact fun layout member => absurd member List.not_mem_nil
  | part :: rest, pieces, names, layouts, laidOut => by
      rw [piecesAll] at pieces
      rw [itemNamesAll] at names
      rcases List.forall_mem_append.mp pieces with ⟨inPart, inRest⟩
      rcases List.forall_mem_append.mp names with ⟨namesInPart, namesInRest⟩
      rw [layoutAll] at laidOut
      rcases bind_eq_ok_iff.mp laidOut with ⟨layout, partLaidOut, onward⟩
      rcases bind_eq_ok_iff.mp onward with ⟨others, restLaidOut, whole⟩
      cases whole
      exact List.forall_mem_cons.mpr
        ⟨part.unbroken_layout ⟨inPart, namesInPart⟩ layout partLaidOut,
          unbroken_layoutAll rest inRest namesInRest others restLaidOut⟩

end

/-! ## Deeper levels -/

namespace Text

theorem indented_append (spaces : Nat) (first second : String) :
    indented spaces (first ++ second) = indented spaces first ++ indented spaces second := by
  rw [indented, String.toList_append, List.flatMap_append, String.ofList_append]
  rfl

/-- A line is not touched. -/
theorem IsLine.indented {text : String} (line : IsLine text) (spaces : Nat) :
    indented spaces text = text := by
  unfold Text.indented
  have untouched : text.toList.flatMap (fun character =>
      if character = '\n' then '\n' :: List.replicate spaces ' ' else [character]) =
      text.toList.flatMap fun character => [character] :=
    List.flatMap_congr fun character member =>
      if_neg fun (same : character = '\n') => line (same ▸ member)
  rw [untouched, List.flatMap_singleton', String.ofList_toList]

theorem padding_add {level : Int} (nonneg : 0 ≤ level) (count : Nat) :
    padding (level + count) = padding count ++ padding level := by
  have levels : (level + count).toNat = (count : Int).toNat + level.toNat := by omega
  rw [← String.toList_inj, String.toList_append, toList_padding, toList_padding, toList_padding,
    List.replicate_append_replicate, levels, Nat.mul_add]

theorem indented_lineFeed (count : Nat) : indented (2 * count) "\n" = "\n" ++ padding count := by
  rw [← String.toList_inj, String.toList_append, toList_padding, Int.toNat_natCast, indented,
    String.toList_ofList]
  exact List.flatMap_singleton ..

end Text

namespace Layout

theorem Unbroken.text_add {layout : Layout} (unbroken : layout.Unbroken) {level : Int}
    (nonneg : 0 ≤ level) (count : Nat) :
    layout.text (level + count) = Text.indented (2 * count) (layout.text level) := by
  have lines : ∀ lines : List Line, (∀ line ∈ lines, Text.IsLine line.text) →
      Text.separated "\n" (lines.map (padded (level + count))) =
        Text.indented (2 * count) (Text.separated "\n" (lines.map (padded level))) := by
    intro lines each
    induction lines with
    | nil => rfl
    | cons line rest inductionHypothesis =>
        rcases List.forall_mem_cons.mp each with ⟨here, later⟩
        have inner : 0 ≤ level + line.depth := by omega
        have levels : level + count + line.depth = level + line.depth + count := by omega
        have whole : Text.IsLine (padded level line) := (Text.isLine_padding _).append here
        rw [List.map_cons, List.map_cons, Text.separated_cons, Text.separated_cons,
          inductionHypothesis later, Text.indented_append, Text.indented_append,
          Text.indented_lineFeed, whole.indented, padded, levels, Text.padding_add inner, padded]
        simp only [String.append_assoc]
  rw [text, lines _ unbroken.following, text, Text.indented_append, unbroken.first.indented]

/-- Split at its line feeds, the text of unbroken lines is these lines. -/
theorem Unbroken.piecesAt_text {layout : Layout} (unbroken : layout.Unbroken) {level : Int} :
    Text.piecesAt '\n' (layout.text level).toList =
      layout.first.toList :: layout.following.map fun line => (padded level line).toList := by
  have lines : ∀ (lines : List Line) (front : List Char), '\n' ∉ front →
      (∀ line ∈ lines, Text.IsLine line.text) →
      Text.piecesAt '\n' (front ++ (Text.separated "\n" (lines.map (padded level))).toList) =
        front :: lines.map fun line => (padded level line).toList := by
    intro lines
    induction lines with
    | nil =>
        intro front absent _
        rw [List.map_nil, List.map_nil, ← Text.piecesAt_of_not_mem absent]
        exact congrArg _ (List.append_nil front)
    | cons line rest inductionHypothesis =>
        intro front absent each
        rcases List.forall_mem_cons.mp each with ⟨here, later⟩
        have whole : Text.IsLine (padded level line) := (Text.isLine_padding _).append here
        have split : (Text.separated "\n" ((line :: rest).map (padded level))).toList =
            '\n' :: ((padded level line).toList ++
              (Text.separated "\n" (rest.map (padded level))).toList) := by
          rw [List.map_cons, Text.separated_cons, String.append_assoc, String.toList_append,
            String.toList_append]
          rfl
        have onward := inductionHypothesis (padded level line).toList whole later
        rw [split, List.map_cons, ← onward]
        have cut : Text.piecesAt '\n' ('\n' :: ((padded level line).toList ++
            (Text.separated "\n" (rest.map (padded level))).toList)) = [] :: _ := if_pos rfl
        rw [Text.piecesAt_append_of_not_mem absent cut, List.append_nil]
  rw [text, String.toList_append]
  exact lines _ _ unbroken.first unbroken.following

end Layout

/-- A part whose pieces and item names have no line feed is written in the lines of its layout: the
first one as it is, and each following one behind two spaces for each level of its depth and of the
part.  So a part that stands some levels deeper has the same text, with two spaces for each of
these levels behind every line feed; and where it cannot be written at one level, it cannot at any. -/
theorem deeper_markup_is_indented {part : Markup} (pieces : ∀ piece ∈ part.pieces, Text.IsLine piece)
    (names : ∀ name ∈ part.itemNames, Text.IsLine name) {level : Int} (nonneg : 0 ≤ level)
    (count : Nat) :
    part.render (level + count) = (part.render level).map (Text.indented (2 * count)) ∧
    ∀ text, part.render level = .ok text → ∃ layout, part.layout = .ok layout ∧
      Text.piecesAt '\n' text.toList =
        layout.first.toList :: layout.following.map fun line =>
          List.replicate (2 * (level.toNat + line.depth)) ' ' ++ line.text.toList := by
  have unbroken := part.unbroken_layout ⟨pieces, names⟩
  have deeper : 0 ≤ level + count := by omega
  rw [part.render_eq_text nonneg, part.render_eq_text deeper]
  cases laidOut : part.layout with
  | error fault => exact ⟨rfl, nofun⟩
  | ok layout =>
      have lines := unbroken layout laidOut
      refine ⟨congrArg Except.ok (lines.text_add nonneg count), fun text rendered => ?_⟩
      cases rendered
      refine ⟨layout, rfl, ?_⟩
      rw [lines.piecesAt_text]
      refine congrArg (layout.first.toList :: ·) (List.map_congr_left fun line _ => ?_)
      have levels : (level + line.depth).toNat = level.toNat + line.depth := by omega
      rw [Layout.padded, String.toList_append, Text.toList_padding, levels]

/-- Rows in a list that is shown on a condition, each with a name in bold. -/
def nestedList : Markup :=
  .guarded "open" (.element ⟨none, "ul", [("id", .text "rows")],
    [.repeated "rows" (.element ⟨none, "li", [], [.element ⟨none, "b", [], [.code "item"]⟩]⟩)
      "item" "index"]⟩)

theorem nestedList_is_indented :
    (∀ piece ∈ nestedList.pieces, Text.IsLine piece) ∧
    (∀ name ∈ nestedList.itemNames, Text.IsLine name) ∧
    nestedList.render (1 + (2 : Nat)) = (nestedList.render 1).map (Text.indented 4) := by
  have pieces : ∀ piece ∈ nestedList.pieces, Text.IsLine piece := by decide
  have names : ∀ name ∈ nestedList.itemNames, Text.IsLine name := by decide
  exact ⟨pieces, names, (deeper_markup_is_indented pieces names (by decide) 2).1⟩

/-- A text that is repeated for items with a name in two lines. -/
def brokenItem : Markup :=
  .repeated "rows" (.text "row") "a\nb" "index"

/-- A break in the name of an item stays as it is, although all other pieces are lines; and below
level zero the lines of a nested part keep the blanks that they have at level zero. -/
theorem brokenItem_is_not_indented :
    ((∀ piece ∈ brokenItem.pieces, Text.IsLine piece) ∧
      brokenItem.render (0 + (1 : Nat)) ≠ (brokenItem.render 0).map (Text.indented (2 * 1))) ∧
    (∀ piece ∈ nestedList.pieces ++ nestedList.itemNames, Text.IsLine piece) ∧
      nestedList.render (-1 + (1 : Nat)) ≠ (nestedList.render (-1)).map (Text.indented (2 * 1)) := by
  decide +kernel

end ComponentCompiler
