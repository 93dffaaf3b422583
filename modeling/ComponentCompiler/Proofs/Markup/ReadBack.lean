import ComponentCompiler.Proofs.Markup.Fragment
import ComponentCompiler.Proofs.Markup.RawText

namespace ComponentCompiler

open Script

/-!
# Reading the texts of an element back

What stands between the tags of an element with texts only is raw text and quoted
literals in braces.  A literal is read as its text; what is raw between two literals
is read by the rules of raw text.  So a text with a character of the markup is read
as it was, but the others are read together with their neighbours: the element shows
its texts exactly when each run of neighbours shows its own.
-/

/-- The text of the literal in braces, from behind the opening brace, and what stands
behind the closing one. -/
def readContainer (code : List Char) : Option (String × List Char) :=
  (readQuoted code).bind fun read =>
    if read.2.head? = some '\x7d' then some (read.1, read.2.tail) else none

theorem length_lt_of_readContainer {code rest : List Char} {text : String}
    (read : readContainer code = some (text, rest)) : rest.length < code.length := by
  rcases Option.bind_eq_some_iff.mp read with ⟨literal, quoted, closed⟩
  split at closed
  · cases closed
    exact Nat.lt_of_le_of_lt (List.tail_sublist _).length_le (length_lt_of_readQuoted quoted)
  · cases closed

theorem readContainer_quote (text : String) (rest : List Char) :
    readContainer ((quote text).toList ++ '\x7d' :: rest) = some (text, rest) := by
  rw [readContainer, readQuoted_quote, Option.bind_some]
  rfl

namespace TextRules

/-- What the content of an element shows.  The raw text since the last literal is read
when the next literal or the end of the content is met. -/
def readContent (rules : TextRules) (raw : List Char) : List Char → Option (List Char)
  | [] => some (rules.shown raw)
  | character :: rest =>
    if character = '\x7b' then
      match _container : readContainer rest with
      | none => none
      | some (text, later) =>
        (rules.readContent [] later).map (rules.shown raw ++ text.toList ++ ·)
    else if isMarkupChar character then none
    else rules.readContent (raw ++ [character]) rest
termination_by content => content.length
decreasing_by
  · exact Nat.lt_succ_of_lt (length_lt_of_readContainer _container)
  · exact Nat.lt_succ_self rest.length

variable (rules : TextRules)

theorem readContent_raw {text : List Char}
    (plain : ∀ character ∈ text, isMarkupChar character = false) (raw rest : List Char) :
    rules.readContent raw (text ++ rest) = rules.readContent (raw ++ text) rest := by
  induction text generalizing raw with
  | nil => rw [List.nil_append, List.append_nil]
  | cons character others inductionHypothesis =>
      rcases List.forall_mem_cons.mp plain with ⟨first, later⟩
      have noBrace : ¬ character = '\x7b' := by
        rintro rfl
        cases first
      rw [List.cons_append, readContent, if_neg noBrace, if_neg (Bool.eq_false_iff.mp first),
        inductionHypothesis later, List.append_assoc, List.singleton_append]

theorem readContent_literal (text : String) (raw rest : List Char) :
    rules.readContent raw ((braced (quote text)).toList ++ rest) =
      (rules.readContent [] rest).map (rules.shown raw ++ text.toList ++ ·) := by
  have opening : "\x7b".toList = ['\x7b'] := rfl
  have closing : "\x7d".toList = ['\x7d'] := rfl
  have written : (braced (quote text)).toList ++ rest =
      '\x7b' :: ((quote text).toList ++ '\x7d' :: rest) := by
    rw [braced, String.toList_append, String.toList_append, opening, closing, List.append_assoc,
      List.append_assoc, List.singleton_append, List.singleton_append]
  rw [written, readContent, if_pos rfl]
  split
  · rename_i none
    rw [readContainer_quote] at none
    cases none
  · rename_i other later container
    rw [readContainer_quote] at container
    cases container
    rfl

/-! ## What texts in lines of their own show -/

/-- What some texts show behind a run of raw ones. -/
def denoted (run : List String) : List String → List Char
  | [] => joinLines (rules.textLines run)
  | text :: rest =>
    if hasMarkupChar text then
      joinLines (rules.textLines run) ++ (text.toList ++ denoted [] rest)
    else denoted (run ++ [text]) rest

/-- The layout of the texts of an element: each in a line of its own. -/
def layout (inner outer : List Char) (texts : List String) : List Char :=
  texts.flatMap (fun text => '\n' :: (inner ++ (renderText text).toList)) ++ '\n' :: outer

theorem readContent_layout {inner outer : List Char}
    (innerSpaces : ∀ character ∈ inner, character = ' ')
    (outerSpaces : ∀ character ∈ outer, character = ' ') (run texts : List String) :
    rules.readContent (laid inner run) (layout inner outer texts) =
      some (rules.denoted run texts) := by
  have blank {spaces : List Char} (all : ∀ character ∈ spaces, character = ' ') :
      rules.AllBlank spaces :=
    fun character member => (all character member).symm ▸ rules.blank_space
  have plainLine {spaces : List Char} (all : ∀ character ∈ spaces, character = ' ') :
      ∀ character ∈ '\n' :: spaces, isMarkupChar character = false :=
    List.forall_mem_cons.mpr ⟨rfl, fun character member => (all character member).symm ▸ rfl⟩
  induction texts generalizing run with
  | nil =>
      have ended : layout inner outer [] = '\n' :: outer ++ [] := (List.append_nil _).symm
      rw [ended, readContent_raw _ (plainLine outerSpaces), readContent,
        shown_laid _ (blank innerSpaces) (blank outerSpaces), denoted]
  | cons text rest inductionHypothesis =>
      have line : layout inner outer (text :: rest) =
          '\n' :: inner ++ ((renderText text).toList ++ layout inner outer rest) := by
        rw [layout, List.flatMap_cons, List.append_assoc, List.cons_append, List.append_assoc]
        rfl
      rw [line, readContent_raw _ (plainLine innerSpaces), denoted, renderText]
      by_cases marked : hasMarkupChar text = true
      · have onward := inductionHypothesis []
        rw [laid, List.flatMap_nil] at onward
        rw [if_pos marked, if_pos marked, readContent_literal, onward,
          shown_laid _ (blank innerSpaces) (blank innerSpaces), Option.map_some, List.append_assoc]
      · have onward := inductionHypothesis (run ++ [text])
        have extended : laid inner (run ++ [text]) =
            laid inner run ++ '\n' :: inner ++ text.toList := by
          rw [laid, List.flatMap_append, List.flatMap_singleton, List.append_assoc,
            List.cons_append]
          rfl
        rw [if_neg marked, if_neg marked, readContent_raw _ (isMarkupChar_of_unmarked marked),
          ← onward, extended]

/-! ## Runs of raw texts -/

theorem isMarkupChar_of_mem_joinLines {run : List String}
    (plain : ∀ text ∈ run, ¬ hasMarkupChar text = true) {character : Char}
    (seen : character ∈ joinLines (rules.textLines run)) : isMarkupChar character = false := by
  rcases rules.mem_of_mem_joinLines seen with rfl | ⟨text, listed, inText, _⟩
  · rfl
  · exact isMarkupChar_of_unmarked (plain text listed) character inText

/-- Behind a marked text everything is read anew: what comes before and what comes
behind can be compared apart. -/
theorem append_marked_inj {first second later others : List Char} {text : String}
    (marked : hasMarkupChar text = true)
    (firstPlain : ∀ character ∈ first, isMarkupChar character = false)
    (secondPlain : ∀ character ∈ second, isMarkupChar character = false) :
    first ++ (text.toList ++ later) = second ++ (text.toList ++ others) ↔
      first = second ∧ later = others := by
  rcases List.any_eq_true.mp marked with ⟨mark, inText, isMark⟩
  rcases List.eq_append_cons_of_mem inText with ⟨before, behind, split, fresh⟩
  have absent {plain : List Char}
      (free : ∀ character ∈ plain, isMarkupChar character = false) : mark ∉ plain ++ before := by
    intro member
    rcases List.mem_append.mp member with inPlain | inBefore
    · exact Bool.false_ne_true ((free mark inPlain).symm.trans isMark)
    · exact fresh inBefore
  have regrouped (plain rest : List Char) : plain ++ (text.toList ++ rest) =
      (plain ++ before) ++ mark :: (behind ++ rest) := by
    rw [split]
    simp only [List.append_assoc, List.cons_append]
  constructor
  · intro same
    rw [regrouped, regrouped] at same
    rcases append_cons_inj_of_first (absent firstPlain) (absent secondPlain) same with
      ⟨fronts, tails⟩
    exact ⟨List.append_cancel_right fronts, List.append_cancel_left tails⟩
  · rintro ⟨rfl, rfl⟩
    rfl

end TextRules

/-- The longest runs of neighbours without a character of the markup. -/
def plainRuns (texts : List String) : List (List String) :=
  texts.splitOnP hasMarkupChar

namespace TextRules

variable (rules : TextRules)

theorem denoted_eq_iff {run : List String} (plain : ∀ text ∈ run, ¬ hasMarkupChar text = true)
    (texts : List String) :
    rules.denoted run texts = run.flatMap String.toList ++ texts.flatMap String.toList ↔
      ∀ neighbours ∈ (plainRuns texts).modifyHead (run ++ ·), rules.Seamless neighbours := by
  unfold plainRuns
  induction texts generalizing run with
  | nil =>
      rw [denoted, List.flatMap_nil, List.append_nil, joinLines_textLines_eq_iff,
        List.splitOnP_nil, List.modifyHead_cons, List.append_nil, List.forall_mem_singleton]
  | cons text rest inductionHypothesis =>
      rw [denoted, List.flatMap_cons, List.splitOnP_cons_eq_if_modifyHead]
      by_cases marked : hasMarkupChar text = true
      · have runPlain : ∀ character ∈ run.flatMap String.toList, isMarkupChar character = false := by
          intro character member
          rcases List.mem_flatMap.mp member with ⟨source, listed, inSource⟩
          exact isMarkupChar_of_unmarked (plain source listed) character inSource
        have onward := inductionHypothesis fun _ none => absurd none List.not_mem_nil
        rw [List.flatMap_nil, List.nil_append] at onward
        have whole : (rest.splitOnP hasMarkupChar).modifyHead ([] ++ ·) =
            rest.splitOnP hasMarkupChar := congrFun List.modifyHead_id _
        rw [whole] at onward
        rw [if_pos marked, if_pos marked,
          append_marked_inj marked (fun _ => rules.isMarkupChar_of_mem_joinLines plain) runPlain,
          onward, joinLines_textLines_eq_iff, List.modifyHead_cons, List.append_nil,
          List.forall_mem_cons]
      · have extended : ∀ member ∈ run ++ [text], ¬ hasMarkupChar member = true :=
          List.forall_mem_append.mpr ⟨plain, List.forall_mem_singleton.mpr marked⟩
        have onward := inductionHypothesis extended
        rw [List.flatMap_append, List.flatMap_singleton, List.append_assoc] at onward
        have joined : (run ++ ·) ∘ (text :: ·) = ((run ++ [text]) ++ ·) :=
          funext fun later => List.append_cons run text later
        rw [if_neg marked, if_neg marked, onward, List.modifyHead_modifyHead, joined]

theorem forall_plainRuns_singleton_iff {text : String} :
    (∀ neighbours ∈ plainRuns [text], rules.Seamless neighbours) ↔
      hasMarkupChar text = true ∨ rules.Tight text := by
  rw [plainRuns, List.splitOnP_cons_eq_if_modifyHead, List.splitOnP_nil]
  by_cases marked : hasMarkupChar text = true
  · have nothing : rules.Seamless [] := ⟨fun _ none => absurd none List.not_mem_nil, rfl⟩
    rw [if_pos marked, List.forall_mem_cons, List.forall_mem_singleton]
    exact iff_of_true ⟨nothing, nothing⟩ (Or.inl marked)
  · rw [if_neg marked, List.modifyHead_cons, List.forall_mem_singleton, seamless_singleton_iff]
    exact (or_iff_right marked).symm

end TextRules

theorem renderChildren_texts (level : Int) (texts : List String) :
    renderChildren level (texts.map .text) =
      .ok (texts.map fun text => Text.innerPadding level ++ renderText text) := by
  induction texts with
  | nil => rw [List.map_nil, renderChildren, List.map_nil]
  | cons text rest inductionHypothesis =>
      rw [List.map_cons, renderChildren, inductionHypothesis, Markup.render]
      rfl

/-- What stands between the tags of an element with some texts. -/
def textContent (level : Int) (texts : List String) : String :=
  Text.separated "\n"
    ((texts.map fun text => Text.innerPadding level ++ renderText text) ++ [Text.padding level])

theorem toList_textContent (level : Int) (texts : List String) :
    (textContent level texts).toList =
      TextRules.layout (Text.innerPadding level).toList (Text.padding level).toList texts := by
  rw [textContent, Text.toList_separated, List.flatMap_append, List.flatMap_map,
    List.flatMap_singleton, TextRules.layout]
  simp only [String.toList_append]
  rfl

theorem Element.render_texts {texts : List String} (filled : texts ≠ []) (origin : Option Origin)
    (tag : String) (attributes : Fields) (level : Int) :
    Element.render level ⟨origin, tag, attributes, texts.map .text⟩ =
      (renderAttributes attributes).map (fun attributeText =>
        "<" ++ tag ++ attributeText ++ ">" ++ textContent level texts ++ "</" ++ tag ++ ">") := by
  have someChild : ¬ (texts.map Markup.text).isEmpty = true := by
    rw [List.isEmpty_iff, List.map_eq_nil_iff]
    exact filled
  rw [Element.render_eq, renderChildren_texts]
  refine bind_congr fun attributeText => congrArg Except.ok ?_
  rw [Element.written, if_neg someChild, Text.joinWith_cons, textContent, Text.separated_append,
    Text.separated_append, Text.separated_singleton, Text.separated_singleton]
  simp only [String.append_assoc]

/-- An element with texts only shows them, whatever its tag, attributes and level, exactly
when the texts of each run without characters of the markup follow one another as raw
text does: no line breaks, one space between neighbours, no blanks at the ends.  One
text alone must have a character of the markup, or neither breaks nor blanks at its ends. -/
theorem texts_read_back_iff (rules : TextRules) {texts : List String} (filled : texts ≠ [])
    (level : Int) :
    ∃ content shown,
      (∀ origin tag attributes, Element.render level ⟨origin, tag, attributes, texts.map .text⟩ =
        (renderAttributes attributes).map (fun attributeText =>
          "<" ++ tag ++ attributeText ++ ">" ++ content ++ "</" ++ tag ++ ">")) ∧
      rules.readContent [] content.toList = some shown ∧
      (shown = texts.flatMap String.toList ↔
        ∀ neighbours ∈ plainRuns texts, rules.Seamless neighbours) ∧
      ∀ text, texts = [text] →
        (shown = text.toList ↔ hasMarkupChar text = true ∨ rules.Tight text) := by
  have shownIff := rules.denoted_eq_iff (fun _ none => absurd none List.not_mem_nil) texts
  have runs : (plainRuns texts).modifyHead ([] ++ ·) = plainRuns texts :=
    congrFun List.modifyHead_id _
  rw [List.flatMap_nil, List.nil_append, runs] at shownIff
  refine ⟨textContent level texts, rules.denoted [] texts, ?_, ?_, shownIff, ?_⟩
  · exact fun origin tag attributes => Element.render_texts filled origin tag attributes level
  · rw [toList_textContent]
    exact rules.readContent_layout (fun _ => Text.mem_innerPadding) (fun _ => Text.mem_padding) []
      texts
  · rintro text rfl
    rw [List.flatMap_singleton] at shownIff
    exact shownIff.trans rules.forall_plainRuns_singleton_iff

/-- A space at the end of a text gets lost when the text stands alone.  The space is read
when another text follows. -/
theorem total_is_read_by_its_neighbour :
    (∃ content shown, Element.render 0 ⟨none, "p", [], [.text "Total: "]⟩ =
        .ok ("<p>" ++ content ++ "</p>") ∧
      TextRules.standard.readContent [] content.toList = some shown ∧
      shown ≠ "Total: ".toList) ∧
    ∃ content, Element.render 0 ⟨none, "p", [], [.text "Total: ", .text "5"]⟩ =
        .ok ("<p>" ++ content ++ "</p>") ∧
      TextRules.standard.readContent [] content.toList = some "Total: 5".toList := by
  have tagged (content : String) :
      (renderAttributes []).map (fun attributeText =>
        "<" ++ "p" ++ attributeText ++ ">" ++ content ++ "</" ++ "p" ++ ">") =
          .ok ("<p>" ++ content ++ "</p>") := by
    have opening : "<" ++ "p" ++ "" ++ ">" = "<p>" := by decide
    have closing : "</" ++ ("p" ++ ">") = "</p>" := by decide
    refine congrArg Except.ok ?_
    beta_reduce
    rw [opening, String.append_assoc, String.append_assoc, closing]
  constructor
  · rcases texts_read_back_iff TextRules.standard (List.cons_ne_nil "Total: " []) 0 with
      ⟨content, shown, rendered, read, _, alone⟩
    refine ⟨content, shown, (rendered none "p" []).trans (tagged content), read, ?_⟩
    intro same
    rcases (alone "Total: " rfl).mp same with marked | tight
    · exact absurd marked (by decide)
    · exact absurd (tight.back ' ' (by decide)) (by decide)
  · rcases texts_read_back_iff TextRules.standard (List.cons_ne_nil "Total: " ["5"]) 0 with
      ⟨content, shown, rendered, read, together, _⟩
    have seamless : ∀ neighbours ∈ plainRuns ["Total: ", "5"],
        TextRules.standard.Seamless neighbours := by
      decide +kernel
    refine ⟨content, (rendered none "p" []).trans (tagged content), ?_⟩
    rw [read, together.mpr seamless]
    decide

end ComponentCompiler
