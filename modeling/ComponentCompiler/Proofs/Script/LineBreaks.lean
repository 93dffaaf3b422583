import ComponentCompiler.Proofs.Markup.Fragment
import ComponentCompiler.Proofs.Script.Literal
import ComponentCompiler.Proofs.Script.PropertyName

namespace ComponentCompiler
namespace Script

open Number

/-!
# Line breaks in literals

A value in one line is made of marks, words, numbers, and the keys, texts and pieces of
code that it holds.  Only these can bring a line break along.  Quoting writes a line feed
as an escape and leaves a carriage return as it is.  So a text brings its carriage returns
along, and a key does too; a line feed comes only from a key that is an identifier with a
line feed behind it, since such a key is not quoted.
-/

/-! ## The pieces of a literal -/

/-- A piece of a literal that is taken from the value. -/
inductive Piece where
  | key (name : String)
  | text (content : String)
  | code (expression : String)
deriving DecidableEq, Repr

namespace Piece

/-- The text that a piece has in the value. -/
def content : Piece → String
  | .key name => name
  | .text content => content
  | .code expression => expression

/-- How a piece is written. -/
def written : Piece → String
  | .key name => objectKey name
  | .text content => quote content
  | .code expression => expression

/-- A key as a piece.  Other keys than texts have no literal. -/
def ofKey : Key → List Piece
  | .text name => [.key name]
  | _ => []

end Piece

mutual

/-- The pieces of a value in the order of its literal, at every depth. -/
def pieces : Value → List Piece
  | .text content => [.text content]
  | .code expression => [.code expression]
  | .list items => itemPieces items
  | .tuple items => itemPieces items
  | .map entries => entryPieces entries
  | _ => []

/-- The pieces of the items of a list. -/
def itemPieces : List Value → List Piece
  | [] => []
  | item :: rest => pieces item ++ itemPieces rest

/-- The pieces of the entries of a map. -/
def entryPieces : List (Key × Value) → List Piece
  | [] => []
  | (key, value) :: rest => Piece.ofKey key ++ pieces value ++ entryPieces rest

end

/-- A text is made of pieces: they are found in it as they are written, and it has no
line break of its own. -/
structure MadeOf (text : String) (parts : List Piece) : Prop where
  found : ∀ part ∈ parts, StandsIn part.written text
  breaks : ∀ character ∈ text.toList, isLineBreak character = true →
    ∃ part ∈ parts, character ∈ part.written.toList

namespace MadeOf

/-- A text without line breaks needs no pieces. -/
theorem unbroken {text : String} (plain : ∀ character ∈ text.toList, isLineBreak character = false) :
    MadeOf text [] where
  found _ impossible := absurd impossible List.not_mem_nil
  breaks character member isBreak := by
    rw [plain character member] at isBreak
    cases isBreak

theorem ofWord {word : String} (plain : word.toList.any isLineBreak = false) : MadeOf word [] := by
  apply unbroken
  intro character member
  exact Bool.eq_false_iff.mpr (List.any_eq_false.mp plain character member)

theorem piece (part : Piece) : MadeOf part.written [part] where
  found _ member := List.mem_singleton.mp member ▸ standsIn_refl part.written
  breaks _ member _ := ⟨part, List.mem_singleton.mpr rfl, member⟩

theorem append {first second : String} {parts others : List Piece} (here : MadeOf first parts)
    (later : MadeOf second others) : MadeOf (first ++ second) (parts ++ others) where
  found part member := by
    rcases List.mem_append.mp member with inFirst | inSecond
    · exact (here.found part inFirst).before second
    · exact (later.found part inSecond).behind first
  breaks character member isBreak := by
    rw [String.toList_append] at member
    rcases List.mem_append.mp member with inFirst | inSecond
    · rcases here.breaks character inFirst isBreak with ⟨part, listed, inside⟩
      exact ⟨part, List.mem_append_left _ listed, inside⟩
    · rcases later.breaks character inSecond isBreak with ⟨part, listed, inside⟩
      exact ⟨part, List.mem_append_right _ listed, inside⟩

/-- Marks around a text bring nothing along. -/
theorem surround {text opening closing : String} {parts : List Piece} (inside : MadeOf text parts)
    (plainOpening : opening.toList.any isLineBreak = false)
    (plainClosing : closing.toList.any isLineBreak = false) :
    MadeOf (opening ++ text ++ closing) parts := by
  have whole := ((ofWord plainOpening).append inside).append (ofWord plainClosing)
  rwa [List.nil_append, List.append_nil] at whole

/-- A text that is joined from others is made of the pieces of all. -/
theorem joinWith {α : Type} {texts : List String} {items : List α} {parts : α → List Piece}
    {separator : String} (plain : separator.toList.any isLineBreak = false)
    (aligned : List.Forall₂ (fun text item => MadeOf text (parts item)) texts items) :
    MadeOf (Text.joinWith separator texts) (items.flatMap parts) := by
  induction aligned with
  | nil => exact ofWord rfl
  | cons here others inductionHypothesis =>
      cases others with
      | nil =>
          rw [List.flatMap_singleton]
          exact here
      | cons next rest =>
          have onward := (here.append (ofWord plain)).append inductionHypothesis
          rwa [List.append_nil] at onward

end MadeOf

/-! ## Numbers -/

theorem isLineBreak_of_isDigit {character : Char} (digit : character.isDigit = true) :
    isLineBreak character = false := by
  have part := isIdentifierPart_of_isDigit digit
  unfold isLineBreak
  rw [Bool.or_eq_false_iff, decide_eq_false_iff_not, decide_eq_false_iff_not]
  constructor
  · rintro rfl
    cases part
  · rintro rfl
    cases part

theorem isLineBreak_of_mem_digits {digits : List Char} (row : AreDigits digits) {character : Char}
    (member : character ∈ digits) : isLineBreak character = false :=
  isLineBreak_of_isDigit (row.2 character member)

theorem isLineBreak_of_mem_signText {negative : Bool} {character : Char}
    (member : character ∈ signText negative) : isLineBreak character = false := by
  cases negative with
  | false => cases member
  | true =>
      rw [List.mem_singleton.mp member]
      decide

theorem isLineBreak_of_mem_numeral {whole fraction power : List Char}
    (numeral : IsNumeral whole fraction power) {character : Char}
    (member : character ∈ whole ++ fraction ++ power) : isLineBreak character = false := by
  rw [List.mem_append, List.mem_append] at member
  rcases member with (inWhole | inFraction) | inPower
  · exact isLineBreak_of_mem_digits numeral.whole inWhole
  · rcases numeral.fraction with rfl | ⟨digits, rfl, row⟩
    · cases inFraction
    · rcases List.mem_cons.mp inFraction with rfl | inDigits
      · decide
      · exact isLineBreak_of_mem_digits row inDigits
  · rcases numeral.power with rfl | ⟨sign, digits, rfl, signed, row⟩
    · cases inPower
    · rcases List.mem_cons.mp inPower with rfl | behind
      · decide
      rcases List.mem_cons.mp behind with rfl | inDigits
      · rcases signed with rfl | rfl
        all_goals decide
      · exact isLineBreak_of_mem_digits row inDigits

theorem madeOf_real (number : Binary64) : MadeOf (number.text .script) [] := by
  cases number with
  | undefined => exact MadeOf.ofWord (by decide)
  | infinite negative =>
      cases negative
      all_goals exact MadeOf.ofWord (by decide)
  | finite negative significand exponent =>
      apply MadeOf.unbroken
      intro character member
      rcases toList_text_finite .script negative significand exponent with
        ⟨whole, fraction, power, numeral, spelled⟩
      rw [spelled, List.mem_append] at member
      rcases member with inSign | inNumeral
      · exact isLineBreak_of_mem_signText inSign
      · exact isLineBreak_of_mem_numeral numeral inNumeral

theorem madeOf_whole (number : Int) : MadeOf (toString number) [] := by
  apply MadeOf.unbroken
  intro character member
  rcases toList_toString_int number with ⟨negative, digits, row, spelled⟩
  rw [spelled, List.mem_append] at member
  rcases member with inSign | inDigits
  · exact isLineBreak_of_mem_signText inSign
  · exact isLineBreak_of_mem_digits row inDigits

/-! ## Literals -/

theorem itemPieces_eq_flatMap (items : List Value) : itemPieces items = items.flatMap pieces := by
  induction items with
  | nil => rfl
  | cons item rest inductionHypothesis =>
      rw [itemPieces, inductionHypothesis, List.flatMap_cons]

theorem entryPieces_eq_flatMap (entries : List (Key × Value)) :
    entryPieces entries = entries.flatMap fun entry => Piece.ofKey entry.1 ++ pieces entry.2 := by
  induction entries with
  | nil => rfl
  | cons entry rest inductionHypothesis =>
      rw [entryPieces, inductionHypothesis, List.flatMap_cons]

theorem madeOf_inlineItems {items : List Value} {texts : List String}
    (written : inlineItems items = .ok texts)
    (inside : ∀ item ∈ items, ∀ text, inlineLiteral item = .ok text → MadeOf text (pieces item)) :
    List.Forall₂ (fun text item => MadeOf text (pieces item)) texts items := by
  induction items generalizing texts with
  | nil =>
      cases written
      exact .nil
  | cons item rest inductionHypothesis =>
      rw [inlineItems] at written
      rcases bind_eq_ok_iff.mp written with ⟨text, here, onward⟩
      rcases bind_eq_ok_iff.mp onward with ⟨others, later, whole⟩
      cases whole
      rcases List.forall_mem_cons.mp inside with ⟨first, inRest⟩
      exact .cons (first text here) (inductionHypothesis later inRest)

theorem madeOf_inlineEntries {entries : List (Key × Value)} {texts : List String}
    (written : inlineEntries entries = .ok texts)
    (inside : ∀ entry ∈ entries, ∀ text, inlineLiteral entry.2 = .ok text →
      MadeOf text (pieces entry.2)) :
    List.Forall₂ (fun text (entry : Key × Value) =>
      MadeOf text (Piece.ofKey entry.1 ++ pieces entry.2)) texts entries := by
  induction entries generalizing texts with
  | nil =>
      cases written
      exact .nil
  | cons entry rest inductionHypothesis =>
      rcases entry with ⟨key, value⟩
      rw [inlineEntries] at written
      rcases bind_eq_ok_iff.mp written with ⟨property, named, afterKey⟩
      rcases bind_eq_ok_iff.mp afterKey with ⟨text, here, onward⟩
      rcases bind_eq_ok_iff.mp onward with ⟨others, later, whole⟩
      cases whole
      rcases List.forall_mem_cons.mp inside with ⟨first, inRest⟩
      rcases propertyKey_eq_ok_iff.mp ⟨property, named⟩ with ⟨name, rfl⟩
      cases named
      refine .cons ?_ (inductionHypothesis later inRest)
      have colon : MadeOf ": " [] := MadeOf.ofWord (by decide)
      have entryMade := ((MadeOf.piece (.key name)).append colon).append (first text here)
      rwa [List.append_nil] at entryMade

/-- A value in one line is made of its pieces. -/
theorem madeOf_inlineLiteral {value : Value} {text : String}
    (written : inlineLiteral value = .ok text) : MadeOf text (pieces value) := by
  induction value using Value.parts_induction generalizing text with
  | step value inside =>
      have listed {items : List Value} (all : ∀ item ∈ items, item ∈ value.parts)
          (row : (do
            let texts ← inlineItems items
            return "[" ++ Text.joinWith ", " texts ++ "]") = .ok text) :
          MadeOf text (itemPieces items) := by
        rcases bind_eq_ok_iff.mp row with ⟨texts, itemsWritten, whole⟩
        cases whole
        rw [itemPieces_eq_flatMap]
        have aligned := madeOf_inlineItems itemsWritten fun item member itemText here =>
          inside item (all item member) here
        exact (MadeOf.joinWith (by decide) aligned).surround (by decide) (by decide)
      cases value with
      | null =>
          cases written
          exact MadeOf.ofWord (by decide)
      | bool truth =>
          cases written
          cases truth
          all_goals exact MadeOf.ofWord (by decide)
      | int number =>
          rw [inlineLiteral, wholeLiteral] at written
          split at written
          · cases written
          · cases written
            exact madeOf_whole number
      | real number =>
          cases written
          exact madeOf_real number
      | text content =>
          cases written
          exact MadeOf.piece (.text content)
      | code expression =>
          cases written
          exact MadeOf.piece (.code text)
      | list items =>
          rw [inlineLiteral] at written
          exact listed (fun item member => member) written
      | tuple items =>
          rw [inlineLiteral] at written
          exact listed (fun item member => member) written
      | map entries =>
          rw [inlineLiteral] at written
          rcases bind_eq_ok_iff.mp written with ⟨texts, entriesWritten, whole⟩
          have aligned := madeOf_inlineEntries entriesWritten fun entry member entryText here =>
            inside entry.2 (List.mem_map_of_mem member) here
          cases whole
          rw [pieces, entryPieces_eq_flatMap]
          split
          · rename_i empty
            rw [List.isEmpty_iff.mp empty]
            exact MadeOf.ofWord (by decide)
          · exact (MadeOf.joinWith (by decide) aligned).surround (by decide) (by decide)
      | _ => cases written

/-! ## What a piece brings along -/

theorem mem_of_standsIn {part whole : String} (inside : StandsIn part whole) {character : Char}
    (member : character ∈ part.toList) : character ∈ whole.toList := by
  rcases inside with ⟨before, after, rfl⟩
  rw [String.toList_append, String.toList_append]
  exact List.mem_append_left _ (List.mem_append_right _ member)

/-- A line break is in a literal exactly when one of the pieces brings it along. -/
theorem MadeOf.mem_iff {text : String} {parts : List Piece} (made : MadeOf text parts)
    {character : Char} (isBreak : isLineBreak character = true) :
    character ∈ text.toList ↔ ∃ part ∈ parts, character ∈ part.written.toList := by
  constructor
  · exact fun member => made.breaks character member isBreak
  · rintro ⟨part, listed, member⟩
    exact mem_of_standsIn (made.found part listed) member

theorem lineFeed_not_mem_quote (text : String) : '\n' ∉ (quote text).toList := by
  have each (character : Char) : '\n' ∉ escapeChar character := by
    unfold escapeChar
    repeat' split
    · decide
    · decide
    · decide
    · rename_i other
      exact fun member => other (List.mem_singleton.mp member).symm
  rw [quote, String.toList_ofList, quoteChars_eq_flatMap]
  simp [each]

theorem carriageReturn_mem_quote_iff (text : String) :
    '\r' ∈ (quote text).toList ↔ '\r' ∈ text.toList := by
  have broken := any_isLineBreak_quoteChars text.toList
  have noFeed := lineFeed_not_mem_quote text
  rw [quote, String.toList_ofList] at noFeed ⊢
  rw [Bool.eq_iff_iff, List.any_eq_true, decide_eq_true_eq] at broken
  rw [← broken]
  constructor
  · exact fun member => ⟨'\r', member, rfl⟩
  · rintro ⟨character, member, isBreak⟩
    rw [isLineBreak, Bool.or_eq_true, decide_eq_true_eq, decide_eq_true_eq] at isBreak
    rcases isBreak with rfl | rfl
    · exact absurd member noFeed
    · exact member

/-- A key brings a line feed along only when it is an identifier with one behind it. -/
theorem lineFeed_mem_objectKey_iff (name : String) :
    '\n' ∈ (objectKey name).toList ↔ isIdentifierLine name = true := by
  unfold objectKey
  split
  · rename_i bare
    rcases isIdentifier_iff.mp bare with plain | line
    · have parts := List.all_eq_true.mp (parts_of_isPlainIdentifier plain).2
      constructor
      · intro member
        cases parts '\n' member
      · intro line
        rcases exists_word_of_isIdentifierLine line with ⟨word, _, spelled⟩
        rw [spelled]
        exact List.mem_append_right _ List.mem_cons_self
    · rcases exists_word_of_isIdentifierLine line with ⟨word, _, spelled⟩
      rw [spelled]
      exact ⟨fun _ => line, fun _ => List.mem_append_right _ List.mem_cons_self⟩
  · rename_i quoted
    rw [isIdentifier_iff, not_or] at quoted
    exact ⟨fun member => absurd member (lineFeed_not_mem_quote name),
      fun line => absurd line quoted.2⟩

theorem carriageReturn_mem_objectKey_iff (name : String) :
    '\r' ∈ (objectKey name).toList ↔ '\r' ∈ name.toList := by
  unfold objectKey
  split
  · rfl
  · exact carriageReturn_mem_quote_iff name

/-! ## Values of the stricter notation -/

/-- A value of the stricter notation holds no code. -/
theorem code_not_mem_pieces {value : Value} (json : value.isJson = true) (expression : String) :
    Piece.code expression ∉ pieces value := by
  refine Value.isJson_induction (motive := fun value => Piece.code expression ∉ pieces value)
    ?null ?bool ?int ?real ?text ?list ?map value json
  case text =>
    intro content member
    cases List.mem_singleton.mp member
  case list =>
    intro items _ inside member
    rw [pieces, itemPieces_eq_flatMap, List.mem_flatMap] at member
    rcases member with ⟨item, listed, inItem⟩
    exact inside item listed inItem
  case map =>
    intro entries json inside member
    rw [pieces, entryPieces_eq_flatMap, List.mem_flatMap] at member
    rcases member with ⟨⟨key, inner⟩, listed, inEntry⟩
    rcases List.mem_append.mp inEntry with inKey | inValue
    · rcases (Value.isJson_map.mp json _ listed).1 with ⟨name, named⟩
      rw [show key = .text name from named] at inKey
      cases List.mem_singleton.mp inKey
    · exact inside _ listed inValue
  all_goals intros; exact List.not_mem_nil

/-- A value of the stricter notation has a literal in one line, in which its keys and texts
are found as they are written.  The literal holds a line feed exactly when some key of the
value, at any depth, is an identifier with a line feed behind it; and it holds a carriage
return exactly when some key or text does.  A quoted text never holds a line feed, and as a
literal of the script it is closed in its line exactly when the text has no carriage
return. -/
theorem inline_literals_break_lines_iff {value : Value} (json : value.isJson = true)
    (level : Int) :
    ∃ text, literal level true value = .ok text ∧
      (∀ part ∈ pieces value, StandsIn part.written text) ∧
      ('\n' ∈ text.toList ↔
        ∃ name, Piece.key name ∈ pieces value ∧ isIdentifierLine name = true) ∧
      ('\r' ∈ text.toList ↔ ∃ part ∈ pieces value, '\r' ∈ part.content.toList) ∧
      ∀ content, '\n' ∉ (quote content).toList ∧
        ∀ rest, readLine ((quote content).toList ++ rest) =
          if '\r' ∈ content.toList then none else some (content, rest) := by
  rcases Value.hasLiteral_of_isJson json with ⟨text, written⟩
  have made := madeOf_inlineLiteral written
  refine ⟨text, written, made.found, ?_, ?_, fun content =>
    ⟨lineFeed_not_mem_quote content, readLine_quote content⟩⟩
  · rw [made.mem_iff rfl]
    constructor
    · rintro ⟨part, listed, member⟩
      cases part with
      | key name => exact ⟨name, listed, (lineFeed_mem_objectKey_iff name).mp member⟩
      | text content => exact absurd member (lineFeed_not_mem_quote content)
      | code expression => exact absurd listed (code_not_mem_pieces json expression)
    · rintro ⟨name, listed, line⟩
      exact ⟨.key name, listed, (lineFeed_mem_objectKey_iff name).mpr line⟩
  · have brought (part : Piece) : '\r' ∈ part.written.toList ↔ '\r' ∈ part.content.toList := by
      cases part with
      | key name => exact carriageReturn_mem_objectKey_iff name
      | text content => exact carriageReturn_mem_quote_iff content
      | code expression => rfl
    rw [made.mem_iff rfl]
    simp only [brought]

/-- A note with the line ends of another system, under a key that ends its line. -/
def brokenNote : Value :=
  .map [(.text "note\n", .list [.text "first\r\nsecond"])]

/-- Both line breaks of the note are found in its literal, and the text in it is not closed
in its line. -/
theorem brokenNote_breaks_its_literal :
    ∃ text, literal 0 true brokenNote = .ok text ∧ '\n' ∈ text.toList ∧ '\r' ∈ text.toList ∧
      StandsIn (quote "first\r\nsecond") text ∧
      ∀ rest, readLine ((quote "first\r\nsecond").toList ++ rest) = none := by
  obtain ⟨text, written, found, feeds, returns, quoted⟩ :=
    @inline_literals_break_lines_iff brokenNote (by decide) 0
  have held : pieces brokenNote = [.key "note\n", .text "first\r\nsecond"] := by decide
  rw [held] at found feeds returns
  refine ⟨text, written, feeds.mpr ⟨"note\n", List.mem_cons_self, by decide⟩,
    returns.mpr ⟨.text "first\r\nsecond", by decide, by decide⟩,
    found (.text "first\r\nsecond") (by decide), fun rest => ?_⟩
  rw [(quoted _).2 rest, if_pos (by decide)]

end Script
end ComponentCompiler
