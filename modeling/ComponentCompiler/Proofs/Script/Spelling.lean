import ComponentCompiler.Proofs.Script.Reader
import Mathlib.Data.List.Forall2

namespace ComponentCompiler

open Script

/-!
# What the pieces of a literal are read as

A literal is put together from words, numbers, quoted texts and keys, with marks
and white space between them.  A text spells a value when it is read as this value
wherever a value is expected.  Lists and maps are spelled by what spells their
parts, in one line or in lines of their own.
-/

/-- The text is read as the value, wherever a value is expected. -/
def Spells (text : String) (value : Value) : Prop :=
  ∀ frames, Leads text.toList (.value frames) (.behind value frames)

/-- The text is read as the entry without a comma, wherever a key is expected. -/
def SpellsEntry (text : String) (entry : Key × Value) : Prop :=
  ∀ entries frames,
    Leads text.toList (.key entries frames) (.behind entry.2 (.map entries entry.1 :: frames))

/-- The text is read as the entry with a comma behind it. -/
def SpellsLine (text : String) (entry : Key × Value) : Prop :=
  ∀ entries frames, Leads text.toList (.key entries frames) (.key (entries ++ [entry]) frames)

/-! ## Words and numbers -/

theorem isIdentifierPart_of_isDigit {character : Char} (digit : character.isDigit = true) :
    isIdentifierPart character = true := by
  simp [isIdentifierPart, Char.isAlphanum, digit]

theorem isIdentifierPart_of_isIdentifierStart {character : Char}
    (start : isIdentifierStart character = true) : isIdentifierPart character = true := by
  simp only [isIdentifierStart, Bool.or_eq_true] at start
  simp only [isIdentifierPart, Char.isAlphanum, Bool.or_eq_true]
  tauto

theorem leads_digits {number : Nat} {before after : Reading}
    (stepped : before.step (.word (Nat.toDigits 10 number)) = some after) :
    Leads (Nat.toDigits 10 number) before after := by
  apply leads_word Nat.toDigits_ne_nil _ stepped
  rw [List.all_eq_true]
  intro character member
  exact isIdentifierPart_of_isDigit (Nat.isDigit_of_mem_toDigits (by decide) (by decide) member)

theorem natural?_toDigits (number : Nat) : natural? (Nat.toDigits 10 number) = some number := by
  have digits : (Nat.toDigits 10 number).all Char.isDigit = true := by
    rw [List.all_eq_true]
    intro character member
    exact Nat.isDigit_of_mem_toDigits (by decide) (by decide) member
  rw [natural?, if_pos digits, Nat.ofDigitChars_ten_toDigits]

theorem wordValue?_toDigits (number : Nat) :
    wordValue? (Nat.toDigits 10 number) = some (.int number) := by
  have noWord : ∀ word, natural? word = none → Nat.toDigits 10 number ≠ word := by
    intro word noNumber same
    rw [← same, natural?_toDigits] at noNumber
    cases noNumber
  rw [wordValue?, if_neg (noWord _ (by decide)), if_neg (noWord _ (by decide)),
    if_neg (noWord _ (by decide)), natural?_toDigits]
  rfl

theorem spells_whole (number : Int) : Spells (toString number) (.int number) := by
  intro frames
  rw [Int.toString_eq_repr, Int.repr_eq_if]
  split
  · rename_i natural
    rw [Nat.repr_eq_ofList_toDigits, String.toList_ofList]
    apply leads_digits
    rw [Reading.step, wordValue?_toDigits, Option.map_some, Int.toNat_of_nonneg natural]
  · rename_i negative
    have opposite : -((-number).toNat : Int) = number := by omega
    have minus : (Reading.value frames).step (.mark .minus) = some (.digits frames) := rfl
    have written : ("-" ++ (-number).toNat.repr).toList =
        '-' :: Nat.toDigits 10 (-number).toNat := by
      simp [Nat.repr_eq_ofList_toDigits]
    rw [written]
    apply Leads.mark minus (by decide)
    apply leads_digits
    rw [Reading.step, natural?_toDigits, Option.map_some, opposite]

theorem spells_text (content : String) : Spells (quote content) (.text content) :=
  fun _ => leads_quote rfl

theorem spells_word {word : String} {value : Value} (named : word.toList ≠ [])
    (parts : word.toList.all isIdentifierPart = true) (means : wordValue? word.toList = some value) :
    Spells word value := by
  intro frames
  apply leads_word named parts
  rw [Reading.step, means, Option.map_some]

/-! ## Keys -/

/-- Whether a name is an identifier with a single line feed behind it. -/
def isIdentifierLine (name : String) : Bool :=
  name.toList.getLast? = some '\n' && isPlainIdentifier name.toList.dropLast

theorem isPlainIdentifier_of_isIdentifier {name : String} (bare : isIdentifier name = true)
    (oneLine : isIdentifierLine name = false) : isPlainIdentifier name.toList = true := by
  unfold isIdentifier withoutFinalBreak at bare
  split at bare
  · rename_i broken
    simp only [isIdentifierLine, broken, bare, decide_true, Bool.true_and] at oneLine
    cases oneLine
  · exact bare

theorem parts_of_isPlainIdentifier {word : List Char} (bare : isPlainIdentifier word = true) :
    word ≠ [] ∧ word.all isIdentifierPart = true := by
  cases word with
  | nil => cases bare
  | cons first rest =>
      rcases Bool.and_eq_true_iff.mp bare with ⟨start, later⟩
      refine ⟨List.cons_ne_nil _ _, ?_⟩
      rw [List.all_cons, isIdentifierPart_of_isIdentifierStart start, later]
      rfl

/-- A key is read as it is, bare or quoted. -/
theorem leads_objectKey {name : String} (oneLine : isIdentifierLine name = false)
    (entries : List (Key × Value)) (frames : List Frame) :
    Leads (objectKey name).toList (.key entries frames) (.colon entries (.text name) frames) := by
  unfold objectKey
  split
  · rename_i bare
    have plain := isPlainIdentifier_of_isIdentifier bare oneLine
    rcases parts_of_isPlainIdentifier plain with ⟨named, parts⟩
    apply leads_word named parts
    rw [Reading.step, if_pos plain, String.ofList_toList]
  · exact leads_quote rfl

/-- A key, a colon and a value. -/
theorem leads_property {name text : String} {value : Value}
    (oneLine : isIdentifierLine name = false) (spells : Spells text value)
    (entries : List (Key × Value)) (frames : List Frame) :
    Leads ((objectKey name).toList ++ ':' :: ' ' :: text.toList) (.key entries frames)
      (.behind value (.map entries (.text name) :: frames)) := by
  apply (leads_objectKey oneLine entries frames).append
  · have colon : (Reading.colon entries (.text name) frames).step (.mark .colon) =
        some (.value (.map entries (.text name) :: frames)) := rfl
    apply Leads.mark colon (by decide)
    apply Leads.whiteSpace (by decide)
    exact spells _
  · intro rest _
    exact apart_cons (by decide) _

theorem leads_padding {text : List Char} {before after : Reading} (level : Int)
    (onward : Leads text before after) : Leads ((Text.padding level).toList ++ text) before after := by
  unfold Text.padding
  induction level.toNat with
  | zero => exact onward
  | succ count inductionHypothesis =>
      rw [Text.repeated, String.toList_append, List.append_assoc]
      exact (inductionHypothesis.whiteSpace (by decide)).whiteSpace (by decide)

theorem spells_entry {name text : String} {value : Value}
    (oneLine : isIdentifierLine name = false) (spells : Spells text value) :
    SpellsEntry (objectKey name ++ ": " ++ text) (.text name, value) := by
  intro entries frames
  have whole := leads_property oneLine spells entries frames
  rw [String.toList_append, String.toList_append, List.append_assoc]
  exact whole

theorem spells_line {name text : String} {value : Value}
    (oneLine : isIdentifierLine name = false) (spells : Spells text value) (level : Int) :
    SpellsLine (Text.padding level ++ objectKey name ++ ": " ++ text ++ ",") (.text name, value) := by
  intro entries frames
  have written : (Text.padding level ++ objectKey name ++ ": " ++ text ++ ",").toList =
      (Text.padding level).toList ++
        ((objectKey name).toList ++ ':' :: ' ' :: text.toList ++ [',']) := by
    simp
  have comma : (Reading.behind value (.map entries (.text name) :: frames)).step (.mark .comma) =
      some (.key (entries ++ [(.text name, value)]) frames) := rfl
  rw [written]
  apply leads_padding
  apply (leads_property oneLine spells entries frames).append
  · exact Leads.mark comma (by decide) (leads_nil _)
  · exact fun rest _ => apart_cons (by decide) _

/-! ## Parts one after another -/

/-- The states in which the parts of a list or a map are read: before a part, behind
a part, and behind the whole. -/
structure Series (α : Type) where
  expecting : List α → Reading
  behind : List α → α → Reading
  closed : List α → Reading
  ending : Mark
  comma : ∀ earlier part,
    (behind earlier part).step (.mark .comma) = some (expecting (earlier ++ [part]))
  close : ∀ earlier part,
    (behind earlier part).step (.mark ending) = some (closed (earlier ++ [part]))

def Series.items (frames : List Frame) : Series Value where
  expecting earlier := .value (.list earlier :: frames)
  behind earlier item := .behind item (.list earlier :: frames)
  closed items := .behind (.list items) frames
  ending := .closeList
  comma _ _ := rfl
  close _ _ := rfl

def Series.entries (frames : List Frame) : Series (Key × Value) where
  expecting earlier := .key earlier frames
  behind earlier entry := .behind entry.2 (.map earlier entry.1 :: frames)
  closed entries := .behind (.map entries) frames
  ending := .closeMap
  comma _ _ := rfl
  close _ _ := rfl

/-- Parts with commas between them are read one after another, up to the last one. -/
theorem leads_joined {α : Type} (series : Series α) {Spelled : String → α → Prop}
    {ending : List Char} {texts : List String} {parts : List α}
    (each : ∀ {text part}, Spelled text part → ∀ earlier,
      Leads text.toList (series.expecting earlier) (series.behind earlier part))
    (closing : ∀ {before after}, before.step (.mark series.ending) = some after →
      Leads ending before after)
    (apart : ∀ rest, Apart (ending ++ rest)) (spelled : List.Forall₂ Spelled texts parts)
    (nonempty : parts ≠ []) (earlier : List α) :
    Leads ((Text.joinWith ", " texts).toList ++ ending) (series.expecting earlier)
      (series.closed (earlier ++ parts)) := by
  induction spelled generalizing earlier with
  | nil => exact absurd rfl nonempty
  | @cons text part texts parts first rest inductionHypothesis =>
      cases rest with
      | nil =>
          apply (each first earlier).append (closing (series.close earlier part))
          exact fun others _ => apart others
      | @cons next other texts parts second later =>
          have onward := inductionHypothesis (List.cons_ne_nil _ _) (earlier ++ [part])
          rw [List.append_assoc, List.singleton_append] at onward
          have separated := Leads.mark (series.comma earlier part)
            (by decide : Scan.between.step ',' = _)
            (Leads.whiteSpace (by decide : Scan.between.step ' ' = _) onward)
          have whole := (each first earlier).append separated fun others _ =>
            apart_cons (by decide) _
          rw [Text.joinWith_cons_cons, String.toList_append, String.toList_append,
            List.append_assoc, List.append_assoc]
          exact whole

theorem leads_lines {lines : List String} {entries : List (Key × Value)}
    (spelled : List.Forall₂ SpellsLine lines entries) (earlier : List (Key × Value))
    (frames : List Frame) :
    Leads (Text.joinWith "\n" lines).toList (.key earlier frames)
      (.key (earlier ++ entries) frames) := by
  induction spelled generalizing earlier with
  | nil =>
      rw [List.append_nil]
      exact leads_nil _
  | @cons line entry lines entries first rest inductionHypothesis =>
      cases rest with
      | nil => exact first earlier frames
      | @cons next other lines entries second later =>
          have onward := inductionHypothesis (earlier ++ [entry])
          rw [List.append_assoc, List.singleton_append] at onward
          have whole := (first earlier frames).append
            (Leads.whiteSpace (by decide : Scan.between.step '\n' = _) onward) fun others _ =>
              apart_cons (by decide) _
          rw [Text.joinWith_cons_cons, String.toList_append, String.toList_append,
            List.append_assoc]
          exact whole

/-! ## Lists and maps -/

theorem leads_closeList {before after : Reading}
    (stepped : before.step (.mark .closeList) = some after) : Leads [']'] before after :=
  Leads.mark stepped (by decide) (leads_nil after)

theorem leads_closeMap {before after : Reading}
    (stepped : before.step (.mark .closeMap) = some after) : Leads ['\x7d'] before after :=
  Leads.mark stepped (by decide) (leads_nil after)

theorem spells_list {texts : List String} {items : List Value}
    (spelled : List.Forall₂ Spells texts items) :
    Spells ("[" ++ Text.joinWith ", " texts ++ "]") (.list items) := by
  intro frames
  have written : ("[" ++ Text.joinWith ", " texts ++ "]").toList =
      '[' :: ((Text.joinWith ", " texts).toList ++ [']']) := by
    simp
  have opened : (Reading.value frames).step (.mark .openList) =
      some (.value (.list [] :: frames)) := rfl
  rw [written]
  apply Leads.mark opened (by decide)
  cases items with
  | nil =>
      cases spelled
      exact leads_closeList rfl
  | cons item rest =>
      apply leads_joined (Series.items frames) _ leads_closeList _ spelled (List.cons_ne_nil _ _) []
      · exact fun spells earlier => spells _
      · exact fun rest => apart_cons (by decide) _

theorem spells_empty_map : Spells "\x7b\x7d" (.map []) := by
  intro frames
  have written : "\x7b\x7d".toList = ['\x7b', '\x7d'] := by simp
  have opened : (Reading.value frames).step (.mark .openMap) = some (.key [] frames) := rfl
  rw [written]
  exact Leads.mark opened (by decide) (leads_closeMap rfl)

theorem spells_inline_map {texts : List String} {entries : List (Key × Value)}
    (spelled : List.Forall₂ SpellsEntry texts entries) :
    Spells (if entries.isEmpty then "\x7b\x7d" else "\x7b " ++ Text.joinWith ", " texts ++ " \x7d")
      (.map entries) := by
  cases entries with
  | nil =>
      rw [List.isEmpty_nil, if_pos rfl]
      exact spells_empty_map
  | cons entry rest =>
      intro frames
      have opened : (Reading.value frames).step (.mark .openMap) = some (.key [] frames) := rfl
      have written : ("\x7b " ++ Text.joinWith ", " texts ++ " \x7d").toList =
          '\x7b' :: ' ' :: ((Text.joinWith ", " texts).toList ++ [' ', '\x7d']) := by
        simp
      rw [List.isEmpty_cons, if_neg Bool.false_ne_true, written]
      apply Leads.mark opened (by decide)
      apply Leads.whiteSpace (by decide)
      apply leads_joined (Series.entries frames) _ _ _ spelled (List.cons_ne_nil _ _) []
      · exact fun spells earlier => spells earlier frames
      · exact fun stepped => Leads.whiteSpace (by decide) (leads_closeMap stepped)
      · exact fun rest => apart_cons (by decide) _

theorem spells_block_map {lines : List String} {entries : List (Key × Value)}
    (spelled : List.Forall₂ SpellsLine lines entries) (level : Int) :
    Spells (if entries.isEmpty then "\x7b\x7d"
      else "\x7b\n" ++ Text.joinWith "\n" lines ++ "\n" ++ Text.padding level ++ "\x7d")
      (.map entries) := by
  cases entries with
  | nil =>
      rw [List.isEmpty_nil, if_pos rfl]
      exact spells_empty_map
  | cons entry rest =>
      intro frames
      have opened : (Reading.value frames).step (.mark .openMap) = some (.key [] frames) := rfl
      have closed : (Reading.key (entry :: rest) frames).step (.mark .closeMap) =
          some (.behind (.map (entry :: rest)) frames) := rfl
      have written : ("\x7b\n" ++ Text.joinWith "\n" lines ++ "\n" ++ Text.padding level ++
          "\x7d").toList = '\x7b' :: '\n' :: ((Text.joinWith "\n" lines).toList ++
            '\n' :: ((Text.padding level).toList ++ ['\x7d'])) := by
        simp
      rw [List.isEmpty_cons, if_neg Bool.false_ne_true, written]
      apply Leads.mark opened (by decide)
      apply Leads.whiteSpace (by decide)
      apply (leads_lines spelled [] frames).append
      · apply Leads.whiteSpace (by decide)
        exact leads_padding level (leads_closeMap closed)
      · exact fun rest _ => apart_cons (by decide) _

end ComponentCompiler
