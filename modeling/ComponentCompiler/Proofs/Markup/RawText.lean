import Mathlib.Data.List.DropRight

namespace ComponentCompiler

/-!
# How raw text in markup is read

Raw text between tags and expressions is read line by line.  Blanks next to a line
break are layout, and so are lines of blanks: each line but the first loses the
blanks in front, each line but the last those at its end, empty lines are dropped,
and the others are joined by one space.

Which characters break lines and which are blanks differs a little between readers,
so both are parameters.  A line feed is a break and a space is a blank everywhere,
and no character is both.
-/

/-- The characters that a reader of raw text takes for line breaks and for blanks. -/
structure TextRules where
  isBreak : Char → Bool
  isBlank : Char → Bool
  break_lineFeed : isBreak '\n' = true
  blank_space : isBlank ' ' = true
  apart : ∀ character, isBlank character = true → isBreak character = false

namespace TextRules

/-- Line feeds and carriage returns break lines; spaces and tabs are blanks. -/
def standard : TextRules where
  isBreak character := character = '\n' || character = '\r'
  isBlank character := character = ' ' || character = '\t'
  break_lineFeed := rfl
  blank_space := rfl
  apart := by
    intro character blank
    simp only [Bool.or_eq_true, decide_eq_true_eq] at blank
    rcases blank with rfl | rfl <;> rfl

/-- The lines of raw text. -/
def lines (rules : TextRules) (raw : List Char) : List (List Char) :=
  raw.splitOnP rules.isBreak

/-- A line without the blanks in front. -/
def trimFront (rules : TextRules) (line : List Char) : List Char :=
  line.dropWhile rules.isBlank

/-- A line without the blanks at its end. -/
def trimEnd (rules : TextRules) (line : List Char) : List Char :=
  line.rdropWhile rules.isBlank

/-- The lines without the blanks next to line breaks. -/
def trimLines (rules : TextRules) (lines : List (List Char)) : List (List Char) :=
  let begun := lines.head?.toList ++ lines.tail.map rules.trimFront
  begun.dropLast.map rules.trimEnd ++ begun.getLast?.toList

/-- The lines that are not empty, with one space between neighbours. -/
def joinLines (lines : List (List Char)) : List Char :=
  [' '].intercalate (lines.filter fun line => !line.isEmpty)

/-- What raw text is read as. -/
def shown (rules : TextRules) (raw : List Char) : List Char :=
  joinLines (rules.trimLines (rules.lines raw))

variable (rules : TextRules)

/-- All characters are blanks. -/
def AllBlank (characters : List Char) : Prop :=
  ∀ character ∈ characters, rules.isBlank character = true

/-- No character breaks a line. -/
def Unbroken (characters : List Char) : Prop :=
  ∀ character ∈ characters, rules.isBreak character = false

instance (characters : List Char) : Decidable (rules.Unbroken characters) :=
  List.decidableBAll (fun character => rules.isBreak character = false) characters

theorem allBlank_nil : rules.AllBlank [] :=
  fun _ none => absurd none List.not_mem_nil

theorem AllBlank.unbroken {rules : TextRules} {characters : List Char}
    (blank : rules.AllBlank characters) : rules.Unbroken characters :=
  fun character member => rules.apart character (blank character member)

/-! ## Lines -/

theorem lines_append_break (first second : List Char) :
    rules.lines (first ++ '\n' :: second) = rules.lines first ++ rules.lines second :=
  List.splitOnP_append_cons first second rules.break_lineFeed

theorem lines_of_unbroken {raw : List Char} (unbroken : rules.Unbroken raw) :
    rules.lines raw = [raw] :=
  List.splitOnP_eq_singleton unbroken

theorem unbroken_of_mem_lines {raw line : List Char} (member : line ∈ rules.lines raw) :
    ∀ character ∈ line, character ∈ raw ∧ rules.isBreak character = false := by
  unfold lines at member
  induction raw generalizing line with
  | nil =>
      rw [List.splitOnP_nil, List.mem_singleton] at member
      subst member
      exact fun character impossible => absurd impossible List.not_mem_nil
  | cons first rest inductionHypothesis =>
      intro character inLine
      rw [List.splitOnP_cons_eq_if_modifyHead] at member
      by_cases breaks : rules.isBreak first = true
      · rw [if_pos breaks] at member
        rcases List.mem_cons.mp member with rfl | later
        · cases inLine
        · exact (inductionHypothesis later character inLine).imp_left (List.mem_cons_of_mem first)
      · rw [if_neg breaks] at member
        rcases List.exists_cons_of_ne_nil (List.splitOnP_ne_nil rules.isBreak rest) with
          ⟨head, others, split⟩
        rw [split, List.modifyHead_cons] at member
        rw [split] at inductionHypothesis
        rcases List.mem_cons.mp member with rfl | later
        · rcases List.mem_cons.mp inLine with rfl | inHead
          · exact ⟨List.mem_cons_self, Bool.eq_false_iff.mpr breaks⟩
          · exact (inductionHypothesis List.mem_cons_self character inHead).imp_left
              (List.mem_cons_of_mem first)
        · exact (inductionHypothesis (List.mem_cons_of_mem _ later) character inLine).imp_left
            (List.mem_cons_of_mem first)

/-! ## Blanks around a line -/

/-- A line without the blanks on both sides. -/
def trim (line : List Char) : List Char :=
  rules.trimEnd (rules.trimFront line)

theorem trim_of_blanks {blanks : List Char} (blank : rules.AllBlank blanks) (line : List Char) :
    rules.trim (blanks ++ line) = rules.trim line :=
  congrArg rules.trimEnd (List.dropWhile_append_of_pos blank)

theorem map_trim_lines_of_blanks {blanks : List Char} (blank : rules.AllBlank blanks)
    (raw : List Char) :
    (rules.lines (blanks ++ raw)).map rules.trim = (rules.lines raw).map rules.trim := by
  induction blanks with
  | nil => rfl
  | cons first others inductionHypothesis =>
      rcases List.forall_mem_cons.mp blank with ⟨firstBlank, othersBlank⟩
      rw [← inductionHypothesis othersBlank]
      have unbroken : ¬ rules.isBreak first = true :=
        Bool.eq_false_iff.mp (rules.apart first firstBlank)
      unfold lines
      rw [List.cons_append, List.splitOnP_cons_eq_if_modifyHead, if_neg unbroken]
      rcases List.exists_cons_of_ne_nil
        (List.splitOnP_ne_nil rules.isBreak (others ++ raw)) with ⟨head, later, split⟩
      have alone : rules.AllBlank [first] :=
        List.forall_mem_singleton.mpr firstBlank
      have trimmed : rules.trim (first :: head) = rules.trim head := rules.trim_of_blanks alone head
      rw [split, List.modifyHead_cons, List.map_cons, List.map_cons, trimmed]

theorem trim_sublist_trimFront (line : List Char) :
    (rules.trim line).Sublist (rules.trimFront line) := by
  have begins := List.rdropWhile_prefix rules.isBlank (rules.trimFront line)
  exact begins.sublist

theorem trimFront_sublist (line : List Char) : (rules.trimFront line).Sublist line :=
  List.dropWhile_sublist rules.isBlank

theorem trimFront_eq_self_iff {line : List Char} :
    rules.trimFront line = line ↔ ∀ character ∈ line.head?, rules.isBlank character = false := by
  rw [trimFront, List.dropWhile_eq_self_iff]
  cases line with
  | nil => exact ⟨fun _ _ none => absurd none (Option.not_mem_none _),
      fun _ none => absurd none (Nat.lt_irrefl 0)⟩
  | cons first rest => simp only [List.length_cons, Nat.zero_lt_succ, List.getElem_cons_zero,
      true_implies, Bool.not_eq_true, List.head?_cons, Option.mem_some_iff, forall_eq']

theorem trimEnd_eq_self_iff {line : List Char} :
    rules.trimEnd line = line ↔ ∀ character ∈ line.getLast?, rules.isBlank character = false := by
  have mirrored : rules.trimEnd line = line ↔ rules.trimFront line.reverse = line.reverse :=
    List.reverse_eq_iff
  rw [mirrored, trimFront_eq_self_iff, List.head?_reverse]

/-- A line stays as it is when there are no blanks at its ends. -/
theorem trim_eq_self_iff {line : List Char} :
    rules.trim line = line ↔ (∀ character ∈ line.head?, rules.isBlank character = false) ∧
      ∀ character ∈ line.getLast?, rules.isBlank character = false := by
  rw [← trimFront_eq_self_iff, ← trimEnd_eq_self_iff]
  constructor
  · intro kept
    have inFront := rules.trim_sublist_trimFront line
    rw [kept] at inFront
    have whole : rules.trimFront line = line := (rules.trimFront_sublist line).antisymm inFront
    rw [trim, whole] at kept
    exact ⟨whole, kept⟩
  · rintro ⟨noneInFront, noneBehind⟩
    rw [trim, noneInFront, noneBehind]

/-! ## Texts in lines of their own -/

/-- Texts one below the other, each behind a line break and some blanks. -/
def laid (blanks : List Char) (texts : List String) : List Char :=
  texts.flatMap fun text => '\n' :: (blanks ++ text.toList)

/-- The lines of some texts, without the blanks around them. -/
def textLines (texts : List String) : List (List Char) :=
  (texts.flatMap fun text => rules.lines text.toList).map rules.trim

theorem lines_laid (raw blanks : List Char) (texts : List String) :
    rules.lines (raw ++ laid blanks texts) =
      rules.lines raw ++ texts.flatMap fun text => rules.lines (blanks ++ text.toList) := by
  induction texts generalizing raw with
  | nil => rw [laid, List.flatMap_nil, List.flatMap_nil, List.append_nil, List.append_nil]
  | cons text rest inductionHypothesis =>
      have onward := inductionHypothesis (raw ++ '\n' :: (blanks ++ text.toList))
      rw [lines_append_break] at onward
      rw [laid, List.flatMap_cons, List.flatMap_cons, ← List.append_assoc, ← List.append_assoc]
      exact onward

theorem trimLines_framed (middle : List (List Char)) (last : List Char) :
    rules.trimLines ([] :: (middle ++ [last])) =
      [] :: (middle.map rules.trim ++ [rules.trimFront last]) := by
  have begun : ([] :: (middle ++ [last])).head?.toList ++
      ([] :: (middle ++ [last])).tail.map rules.trimFront =
        ([] :: middle.map rules.trimFront) ++ [rules.trimFront last] := by
    rw [List.tail_cons, List.map_append]
    rfl
  unfold trimLines
  simp only [begun, List.dropLast_concat, List.getLast?_concat, Option.toList_some, List.map_cons,
    List.map_map]
  rfl

theorem joinLines_framed (middle : List (List Char)) :
    joinLines ([] :: (middle ++ [[]])) = joinLines middle := by
  unfold joinLines
  rw [List.filter_cons_of_neg Bool.false_ne_true, List.filter_append]
  exact congrArg _ (List.append_nil _)

/-- Laying texts out in lines of their own does not show: they are read as their lines,
with one space between neighbours. -/
theorem shown_laid {inner outer : List Char} (innerBlank : rules.AllBlank inner)
    (outerBlank : rules.AllBlank outer) (texts : List String) :
    rules.shown (laid inner texts ++ '\n' :: outer) = joinLines (rules.textLines texts) := by
  have begun : rules.lines (laid inner texts) =
      [] :: texts.flatMap fun text => rules.lines (inner ++ text.toList) :=
    rules.lines_laid [] inner texts
  have ended : rules.lines outer = [outer] := rules.lines_of_unbroken outerBlank.unbroken
  have layout : rules.trimFront outer = [] := List.dropWhile_eq_nil_iff.mpr outerBlank
  rw [shown, lines_append_break, begun, ended, List.cons_append, trimLines_framed, layout,
    joinLines_framed, textLines, List.map_flatMap, List.map_flatMap]
  simp only [rules.map_trim_lines_of_blanks innerBlank]

/-! ## Joined lines -/

theorem joinLines_singleton (line : List Char) : joinLines [line] = line := by
  cases line with
  | nil => rfl
  | cons first rest => exact List.append_nil _

/-- The lines that are not empty, each with a gap in front: the given one for the
first of them, and a space for the others. -/
def following (gap : List Char) : List (List Char) → List Char
  | [] => []
  | line :: rest => if line = [] then following gap rest else gap ++ (line ++ following [' '] rest)

theorem following_eq (gap : List Char) (lines : List (List Char)) :
    following gap lines =
      if (lines.filter fun line => !line.isEmpty) = [] then [] else gap ++ joinLines lines := by
  unfold joinLines
  induction lines generalizing gap with
  | nil => rfl
  | cons line rest inductionHypothesis =>
      cases line with
      | nil => exact inductionHypothesis gap
      | cons first others =>
          rw [following, if_neg (List.cons_ne_nil _ _), inductionHypothesis,
            List.filter_cons_of_pos rfl, if_neg (List.cons_ne_nil _ _)]
          split
          · rename_i last
            rw [last, List.intercalate_singleton, List.append_nil]
          · rename_i more
            rw [List.intercalate_cons_of_ne_nil more, List.append_assoc]

theorem joinLines_eq_following (lines : List (List Char)) : joinLines lines = following [] lines := by
  rw [following_eq]
  split
  · rename_i none
    rw [joinLines, none]
    rfl
  · rfl

theorem mem_following {gap : List Char} {lines : List (List Char)} {character : Char}
    (member : character ∈ following gap lines) :
    character ∈ gap ∨ character = ' ' ∨ ∃ line ∈ lines, character ∈ line := by
  induction lines generalizing gap with
  | nil => cases member
  | cons line rest inductionHypothesis =>
      rw [following] at member
      split at member
      · refine (inductionHypothesis member).imp_right (Or.imp_right ?_)
        exact fun ⟨other, listed, inside⟩ => ⟨other, List.mem_cons_of_mem _ listed, inside⟩
      · rcases List.mem_append.mp member with inGap | later
        · exact Or.inl inGap
        rcases List.mem_append.mp later with inLine | further
        · exact Or.inr (Or.inr ⟨line, List.mem_cons_self, inLine⟩)
        rcases inductionHypothesis further with isSpace | isSpace | ⟨other, listed, inside⟩
        · exact Or.inr (Or.inl (List.mem_singleton.mp isSpace))
        · exact Or.inr (Or.inl isSpace)
        · exact Or.inr (Or.inr ⟨other, List.mem_cons_of_mem _ listed, inside⟩)

/-! ## Texts that are read as they are -/

/-- The blanks at the end of a line that has more than blanks. -/
def endBlanks (line : List Char) : List Char :=
  (rules.trimFront line).rtakeWhile rules.isBlank

/-- The gap in front of the first line with more than blanks is as given, the gaps
between such lines are single spaces, and no blank follows the last one.  Blanks that
have been met since the last such line are pending. -/
def Spaced (gap pending : List Char) : List (List Char) → Prop
  | [] => pending = []
  | line :: rest =>
    if rules.trim line = [] then Spaced gap (pending ++ line) rest
    else pending ++ line.takeWhile rules.isBlank = gap ∧ Spaced [' '] (rules.endBlanks line) rest

instance decidableSpaced (gap pending : List Char) :
    (lines : List (List Char)) → Decidable (rules.Spaced gap pending lines)
  | [] => inferInstanceAs (Decidable (pending = []))
  | line :: rest =>
    have := decidableSpaced gap (pending ++ line) rest
    have := decidableSpaced [' '] (rules.endBlanks line) rest
    inferInstanceAs (Decidable (if rules.trim line = [] then _ else _))

theorem isBlank_head_trimFront {line rest : List Char} {first : Char}
    (trimmed : rules.trimFront line = first :: rest) : rules.isBlank first = false := by
  have kept := List.head?_dropWhile_not rules.isBlank line
  rw [trimFront] at trimmed
  rw [trimmed] at kept
  exact kept

theorem isBlank_head_trim {line rest : List Char} {first : Char}
    (trimmed : rules.trim line = first :: rest) : rules.isBlank first = false := by
  have whole : rules.trim line ++ rules.endBlanks line = rules.trimFront line :=
    List.rdropWhile_append_rtakeWhile
  rw [trimmed, List.cons_append] at whole
  exact rules.isBlank_head_trimFront whole.symm

theorem allBlank_of_trim_eq_nil {line : List Char} (empty : rules.trim line = []) :
    rules.AllBlank line := by
  cases begun : rules.trimFront line with
  | nil => exact List.dropWhile_eq_nil_iff.mp begun
  | cons first rest =>
      have all := List.rdropWhile_eq_nil_iff.mp empty first (begun ▸ List.mem_cons_self)
      rw [rules.isBlank_head_trimFront begun] at all
      cases all

theorem blanks_trim_endBlanks (line : List Char) :
    line = line.takeWhile rules.isBlank ++ (rules.trim line ++ rules.endBlanks line) := by
  rw [trim, trimEnd, endBlanks, List.rdropWhile_append_rtakeWhile, trimFront,
    List.takeWhile_append_dropWhile]

/-- Two lists with one and the same first mark agree up to it and behind it. -/
theorem append_cons_inj_of_first {mark : Char} {before other behind rest : List Char}
    (fresh : mark ∉ before) (otherFresh : mark ∉ other)
    (same : before ++ mark :: behind = other ++ mark :: rest) : before = other ∧ behind = rest := by
  induction before generalizing other with
  | nil =>
      cases other with
      | nil => exact ⟨rfl, (List.cons.inj same).2⟩
      | cons first later => exact absurd ((List.cons.inj same).1 ▸ List.mem_cons_self) otherFresh
  | cons first later inductionHypothesis =>
      cases other with
      | nil => exact absurd ((List.cons.inj same).1 ▸ List.mem_cons_self) fresh
      | cons second others =>
          rcases List.cons.inj same with ⟨rfl, tails⟩
          rcases inductionHypothesis (fun member => fresh (List.mem_cons_of_mem _ member))
            (fun member => otherFresh (List.mem_cons_of_mem _ member)) tails with ⟨rfl, behindSame⟩
          exact ⟨rfl, behindSame⟩

theorem following_eq_flatten_iff {gap pending : List Char} (gapBlank : rules.AllBlank gap)
    (pendingBlank : rules.AllBlank pending) (lines : List (List Char)) :
    following gap (lines.map rules.trim) = pending ++ lines.flatten ↔
      rules.Spaced gap pending lines := by
  induction lines generalizing gap pending with
  | nil =>
      rw [List.map_nil, following, List.flatten_nil, List.append_nil, Spaced]
      exact eq_comm
  | cons line rest inductionHypothesis =>
      rw [List.map_cons, following, List.flatten_cons, Spaced]
      by_cases empty : rules.trim line = []
      · rw [if_pos empty, if_pos empty, ← List.append_assoc]
        refine inductionHypothesis gapBlank ?_
        exact List.forall_mem_append.mpr ⟨pendingBlank, rules.allBlank_of_trim_eq_nil empty⟩
      · rw [if_neg empty, if_neg empty]
        rcases List.exists_cons_of_ne_nil empty with ⟨first, others, trimmed⟩
        have notBlank := rules.isBlank_head_trim trimmed
        have frontBlank : rules.AllBlank (pending ++ line.takeWhile rules.isBlank) :=
          List.forall_mem_append.mpr ⟨pendingBlank, fun _ member => List.mem_takeWhile_imp member⟩
        have endBlank : rules.AllBlank (rules.endBlanks line) :=
          fun _ member => List.mem_rtakeWhile_imp member
        have spaceBlank : rules.AllBlank [' '] :=
          List.forall_mem_singleton.mpr rules.blank_space
        have unmet {blanks : List Char} (blank : rules.AllBlank blanks) : first ∉ blanks :=
          fun member => Bool.false_ne_true (notBlank.symm.trans (blank first member))
        have onward := inductionHypothesis spaceBlank endBlank
        -- both sides are compared at the first character of the line that is no blank
        have written : pending ++ (line ++ rest.flatten) =
            (pending ++ line.takeWhile rules.isBlank) ++
              first :: (others ++ (rules.endBlanks line ++ rest.flatten)) := by
          conv_lhs => rw [rules.blanks_trim_endBlanks line, trimmed]
          simp only [List.append_assoc, List.cons_append]
        rw [written, ← onward, trimmed, List.cons_append]
        constructor
        · intro same
          rcases append_cons_inj_of_first (unmet gapBlank) (unmet frontBlank) same with
            ⟨gaps, tails⟩
          exact ⟨gaps.symm, List.append_cancel_left tails⟩
        · rintro ⟨gaps, tails⟩
          rw [gaps, tails]

/-- Texts without line breaks, with one space between neighbours, at the end of the one or
in front of the other, and no blank before the first or behind the last.  A text of blanks
is part of the gap in which it stands. -/
structure Seamless (texts : List String) : Prop where
  unbroken : ∀ text ∈ texts, rules.Unbroken text.toList
  spaced : rules.Spaced [] [] (texts.map String.toList)

instance (texts : List String) : Decidable (rules.Seamless texts) :=
  decidable_of_iff ((∀ text ∈ texts, rules.Unbroken text.toList) ∧
      rules.Spaced [] [] (texts.map String.toList))
    ⟨fun both => ⟨both.1, both.2⟩, fun seamless => ⟨seamless.unbroken, seamless.spaced⟩⟩

theorem textLines_of_unbroken {texts : List String}
    (unbroken : ∀ text ∈ texts, rules.Unbroken text.toList) :
    rules.textLines texts = (texts.map String.toList).map rules.trim := by
  induction texts with
  | nil => rfl
  | cons text rest inductionHypothesis =>
      rcases List.forall_mem_cons.mp unbroken with ⟨first, others⟩
      have later := inductionHypothesis others
      rw [textLines] at later
      rw [textLines, List.flatMap_cons, rules.lines_of_unbroken first, List.map_append, later]
      rfl

theorem mem_of_mem_joinLines {texts : List String} {character : Char}
    (seen : character ∈ joinLines (rules.textLines texts)) :
    character = ' ' ∨
      ∃ text ∈ texts, character ∈ text.toList ∧ rules.isBreak character = false := by
  rw [joinLines_eq_following] at seen
  rcases mem_following seen with none | isSpace | ⟨line, inLines, inLine⟩
  · cases none
  · exact Or.inl isSpace
  · rcases List.mem_map.mp inLines with ⟨whole, isLine, rfl⟩
    rcases List.mem_flatMap.mp isLine with ⟨text, listed, ofText⟩
    have inWhole := (rules.trimFront_sublist whole).subset
      ((rules.trim_sublist_trimFront whole).subset inLine)
    exact Or.inr ⟨text, listed, rules.unbroken_of_mem_lines ofText character inWhole⟩

/-- Texts are read as what they are together when they are spaced as they are read. -/
theorem joinLines_textLines_eq_iff {texts : List String} :
    joinLines (rules.textLines texts) = texts.flatMap String.toList ↔ rules.Seamless texts := by
  have spacing (unbroken : ∀ text ∈ texts, rules.Unbroken text.toList) :
      joinLines (rules.textLines texts) = texts.flatMap String.toList ↔
        rules.Spaced [] [] (texts.map String.toList) := by
    rw [rules.textLines_of_unbroken unbroken, joinLines_eq_following,
      ← rules.following_eq_flatten_iff rules.allBlank_nil rules.allBlank_nil, List.nil_append,
      List.flatMap_def]
  constructor
  · intro same
    have unbroken : ∀ text ∈ texts, rules.Unbroken text.toList := by
      intro text listed character inText
      have seen : character ∈ joinLines (rules.textLines texts) :=
        same ▸ List.mem_flatMap.mpr ⟨text, listed, inText⟩
      rcases rules.mem_of_mem_joinLines seen with rfl | ⟨_, _, _, kept⟩
      · exact rules.apart ' ' rules.blank_space
      · exact kept
    exact ⟨unbroken, (spacing unbroken).mp same⟩
  · exact fun seamless => (spacing seamless.unbroken).mpr seamless.spaced

/-- A text without line breaks and without blanks at its ends. -/
structure Tight (text : String) : Prop where
  unbroken : rules.Unbroken text.toList
  front : ∀ character ∈ text.toList.head?, rules.isBlank character = false
  back : ∀ character ∈ text.toList.getLast?, rules.isBlank character = false

theorem seamless_singleton_iff {text : String} : rules.Seamless [text] ↔ rules.Tight text := by
  have single (unbroken : rules.Unbroken text.toList) :
      rules.Seamless [text] ↔ rules.trim text.toList = text.toList := by
    rw [← joinLines_textLines_eq_iff, textLines, List.flatMap_singleton, List.flatMap_singleton,
      rules.lines_of_unbroken unbroken, List.map_singleton, joinLines_singleton]
  constructor
  · intro seamless
    have unbroken := seamless.unbroken text (List.mem_singleton_self text)
    rcases rules.trim_eq_self_iff.mp ((single unbroken).mp seamless) with ⟨front, back⟩
    exact ⟨unbroken, front, back⟩
  · intro tight
    exact (single tight.unbroken).mpr (rules.trim_eq_self_iff.mpr ⟨tight.front, tight.back⟩)

end TextRules
end ComponentCompiler
