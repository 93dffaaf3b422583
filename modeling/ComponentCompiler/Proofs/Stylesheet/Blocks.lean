import ComponentCompiler.Proofs.Script.ReadBack
import ComponentCompiler.Proofs.Stylesheet.Declared
import ComponentCompiler.Proofs.Text.Join
import Mathlib.Algebra.GroupWithZero.Nat

namespace ComponentCompiler
namespace Stylesheet

open Script

/-!
# Rules as a sequence of blocks

A style is a tree of maps, and its rules stand one behind the other.  The maps are
taken from the outside to the inside and in the order of the entries.  Each of them
that has an entry of its own becomes one block, on the selector with the keys that
lead to the map; one that has none leaves nothing but an empty line.

A text that is laid out in blocks can be put together from such texts, whatever
empty lines they have.  So the rules of a map are laid out by induction on the map.
-/

/-! ## The maps of a style -/

/-- A map inside a style, with the keys that lead to it. -/
structure PlacedMap where
  path : List String
  entries : List (Key × Value)

mutual

/-- The maps of a value at the end of a path, each in front of those inside it. -/
def mapsAt (path : List String) : Value → List PlacedMap
  | .map entries => ⟨path, entries⟩ :: mapsInside path entries
  | _ => []

/-- The maps inside the entries of a map, in the order of the entries. -/
def mapsInside (path : List String) : List (Key × Value) → List PlacedMap
  | [] => []
  | (.text name, value) :: rest => mapsAt (path ++ [name]) value ++ mapsInside path rest
  | _ :: rest => mapsInside path rest

end

/-- One rule: a selector with some declarations. -/
structure Block where
  selector : String
  declared : List (String × Value)

/-- The text of a rule, with each declaration on a line of its own. -/
def Block.text (block : Block) : String :=
  block.selector ++ " \x7b\n" ++
    Text.joinWith "\n" (block.declared.map fun entry => declaration entry.1 entry.2) ++ "\n\x7d"

/-- A selector with the keys of a path behind it, each without one leading ampersand. -/
def selectorAlong (selector : String) (path : List String) : String :=
  path.foldl (fun extended key => extended ++ selectorSuffix key) selector

/-- The entries of a map that are no maps. -/
def PlacedMap.declared (place : PlacedMap) : List (String × Value) :=
  place.entries.filterMap declared?

/-- The rule of a map, when an entry of the map is no map. -/
def PlacedMap.block? (selector : String) (place : PlacedMap) : Option Block :=
  if place.declared.isEmpty then none
  else some ⟨selectorAlong selector place.path, place.declared⟩

/-- The rules of a style in order. -/
def blocks (selector : String) (styles : List (Key × Value)) : List Block :=
  (mapsAt [] (.map styles)).filterMap (PlacedMap.block? selector)

theorem selectorAlong_concat (selector name : String) (path : List String) :
    selectorAlong selector (path ++ [name]) = selectorAlong selector path ++ selectorSuffix name := by
  rw [selectorAlong, List.foldl_append]
  rfl

theorem Block.text_ne_empty (block : Block) : block.text ≠ "" := by
  intro empty
  have lengths := congrArg String.length empty
  unfold Block.text at lengths
  simp only [String.length_append] at lengths
  have brace : "\n\x7d".length = 2 := by decide
  have nothing : "".length = 0 := by decide
  omega

/-! ## Texts in blocks -/

/-- The text has the blocks in order, each on lines of its own, and nothing else but
empty lines. -/
def LaidOut (text : String) (blocks : List Block) : Prop :=
  ∃ lines, text = Text.joinWith "\n" lines ∧ lines.filter (· ≠ "") = blocks.map Block.text

namespace LaidOut

/-- The lines of a laid out text can be taken to be at least one. -/
theorem exists_lines {text : String} {blocks : List Block} (laidOut : LaidOut text blocks) :
    ∃ lines, lines ≠ [] ∧ text = Text.joinWith "\n" lines ∧
      lines.filter (· ≠ "") = blocks.map Block.text := by
  rcases laidOut with ⟨lines, rfl, kept⟩
  cases lines with
  | nil => exact ⟨[""], List.cons_ne_nil _ _, rfl, kept⟩
  | cons line rest => exact ⟨line :: rest, List.cons_ne_nil _ _, rfl, kept⟩

theorem empty : LaidOut "" [] :=
  ⟨[], rfl, rfl⟩

theorem block (block : Block) : LaidOut block.text [block] := by
  refine ⟨[block.text], rfl, ?_⟩
  simp [block.text_ne_empty]

/-- Laid out texts on lines below each other. -/
theorem below {first second : String} {early late : List Block} (above : LaidOut first early)
    (under : LaidOut second late) : LaidOut (first ++ "\n" ++ second) (early ++ late) := by
  rcases above.exists_lines with ⟨lines, nonempty, rfl, kept⟩
  rcases under.exists_lines with ⟨others, someOthers, rfl, keptOthers⟩
  refine ⟨lines ++ others, (Text.joinWith_append "\n" nonempty someOthers).symm, ?_⟩
  rw [List.filter_append, kept, keptOthers, List.map_append]

theorem joined {texts : List String} {parts : List (List Block)}
    (each : List.Forall₂ LaidOut texts parts) :
    LaidOut (Text.joinWith "\n" texts) parts.flatten := by
  induction each with
  | nil => exact empty
  | @cons text part texts parts first rest inductionHypothesis =>
      cases rest with
      | nil =>
          rw [List.flatten_cons, List.flatten_nil, List.append_nil]
          exact first
      | cons second later => exact first.below inductionHypothesis

end LaidOut

/-! ## The rules of a map -/

/-- Only a map under a name has a rule. -/
theorem of_nestedRule?_eq_some {selector : String} {key : Key} {value : Value} {rule : StyleRule}
    (found : nestedRule? selector key value = some rule) :
    ∃ name inner, key = .text name ∧ value = .map inner ∧
      rule = ruleTree (selector ++ selectorSuffix name) inner := by
  have listed : rule ∈ nestedRules selector [(key, value)] := by
    rw [nestedRules, found]
    exact List.mem_cons_self
  rcases mem_nestedRules.mp listed with ⟨name, inner, member, same⟩
  cases List.mem_singleton.mp member
  exact ⟨name, inner, rfl, rfl, same⟩

/-- An entry without a rule holds no map. -/
theorem mapsInside_of_nestedRule?_eq_none {selector : String} {key : Key} {value : Value}
    (absent : nestedRule? selector key value = none) (path : List String)
    (rest : List (Key × Value)) : mapsInside path ((key, value) :: rest) = mapsInside path rest := by
  cases key with
  | text name =>
      cases value with
      | map inner =>
          rw [nestedRule?] at absent
          cases absent
      | _ => simp only [mapsInside, mapsAt, List.nil_append]
  | _ => simp only [mapsInside]

/-- The rules of the maps among some entries are laid out when each of them is. -/
theorem exists_laidOut_nested {selector : String} {entries : List (Key × Value)}
    (each : ∀ entry ∈ entries, ∀ inner, entry.2 = .map inner → ∀ path,
      LaidOut (ruleTree (selectorAlong selector path) inner).text
        ((mapsAt path entry.2).filterMap (PlacedMap.block? selector))) (path : List String) :
    ∃ parts, List.Forall₂ LaidOut
        (StyleRule.texts (nestedRules (selectorAlong selector path) entries)) parts ∧
      parts.flatten = (mapsInside path entries).filterMap (PlacedMap.block? selector) := by
  induction entries with
  | nil =>
      rw [nestedRules, StyleRule.texts, mapsInside]
      exact ⟨[], .nil, rfl⟩
  | cons entry rest inductionHypothesis =>
      rcases entry with ⟨key, value⟩
      rw [List.forall_mem_cons] at each
      rcases inductionHypothesis each.2 with ⟨parts, later, flattened⟩
      cases found : nestedRule? (selectorAlong selector path) key value with
      | none =>
          rw [nestedRules, found, mapsInside_of_nestedRule?_eq_none found]
          exact ⟨parts, later, flattened⟩
      | some rule =>
          rcases of_nestedRule?_eq_some found with ⟨name, inner, rfl, rfl, rfl⟩
          have first := each.1 inner rfl (path ++ [name])
          rw [selectorAlong_concat] at first
          rw [nestedRules, found, mapsInside, List.filterMap_append, ← flattened]
          exact ⟨_, .cons first later, List.flatten_cons⟩

/-- The rules of a map at the end of a path are laid out in the blocks of the maps
from there on. -/
theorem laidOut_ruleTree (selector : String) (value : Value) : ∀ entries, value = .map entries →
    ∀ path, LaidOut (ruleTree (selectorAlong selector path) entries).text
      ((mapsAt path value).filterMap (PlacedMap.block? selector)) := by
  induction value using Value.parts_induction with
  | step value inside =>
      rintro entries rfl path
      obtain ⟨parts, nested, flattened⟩ := exists_laidOut_nested
        (fun entry member inner isMap => inside entry.2 (List.mem_map_of_mem member) inner isMap) path
      rw [mapsAt, ruleTree, StyleRule.text, ruleText]
      by_cases bare : (entries.filterMap declared?).isEmpty = true
      · have noBlock : PlacedMap.block? selector ⟨path, entries⟩ = none := if_pos bare
        rw [List.filterMap_cons_none noBlock, ← flattened, List.isEmpty_map, if_pos bare,
          List.nil_append]
        exact LaidOut.joined nested
      · have own : PlacedMap.block? selector ⟨path, entries⟩ =
            some ⟨selectorAlong selector path, entries.filterMap declared?⟩ := if_neg bare
        have whole := LaidOut.joined (.cons (LaidOut.block
          ⟨selectorAlong selector path, entries.filterMap declared?⟩) nested)
        rw [List.filterMap_cons_some own, ← flattened, List.isEmpty_map, if_neg bare,
          List.singleton_append]
        exact whole

/-! ## Which styles have rules -/

mutual

/-- Whether all keys of the maps inside a value are text, and no map stands inside
itself. -/
def isStyle : Value → Bool
  | .map entries => areStyles entries
  | .enclosing _ (some (.map _)) => false
  | _ => true

def areStyles : List (Key × Value) → Bool
  | [] => true
  | (.text _, value) :: rest => isStyle value && areStyles rest
  | _ :: _ => false

end

theorem areStyles_iff {entries : List (Key × Value)} :
    areStyles entries = true ↔
      ∀ entry ∈ entries, (∃ name, entry.1 = .text name) ∧ isStyle entry.2 = true := by
  induction entries with
  | nil => simp only [areStyles, List.not_mem_nil, false_implies, implies_true]
  | cons entry rest inductionHypothesis =>
      rcases entry with ⟨key, value⟩
      rw [List.forall_mem_cons, ← inductionHypothesis]
      cases key with
      | text name => simp only [areStyles, Bool.and_eq_true, Key.text.injEq, exists_eq', true_and]
      | _ => simp only [areStyles, Bool.false_eq_true, reduceCtorEq, exists_false, false_and]

/-- What is no map and can be written stands under a name. -/
theorem isStyle_of_other {selector : String} {key : Key} {value : Value}
    (noMap : ∀ entries, value ≠ .map entries) {part : Contribution}
    (written : contribution selector key value = .ok part) :
    (∃ name, key = .text name) ∧ isStyle value = true := by
  have noEndless : ∀ distance entries, value ≠ .enclosing distance (some (.map entries)) := by
    rintro distance entries rfl
    cases written
  constructor
  · cases key with
    | text name => exact ⟨name, rfl⟩
    | _ =>
        rw [contribution] at written
        · cases written
        · exact noMap
        · exact noEndless
        · intro name impossible
          cases impossible
  · rw [isStyle]
    · exact noMap
    · exact noEndless

/-- What can be written is a style under a name. -/
theorem isStyle_of_contribution (value : Value) : ∀ selector key part,
    contribution selector key value = .ok part →
      (∃ name, key = .text name) ∧ isStyle value = true := by
  induction value using Value.parts_induction with
  | step value inside =>
      intro selector key part written
      by_cases isMap : ∃ entries, value = .map entries
      · rcases isMap with ⟨entries, rfl⟩
        cases key with
        | text name =>
            refine ⟨⟨name, rfl⟩, ?_⟩
            rw [contribution] at written
            rcases bind_eq_ok_iff.mp written with ⟨parts, made, _⟩
            rw [isStyle, areStyles_iff]
            intro entry member
            rcases exists_ruleParts_iff.mp ⟨parts, made⟩ entry member with ⟨inner, contributed⟩
            exact inside entry.2 (List.mem_map_of_mem member) _ _ _ contributed
        | _ => cases written
      · exact isStyle_of_other (fun entries same => isMap ⟨entries, same⟩) written

theorem writes_ruleParts {selector : String} {entries : List (Key × Value)}
    (styles : areStyles entries = true)
    (each : ∀ entry ∈ entries, ∀ name, Writes (contribution selector (.text name) entry.2)
      (holdsTooLong entry.2) fun _ => True) :
    Writes (ruleParts selector entries) (entriesHoldTooLong entries) fun _ => True := by
  induction entries with
  | nil =>
      rw [ruleParts, entriesHoldTooLong]
      exact Writes.ok trivial
  | cons entry rest inductionHypothesis =>
      rcases entry with ⟨key, value⟩
      rw [areStyles_iff, List.forall_mem_cons] at styles
      rcases styles with ⟨⟨⟨name, rfl⟩, _⟩, others⟩
      rw [List.forall_mem_cons] at each
      simp only [ruleParts, entriesHoldTooLong, Bool.false_or]
      apply (each.1 name).bind
      intro part _
      have later := inductionHypothesis (areStyles_iff.mpr others) each.2
      cases part with
      | declared text => exact later.map fun _ _ => trivial
      | nested text => exact later.map fun _ _ => trivial

/-- A style under a name is written, unless it holds a whole number of too many digits. -/
theorem writes_contribution (value : Value) : isStyle value = true → ∀ selector name,
    Writes (contribution selector (.text name) value) (holdsTooLong value) fun _ => True := by
  induction value using Value.parts_induction with
  | step value inside =>
      intro style selector name
      by_cases isMap : ∃ entries, value = .map entries
      · rcases isMap with ⟨entries, rfl⟩
        rw [isStyle] at style
        rw [contribution, holdsTooLong]
        refine (writes_ruleParts style fun entry member => ?_).map fun _ _ => trivial
        exact inside entry.2 (List.mem_map_of_mem member) (areStyles_iff.mp style entry member).2 _
      · rw [contribution]
        · cases holdsTooLong value with
          | true => rfl
          | false => exact Writes.ok trivial
        · exact fun entries same => isMap ⟨entries, same⟩
        · rintro distance entries rfl
          cases style

theorem writes_rule {styles : List (Key × Value)} (style : isStyle (.map styles) = true)
    (selector : String) :
    Writes (rule selector styles) (holdsTooLong (.map styles)) fun _ => True := by
  rw [isStyle] at style
  rw [holdsTooLong]
  refine (writes_ruleParts style fun entry member => ?_).map fun _ _ => trivial
  exact writes_contribution entry.2 (areStyles_iff.mp style entry member).2 selector

theorem rule_eq_error_of_tooLong {styles : List (Key × Value)}
    (style : isStyle (.map styles) = true) (tooLong : holdsTooLong (.map styles) = true)
    (selector : String) : rule selector styles = .error .tooManyDigits := by
  have writes := writes_rule style selector
  rw [tooLong] at writes
  exact writes

theorem isStyle_of_rule {selector : String} {styles : List (Key × Value)} {text : String}
    (written : rule selector styles = .ok text) : isStyle (.map styles) = true := by
  rcases bind_eq_ok_iff.mp written with ⟨parts, made, _⟩
  rw [isStyle, areStyles_iff]
  intro entry member
  rcases exists_ruleParts_iff.mp ⟨parts, made⟩ entry member with ⟨part, contributed⟩
  exact isStyle_of_contribution entry.2 _ _ _ contributed

/-! ## How many declarations there are -/

mutual

/-- The number of values inside a style that are no maps. -/
def leafCount : Value → Nat
  | .map entries => leafCounts entries
  | _ => 1

def leafCounts : List (Key × Value) → Nat
  | [] => 0
  | (_, value) :: rest => leafCount value + leafCounts rest

end

/-- The declarations of the maps at some places. -/
def declaredCount (places : List PlacedMap) : Nat :=
  (places.map fun place => place.declared.length).sum

theorem sum_declared_blocks (selector : String) (places : List PlacedMap) :
    ((places.filterMap (PlacedMap.block? selector)).map fun block => block.declared.length).sum =
      declaredCount places := by
  induction places with
  | nil => rfl
  | cons place rest inductionHypothesis =>
      rw [declaredCount, List.map_cons, List.sum_cons, ← declaredCount, ← inductionHypothesis]
      by_cases bare : place.declared.isEmpty = true
      · have noBlock : place.block? selector = none := if_pos bare
        rw [List.filterMap_cons_none noBlock, List.isEmpty_iff.mp bare, List.length_nil,
          Nat.zero_add]
      · have own : place.block? selector =
            some ⟨selectorAlong selector place.path, place.declared⟩ := if_neg bare
        rw [List.filterMap_cons_some own, List.map_cons, List.sum_cons]

theorem declaredCount_append (first second : List PlacedMap) :
    declaredCount (first ++ second) = declaredCount first + declaredCount second := by
  rw [declaredCount, List.map_append, List.sum_append]
  rfl

/-- An entry is declared by its own map, or else it is a map and its values are
declared inside it. -/
theorem length_declared_add_count {entries : List (Key × Value)}
    (named : ∀ entry ∈ entries, ∃ name, entry.1 = .text name)
    (each : ∀ entry ∈ entries, ∀ inner, entry.2 = .map inner → ∀ path,
      declaredCount (mapsAt path entry.2) = leafCount entry.2) (path : List String) :
    (entries.filterMap declared?).length + declaredCount (mapsInside path entries) =
      leafCounts entries := by
  induction entries with
  | nil =>
      rw [mapsInside, leafCounts]
      rfl
  | cons entry rest inductionHypothesis =>
      rcases entry with ⟨key, value⟩
      rw [List.forall_mem_cons] at named each
      rcases named with ⟨⟨name, rfl⟩, othersNamed⟩
      have later := inductionHypothesis othersNamed each.2
      rw [mapsInside, declaredCount_append, leafCounts]
      by_cases isMap : ∃ inner, value = .map inner
      · rcases isMap with ⟨inner, rfl⟩
        have first : declaredCount (mapsAt (path ++ [name]) (.map inner)) =
            leafCount (.map inner) := each.1 inner rfl (path ++ [name])
        have nested : declared? (.text name, .map inner) = none := rfl
        rw [List.filterMap_cons_none nested]
        omega
      · have noMap : ∀ inner, value ≠ .map inner := fun inner same => isMap ⟨inner, same⟩
        have declares : declared? (.text name, value) = some (name, value) := by
          rw [declared?]
          exact noMap
        have noMaps : declaredCount (mapsAt (path ++ [name]) value) = 0 := by
          rw [mapsAt]
          · rfl
          · exact noMap
        have single : leafCount value = 1 := by
          rw [leafCount]
          exact noMap
        rw [List.filterMap_cons_some declares, List.length_cons]
        omega

theorem declaredCount_mapsAt (value : Value) : ∀ entries, value = .map entries →
    isStyle value = true → ∀ path, declaredCount (mapsAt path value) = leafCount value := by
  induction value using Value.parts_induction with
  | step value inside =>
      rintro entries rfl style path
      have each := areStyles_iff.mp style
      rw [mapsAt, leafCount]
      refine length_declared_add_count (fun entry member => (each entry member).1) ?_ path
      intro entry member inner isMap
      exact inside entry.2 (List.mem_map_of_mem member) inner isMap (each entry member).2

/-! ## The rules of a style -/

theorem exists_rule_iff {selector : String} {styles : List (Key × Value)} :
    (∃ text, rule selector styles = .ok text) ↔
      isStyle (.map styles) = true ∧ holdsTooLong (.map styles) = false := by
  constructor
  · rintro ⟨text, written⟩
    have style := isStyle_of_rule written
    refine ⟨style, Bool.eq_false_iff.mpr fun tooLong => ?_⟩
    rw [rule_eq_error_of_tooLong style tooLong] at written
    cases written
  · rintro ⟨style, short⟩
    have writes := writes_rule style selector
    rw [short] at writes
    obtain ⟨text, written, _⟩ := writes
    exact ⟨text, written⟩

/-- Every style map has rules, unless one of its values holds a whole number of too many
digits; what is not keyed by text throughout, or stands inside itself, has none.  The
rules are one block for each map of the style with an entry that is no map, each map in
front of those inside it and these in the order of the entries; the block stands on the
selector with the keys behind it that lead to the map, and declares the entries of the
map that are no maps, in order.  Nothing else is written but empty lines, so there are as
many declarations as values that are no maps. -/
theorem rule_is_laid_out_in_blocks (selector : String) (styles : List (Key × Value)) :
    ((∃ text, rule selector styles = .ok text) ↔
      isStyle (.map styles) = true ∧ holdsTooLong (.map styles) = false) ∧
    (isStyle (.map styles) = true → holdsTooLong (.map styles) = true →
      rule selector styles = .error .tooManyDigits) ∧
    ∀ text, rule selector styles = .ok text →
      LaidOut text (blocks selector styles) ∧
      ((blocks selector styles).map fun block => block.declared.length).sum =
        leafCount (.map styles) := by
  refine ⟨exists_rule_iff, fun style tooLong => rule_eq_error_of_tooLong style tooLong selector, ?_⟩
  intro text written
  constructor
  · rw [rule_eq_text written]
    exact laidOut_ruleTree selector (.map styles) styles rfl []
  · rw [blocks, sum_declared_blocks]
    exact declaredCount_mapsAt (.map styles) styles rfl (isStyle_of_rule written) []

/-- A card with maps inside maps: one is empty, and one holds nothing but another map. -/
def nestedCard : List (Key × Value) :=
  [(.text "&:hover", .map [(.text "&&", .map []), (.text "fontSize", .int 12),
      (.text " a", .map [(.text "zIndex", .int 3)])]),
    (.text "color", .text "red"),
    (.text " + b", .map [(.text ":first-child", .map [(.text "margin", .list [.int 1, .null])])])]

/-- The card has four rules, in the order of its maps, with one declaration each. -/
theorem nestedCard_is_laid_out :
    ∃ text, rule ".card" nestedCard = .ok text ∧ LaidOut text (blocks ".card" nestedCard) ∧
      (blocks ".card" nestedCard).map Block.text =
        [".card \x7b\n  color: red;\n\x7d", ".card:hover \x7b\n  font-size: 12px;\n\x7d",
          ".card:hover a \x7b\n  z-index: 3;\n\x7d",
          ".card + b:first-child \x7b\n  margin: [1, None];\n\x7d"] ∧
      ((blocks ".card" nestedCard).map fun block => block.declared.length).sum = 4 := by
  have whole := rule_is_laid_out_in_blocks ".card" nestedCard
  rcases whole.1.mpr (by decide) with ⟨text, written⟩
  rcases whole.2.2 text written with ⟨laidOut, counted⟩
  exact ⟨text, written, laidOut, by decide +kernel, counted.trans (by decide)⟩

/-- A card whose width has one digit too many. -/
def wideCard : List (Key × Value) :=
  [(.text "width", .int (10 ^ mostDigits))]

/-- The wide card is a style with one declaration, but it has no rule. -/
theorem wideCard_has_no_rule :
    isStyle (.map wideCard) = true ∧ leafCount (.map wideCard) = 1 ∧
      (blocks ".card" wideCard).map Block.selector = [".card"] ∧
      ∀ text, rule ".card" wideCard ≠ .ok text := by
  have tooLong : holdsTooLong (.map wideCard) = true := by
    simp only [wideCard, holdsTooLong, entriesHoldTooLong, isTooLong_pow, Bool.false_or, Bool.true_or]
  refine ⟨rfl, rfl, rfl, fun text written => ?_⟩
  rw [rule_eq_error_of_tooLong rfl tooLong] at written
  cases written

end Stylesheet
end ComponentCompiler
