import ComponentCompiler.Proofs.Build.Binding
import ComponentCompiler.Proofs.Number.Text
import ComponentCompiler.Proofs.Stylesheet.Rule
import Mathlib.Logic.Relation

namespace ComponentCompiler
namespace Stylesheet

/-!
# The values that rules declare

The text of a rule is the text of a tree: the declarations of a map, and the rules
of the maps inside it.  Its declarations are the values that stand under a name at
any depth of maps and are no maps themselves.  A value is shown by a text that
refers to an input only when it is this text.
-/

/-! ## Rules as trees -/

/-- A rule with the declarations of its map and the rules of the maps inside. -/
inductive StyleRule where
  | on (selector : String) (declared : List (String × Value)) (nested : List StyleRule)

namespace StyleRule

mutual

/-- The text of a rule. -/
def text : StyleRule → String
  | .on selector declared nested =>
    ruleText selector (declared.map fun entry => declaration entry.1 entry.2) (texts nested)

def texts : List StyleRule → List String
  | [] => []
  | rule :: rest => rule.text :: texts rest

end

mutual

/-- The declarations of a rule and of all rules inside it. -/
def declarations : StyleRule → List (String × Value)
  | .on _ declared nested => declared ++ allDeclarations nested

def allDeclarations : List StyleRule → List (String × Value)
  | [] => []
  | rule :: rest => rule.declarations ++ allDeclarations rest

end

theorem mem_allDeclarations {rules : List StyleRule} {entry : String × Value} :
    entry ∈ allDeclarations rules ↔ ∃ rule ∈ rules, entry ∈ rule.declarations := by
  induction rules with
  | nil => simp only [allDeclarations, List.not_mem_nil, false_and, exists_false]
  | cons rule rest inductionHypothesis =>
      rw [allDeclarations, List.mem_append, inductionHypothesis, List.exists_mem_cons_iff]

end StyleRule

/-- What an entry declares: a value under a name that is no map. -/
def declared? : Key × Value → Option (String × Value)
  | (_, .map _) => none
  | (.text name, value) => some (name, value)
  | _ => none

mutual

/-- The rule of a map under a name. -/
def nestedRule? (selector : String) (key : Key) : Value → Option StyleRule
  | .map entries =>
    match key with
    | .text name =>
      let inner := selector ++ selectorSuffix name
      some (.on inner (entries.filterMap declared?) (nestedRules inner entries))
    | _ => none
  | _ => none

/-- The rules of the maps among some entries. -/
def nestedRules (selector : String) : List (Key × Value) → List StyleRule
  | [] => []
  | (key, value) :: rest => (nestedRule? selector key value).toList ++ nestedRules selector rest

end

/-- The rule of a style map on a selector. -/
def ruleTree (selector : String) (styles : List (Key × Value)) : StyleRule :=
  .on selector (styles.filterMap declared?) (nestedRules selector styles)

theorem mem_nestedRules {selector : String} {entries : List (Key × Value)} {rule : StyleRule} :
    rule ∈ nestedRules selector entries ↔
      ∃ name inner, (Key.text name, .map inner) ∈ entries ∧
        rule = ruleTree (selector ++ selectorSuffix name) inner := by
  induction entries with
  | nil => simp only [nestedRules, List.not_mem_nil, false_and, exists_false]
  | cons entry rest inductionHypothesis =>
      rcases entry with ⟨key, value⟩
      rw [nestedRules, List.mem_append, inductionHypothesis, Option.mem_toList]
      constructor
      · rintro (here | ⟨name, inner, member, same⟩)
        · cases value with
          | map inner =>
              cases key with
              | text name =>
                  refine ⟨name, inner, List.mem_cons_self, ?_⟩
                  rw [nestedRule?] at here
                  exact (Option.some.inj here).symm
              | _ => simp only [nestedRule?, reduceCtorEq] at here
          | _ => simp only [nestedRule?, reduceCtorEq] at here
        · exact ⟨name, inner, List.mem_cons_of_mem _ member, same⟩
      · rintro ⟨name, inner, member, rfl⟩
        rcases List.mem_cons.mp member with same | later
        · cases same
          refine Or.inl ?_
          rw [nestedRule?]
          rfl
        · exact Or.inr ⟨name, inner, later, rfl⟩

/-! ## The text of a rule -/

/-- What an entry contributes to the text is what it contributes to the tree. -/
def Contributes (selector : String) (entry : Key × Value) : Contribution → Prop
  | .declared text => nestedRule? selector entry.1 entry.2 = none ∧
      ∃ name value, declared? entry = some (name, value) ∧ text = declaration name value
  | .nested text => declared? entry = none ∧
      ∃ rule, nestedRule? selector entry.1 entry.2 = some rule ∧ text = rule.text

theorem ruleParts_eq {selector : String} {entries : List (Key × Value)}
    (each : ∀ entry ∈ entries, ∀ part, contribution selector entry.1 entry.2 = .ok part →
      Contributes selector entry part)
    {parts : List String × List String} (written : ruleParts selector entries = .ok parts) :
    parts = ((entries.filterMap declared?).map (fun entry => declaration entry.1 entry.2),
      StyleRule.texts (nestedRules selector entries)) := by
  induction entries generalizing parts with
  | nil =>
      rw [ruleParts] at written
      cases written
      simp only [List.filterMap_nil, List.map_nil, nestedRules, StyleRule.texts]
  | cons entry rest inductionHypothesis =>
      rcases entry with ⟨key, value⟩
      rw [List.forall_mem_cons] at each
      rw [ruleParts] at written
      rcases bind_eq_ok_iff.mp written with ⟨part, first, onward⟩
      rcases bind_eq_ok_iff.mp onward with ⟨others, later, last⟩
      have others_eq := inductionHypothesis each.2 later
      cases part with
      | declared text =>
          rcases each.1 _ first with ⟨noRule, name, value, declares, same⟩
          cases last
          rw [List.filterMap_cons_some declares, nestedRules, noRule, same, others_eq]
          rfl
      | nested text =>
          rcases each.1 _ first with ⟨noDeclaration, rule, nests, same⟩
          cases last
          rw [List.filterMap_cons_none noDeclaration, nestedRules, nests, same, others_eq]
          rfl

/-- What is no map and can be written is declared under its name. -/
theorem contributes_of_other {selector : String} {key : Key} {value : Value}
    (noMap : ∀ entries, value ≠ .map entries) {part : Contribution}
    (written : contribution selector key value = .ok part) :
    Contributes selector (key, value) part := by
  have noRule : nestedRule? selector key value = none := by
    cases value with
    | map entries => exact absurd rfl (noMap entries)
    | _ => rw [nestedRule?]; exact noMap
  have noEndless : ∀ distance entries, value ≠ .enclosing distance (some (.map entries)) := by
    rintro distance entries rfl
    cases written
  cases key with
  | text name =>
      have declares : declared? (.text name, value) = some (name, value) := by
        rw [declared?]
        exact noMap
      rw [contribution] at written
      · split at written
        · cases written
        · cases written
          exact ⟨noRule, name, value, declares, rfl⟩
      · exact noMap
      · exact noEndless
  | _ =>
      rw [contribution] at written
      · cases written
      · exact noMap
      · exact noEndless
      · intro name impossible
        cases impossible

theorem contributes (value : Value) : ∀ selector key part,
    contribution selector key value = .ok part → Contributes selector (key, value) part := by
  induction value using Value.parts_induction with
  | step value inside =>
      intro selector key part written
      by_cases isMap : ∃ entries, value = .map entries
      · rcases isMap with ⟨entries, rfl⟩
        cases key with
        | text name =>
            rw [contribution] at written
            rcases bind_eq_ok_iff.mp written with ⟨parts, made, last⟩
            cases last
            refine ⟨rfl, ruleTree (selector ++ selectorSuffix name) entries, ?_, ?_⟩
            · rw [nestedRule?]
              rfl
            · rw [ruleParts_eq (fun entry member part => inside entry.2
                (List.mem_map_of_mem member) _ entry.1 part) made, ruleTree, StyleRule.text]
        | _ => cases written
      · exact contributes_of_other (fun entries same => isMap ⟨entries, same⟩) written

/-- The rules of a style map are written as their tree. -/
theorem rule_eq_text {selector : String} {styles : List (Key × Value)} {text : String}
    (written : rule selector styles = .ok text) : text = (ruleTree selector styles).text := by
  rcases bind_eq_ok_iff.mp written with ⟨parts, made, last⟩
  cases last
  rw [ruleParts_eq (fun entry _ part => contributes entry.2 selector entry.1 part) made, ruleTree,
    StyleRule.text]

/-! ## What a rule declares -/

/-- A map holds a value under a name. -/
def HoldsNamed (outer inner : Value) : Prop :=
  ∃ entries name, outer = .map entries ∧ (Key.text name, inner) ∈ entries

theorem mem_filterMap_declared? {entries : List (Key × Value)} {name : String} {value : Value} :
    (name, value) ∈ entries.filterMap declared? ↔
      (Key.text name, value) ∈ entries ∧ ∀ inner, value ≠ .map inner := by
  rw [List.mem_filterMap]
  constructor
  · rintro ⟨⟨key, shown⟩, member, declares⟩
    unfold declared? at declares
    split at declares
    · cases declares
    · rename_i noMap same
      cases declares
      cases same
      exact ⟨member, fun inner isMap => noMap inner isMap⟩
    · cases declares
  · rintro ⟨member, noMap⟩
    refine ⟨_, member, ?_⟩
    rw [declared?]
    exact fun inner same => noMap inner same

/-- A rule declares the values that stand under a name, at any depth of maps with
names, and are no maps. -/
theorem mem_declarations_ruleTree {selector : String} {styles : List (Key × Value)} {name : String}
    {value : Value} :
    (name, value) ∈ (ruleTree selector styles).declarations ↔
      (∀ inner, value ≠ .map inner) ∧ ∃ entries,
        Relation.ReflTransGen HoldsNamed (.map styles) (.map entries) ∧
          (Key.text name, value) ∈ entries := by
  -- the selector changes on the way down
  suffices each : ∀ (whole : Value) (styles : List (Key × Value)), whole = .map styles →
      ∀ selector, (name, value) ∈ (ruleTree selector styles).declarations ↔
        (∀ inner, value ≠ .map inner) ∧ ∃ entries,
          Relation.ReflTransGen HoldsNamed (.map styles) (.map entries) ∧
            (Key.text name, value) ∈ entries from each _ styles rfl selector
  intro whole
  induction whole using Value.parts_induction with
  | step whole inside =>
      intro styles same selector
      rw [ruleTree, StyleRule.declarations, List.mem_append, mem_filterMap_declared?,
        StyleRule.mem_allDeclarations]
      have below {inner : List (Key × Value)} {field : String}
          (member : (Key.text field, Value.map inner) ∈ styles) (onto : String) :
          (name, value) ∈ (ruleTree onto inner).declarations ↔
            (∀ map, value ≠ .map map) ∧ ∃ entries,
              Relation.ReflTransGen HoldsNamed (.map inner) (.map entries) ∧
                (Key.text name, value) ∈ entries := by
        refine inside (.map inner) ?_ inner rfl onto
        rw [same]
        exact List.mem_map.mpr ⟨_, member, rfl⟩
      constructor
      · rintro (⟨member, noMap⟩ | ⟨rule, nests, declares⟩)
        · exact ⟨noMap, styles, Relation.ReflTransGen.refl, member⟩
        · rcases mem_nestedRules.mp nests with ⟨field, inner, member, rfl⟩
          rcases (below member _).mp declares with ⟨noMap, entries, reaches, listed⟩
          exact ⟨noMap, entries, Relation.ReflTransGen.head ⟨styles, field, rfl, member⟩ reaches,
            listed⟩
      · rintro ⟨noMap, entries, reaches, listed⟩
        rcases Relation.ReflTransGen.cases_head reaches with here | ⟨between, step, onward⟩
        · cases here
          exact Or.inl ⟨listed, noMap⟩
        · rcases step with ⟨_, field, isMap, member⟩
          cases isMap
          -- what leads on to a map is a map
          obtain ⟨inner, rfl⟩ : ∃ inner, between = .map inner := by
            rcases Relation.ReflTransGen.cases_head onward with same | ⟨_, ⟨inner, _, same, _⟩, _⟩
            · exact ⟨entries, same⟩
            · exact ⟨inner, same⟩
          exact Or.inr ⟨_, mem_nestedRules.mpr ⟨field, inner, member, rfl⟩,
            (below member _).mpr ⟨noMap, entries, onward, listed⟩⟩

/-! ## Values as they are shown -/

open Number

/-- A text starts with another character than the one of markers. -/
def StartsUnmarked (characters : List Char) : Prop :=
  ∃ first rest, characters = first :: rest ∧ first ≠ '$'

theorem StartsUnmarked.append {characters : List Char} (unmarked : StartsUnmarked characters)
    (others : List Char) : StartsUnmarked (characters ++ others) := by
  rcases unmarked with ⟨first, rest, rfl, other⟩
  exact ⟨first, rest ++ others, rfl, other⟩

theorem startsUnmarked_of_digits {digits : List Char} (row : AreDigits digits) :
    StartsUnmarked digits := by
  rcases row with ⟨nonempty, allDigits⟩
  cases digits with
  | nil => exact absurd rfl nonempty
  | cons digit rest =>
      refine ⟨digit, rest, rfl, ?_⟩
      rintro rfl
      cases allDigits '$' List.mem_cons_self

theorem startsUnmarked_signed {digits : List Char} (unmarked : StartsUnmarked digits)
    (negative : Bool) : StartsUnmarked (signText negative ++ digits) := by
  cases negative with
  | true => exact ⟨'-', digits, rfl, by decide⟩
  | false => exact unmarked

theorem startsUnmarked_int (number : Int) : StartsUnmarked (toString number).toList := by
  rcases toList_toString_int number with ⟨negative, digits, row, same⟩
  rw [same]
  exact startsUnmarked_signed (startsUnmarked_of_digits row) negative

theorem startsUnmarked_real (number : Binary64) :
    StartsUnmarked (number.text .plain).toList := by
  cases number with
  | finite negative significand exponent =>
      rcases toList_text_finite .plain negative significand exponent with
        ⟨whole, fraction, power, numeral, same⟩
      rw [same, List.append_assoc]
      exact startsUnmarked_signed ((startsUnmarked_of_digits numeral.whole).append _) negative
  | infinite negative =>
      cases negative with
      | true => exact ⟨'-', _, rfl, by decide⟩
      | false => exact ⟨'i', _, rfl, by decide⟩
  | undefined => exact ⟨'n', _, rfl, by decide⟩

theorem startsUnmarked_date (date : Date) : StartsUnmarked date.text.toList := by
  have year : StartsUnmarked (zeroPadded 4 date.year).toList := by
    unfold zeroPadded
    simp only
    rw [String.toList_ofList]
    exact startsUnmarked_of_digits ((areDigits_decimalDigits date.year).zeros_append _)
  unfold Date.text
  simp only [String.toList_append, List.append_assoc]
  exact year.append _

theorem startsUnmarked_framed {opening : List Char} (unmarked : StartsUnmarked opening)
    (inside closing : String) :
    StartsUnmarked (String.ofList opening ++ inside ++ closing).toList := by
  rw [String.toList_append, String.toList_append, String.toList_ofList, List.append_assoc]
  exact unmarked.append _

/-- A value that is no text is displayed without a marker in front. -/
theorem startsUnmarked_display {value : Value} (noText : ∀ content, value ≠ .text content) :
    StartsUnmarked value.display.toList := by
  have bracket : StartsUnmarked ['['] := ⟨'[', [], rfl, by decide⟩
  have brace : StartsUnmarked ['\x7b'] := ⟨'\x7b', [], rfl, by decide⟩
  have round : StartsUnmarked ['('] := ⟨'(', [], rfl, by decide⟩
  cases value with
  | text content => exact absurd rfl (noText content)
  | null => exact (⟨'N', _, rfl, by decide⟩ : StartsUnmarked "None".toList)
  | bool truth =>
      cases truth with
      | true => exact (⟨'T', _, rfl, by decide⟩ : StartsUnmarked "True".toList)
      | false => exact (⟨'F', _, rfl, by decide⟩ : StartsUnmarked "False".toList)
  | int number => exact startsUnmarked_int number
  | real number => exact startsUnmarked_real number
  | date day => exact startsUnmarked_date day
  | moment moment =>
      have shown : (Value.moment moment).display = moment.text := rfl
      rw [shown, Moment.text]
      simp only [String.toList_append, List.append_assoc]
      exact (startsUnmarked_date moment.date).append _
  | bytes content => exact ⟨'b', _, String.toList_ofList, by decide⟩
  | list items => exact startsUnmarked_framed bracket _ "]"
  | tuple items =>
      have shown : (Value.tuple items).display = displayTuple (Value.displayItems items) := rfl
      rw [shown]
      unfold displayTuple
      split
      · exact startsUnmarked_framed round _ ",)"
      · exact startsUnmarked_framed round _ ")"
  | set items =>
      have shown : (Value.set items).display = displaySet (Value.displayItems items) := rfl
      rw [shown]
      unfold displaySet
      split
      · exact ⟨'s', _, rfl, by decide⟩
      · exact startsUnmarked_framed brace _ "\x7d"
  | map entries => exact startsUnmarked_framed brace _ "\x7d"
  | enclosing distance again =>
      cases again with
      | none => exact startsUnmarked_framed brace "..." "\x7d"
      | some inner =>
          cases inner with
          | list items => exact startsUnmarked_framed bracket "..." "]"
          | _ => exact startsUnmarked_framed brace "..." "\x7d"
  | code expression =>
      have named : StartsUnmarked "JSExpression(code=".toList := ⟨'J', _, rfl, by decide⟩
      exact startsUnmarked_framed named _ ")"

/-- Truth values have a text of their own under a property, and lengths have a unit
behind them. -/
theorem startsUnmarked_propertyValue (property : String) {value : Value}
    (noText : ∀ content, value ≠ .text content) :
    StartsUnmarked (propertyValue property value).toList := by
  have measured : StartsUnmarked
      (if isLength property value then value.display ++ "px" else value.display).toList := by
    split
    · rw [String.toList_append]
      exact (startsUnmarked_display noText).append _
    · exact startsUnmarked_display noText
  cases value with
  | bool truth =>
      cases truth with
      | true => exact (⟨'t', _, rfl, by decide⟩ : StartsUnmarked "true".toList)
      | false => exact (⟨'f', _, rfl, by decide⟩ : StartsUnmarked "false".toList)
  | _ => exact measured

/-- What a declaration shows refers to an input only when the declared value does. -/
theorem prop?_propertyValue (property : String) (value : Value) :
    Binding.prop? (.text (propertyValue property value)) = Binding.prop? value := by
  by_cases isText : ∃ content, value = .text content
  · rcases isText with ⟨content, rfl⟩
    rfl
  have noText : ∀ content, value ≠ .text content := fun content same => isText ⟨content, same⟩
  have unbound : Binding.prop? value = none := by
    refine Option.eq_none_iff_forall_ne_some.mpr fun path bound => ?_
    exact noText _ (Binding.afterMarker?_eq_some_iff.mp bound).1
  rw [unbound]
  refine Binding.afterMarker?_eq_none fun path same => ?_
  rcases startsUnmarked_propertyValue property noText with ⟨first, rest, shown, other⟩
  rw [same, String.toList_append] at shown
  exact other (List.cons.inj shown).1.symm

end Stylesheet
end ComponentCompiler
