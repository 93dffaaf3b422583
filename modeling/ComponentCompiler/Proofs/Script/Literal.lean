import ComponentCompiler.Proofs.Outcome
import ComponentCompiler.Proofs.Value.Json

namespace ComponentCompiler

open Script

/-!
# Which values can be written

A value has a literal when its parts have literals and its keys are text.  A value
that can be written in one line can also be written as a block.
-/

/-- A value can be written as a literal. -/
def Value.HasLiteral (value : Value) : Prop :=
  ∃ text, inlineLiteral value = .ok text

/-- An entry of a map can be written. -/
def HasLiteralEntry (entry : Key × Value) : Prop :=
  (∃ name, entry.1 = .text name) ∧ entry.2.HasLiteral

theorem Value.hasLiteral_code (expression : String) : (Value.code expression).HasLiteral :=
  ⟨expression, by rw [inlineLiteral]⟩

theorem exists_inlineItems_iff {items : List Value} :
    (∃ texts, inlineItems items = .ok texts) ↔ ∀ item ∈ items, item.HasLiteral := by
  induction items with
  | nil => simp only [inlineItems, Except.ok.injEq, exists_eq', List.not_mem_nil, false_implies,
      implies_true]
  | cons item rest inductionHypothesis =>
      rw [List.forall_mem_cons, ← inductionHypothesis, inlineItems]
      constructor
      · rintro ⟨texts, written⟩
        rcases bind_eq_ok_iff.mp written with ⟨text, first, onward⟩
        rcases bind_eq_ok_iff.mp onward with ⟨others, later, _⟩
        exact ⟨⟨text, first⟩, others, later⟩
      · rintro ⟨⟨text, first⟩, others, later⟩
        exact ⟨text :: others, by rw [first, later]; rfl⟩

theorem propertyKey_eq_ok_iff {key : Key} :
    (∃ property, propertyKey key = .ok property) ↔ ∃ name, key = .text name := by
  cases key with
  | text name => simp only [propertyKey, Except.ok.injEq, exists_eq', Key.text.injEq]
  | _ => simp only [propertyKey, reduceCtorEq, exists_false]

theorem exists_inlineEntries_iff {entries : List (Key × Value)} :
    (∃ texts, inlineEntries entries = .ok texts) ↔ ∀ entry ∈ entries, HasLiteralEntry entry := by
  induction entries with
  | nil => simp only [inlineEntries, Except.ok.injEq, exists_eq', List.not_mem_nil, false_implies,
      implies_true]
  | cons entry rest inductionHypothesis =>
      rcases entry with ⟨key, value⟩
      rw [List.forall_mem_cons, ← inductionHypothesis, inlineEntries, HasLiteralEntry,
        ← propertyKey_eq_ok_iff]
      constructor
      · rintro ⟨texts, written⟩
        rcases bind_eq_ok_iff.mp written with ⟨property, named, afterKey⟩
        rcases bind_eq_ok_iff.mp afterKey with ⟨text, first, onward⟩
        rcases bind_eq_ok_iff.mp onward with ⟨others, later, _⟩
        exact ⟨⟨⟨property, named⟩, text, first⟩, others, later⟩
      · rintro ⟨⟨⟨property, named⟩, text, first⟩, others, later⟩
        exact ⟨(property ++ ": " ++ text) :: others, by rw [named, first, later]; rfl⟩

namespace Value

theorem hasLiteral_list {items : List Value} :
    (Value.list items).HasLiteral ↔ ∀ item ∈ items, item.HasLiteral := by
  rw [← exists_inlineItems_iff, HasLiteral, inlineLiteral]
  constructor
  · rintro ⟨text, written⟩
    rcases bind_eq_ok_iff.mp written with ⟨texts, inside, _⟩
    exact ⟨texts, inside⟩
  · rintro ⟨texts, inside⟩
    exact ⟨_, bind_eq_ok_iff.mpr ⟨texts, inside, rfl⟩⟩

theorem hasLiteral_map {entries : List (Key × Value)} :
    (Value.map entries).HasLiteral ↔ ∀ entry ∈ entries, HasLiteralEntry entry := by
  rw [← exists_inlineEntries_iff, HasLiteral, inlineLiteral]
  constructor
  · rintro ⟨text, written⟩
    rcases bind_eq_ok_iff.mp written with ⟨texts, inside, _⟩
    exact ⟨texts, inside⟩
  · rintro ⟨texts, inside⟩
    exact ⟨_, bind_eq_ok_iff.mpr ⟨texts, inside, rfl⟩⟩

/-- Every value of the stricter notation has a literal. -/
theorem hasLiteral_of_isJson {value : Value} (json : value.isJson = true) : value.HasLiteral := by
  refine isJson_induction (motive := HasLiteral) ?null ?bool ?int ?real ?text ?list ?map value json
  case int =>
    intro number short
    refine ⟨toString number, ?_⟩
    rw [inlineLiteral, wholeLiteral, short]
    rfl
  case list => exact fun items _ inner => hasLiteral_list.mpr inner
  case map =>
    exact fun entries json inner => hasLiteral_map.mpr fun entry member =>
      ⟨(isJson_map.mp json entry member).1, inner entry member⟩
  all_goals intros; exact ⟨_, by rw [inlineLiteral]⟩

theorem exists_blockEntries {level : Int} {entries : List (Key × Value)}
    (written : ∀ entry ∈ entries, (∃ name, entry.1 = .text name) ∧
      ∃ text, blockLiteral level entry.2 = .ok text) :
    ∃ lines, blockEntries level entries = .ok lines := by
  induction entries with
  | nil => exact ⟨[], by rw [blockEntries]⟩
  | cons entry rest inductionHypothesis =>
      rcases entry with ⟨key, value⟩
      rcases List.forall_mem_cons.mp written with ⟨⟨⟨name, rfl⟩, text, first⟩, restWritten⟩
      rcases inductionHypothesis restWritten with ⟨lines, later⟩
      rw [blockEntries, first, later]
      exact ⟨_, rfl⟩

/-- What has a literal in one line has one with blocks. -/
theorem exists_blockLiteral {value : Value} (literal : value.HasLiteral) (level : Int) :
    ∃ text, blockLiteral level value = .ok text := by
  induction value using parts_induction generalizing level with
  | step value inside =>
      cases value with
      | map entries =>
          obtain ⟨lines, written⟩ : ∃ lines, blockEntries (level + 1) entries = .ok lines := by
            apply exists_blockEntries
            intro entry member
            rcases hasLiteral_map.mp literal entry member with ⟨named, inner⟩
            exact ⟨named, inside entry.2 (List.mem_map_of_mem member) inner (level + 1)⟩
          rw [blockLiteral]
          exact ⟨_, bind_eq_ok_iff.mpr ⟨lines, written, rfl⟩⟩
      | _ =>
          rw [blockLiteral]
          · exact literal
          · exact fun entries same => Value.noConfusion same

end Value
end ComponentCompiler
