import ComponentCompiler.Proofs.Script.Spelling
import ComponentCompiler.Proofs.Value.Json
import Mathlib.Algebra.Group.Int.Defs
import Mathlib.Algebra.Group.Nat.Defs

namespace ComponentCompiler

open Script Number

/-!
# Literals are read back

A value of null, truth values, whole numbers, text, lists and maps is written as
a literal that is read back as this value, in one line and in blocks alike.  Two
things are in the way.  A key that is an identifier with a line feed behind it is
written bare, and the line feed is skipped as white space.  And a whole number
with too many digits is not written at all.
-/

mutual

/-- Whether a value consists of null, truth values, whole numbers, text, lists and
maps, and all keys are text but no identifier lines. -/
def Value.isPlain : Value → Bool
  | .null => true
  | .bool _ => true
  | .int _ => true
  | .text _ => true
  | .list items => itemsArePlain items
  | .map entries => entriesArePlain entries
  | _ => false

def itemsArePlain : List Value → Bool
  | [] => true
  | item :: rest => item.isPlain && itemsArePlain rest

def entriesArePlain : List (Key × Value) → Bool
  | [] => true
  | (.text name, value) :: rest => !isIdentifierLine name && value.isPlain && entriesArePlain rest
  | _ :: _ => false

end

theorem itemsArePlain_iff {items : List Value} :
    itemsArePlain items = true ↔ ∀ item ∈ items, item.isPlain = true := by
  induction items with
  | nil => simp only [itemsArePlain, List.not_mem_nil, false_implies, implies_true]
  | cons item rest inductionHypothesis =>
      rw [itemsArePlain, Bool.and_eq_true, inductionHypothesis, List.forall_mem_cons]

/-- An entry whose key is read back and whose value is plain. -/
def IsPlainEntry (entry : Key × Value) : Prop :=
  ∃ name, entry.1 = .text name ∧ isIdentifierLine name = false ∧ entry.2.isPlain = true

theorem entriesArePlain_iff {entries : List (Key × Value)} :
    entriesArePlain entries = true ↔ ∀ entry ∈ entries, IsPlainEntry entry := by
  induction entries with
  | nil => simp only [entriesArePlain, List.not_mem_nil, false_implies, implies_true]
  | cons entry rest inductionHypothesis =>
      rcases entry with ⟨key, value⟩
      rw [List.forall_mem_cons, ← inductionHypothesis, IsPlainEntry]
      cases key with
      | text name =>
          simp only [entriesArePlain, Bool.and_eq_true, Bool.not_eq_true', Key.text.injEq,
            exists_eq_left']
      | _ => simp only [entriesArePlain, Bool.false_eq_true, reduceCtorEq, exists_false, false_and]

/-! ## Writing -/

/-- Writing fails over too many digits, or else it gives something good. -/
def Writes {α : Type} (outcome : Except RenderFault α) (fails : Bool) (good : α → Prop) : Prop :=
  if fails = true then outcome = .error .tooManyDigits
  else ∃ result, outcome = .ok result ∧ good result

namespace Writes

variable {α β : Type} {good : α → Prop} {better : β → Prop}

theorem ok {result : α} (holds : good result) : Writes (.ok result) false good :=
  ⟨result, rfl, holds⟩

theorem bind {outcome : Except RenderFault α} {next : α → Except RenderFault β} {early late : Bool}
    (here : Writes outcome early good)
    (onward : ∀ result, good result → Writes (next result) late better) :
    Writes (outcome >>= next) (early || late) better := by
  cases early with
  | true =>
      have failed : outcome = .error .tooManyDigits := here
      rw [failed]
      rfl
  | false =>
      obtain ⟨result, written, holds⟩ : ∃ result, outcome = .ok result ∧ good result := here
      rw [written]
      exact onward result holds

theorem map {outcome : Except RenderFault α} {change : α → β} {fails : Bool}
    (here : Writes outcome fails good) (holds : ∀ result, good result → better (change result)) :
    Writes (outcome >>= fun result => pure (change result)) fails better := by
  have both := here.bind fun result known => ok (holds result known)
  rw [Bool.or_false] at both
  exact both

end Writes

theorem writes_inlineItems {items : List Value}
    (each : ∀ item ∈ items, Writes (inlineLiteral item) (holdsTooLong item) (Spells · item)) :
    Writes (inlineItems items) (itemsHoldTooLong items) (List.Forall₂ Spells · items) := by
  induction items with
  | nil =>
      rw [inlineItems, itemsHoldTooLong]
      exact Writes.ok List.Forall₂.nil
  | cons item rest inductionHypothesis =>
      rcases List.forall_mem_cons.mp each with ⟨first, later⟩
      rw [inlineItems, itemsHoldTooLong]
      apply first.bind
      intro text spells
      apply (inductionHypothesis later).map
      exact fun texts spelled => List.Forall₂.cons spells spelled

theorem writes_inlineEntries {entries : List (Key × Value)}
    (plain : ∀ entry ∈ entries, IsPlainEntry entry)
    (each : ∀ entry ∈ entries, Writes (inlineLiteral entry.2) (holdsTooLong entry.2)
      (Spells · entry.2)) :
    Writes (inlineEntries entries) (entriesHoldTooLong entries)
      (List.Forall₂ SpellsEntry · entries) := by
  induction entries with
  | nil =>
      rw [inlineEntries, entriesHoldTooLong]
      exact Writes.ok List.Forall₂.nil
  | cons entry rest inductionHypothesis =>
      rcases entry with ⟨key, value⟩
      rcases List.forall_mem_cons.mp plain with ⟨⟨name, rfl, oneLine, _⟩, restPlain⟩
      rcases List.forall_mem_cons.mp each with ⟨first, later⟩
      simp only [inlineEntries, entriesHoldTooLong, propertyKey, Bool.false_or]
      apply first.bind
      intro text spells
      apply (inductionHypothesis restPlain later).map
      exact fun texts spelled => List.Forall₂.cons (spells_entry oneLine spells) spelled

theorem writes_blockEntries {level : Int} {entries : List (Key × Value)}
    (plain : ∀ entry ∈ entries, IsPlainEntry entry)
    (each : ∀ entry ∈ entries, Writes (blockLiteral level entry.2) (holdsTooLong entry.2)
      (Spells · entry.2)) :
    Writes (blockEntries level entries) (entriesHoldTooLong entries)
      (List.Forall₂ SpellsLine · entries) := by
  induction entries with
  | nil =>
      rw [blockEntries, entriesHoldTooLong]
      exact Writes.ok List.Forall₂.nil
  | cons entry rest inductionHypothesis =>
      rcases entry with ⟨key, value⟩
      rcases List.forall_mem_cons.mp plain with ⟨⟨name, rfl, oneLine, _⟩, restPlain⟩
      rcases List.forall_mem_cons.mp each with ⟨first, later⟩
      simp only [blockEntries, entriesHoldTooLong, propertyKey, Bool.false_or]
      apply first.bind
      intro text spells
      apply (inductionHypothesis restPlain later).map
      exact fun lines spelled => List.Forall₂.cons (spells_line oneLine spells level) spelled

theorem writes_inlineLiteral {value : Value} (plain : value.isPlain = true) :
    Writes (inlineLiteral value) (holdsTooLong value) (Spells · value) := by
  induction value using Value.parts_induction with
  | step value inside =>
      cases value with
      | null =>
          simp only [inlineLiteral, holdsTooLong]
          exact Writes.ok (spells_word (by decide) (by decide) rfl)
      | bool truth =>
          simp only [inlineLiteral, holdsTooLong]
          cases truth <;> exact Writes.ok (spells_word (by decide) (by decide) rfl)
      | int number =>
          rw [inlineLiteral, holdsTooLong, wholeLiteral]
          cases isTooLong number with
          | true => rfl
          | false => exact Writes.ok (spells_whole number)
      | text content =>
          simp only [inlineLiteral, holdsTooLong]
          exact Writes.ok (spells_text content)
      | list items =>
          have itemsPlain := itemsArePlain_iff.mp plain
          rw [inlineLiteral, holdsTooLong]
          apply (writes_inlineItems fun item member =>
            inside item member (itemsPlain item member)).map
          exact fun texts spelled => spells_list spelled
      | map entries =>
          have entriesPlain := entriesArePlain_iff.mp plain
          rw [inlineLiteral, holdsTooLong]
          apply (writes_inlineEntries entriesPlain ?_).map
          · exact fun texts spelled => spells_inline_map spelled
          · intro entry member
            rcases entriesPlain entry member with ⟨_, _, _, inner⟩
            exact inside entry.2 (List.mem_map_of_mem member) inner
      | _ => cases plain

/-- Lists are in one line also inside blocks; only maps have lines of their own. -/
theorem writes_blockLiteral {value : Value} (plain : value.isPlain = true) (level : Int) :
    Writes (blockLiteral level value) (holdsTooLong value) (Spells · value) := by
  induction value using Value.parts_induction generalizing level with
  | step value inside =>
      cases value with
      | map entries =>
          have entriesPlain := entriesArePlain_iff.mp plain
          rw [blockLiteral, holdsTooLong]
          apply (writes_blockEntries entriesPlain ?_).map
          · exact fun lines spelled => spells_block_map spelled level
          · intro entry member
            rcases entriesPlain entry member with ⟨_, _, _, inner⟩
            exact inside entry.2 (List.mem_map_of_mem member) inner (level + 1)
      | _ =>
          rw [blockLiteral]
          · exact writes_inlineLiteral plain
          · exact fun entries same => Value.noConfusion same

theorem isTooLong_iff {number : Int} :
    isTooLong number = true ↔ 10 ^ mostDigits ≤ number.natAbs := by
  have bound := Nat.length_toDigits_le_iff (b := 10) (n := number.natAbs) (k := mostDigits)
    (by decide) (by decide)
  rw [isTooLong, decide_eq_true_iff]
  omega

theorem isTooLong_pow : isTooLong (10 ^ mostDigits) = true := by
  have ten : (10 : Int).natAbs = 10 := rfl
  have size : ((10 : Int) ^ mostDigits).natAbs = 10 ^ mostDigits := by
    rw [Int.natAbs_pow, ten]
  exact isTooLong_iff.mpr (Nat.le_of_eq size.symm)

/-- A whole number with one digit too many is plain, but it has no literal. -/
theorem plain_number_without_literal :
    (Value.int (10 ^ mostDigits)).isPlain = true ∧
      literal 0 true (.int (10 ^ mostDigits)) = .error .tooManyDigits := by
  refine ⟨rfl, ?_⟩
  rw [literal, if_pos rfl, inlineLiteral, wholeLiteral, isTooLong_pow]
  rfl

/-- A plain value is written, in one line and in blocks from any level on, as a literal
that is read back as this value; it is not written at all when it holds a whole number
with too many digits. -/
theorem literal_reads_back {value : Value} (plain : value.isPlain = true) (level : Int)
    (inline : Bool) :
    (holdsTooLong value = true → literal level inline value = .error .tooManyDigits) ∧
    (holdsTooLong value = false →
      ∃ text, literal level inline value = .ok text ∧ readLiteral text = some value) := by
  have writes : Writes (literal level inline value) (holdsTooLong value) (Spells · value) := by
    cases inline with
    | true => exact writes_inlineLiteral plain
    | false => exact writes_blockLiteral plain level
  constructor
  · intro tooLong
    rw [tooLong] at writes
    exact writes
  · intro short
    rw [short] at writes
    obtain ⟨text, written, spells⟩ := writes
    exact ⟨text, written, readLiteral_of_leads (spells [])⟩

/-- A value with words, quotes, marks and breaks where a reader could stumble. -/
def riddle : Value :=
  .map [(.text "null", .text "it's \\ a '\n', \x7bb: 1\x7d"),
    (.text "two words", .list [.int (-12), .null, .map [(.text "k", .bool false)], .list []]),
    (.text "", .map [])]

theorem riddle_reads_back :
    ∃ inlined block, literal 0 true riddle = .ok inlined ∧ literal 2 false riddle = .ok block ∧
      readLiteral inlined = some riddle ∧ readLiteral block = some riddle := by
  have plain : riddle.isPlain = true := by decide
  have short : holdsTooLong riddle = false := by decide
  rcases (literal_reads_back plain 0 true).2 short with ⟨inlined, inlineWritten, inlineRead⟩
  rcases (literal_reads_back plain 2 false).2 short with ⟨block, blockWritten, blockRead⟩
  exact ⟨inlined, block, inlineWritten, blockWritten, inlineRead, blockRead⟩

end ComponentCompiler
