import ComponentCompiler.Json.Reader
import ComponentCompiler.Proofs.Entries
import ComponentCompiler.Proofs.Outcome
import ComponentCompiler.Script.Literal
import Mathlib.Algebra.Group.Nat.Defs

namespace ComponentCompiler
namespace Value

open Script Number

/-!
# Values of the stricter notation

Documents in the stricter notation hold null, truth values, numbers, text, lists
and maps with text keys.  Their whole numbers have no more digits than the reader
takes.  What is true of all such values is shown by one induction on them.  All values
that the reader of the notation gives are among them.
-/

mutual

/-- Whether a value can stand in a document of the stricter notation.  Its whole numbers have at
most `mostDigits` digits. -/
def isJson : Value → Bool
  | .null => true
  | .bool _ => true
  | .int number => !isTooLong number
  | .real _ => true
  | .text _ => true
  | .list items => itemsAreJson items
  | .map entries => entriesAreJson entries
  | _ => false

/-- Whether all items can. -/
def itemsAreJson : List Value → Bool
  | [] => true
  | item :: rest => item.isJson && itemsAreJson rest

/-- Whether all entries can; their keys have to be text. -/
def entriesAreJson : List (Key × Value) → Bool
  | [] => true
  | (.text _, value) :: rest => value.isJson && entriesAreJson rest
  | _ :: _ => false

end

/-- An entry of a map in the stricter notation. -/
def IsJsonEntry (entry : Key × Value) : Prop :=
  (∃ name, entry.1 = .text name) ∧ entry.2.isJson = true

theorem itemsAreJson_iff {items : List Value} :
    itemsAreJson items = true ↔ ∀ item ∈ items, item.isJson = true := by
  induction items with
  | nil => simp only [itemsAreJson, List.not_mem_nil, false_implies, implies_true]
  | cons item rest inductionHypothesis =>
      rw [itemsAreJson, Bool.and_eq_true, inductionHypothesis, List.forall_mem_cons]

theorem entriesAreJson_iff {entries : List (Key × Value)} :
    entriesAreJson entries = true ↔ ∀ entry ∈ entries, IsJsonEntry entry := by
  induction entries with
  | nil => simp only [entriesAreJson, List.not_mem_nil, false_implies, implies_true]
  | cons entry rest inductionHypothesis =>
      rcases entry with ⟨key, value⟩
      rw [List.forall_mem_cons, ← inductionHypothesis, IsJsonEntry]
      cases key with
      | text name => simp only [entriesAreJson, Bool.and_eq_true, Key.text.injEq, exists_eq', true_and]
      | _ => simp only [entriesAreJson, Bool.false_eq_true, reduceCtorEq, exists_false, false_and]

@[simp] theorem isJson_list {items : List Value} :
    (Value.list items).isJson = true ↔ ∀ item ∈ items, item.isJson = true := by
  rw [isJson, itemsAreJson_iff]

@[simp] theorem isJson_map {entries : List (Key × Value)} :
    (Value.map entries).isJson = true ↔ ∀ entry ∈ entries, IsJsonEntry entry := by
  rw [isJson, entriesAreJson_iff]

theorem sizeOf_snd_lt_of_mem {entries : List (Key × Value)} {entry : Key × Value}
    (member : entry ∈ entries) : sizeOf entry.2 < sizeOf entries := by
  have listed := List.sizeOf_lt_of_mem member
  rw [Prod.mk.sizeOf_spec] at listed
  omega

/-- The values directly inside a list, a tuple, a set or a map. -/
def parts : Value → List Value
  | .list items => items
  | .tuple items => items
  | .set items => items
  | .map entries => entries.map Prod.snd
  | _ => []

theorem sizeOf_lt_of_mem_parts {value part : Value} (member : part ∈ value.parts) :
    sizeOf part < sizeOf value := by
  cases value with
  | list items =>
      have inItems := List.sizeOf_lt_of_mem (show part ∈ items from member)
      rw [Value.list.sizeOf_spec]
      omega
  | tuple items =>
      have inItems := List.sizeOf_lt_of_mem (show part ∈ items from member)
      rw [Value.tuple.sizeOf_spec]
      omega
  | set items =>
      have inItems := List.sizeOf_lt_of_mem (show part ∈ items from member)
      rw [Value.set.sizeOf_spec]
      omega
  | map entries =>
      rcases List.mem_map.mp member with ⟨entry, listed, rfl⟩
      have inEntries := sizeOf_snd_lt_of_mem listed
      rw [Value.map.sizeOf_spec]
      omega
  | _ => cases member

theorem isJson_of_mem_parts {value part : Value} (json : value.isJson = true)
    (member : part ∈ value.parts) : part.isJson = true := by
  cases value with
  | list items => exact isJson_list.mp json part member
  | tuple items => cases json
  | set items => cases json
  | map entries =>
      rcases List.mem_map.mp member with ⟨entry, listed, rfl⟩
      exact (isJson_map.mp json entry listed).2
  | _ => cases member

theorem mem_parts_of_field? {whole part : Value} {name : String}
    (found : whole.field? name = some part) : part ∈ whole.parts := by
  cases whole with
  | map entries => exact List.mem_map_of_mem (Entries.mem_of_lookUp?_eq_some found)
  | _ => cases found

/-- What holds of a value when it holds of all inside it holds of every value. -/
theorem parts_induction {motive : Value → Prop}
    (step : ∀ value, (∀ part ∈ value.parts, motive part) → motive value) (value : Value) :
    motive value :=
  step value fun part member =>
    have := sizeOf_lt_of_mem_parts member
    parts_induction step part
termination_by sizeOf value

theorem isJson_induction {motive : Value → Prop} (null : motive .null)
    (bool : ∀ truth, motive (.bool truth))
    (int : ∀ number, isTooLong number = false → motive (.int number))
    (real : ∀ number, motive (.real number)) (text : ∀ content, motive (.text content))
    (list : ∀ items, (Value.list items).isJson = true → (∀ item ∈ items, motive item) →
      motive (.list items))
    (map : ∀ entries, (Value.map entries).isJson = true → (∀ entry ∈ entries, motive entry.2) →
      motive (.map entries)) (value : Value) (json : value.isJson = true) : motive value := by
  induction value using parts_induction with
  | step value inside =>
      cases value with
      | null => exact null
      | bool truth => exact bool truth
      | int number => exact int number (Bool.not_eq_true' _ |>.mp json)
      | real number => exact real number
      | text content => exact text content
      | list items =>
          apply list items json
          intro item member
          exact inside item member (isJson_list.mp json item member)
      | map entries =>
          apply map entries json
          intro entry member
          exact inside entry.2 (List.mem_map_of_mem member) (isJson_map.mp json entry member).2
      | _ => cases json

/-! ## Whole numbers -/

theorem itemsHoldTooLong_eq_false {items : List Value}
    (short : ∀ item ∈ items, holdsTooLong item = false) : itemsHoldTooLong items = false := by
  induction items with
  | nil => rfl
  | cons item rest inductionHypothesis =>
      rw [List.forall_mem_cons] at short
      rw [itemsHoldTooLong, short.1, inductionHypothesis short.2, Bool.or_false]

theorem entriesHoldTooLong_eq_false {entries : List (Key × Value)}
    (json : ∀ entry ∈ entries, IsJsonEntry entry)
    (short : ∀ entry ∈ entries, holdsTooLong entry.2 = false) :
    entriesHoldTooLong entries = false := by
  induction entries with
  | nil => rfl
  | cons entry rest inductionHypothesis =>
      rcases entry with ⟨key, value⟩
      rw [List.forall_mem_cons] at json short
      rcases json with ⟨⟨⟨name, rfl⟩, _⟩, restJson⟩
      simp only [entriesHoldTooLong, short.1, inductionHypothesis restJson short.2, Bool.or_false]

/-- A value of the stricter notation holds no whole number of too many digits. -/
theorem holdsTooLong_eq_false {value : Value} (json : value.isJson = true) :
    holdsTooLong value = false := by
  refine isJson_induction (motive := fun value => holdsTooLong value = false)
    ?null ?bool ?int ?real ?text ?list ?map value json
  case int => exact fun number short => short
  case list => exact fun items _ inner => itemsHoldTooLong_eq_false inner
  case map =>
    exact fun entries json inner => entriesHoldTooLong_eq_false (isJson_map.mp json) inner
  all_goals intros; rfl

end Value

namespace Json

open Script Number

/-! ## Documents -/

theorem foldl_digits_lt {base : Nat} {digits : List Nat} (small : ∀ digit ∈ digits, digit < base)
    (start : Nat) :
    digits.foldl (fun number digit => number * base + digit) start <
      (start + 1) * base ^ digits.length := by
  induction digits generalizing start with
  | nil =>
      rw [List.foldl_nil, List.length_nil, Nat.pow_zero, Nat.mul_one]
      exact Nat.lt_succ_self start
  | cons digit rest inductionHypothesis =>
      rcases List.forall_mem_cons.mp small with ⟨here, later⟩
      have carried : start * base + digit + 1 ≤ (start + 1) * base := by
        rw [Nat.succ_mul]
        omega
      calc rest.foldl (fun number digit => number * base + digit) (start * base + digit)
          < (start * base + digit + 1) * base ^ rest.length := inductionHypothesis later _
        _ ≤ (start + 1) * base * base ^ rest.length := Nat.mul_le_mul_right _ carried
        _ = (start + 1) * base ^ (digit :: rest).length := by
            rw [List.length_cons, Nat.pow_succ, Nat.mul_assoc, Nat.mul_comm base]

/-- The number that decimal digits denote is written with no more digits. -/
theorem decimalOf_lt {digits : List Char} (decimal : ∀ digit ∈ digits, digit.isDigit = true) :
    decimalOf digits < 10 ^ digits.length := by
  have small : ∀ digit ∈ digits.map fun digit => digit.toNat - '0'.toNat, digit < 10 := by
    intro digit member
    rcases List.mem_map.mp member with ⟨character, listed, rfl⟩
    have bounds := Char.isDigit_iff_toNat.mp (decimal character listed)
    have zero : '0'.toNat = 48 := rfl
    have nine : '9'.toNat = 57 := rfl
    omega
  have bound := foldl_digits_lt small 0
  rw [List.length_map, Nat.zero_add, Nat.one_mul] at bound
  exact bound

theorem isJson_of_readWhole {negative : Bool} {digits rest more : List Char} {value : Value}
    (decimal : ∀ digit ∈ digits, digit.isDigit = true)
    (read : readWhole negative digits rest = .ok (value, more)) : value.isJson = true := by
  unfold readWhole at read
  split at read
  · cases read
  · rename_i few
    cases read
    have size : (if negative then -(decimalOf digits : Int) else decimalOf digits).natAbs =
        decimalOf digits := by
      cases negative <;> simp
    have short : decimalOf digits < 10 ^ mostDigits :=
      Nat.lt_of_lt_of_le (decimalOf_lt decimal)
        (Nat.pow_le_pow_right (by decide) (Nat.le_of_not_lt few))
    have length := (Nat.length_toDigits_le_iff (b := 10) (n := decimalOf digits) (k := mostDigits)
      (by decide) (by decide)).mpr short
    rw [Value.isJson, isTooLong, size, Bool.not_eq_true', decide_eq_false_iff_not]
    exact Nat.not_lt.mpr length

theorem isJson_of_readNumber {characters more : List Char} {value : Value}
    (read : readNumber characters = .ok (value, more)) : value.isJson = true := by
  unfold readNumber at read
  extract_lets negative unsigned run whole at read
  have decimal : ∀ digit ∈ whole, digit.isDigit = true := by
    intro digit member
    unfold whole at member
    split at member
    · rw [List.mem_singleton.mp member]
      rfl
    · exact List.all_eq_true.mp List.all_takeWhile digit member
  split at read
  · cases read
  split at read
  · cases read
    rfl
  split at read
  · exact isJson_of_readWhole decimal read
  · rw [← (Prod.mk.inj (Except.ok.inj read)).1]
    rfl

theorem isJson_of_readAtom {characters more : List Char} {value : Value}
    (read : readAtom characters = .ok (value, more)) : value.isJson = true := by
  unfold readAtom at read
  split at read
  · rename_i word known found
    cases read
    have words : ∀ entry ∈ wordValues, entry.2.isJson = true := by decide
    exact words _ (List.mem_of_find?_eq_some found)
  · exact isJson_of_readNumber read

/-- What is read with so many attempts is a value of the stricter notation, for a value, the
rest of a list and the rest of an object. -/
structure ReadsJson (attempts : Nat) : Prop where
  value : ∀ {depth characters value more}, readValue attempts depth characters = .ok (value, more) →
    value.isJson = true
  items : ∀ {depth items characters value more}, (∀ item ∈ items, item.isJson = true) →
    readItems attempts depth items characters = .ok (value, more) → value.isJson = true
  members : ∀ {depth members characters value more}, (∀ entry ∈ members, Value.IsJsonEntry entry) →
    readMembers attempts depth members characters = .ok (value, more) → value.isJson = true

theorem readsJson (attempts : Nat) : ReadsJson attempts := by
  induction attempts with
  | zero =>
      refine ⟨fun read => ?_, fun _ read => ?_, fun _ read => ?_⟩
      · rw [readValue] at read
        cases read
      · rw [readItems] at read
        cases read
      · rw [readMembers] at read
        cases read
  | succ attempts inductionHypothesis =>
      refine ⟨fun read => ?_, fun {depth items characters value more} listed read => ?_,
        fun {depth members characters value more} listed read => ?_⟩
      · rw [readValue.eq_def] at read
        dsimp only at read
        split at read
        · split at read
          · cases read
            rfl
          · cases read
        · split at read
          · cases read
          · split at read
            · cases read
              rfl
            · exact inductionHypothesis.items (fun _ member => absurd member List.not_mem_nil) read
        · split at read
          · cases read
          · split at read
            · cases read
              rfl
            · exact inductionHypothesis.members (fun _ member => absurd member List.not_mem_nil) read
        · exact isJson_of_readAtom read
      · rw [readItems] at read
        rcases bind_eq_ok_iff.mp read with ⟨⟨item, rest⟩, itemRead, onward⟩
        have together : ∀ other ∈ item :: items, other.isJson = true :=
          List.forall_mem_cons.mpr ⟨inductionHypothesis.value itemRead, listed⟩
        dsimp only at onward
        split at onward
        · exact inductionHypothesis.items together onward
        · cases onward
          exact Value.isJson_list.mpr fun other member => together other (List.mem_reverse.mp member)
        · cases onward
      · rw [readMembers.eq_def] at read
        dsimp only at read
        split at read
        · split at read
          · cases read
          · split at read
            · rcases bind_eq_ok_iff.mp read with ⟨⟨item, rest⟩, itemRead, onward⟩
              have together (name : String) :
                  ∀ entry ∈ Entries.put members (.text name) item, Value.IsJsonEntry entry := by
                intro entry member
                rcases Entries.mem_or_eq_of_mem_put member with before | rfl
                · exact listed entry before
                · exact ⟨⟨name, rfl⟩, inductionHypothesis.value itemRead⟩
              dsimp only at onward
              split at onward
              · exact inductionHypothesis.members (together _) onward
              · cases onward
                exact Value.isJson_map.mpr (together _)
              · cases onward
            · cases read
        · cases read

/-- A document of the stricter notation is a value of it. -/
theorem isJson_of_read {text : String} {document : Value} (read : Json.read text = .ok document) :
    document.isJson = true := by
  rcases bind_eq_ok_iff.mp read with ⟨⟨value, rest⟩, valueRead, onward⟩
  dsimp only at onward
  split at onward
  · cases onward
    exact (readsJson _).value valueRead
  · cases onward

end Json
end ComponentCompiler
