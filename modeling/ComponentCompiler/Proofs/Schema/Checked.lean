import ComponentCompiler.Proofs.Value.Json
import ComponentCompiler.Schema.Checked

namespace ComponentCompiler
namespace Schema

/-!
# Checks that follow a value

A check follows a value when all that it lets through has some property, and each of its
issues is about a value with another one.  Checks of several fields and of the parts of a
value are followed part by part.  For this the property of the values has to pass on to
the values inside, as being in the stricter notation does.
-/

variable {α β : Type}

namespace Checked

/-- What a check lets through is good, and its issues are about values of some kind. -/
structure Follows (checked : Checked α) (about : Value → Prop) (good : α → Prop) : Prop where
  ensures : ∀ value, checked = .valid value → good value
  reports : ∀ issues, checked = .invalid issues → ∀ issue ∈ issues, about issue.input

section Follows

variable {about : Value → Prop} {first good : α → Prop}

theorem follows_valid {value : α} (holds : good value) :
    (Checked.valid value).Follows about good where
  ensures other same := by
    cases same
    exact holds
  reports issues impossible := by cases impossible

theorem follows_invalid {issues : List Issue} (holds : ∀ issue ∈ issues, about issue.input) :
    (Checked.invalid issues).Follows about good where
  ensures value impossible := by cases impossible
  reports others same := by
    cases same
    exact holds

theorem follows_reject {kind : IssueKind} {input : Value} (holds : about input) :
    (reject kind input).Follows about good :=
  follows_invalid (List.forall_mem_singleton.mpr holds)

theorem Follows.seq {function : Checked (α → β)} {argument : Checked α} {good : β → Prop}
    (here : function.Follows about fun make => ∀ value, first value → good (make value))
    (there : argument.Follows about first) : (function <*> argument).Follows about good := by
  cases function with
  | valid make =>
      cases argument with
      | valid value => exact follows_valid (here.ensures make rfl value (there.ensures value rfl))
      | invalid issues => exact follows_invalid (there.reports issues rfl)
  | invalid issues =>
      cases argument with
      | valid value => exact follows_invalid (here.reports issues rfl)
      | invalid others =>
          exact follows_invalid
            (List.forall_mem_append.mpr ⟨here.reports issues rfl, there.reports others rfl⟩)

theorem Follows.map {make : α → β} {argument : Checked α} {good : β → Prop}
    (there : argument.Follows about first) (holds : ∀ value, first value → good (make value)) :
    (make <$> argument).Follows about good :=
  Follows.seq (follows_valid holds) there

/-- A first field of which nothing is asked. -/
theorem Follows.alone {make : α → β} {argument : Checked α} (there : argument.Follows about first) :
    (make <$> argument).Follows about fun _ => True :=
  there.map fun _ _ => trivial

/-- One more field of which nothing is asked. -/
theorem Follows.also {function : Checked (α → β)} {argument : Checked α}
    (here : function.Follows about fun _ => True) (there : argument.Follows about first) :
    (function <*> argument).Follows about fun _ => True :=
  Follows.seq ⟨fun _ _ _ _ => trivial, here.reports⟩ there

theorem Follows.under {checked : Checked α} (follows : checked.Follows about good)
    (place : Place) : (checked.under place).Follows about good := by
  cases checked with
  | valid value => exact follows
  | invalid issues =>
      refine follows_invalid fun issue member => ?_
      rcases List.mem_map.mp member with ⟨inner, listed, rfl⟩
      exact follows.reports issues rfl inner listed

/-- The order of the report does not matter. -/
theorem Follows.of_toExcept {checked : Checked α} {issues : List Issue}
    (follows : checked.Follows about good) (failed : checked.toExcept = .error issues) :
    ∀ issue ∈ issues, about issue.input := by
  cases checked with
  | valid value => cases failed
  | invalid found =>
      cases failed
      exact fun issue member => follows.reports found rfl issue (List.mem_mergeSort.mp member)

end Follows

/-! ## Values that pass -/

theorem seq_eq_valid_iff {function : Checked (α → β)} {argument : Checked α} {result : β} :
    function <*> argument = .valid result ↔
      ∃ make value, function = .valid make ∧ argument = .valid value ∧ make value = result := by
  constructor
  · intro checked
    cases function with
    | invalid issues => cases argument <;> cases checked
    | valid make =>
        cases argument with
        | invalid issues => cases checked
        | valid value =>
            cases checked
            exact ⟨make, value, rfl, rfl, rfl⟩
  · rintro ⟨make, value, rfl, rfl, rfl⟩
    rfl

theorem map_eq_valid_iff {make : α → β} {argument : Checked α} {result : β} :
    make <$> argument = .valid result ↔ ∃ value, argument = .valid value ∧ make value = result := by
  constructor
  · intro checked
    rcases seq_eq_valid_iff.mp checked with ⟨_, value, same, passed, rfl⟩
    cases same
    exact ⟨value, passed, rfl⟩
  · rintro ⟨value, rfl, rfl⟩
    rfl

theorem under_eq_valid_iff {checked : Checked α} {place : Place} {value : α} :
    checked.under place = .valid value ↔ checked = .valid value := by
  cases checked with
  | valid other => exact Iff.rfl
  | invalid issues => exact ⟨nofun, nofun⟩

theorem toExcept_eq_ok_iff {checked : Checked α} {value : α} :
    checked.toExcept = .ok value ↔ checked = .valid value := by
  cases checked with
  | valid other => rw [toExcept, Except.ok.injEq, Checked.valid.injEq]
  | invalid issues => exact ⟨nofun, nofun⟩

end Checked

open Checked

/-! ## Parts of values of the stricter notation -/

section Parts

variable {whole : Value} {names : List String}

theorem mem_of_findPart? {name : String} {entries : List (Key × Value)}
    {part : { part : Value // sizeOf part < sizeOf entries }}
    (found : findPart? name entries = some part) : (Key.text name, part.1) ∈ entries := by
  induction entries with
  | nil => cases found
  | cons entry rest inductionHypothesis =>
      rcases entry with ⟨key, value⟩
      rw [findPart?] at found
      split at found
      · rename_i same
        cases found
        rw [same]
        exact List.mem_cons_self
      · split at found
        · rename_i inner smaller foundInner
          cases found
          exact List.mem_cons_of_mem _ (inductionHypothesis foundInner)
        · cases found

theorem mem_parts_of_firstPart? (json : whole.isJson = true) {name : String} {part : Part whole}
    (found : firstPart? whole names = some (name, part)) : part.1 ∈ whole.parts := by
  induction names with
  | nil => cases found
  | cons first others inductionHypothesis =>
      rw [firstPart?] at found
      split at found
      · rename_i here hereFound
        cases found
        cases whole with
        | map entries =>
            rw [part?] at hereFound
            split at hereFound
            · rename_i inner smaller foundInner
              cases hereFound
              exact List.mem_map_of_mem (mem_of_findPart? foundInner)
            · cases hereFound
        | enclosing distance again => cases json
        | _ => cases hereFound
      · exact inductionHypothesis found

theorem findPart?_eq_lookUp? (name : String) (entries : List (Key × Value)) :
    (findPart? name entries).map Subtype.val = Entries.lookUp? entries (.text name) := by
  induction entries with
  | nil => rfl
  | cons entry rest inductionHypothesis =>
      rcases entry with ⟨key, value⟩
      rw [findPart?, Entries.lookUp?, ← inductionHypothesis]
      split
      · rfl
      · cases findPart? name rest <;> rfl

/-- A field with one name is what a value of the stricter notation has there. -/
theorem firstPart?_singleton (json : whole.isJson = true) (name : String) :
    (firstPart? whole [name]).map (fun found => found.2.1) = whole.field? name := by
  cases whole with
  | map entries =>
      rw [Value.field?, ← findPart?_eq_lookUp?, firstPart?, part?]
      cases findPart? name entries <;> rfl
  | enclosing distance again => cases json
  | _ => rfl

section Fields

variable {name : String} (json : whole.isJson = true)
include json

theorem required_eq_valid_iff {check : Value → Checked α} {value : α} :
    (required whole [name] fun part _ => check part) = .valid value ↔
      ∃ part, whole.field? name = some part ∧ check part = .valid value := by
  rw [← firstPart?_singleton json, required]
  cases firstPart? whole [name] with
  | none => exact ⟨nofun, nofun⟩
  | some found =>
      dsimp only [Option.map_some]
      rw [under_eq_valid_iff]
      simp only [Option.some.injEq, exists_eq_left']

theorem defaulted_eq_valid_iff {absent value : α} {check : Value → Checked α} :
    defaulted whole [name] absent check = .valid value ↔
      (whole.field? name = none ∧ absent = value) ∨
        ∃ part, whole.field? name = some part ∧ check part = .valid value := by
  rw [← firstPart?_singleton json, defaulted]
  cases firstPart? whole [name] with
  | none => simp
  | some found =>
      dsimp only [Option.map_some]
      rw [under_eq_valid_iff]
      simp

theorem optional_eq_valid_iff {check : Value → Checked α} {given : Option α} :
    (optional whole [name] fun part _ => check part) = .valid given ↔
      (given = none ∧ (whole.field? name).getD .null = .null) ∨
        ∃ part value, given = some value ∧ part ≠ .null ∧ whole.field? name = some part ∧
          check part = .valid value := by
  rw [← firstPart?_singleton json, optional]
  cases firstPart? whole [name] with
  | none => simp [eq_comm]
  | some found =>
      rcases found with ⟨under, part, smaller⟩
      dsimp only [Option.map_some, Option.getD_some]
      split
      · simp [eq_comm]
      · rename_i visible
        have present : part ≠ .null := by
          rintro rfl
          exact visible smaller rfl HEq.rfl
        rw [under_eq_valid_iff, map_eq_valid_iff]
        constructor
        · rintro ⟨value, passed, rfl⟩
          exact .inr ⟨part, value, rfl, present, rfl, passed⟩
        · rintro (⟨_, isNull⟩ | ⟨_, value, rfl, _, same, passed⟩)
          · exact absurd isNull present
          · cases same
            exact ⟨value, passed, rfl⟩

end Fields

end Parts

/-! ## Checks of parts -/

/-- A property of values of the stricter notation that passes on to the values inside. -/
structure Hereditary (about : Value → Prop) : Prop where
  json : ∀ {whole}, about whole → whole.isJson = true
  part : ∀ {whole part}, about whole → part ∈ whole.parts → about part

theorem hereditary_isJson : Hereditary fun value => value.isJson = true :=
  ⟨id, Value.isJson_of_mem_parts⟩

section Following

variable {about : Value → Prop} {whole : Value} {names : List String} {good : α → Prop}

theorem checkModel_follows {model : String} {fields : Unit → Checked α} (holds : about whole)
    (inner : (fields ()).Follows about good) :
    (checkModel model whole fields).Follows about good := by
  unfold checkModel
  split
  · exact inner
  · exact inner
  · exact follows_reject holds

theorem checkText_follows (holds : about whole) :
    (checkText whole).Follows about fun _ => True := by
  unfold checkText
  split
  · exact follows_valid trivial
  · split
    · exact follows_valid trivial
    · exact follows_reject holds
  · exact follows_reject holds

theorem checkBool_follows (holds : about whole) :
    (checkBool whole).Follows about fun _ => True := by
  unfold checkBool
  dsimp only
  -- Each kind is read or not; what is left is a truth value or a refusal of the whole.
  repeat' split
  all_goals
    first
    | exact follows_valid trivial
    | exact follows_reject holds

theorem checkChoice_follows {kind : List String → IssueKind} {choices : List (String × α)}
    (holds : about whole) : (checkChoice kind choices whole).Follows about fun _ => True := by
  unfold checkChoice
  dsimp only
  split
  · split
    · exact follows_valid trivial
    · exact follows_reject holds
  · exact follows_reject holds

theorem checkItems_follows {items : List Value} (holds : ∀ item ∈ items, about item)
    {check : (item : Value) → sizeOf item < sizeOf items → Checked α} (position : Nat)
    (inner : ∀ item smaller, about item → (check item smaller).Follows about good) :
    (checkItems position items check).Follows about fun values => ∀ value ∈ values, good value := by
  induction items generalizing position with
  | nil => exact follows_valid fun value member => absurd member List.not_mem_nil
  | cons item rest inductionHypothesis =>
      rw [List.forall_mem_cons] at holds
      rw [checkItems]
      refine Follows.seq (((inner item _ holds.1).under _).map fun value isGood others later => ?_)
        (inductionHypothesis holds.2 _ fun other _ otherHolds => inner other _ otherHolds)
      exact List.forall_mem_cons.mpr ⟨isGood, later⟩

theorem checkEntries_follows {entries : List (Key × Value)}
    (json : ∀ entry ∈ entries, Value.IsJsonEntry entry) (holds : ∀ entry ∈ entries, about entry.2)
    {check : (value : Value) → sizeOf value < sizeOf entries → Checked α}
    (inner : ∀ value smaller, about value → (check value smaller).Follows about good) :
    (checkEntries entries check).Follows about fun fields => ∀ field ∈ fields, good field.2 := by
  induction entries with
  | nil => exact follows_valid fun value member => absurd member List.not_mem_nil
  | cons entry rest inductionHypothesis =>
      rcases entry with ⟨key, value⟩
      rw [List.forall_mem_cons] at json holds
      rw [checkEntries]
      rcases json.1.1 with ⟨name, rfl⟩
      have key : (checkKey (.text name)).Follows about fun _ => True := follows_valid trivial
      have here (smaller) : (Prod.mk <$> checkKey (.text name) <*>
          (check value smaller).under (placeOfKey (.text name))).Follows about
            fun field => good field.2 :=
        Follows.seq (key.map fun _ _ _ isGood => isGood) ((inner value smaller holds.1).under _)
      refine Follows.seq ((here _).map fun field isGood others later => ?_)
        (inductionHypothesis json.2 holds.2 fun other _ otherHolds => inner other _ otherHolds)
      exact List.forall_mem_cons.mpr ⟨isGood, later⟩

variable (passes : Hereditary about)
include passes

theorem Hereditary.firstPart? (holds : about whole) {name : String} {part : Part whole}
    (found : firstPart? whole names = some (name, part)) : about part.1 :=
  passes.part holds (mem_parts_of_firstPart? (passes.json holds) found)

theorem required_follows (holds : about whole)
    {check : (part : Value) → sizeOf part < sizeOf whole → Checked α}
    (inner : ∀ part smaller, about part → (check part smaller).Follows about good) :
    (required whole names check).Follows about good := by
  unfold required
  split
  · rename_i name part smaller found
    exact (inner part smaller (passes.firstPart? holds found)).under _
  · exact follows_invalid (List.forall_mem_singleton.mpr holds)

theorem optional_follows (holds : about whole)
    {check : (part : Value) → sizeOf part < sizeOf whole → Checked α}
    (inner : ∀ part smaller, about part → (check part smaller).Follows about good) :
    (optional whole names check).Follows about fun found =>
      ∀ value, found = some value → good value := by
  unfold optional
  split
  · rename_i name part smaller found
    have partHolds := passes.firstPart? holds found
    split
    · exact follows_valid fun value impossible => by cases impossible
    · refine ((inner _ _ partHolds).map fun value isGood other same => ?_).under _
      cases same
      exact isGood
  · exact follows_valid fun value impossible => by cases impossible

theorem defaulted_follows (holds : about whole) {absent : α} {check : Value → Checked α}
    (inner : ∀ part, about part → (check part).Follows about fun _ => True) :
    (defaulted whole names absent check).Follows about fun _ => True := by
  unfold defaulted
  split
  · rename_i name part found
    exact (inner part.1 (passes.firstPart? holds found)).under _
  · exact follows_valid trivial

theorem checkList_follows (holds : about whole)
    {check : (item : Value) → sizeOf item < sizeOf whole → Checked α}
    (inner : ∀ item smaller, about item → (check item smaller).Follows about good) :
    (checkList whole check).Follows about fun values => ∀ value ∈ values, good value := by
  have json := passes.json holds
  cases whole with
  | list items =>
      exact checkItems_follows (fun item member => passes.part holds member) 0
        fun item _ itemHolds => inner item _ itemHolds
  | tuple | set | enclosing => cases json
  | _ => exact follows_reject holds

theorem checkMap_follows (holds : about whole)
    {check : (value : Value) → sizeOf value < sizeOf whole → Checked α}
    (inner : ∀ value smaller, about value → (check value smaller).Follows about good) :
    (checkMap whole check).Follows about fun fields => ∀ field ∈ fields, good field.2 := by
  have json := passes.json holds
  cases whole with
  | map entries =>
      exact checkEntries_follows (Value.isJson_map.mp json)
        (fun entry member => passes.part holds (List.mem_map_of_mem member))
        fun value _ valueHolds => inner value _ valueHolds
  | enclosing => cases json
  | _ => exact follows_reject holds

/-- A text that may be left out. -/
theorem optionalText_follows (holds : about whole) :
    (optional whole names fun part _ => checkText part).Follows about fun found =>
      ∀ value, found = some value → True :=
  optional_follows passes holds fun _ _ => checkText_follows

end Following

end Schema
end ComponentCompiler
