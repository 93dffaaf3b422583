import ComponentCompiler.Proofs.Outcome
import ComponentCompiler.Proofs.Value.Json
import ComponentCompiler.Stylesheet.Rule

namespace ComponentCompiler
namespace Stylesheet

/-!
# When a rule can be written

Whether a style map can be written as rules does not depend on the selector: the
selector is only put in front.  Every map of the stricter notation can be written.
-/

/-- A map can be written as rules when each of its entries contributes something. -/
theorem exists_ruleParts_iff {selector : String} {entries : List (Key × Value)} :
    (∃ parts, ruleParts selector entries = .ok parts) ↔
      ∀ entry ∈ entries, ∃ part, contribution selector entry.1 entry.2 = .ok part := by
  induction entries with
  | nil =>
      refine ⟨fun _ entry member => absurd member List.not_mem_nil, fun _ => ⟨([], []), ?_⟩⟩
      rw [ruleParts]
  | cons entry rest inductionHypothesis =>
      rw [List.forall_mem_cons, ← inductionHypothesis, ruleParts]
      constructor
      · rintro ⟨parts, written⟩
        rcases bind_eq_ok_iff.mp written with ⟨part, first, onward⟩
        rcases bind_eq_ok_iff.mp onward with ⟨others, later, _⟩
        exact ⟨⟨part, first⟩, ⟨others, later⟩⟩
      · rintro ⟨⟨part, first⟩, ⟨others, later⟩⟩
        rw [first, later]
        cases part <;> exact ⟨_, rfl⟩

/-- What is no map is declared in the same way on every selector. -/
theorem contribution_eq_of_other (first second : String) (key : Key) {value : Value}
    (noMap : ∀ entries, value ≠ .map entries) :
    contribution first key value = contribution second key value := by
  cases value with
  | map entries => exact absurd rfl (noMap entries)
  | enclosing distance again =>
      cases again with
      | none => cases key <;> simp only [contribution]
      | some inner => cases inner <;> cases key <;> simp only [contribution]
  | _ => cases key <;> simp only [contribution]

/-- What can be written on one selector can be written on every other.  A nested
map stands on a selector of its own, so the selectors change on the way down. -/
theorem contribution_of_other (value : Value) (first second : String) (key : Key)
    (written : ∃ part, contribution first key value = .ok part) :
    ∃ part, contribution second key value = .ok part := by
  by_cases isMap : ∃ entries, value = .map entries
  · rcases isMap with ⟨entries, same⟩
    rcases written with ⟨part, written⟩
    rw [same] at written ⊢
    cases key with
    | text name =>
        rw [contribution] at written ⊢
        rcases bind_eq_ok_iff.mp written with ⟨parts, inside, _⟩
        obtain ⟨others, otherInside⟩ : ∃ others,
            ruleParts (second ++ selectorSuffix name) entries = .ok others := by
          refine exists_ruleParts_iff.mpr fun entry member => ?_
          have smaller : sizeOf entry.2 < sizeOf value := by
            have inEntries := Value.sizeOf_snd_lt_of_mem member
            rw [same, Value.map.sizeOf_spec]
            omega
          exact contribution_of_other entry.2 _ _ entry.1
            (exists_ruleParts_iff.mp ⟨parts, inside⟩ entry member)
        exact ⟨_, bind_eq_ok_iff.mpr ⟨others, otherInside, rfl⟩⟩
    | _ => cases written
  · rw [contribution_eq_of_other second first key fun entries same => isMap ⟨entries, same⟩]
    exact written
termination_by sizeOf value

/-- Whether there is a rule for a map does not depend on the selector. -/
theorem rule_of_other {first : String} {styles : List (Key × Value)} {text : String}
    (written : rule first styles = .ok text) (second : String) :
    ∃ other, rule second styles = .ok other := by
  rcases bind_eq_ok_iff.mp written with ⟨parts, made, _⟩
  obtain ⟨others, otherMade⟩ := exists_ruleParts_iff.mpr fun entry member =>
    contribution_of_other entry.2 first second entry.1
      (exists_ruleParts_iff.mp ⟨parts, made⟩ entry member)
  exact ⟨_, bind_eq_ok_iff.mpr ⟨others, otherMade, rfl⟩⟩

/-! ## Maps of the stricter notation -/

theorem exists_contribution_of_short {value : Value} (selector name : String)
    (noMap : ∀ entries, value ≠ .map entries)
    (noEndless : ∀ distance entries, value ≠ .enclosing distance (some (.map entries)))
    (short : Script.holdsTooLong value = false) :
    ∃ part, contribution selector (.text name) value = .ok part := by
  rw [contribution, short]
  · exact ⟨_, rfl⟩
  · exact noMap
  · exact noEndless

/-- Every value of the stricter notation contributes something under a name. -/
theorem exists_contribution_of_isJson {value : Value} (json : value.isJson = true) :
    ∀ selector name, ∃ part, contribution selector (.text name) value = .ok part := by
  refine Value.isJson_induction (motive := fun value => ∀ selector name, ∃ part,
    contribution selector (.text name) value = .ok part)
    ?null ?bool ?int ?real ?text ?list ?map value json
  case map =>
    intro entries json inner selector name
    rw [contribution]
    obtain ⟨parts, written⟩ := exists_ruleParts_iff.mpr fun entry member => by
      rcases entry with ⟨key, value⟩
      rcases Value.isJson_map.mp json _ member with ⟨⟨own, rfl⟩, _⟩
      exact inner _ member (selector ++ selectorSuffix name) own
    exact ⟨_, bind_eq_ok_iff.mpr ⟨parts, written, rfl⟩⟩
  case list =>
    intro items json _ selector name
    exact exists_contribution_of_short selector name nofun nofun (Value.holdsTooLong_eq_false json)
  case int =>
    intro number short selector name
    exact exists_contribution_of_short selector name nofun nofun short
  all_goals
    intros
    exact exists_contribution_of_short _ _ nofun nofun rfl

theorem exists_rule_of_isJson {styles : List (Key × Value)}
    (json : ∀ entry ∈ styles, Value.IsJsonEntry entry) (selector : String) :
    ∃ text, rule selector styles = .ok text := by
  obtain ⟨parts, written⟩ := exists_ruleParts_iff.mpr fun entry member => by
    rcases entry with ⟨key, value⟩
    rcases json _ member with ⟨⟨name, rfl⟩, valueJson⟩
    exact exists_contribution_of_isJson valueJson selector name
  exact ⟨_, bind_eq_ok_iff.mpr ⟨parts, written, rfl⟩⟩

end Stylesheet
end ComponentCompiler
